import Mathlib.Data.String.Basic

/-!
# Splitting a text at a character

`String.splitOn` walks over the UTF-8 bytes of a text. At a separator of one character it cuts the
characters of the text as `List.splitOn` does (`splitOn_singleton`).
-/

namespace DeviceCode.Text

open String

/-- Splitting after the finished part `l`, with `m` as the beginning of the current piece and `r`
still ahead. -/
theorem splitOnAux_singleton (c : Char) (l m r : List Char) (acc : List String) :
    splitOnAux (ofList (l ++ m ++ r)) (ofList [c]) ⟨utf8Len l⟩ ⟨utf8Len l + utf8Len m⟩ 0 acc =
      acc.reverse ++ (List.splitOnPPrepend (· == c) r m.reverse).map ofList := by
  induction r generalizing l m acc with
  | nil =>
    have hend : Pos.Raw.atEnd (ofList (l ++ m ++ [])) ⟨utf8Len l + utf8Len m⟩ = true := by
      rw [← utf8Len_append]
      exact (atEnd_of_valid (l ++ m) []).mpr rfl
    unfold splitOnAux
    rw [if_pos hend, extract_of_valid]
    simp
  | cons d r ih =>
    have hend : ¬ Pos.Raw.atEnd (ofList (l ++ m ++ d :: r)) ⟨utf8Len l + utf8Len m⟩ = true := by
      rw [← utf8Len_append, atEnd_of_valid]
      exact List.cons_ne_nil d r
    have hget : Pos.Raw.get (ofList (l ++ m ++ d :: r)) ⟨utf8Len l + utf8Len m⟩ = d := by
      rw [← utf8Len_append]
      exact get_of_valid (l ++ m) (d :: r)
    have hnext : Pos.Raw.next (ofList (l ++ m ++ d :: r)) ⟨utf8Len l + utf8Len m⟩ =
        ⟨utf8Len l + utf8Len m + d.utf8Size⟩ := by
      rw [← utf8Len_append]
      exact next_of_valid (l ++ m) d r
    have hsep : Pos.Raw.get (ofList [c]) 0 = c := get_of_valid [] [c]
    have hsepNext : Pos.Raw.next (ofList [c]) 0 = ⟨c.utf8Size⟩ := by
      simpa using next_of_valid [] c []
    have hsepEnd : Pos.Raw.atEnd (ofList [c]) ⟨c.utf8Size⟩ = true := by
      simpa using (atEnd_of_valid [c] []).mpr rfl
    unfold splitOnAux
    rw [if_neg hend, hget, hsep, List.splitOnPPrepend_cons_eq_if]
    by_cases hd : (d == c) = true
    · rw [if_pos hd, if_pos hd, hnext, hsepNext]
      dsimp only
      rw [if_pos hsepEnd]
      have hback : (⟨utf8Len l + utf8Len m + d.utf8Size⟩ : Pos.Raw).unoffsetBy ⟨c.utf8Size⟩ =
          ⟨utf8Len l + utf8Len m⟩ := by
        rw [beq_iff_eq.mp hd]
        simp [Pos.Raw.unoffsetBy]
      rw [hback, extract_of_valid]
      have h := ih (l ++ m ++ [d]) [] (ofList m :: acc)
      simpa [-ofList_append, Nat.add_assoc] using h
    · rw [if_neg hd, if_neg hd]
      have hback : (⟨utf8Len l + utf8Len m⟩ : Pos.Raw).unoffsetBy 0 = ⟨utf8Len l + utf8Len m⟩ := rfl
      rw [hback, hnext]
      have h := ih l (m ++ [d]) acc
      simpa [-ofList_append, Nat.add_assoc] using h

/-- **Splitting at one character is splitting the list of characters.** -/
theorem splitOn_singleton (s : String) (c : Char) :
    s.splitOn (ofList [c]) = (s.toList.splitOn c).map ofList := by
  have h := splitOnAux_singleton c [] [] s.toList []
  have hne : ¬ (ofList [c] == "") = true := by simp
  unfold splitOn
  rw [if_neg hne, List.splitOn_eq_splitOnP, List.splitOnP_eq_splitOnPPrepend]
  simpa using h

end DeviceCode.Text

import DeviceCode.Text.Blank
import Mathlib.Data.List.TakeWhile

/-!
# Blanks around texts and between words

`Solid` texts have no blank in them. Taking the blanks off both ends of a text leaves a solid one as
it is (`trimChars_surrounded`), and whatever is left had nothing but blanks around it
(`exists_surrounded`).

The words of a text are solid (`solid_of_mem_words`), and a blank always parts words: the words
before it and the words after it can be found apart from each other (`words_append_blank`).
-/

namespace DeviceCode.Text

/-- Nothing but blanks. -/
def Blanks (cs : List Char) : Prop := ∀ c ∈ cs, isBlank c = true

/-- No blank at all. -/
def Solid (cs : List Char) : Prop := ∀ c ∈ cs, isBlank c = false

instance (cs : List Char) : Decidable (Solid cs) :=
  decidable_of_iff (cs.all fun c => isBlank c == false) (by simp [Solid])

variable {c : Char} {cs ds lead body trail : List Char}

theorem solid_cons : Solid (c :: cs) ↔ isBlank c = false ∧ Solid cs := List.forall_mem_cons

theorem solid_append : Solid (cs ++ ds) ↔ Solid cs ∧ Solid ds := List.forall_mem_append

/-- There is no blank between the ASCII space and the first of the other controls. -/
theorem isBlank_eq_false (hlow : 0x20 < c.toNat) (hhigh : c.toNat < 0x85) : isBlank c = false := by
  unfold isBlank inRanges
  rw [List.any_eq_false]
  intro range hrange
  simp only [blankRanges, List.mem_cons, List.not_mem_nil, or_false] at hrange
  simp only [Bool.and_eq_true, decide_eq_true_eq, not_and, Nat.not_le]
  rcases hrange with rfl | rfl | rfl | rfl | rfl | rfl | rfl | rfl | rfl | rfl <;> grind

theorem solid_intercalate {sep : Char} (hsep : isBlank sep = false) (pieces : List (List Char)) :
    Solid ([sep].intercalate pieces) ↔ ∀ piece ∈ pieces, Solid piece := by
  have hone : Solid [sep] := List.forall_mem_singleton.mpr hsep
  induction pieces with
  | nil => simp [Solid]
  | cons piece pieces ih =>
    cases pieces with
    | nil => simp
    | cons next pieces =>
      simp only [List.intercalate_cons_cons, solid_append, ih, hone, and_true,
        List.forall_mem_cons]

/-! ## Trimming -/

theorem dropWhile_surrounded (hlead : Blanks lead) (hbody : Solid body) (hne : body ≠ []) :
    (lead ++ (body ++ trail)).dropWhile isBlank = body ++ trail := by
  rw [List.dropWhile_append_of_pos hlead]
  obtain ⟨c, cs, rfl⟩ := List.exists_cons_of_ne_nil hne
  have hc : ¬ isBlank c = true := by simp [hbody c List.mem_cons_self]
  exact List.dropWhile_cons_of_neg hc

/-- Blanks around a solid text are taken off. -/
theorem trimChars_surrounded (hlead : Blanks lead) (hbody : Solid body) (hne : body ≠ [])
    (htrail : Blanks trail) : trimChars (lead ++ body ++ trail) = body := by
  have htrail' : Blanks trail.reverse := fun c hc => htrail c (List.mem_reverse.mp hc)
  have hbody' : Solid body.reverse := fun c hc => hbody c (List.mem_reverse.mp hc)
  have hback : (trail.reverse ++ (body.reverse ++ [])).dropWhile isBlank = body.reverse ++ [] :=
    dropWhile_surrounded htrail' hbody' (by simpa using hne)
  rw [List.append_nil] at hback
  unfold trimChars
  rw [List.append_assoc, dropWhile_surrounded hlead hbody hne, List.reverse_append, hback,
    List.reverse_reverse]

/-- What is left of a text had nothing but blanks around it. -/
theorem exists_surrounded (cs : List Char) :
    ∃ lead trail, cs = lead ++ trimChars cs ++ trail ∧ Blanks lead ∧ Blanks trail := by
  let rest := cs.dropWhile isBlank
  refine ⟨cs.takeWhile isBlank, (rest.reverse.takeWhile isBlank).reverse, ?_, ?_, ?_⟩
  · have hrest : rest = trimChars cs ++ (rest.reverse.takeWhile isBlank).reverse := by
      show rest = (rest.reverse.dropWhile isBlank).reverse ++ _
      rw [← List.reverse_append, List.takeWhile_append_dropWhile, List.reverse_reverse]
    rw [List.append_assoc, ← hrest]
    exact List.takeWhile_append_dropWhile.symm
  · intro c hc
    exact List.mem_takeWhile_imp hc
  · intro c hc
    exact List.mem_takeWhile_imp (List.mem_reverse.mp hc)

/-! ## Words -/

theorem words_cons_blank (hc : isBlank c = true) : words (c :: cs) = words cs := by
  rw [words, if_pos hc]

theorem words_cons_solid (hc : isBlank c = false) :
    words (c :: cs) = consWord c (cs.head?.any (!isBlank ·)) (words cs) := by
  rw [words, if_neg (by simp [hc])]

theorem consWord_ne_nil (joined : Bool) (ws : List (List Char)) : consWord c joined ws ≠ [] := by
  cases ws <;> cases joined <;> simp [consWord]

theorem consWord_append {joined : Bool} {ws : List (List Char)} (vs : List (List Char))
    (h : joined = true → ws ≠ []) : consWord c joined (ws ++ vs) = consWord c joined ws ++ vs := by
  cases ws with
  | cons w ws => cases joined <;> rfl
  | nil =>
    cases joined with
    | true => exact absurd rfl (h rfl)
    | false => cases vs <;> rfl

/-- **A blank parts words.** -/
theorem words_append_blank (cs ds : List Char) (hc : isBlank c = true) :
    words (cs ++ c :: ds) = words cs ++ words ds := by
  induction cs with
  | nil => exact words_cons_blank hc
  | cons d cs ih =>
    by_cases hd : isBlank d = true
    · rw [List.cons_append, words_cons_blank hd, words_cons_blank hd, ih]
    · rw [Bool.not_eq_true] at hd
      rw [List.cons_append, words_cons_solid hd, words_cons_solid hd, ih]
      cases cs with
      | nil =>
        refine consWord_append (words ds) fun hjoined => ?_
        simp [hc] at hjoined
      | cons e cs =>
        refine consWord_append (words ds) fun hjoined => ?_
        have he : isBlank e = false := by simpa using hjoined
        rw [words_cons_solid he]
        exact consWord_ne_nil _ _

theorem words_append_blanks (h : Blanks lead) : words (lead ++ cs) = words cs := by
  induction lead with
  | nil => rfl
  | cons c lead ih =>
    rw [List.cons_append, words_cons_blank (h c List.mem_cons_self)]
    exact ih fun d hd => h d (List.mem_cons_of_mem c hd)

/-- A solid text is one word. -/
theorem words_of_solid (h : Solid cs) (hne : cs ≠ []) : words cs = [cs] := by
  induction cs with
  | nil => exact absurd rfl hne
  | cons c cs ih =>
    obtain ⟨hc, hcs⟩ := solid_cons.mp h
    rw [words_cons_solid hc]
    cases cs with
    | nil => rfl
    | cons d cs =>
      have hd : isBlank d = false := hcs d List.mem_cons_self
      rw [ih hcs (List.cons_ne_nil d cs)]
      simp [hd, consWord]

/-- Fields with a blank after each are words of their own. -/
theorem words_fields {fields : List (List Char)} (hc : isBlank c = true)
    (h : ∀ field ∈ fields, Solid field ∧ field ≠ []) :
    words (fields.flatMap (· ++ [c]) ++ cs) = fields ++ words cs := by
  induction fields with
  | nil => rfl
  | cons field fields ih =>
    obtain ⟨⟨hsolid, hne⟩, h⟩ := List.forall_mem_cons.mp h
    rw [List.flatMap_cons, List.append_assoc, List.append_assoc, List.singleton_append,
      words_append_blank _ _ hc, words_of_solid hsolid hne, ih h]
    rfl

/-- Words have no blanks in them. -/
theorem solid_of_mem_words {w : List Char} (h : w ∈ words cs) : Solid w := by
  induction cs generalizing w with
  | nil => cases h
  | cons c cs ih =>
    by_cases hc : isBlank c = true
    · rw [words_cons_blank hc] at h
      exact ih h
    · rw [Bool.not_eq_true] at hc
      rw [words_cons_solid hc] at h
      cases hws : words cs with
      | nil =>
        rw [hws] at h
        rw [List.mem_singleton.mp h]
        exact solid_cons.mpr ⟨hc, nofun⟩
      | cons v vs =>
        rw [hws] at h ih
        generalize cs.head?.any (!isBlank ·) = joined at h
        cases joined with
        | true =>
          rcases List.mem_cons.mp h with rfl | h
          · exact solid_cons.mpr ⟨hc, ih List.mem_cons_self⟩
          · exact ih (List.mem_cons_of_mem v h)
        | false =>
          rcases List.mem_cons.mp h with rfl | h
          · exact solid_cons.mpr ⟨hc, nofun⟩
          · exact ih h

end DeviceCode.Text

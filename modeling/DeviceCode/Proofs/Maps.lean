import DeviceCode.Assoc

/-!
# Maps that gain and lose single keys

Whatever the accelerator keeps is kept in association lists under keys that it hands out itself. A
load adds one key to some of these maps and takes it out again when it fails. `Gained m₀ m k` says
that `m` is `m₀` with at most the one key `k` added, and that taking `k` out of `m` gives `m₀` back
*as it was*, order included.

For accounts over many modules, `tally` counts how often a map holds a key. For accounts over all
entries, `entries_perm` takes one of them out. A map that is filled by adding only new keys answers
with the first value of each (`get?_foldl_putNew`).

Histories are lists that gain one entry at a time, at the end; `split_of_concat` says where such a
list can be split.
-/

namespace DeviceCode.Assoc

variable {κ α : Type} [DecidableEq κ]

/-! ## Keys after an update -/

theorem contains_put (m : Assoc κ α) (k k' : κ) (a : α) :
    (m.put k a).contains k' = (decide (k = k') || m.contains k') := by
  unfold contains
  rw [get?_put]
  by_cases h : k = k' <;> simp [h]

/-- A key of a map after a put is the one that was put, or was there before. -/
theorem of_contains_put {m : Assoc κ α} {k k' : κ} {a : α} (h : (m.put k a).contains k' = true) :
    k = k' ∨ m.contains k' = true := by
  rwa [contains_put, Bool.or_eq_true, decide_eq_true_eq] at h

theorem contains_erase (m : Assoc κ α) (k k' : κ) :
    (m.erase k).contains k' = (!decide (k = k') && m.contains k') := by
  unfold contains
  rw [get?_erase]
  by_cases h : k = k' <;> simp [h]

theorem contains_of_get? {m : Assoc κ α} {k : κ} {a : α} (h : m.get? k = some a) :
    m.contains k = true := by
  unfold contains
  rw [h]
  rfl

theorem get?_of_contains {m : Assoc κ α} {k : κ} (h : m.contains k = true) :
    ∃ a, m.get? k = some a :=
  Option.isSome_iff_exists.mp h

theorem not_contains_of_get? {m : Assoc κ α} {k : κ} (h : m.get? k = none) :
    m.contains k = false := by
  unfold contains
  rw [h]
  rfl

/-- No entry of a map has a key that the map does not contain. -/
theorem ne_of_not_contains {m : Assoc κ α} {k : κ} (h : m.contains k = false) :
    ∀ e ∈ m.entries, e.1 ≠ k := by
  intro e he hk
  have hfound : (m.entries.find? fun e => decide (e.1 = k)).isSome = true :=
    List.find?_isSome.mpr ⟨e, he, decide_eq_true hk⟩
  unfold contains get? at h
  rw [Option.isSome_map] at h
  rw [hfound] at h
  exact Bool.noConfusion h

theorem erase_of_not_contains {m : Assoc κ α} {k : κ} (h : m.contains k = false) :
    m.erase k = m := by
  unfold erase
  rw [List.filter_eq_self.mpr fun e he => decide_eq_true (ne_of_not_contains h e he)]

/-- A map without keys is empty. -/
theorem eq_empty {m : Assoc κ α} (h : ∀ k, m.contains k = false) : m = {} := by
  obtain ⟨entries⟩ := m
  cases entries with
  | nil => rfl
  | cons e es => exact absurd rfl (ne_of_not_contains (h e.1) e List.mem_cons_self)

theorem erase_put (m : Assoc κ α) (k : κ) (a : α) : (m.put k a).erase k = m.erase k := by
  unfold put erase
  rw [List.filter_cons_of_neg (by simp), List.filter_filter]
  congr 1
  exact List.filter_congr fun e _ => Bool.and_self _

theorem put_put (m : Assoc κ α) (k : κ) (a b : α) : (m.put k a).put k b = m.put k b := by
  show (⟨(k, b) :: ((m.put k a).erase k).entries⟩ : Assoc κ α) = _
  rw [erase_put]
  rfl

/-! ## Gaining a key -/

/-- `m` is `m₀` with at most one key added, which `m₀` does not have. -/
def Gained (m₀ m : Assoc κ α) : Option κ → Prop
  | none => m = m₀
  | some k => m.contains k = true ∧ m.erase k = m₀

namespace Gained

variable {m₀ m : Assoc κ α} {k : κ}

theorem take (h : Gained m₀ m none) (hk : m.contains k = false) (a : α) :
    Gained m₀ (m.put k a) (some k) := by
  refine ⟨by rw [contains_put]; simp, ?_⟩
  rw [erase_put, erase_of_not_contains hk]
  exact h

theorem change (h : Gained m₀ m (some k)) (a : α) : Gained m₀ (m.put k a) (some k) := by
  refine ⟨by rw [contains_put]; simp, ?_⟩
  rw [erase_put]
  exact h.2

theorem drop (h : Gained m₀ m (some k)) : Gained m₀ (m.erase k) none := h.2

/-- Other keys are where they were. -/
theorem get?_other (h : Gained m₀ m (some k)) {k' : κ} (hk : k ≠ k') : m.get? k' = m₀.get? k' := by
  rw [← h.2, get?_erase, if_neg hk]

theorem contains_other (h : Gained m₀ m (some k)) {k' : κ} (hk : k ≠ k') :
    m.contains k' = m₀.contains k' := by
  unfold contains
  rw [h.get?_other hk]

theorem not_contains_old (h : Gained m₀ m (some k)) : m₀.contains k = false := by
  rw [← h.2, contains_erase]
  simp

/-- What was there before is there still. -/
theorem get?_old {k? : Option κ} (h : Gained m₀ m k?) {k' : κ} (hk : m₀.contains k' = true) :
    m.get? k' = m₀.get? k' := by
  cases k? with
  | none => exact congrArg (·.get? k') h
  | some k =>
    refine h.get?_other fun heq => ?_
    rw [← heq, h.not_contains_old] at hk
    exact Bool.noConfusion hk

end Gained

/-! ## Counting keys -/

/-- How often a map holds a key. -/
def tally (m : Assoc κ α) (k : κ) : Nat := if m.contains k then 1 else 0

theorem tally_pos {m : Assoc κ α} {k : κ} : 0 < m.tally k ↔ m.contains k = true := by
  unfold tally
  by_cases h : m.contains k = true <;> simp [h]

theorem tally_le {m m' : Assoc κ α} {k : κ} (h : m.contains k = true → m'.contains k = true) :
    m.tally k ≤ m'.tally k := by
  unfold tally
  by_cases hk : m.contains k = true
  · simp [hk, h hk]
  · simp [hk]

theorem Gained.tally_eq {m₀ m : Assoc κ α} {k? : Option κ} (h : Gained m₀ m k?) (k' : κ) :
    m.tally k' = m₀.tally k' + k?.toList.count k' := by
  cases k? with
  | none => rw [(h : m = m₀)]; simp
  | some k =>
    unfold tally
    by_cases hk : k = k'
    · subst hk
      rw [h.1, h.not_contains_old]
      simp
    · rw [h.contains_other hk]
      simp [hk]

theorem tally_erase {m : Assoc κ α} {k : κ} (h : m.contains k = true) (k' : κ) :
    (m.erase k).tally k' + [k].count k' = m.tally k' := by
  unfold tally
  rw [contains_erase]
  by_cases hk : k = k'
  · subst hk
    simp [h]
  · simp [hk]

/-! ## Adding keys that are new -/

/-- Adding values one by one, unless their keys are there already, is looking for the first. -/
theorem get?_foldl_putNew {β : Type} (key : β → κ) (value : β → α) (xs : List β) (k : κ)
    (m : Assoc κ α) :
    (xs.foldl (fun known x => known.putNew (key x) (value x)) m).get? k =
      (m.get? k).or ((xs.find? fun x => decide (key x = k)).map value) := by
  induction xs generalizing m with
  | nil => exact Option.or_none.symm
  | cons x xs ih =>
    rw [List.foldl_cons, ih, get?_putNew, Option.or_assoc, List.find?_cons]
    by_cases hkey : key x = k <;> simp [hkey]

/-! ## Entries -/

theorem mem_keys {m : Assoc κ α} {k : κ} : k ∈ m.keys ↔ (m.get? k).isSome = true := by
  unfold keys get?
  rw [Option.isSome_map, List.find?_isSome, List.mem_map]
  constructor
  · intro h
    obtain ⟨e, he, hk⟩ := h
    exact ⟨e, he, decide_eq_true hk⟩
  · intro h
    obtain ⟨e, he, hk⟩ := h
    exact ⟨e, he, of_decide_eq_true hk⟩

theorem keys_erase_nodup {m : Assoc κ α} (h : m.keys.Nodup) (k : κ) : (m.erase k).keys.Nodup :=
  h.sublist (List.filter_sublist.map _)

theorem keys_put_nodup {m : Assoc κ α} (h : m.keys.Nodup) (k : κ) (a : α) :
    (m.put k a).keys.Nodup := by
  refine List.nodup_cons.mpr ⟨fun hk => ?_, keys_erase_nodup h k⟩
  obtain ⟨e, he, hek⟩ := List.mem_map.mp hk
  have hne : e.1 ≠ k := of_decide_eq_true (List.mem_filter.mp he).2
  exact hne hek

theorem keys_foldl_putNew_nodup {β : Type} (key : β → κ) (value : β → α) (xs : List β)
    {m : Assoc κ α} (h : m.keys.Nodup) :
    (xs.foldl (fun known x => known.putNew (key x) (value x)) m).keys.Nodup := by
  induction xs generalizing m with
  | nil => exact h
  | cons x xs ih =>
    refine ih ?_
    dsimp only [putNew]
    split
    · exact h
    · exact keys_put_nodup h _ _

/-- The entries of a map are that of a key, if it has one, and those of the other keys. -/
theorem entries_perm {m : Assoc κ α} (h : m.keys.Nodup) (k : κ) :
    m.entries.Perm (((m.get? k).map (k, ·)).toList ++ (m.erase k).entries) := by
  obtain ⟨es⟩ := m
  induction es with
  | nil => exact .refl _
  | cons e es ih =>
    obtain ⟨k₀, a⟩ := e
    obtain ⟨hk₀, hes⟩ := List.nodup_cons.mp h
    by_cases hk : k₀ = k
    · subst hk
      have hothers : ∀ e ∈ es, decide (e.1 ≠ k₀) = true := fun e he =>
        decide_eq_true fun heq => hk₀ (List.mem_map.mpr ⟨e, he, heq⟩)
      rw [get?_cons, if_pos rfl]
      unfold erase
      rw [List.filter_cons_of_neg (by simp), List.filter_eq_self.mpr hothers]
      exact .refl _
    · rw [get?_cons, if_neg hk]
      unfold erase
      rw [List.filter_cons_of_pos (by simpa using hk)]
      exact ((ih hes).cons _).trans List.perm_middle.symm

/-- In a map whose keys differ, what a key is mapped to is its entry. -/
theorem mem_entries {m : Assoc κ α} (h : m.keys.Nodup) {k : κ} {a : α} :
    (k, a) ∈ m.entries ↔ m.get? k = some a := by
  rw [(entries_perm h k).mem_iff, List.mem_append, Option.mem_toList]
  constructor
  · rintro (hmem | hmem)
    · obtain ⟨b, hb, heq⟩ := Option.map_eq_some_iff.mp hmem
      cases heq
      exact hb
    · have hne : k ≠ k := of_decide_eq_true (List.mem_filter.mp hmem).2
      exact absurd rfl hne
  · intro ha
    rw [ha]
    exact .inl rfl

end DeviceCode.Assoc

namespace DeviceCode

/-- A list with a last element is split at that one, or before it. -/
theorem split_of_concat {α : Type} {xs before after : List α} {x y : α}
    (h : xs ++ [x] = before ++ y :: after) :
    xs = before ∧ x = y ∧ after = [] ∨ ∃ rest, after = rest ++ [x] ∧ xs = before ++ y :: rest := by
  rcases List.append_eq_append_iff.mp h with ⟨mid, rfl, hmid⟩ | ⟨mid, rfl, hmid⟩
  · cases mid with
    | nil =>
      cases hmid
      exact .inl ⟨(List.append_nil xs).symm, rfl, rfl⟩
    | cons z mid => simp at hmid
  · cases mid with
    | nil =>
      cases hmid
      exact .inl ⟨List.append_nil before, rfl, rfl⟩
    | cons z mid =>
      cases hmid
      exact .inr ⟨mid, rfl, rfl⟩

end DeviceCode

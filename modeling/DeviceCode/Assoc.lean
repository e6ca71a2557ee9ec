/-!
# Association lists

Small maps kept in the order in which their keys came. `get?` is the view: `get?_put`, `get?_putNew`
and `get?_erase` say what each operation does to it.
-/

namespace DeviceCode

/-- A map from `κ` to `α`. -/
structure Assoc (κ α : Type) where
  entries : List (κ × α) := []
  deriving DecidableEq, Repr

namespace Assoc

variable {κ α : Type} [DecidableEq κ]

/-- What a key is mapped to. -/
def get? (m : Assoc κ α) (k : κ) : Option α :=
  (m.entries.find? fun e => decide (e.1 = k)).map (·.2)

def contains (m : Assoc κ α) (k : κ) : Bool := (m.get? k).isSome

def size (m : Assoc κ α) : Nat := m.entries.length

def keys (m : Assoc κ α) : List κ := m.entries.map (·.1)

/-- Forget a key. -/
def erase (m : Assoc κ α) (k : κ) : Assoc κ α where
  entries := m.entries.filter fun e => decide (e.1 ≠ k)

/-- Map a key to a value, whatever it was mapped to. -/
def put (m : Assoc κ α) (k : κ) (a : α) : Assoc κ α where
  entries := (k, a) :: (m.erase k).entries

/-- Map a key to a value unless it is mapped already. -/
def putNew (m : Assoc κ α) (k : κ) (a : α) : Assoc κ α :=
  if m.contains k then m else m.put k a

@[simp] theorem get?_nil (k : κ) : (⟨[]⟩ : Assoc κ α).get? k = none := rfl

theorem get?_cons (k k' : κ) (a : α) (es : List (κ × α)) :
    (⟨(k, a) :: es⟩ : Assoc κ α).get? k' =
      if k = k' then some a else (⟨es⟩ : Assoc κ α).get? k' := by
  by_cases h : k = k' <;> simp [get?, h]

theorem get?_erase (m : Assoc κ α) (k k' : κ) :
    (m.erase k).get? k' = if k = k' then none else m.get? k' := by
  obtain ⟨es⟩ := m
  induction es with
  | nil => simp [erase]
  | cons e es ih =>
    obtain ⟨k₀, a⟩ := e
    simp only [erase] at ih
    by_cases h : k₀ = k
    · subst h
      simp only [erase, ne_eq, not_true_eq_false, decide_false, Bool.false_eq_true,
        not_false_eq_true, List.filter_cons_of_neg, get?_cons]
      rw [ih]
      by_cases hk : k₀ = k' <;> simp [hk]
    · simp only [erase, ne_eq, h, not_false_eq_true, decide_true, List.filter_cons_of_pos,
        get?_cons]
      rw [ih]
      by_cases hk : k₀ = k'
      · subst hk
        simp [Ne.symm h]
      · simp [hk]

@[simp] theorem get?_put (m : Assoc κ α) (k k' : κ) (a : α) :
    (m.put k a).get? k' = if k = k' then some a else m.get? k' := by
  have h := get?_erase m k k'
  by_cases hk : k = k'
  · simp [put, get?_cons, hk]
  · rw [if_neg hk] at h
    rw [put, get?_cons, if_neg hk, if_neg hk]
    exact h

theorem get?_putNew (m : Assoc κ α) (k k' : κ) (a : α) :
    (m.putNew k a).get? k' = (m.get? k').or (if k = k' then some a else none) := by
  unfold putNew contains
  by_cases h : k = k'
  · subst h
    cases hm : m.get? k <;> simp [hm]
  · cases hm : m.get? k <;> simp [h]

end Assoc

end DeviceCode

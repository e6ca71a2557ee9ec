import DeviceCode.Loader.Load
import DeviceCode.Loader.Unload

/-!
# Computations that run alike

`Alike S A x y`: from states related by `S`, the computations `x` and `y` give answers related by
`A` and leave states related by `S` again. Taken between two loaders whose accelerators answer the
same, it says that the loaders cannot tell their accelerators apart; taken between a loader and
itself, with a relation that only holds of states with some property, it says that the property is
kept.

The rules below follow the way in which loader operations are put together: answers, binds, calls of
the accelerator and changes of the rest of the world.
-/

namespace DeviceCode

variable {ρ ρ' α α' β β' ε : Type}

/-! ## Running a computation -/

theorem run_bind_of {x : StateM ρ α} {s s' : ρ} {a : α} (h : x s = (a, s'))
    (f : α → StateM ρ β) : (x >>= f) s = f a s' := by
  show f (x s).1 (x s).2 = _
  rw [h]

theorem run_bind_of_ok {x : ExceptT ε (StateM ρ) α} {s s' : ρ} {a : α} (h : x s = (.ok a, s'))
    (f : α → ExceptT ε (StateM ρ) β) : (x >>= f) s = f a s' := by
  show (ExceptT.bindCont f (x s).1) (x s).2 = _
  rw [h]; rfl

theorem run_bind_of_error {x : ExceptT ε (StateM ρ) α} {s s' : ρ} {e : ε}
    (h : x s = (.error e, s')) (f : α → ExceptT ε (StateM ρ) β) :
    (x >>= f) s = (.error e, s') := by
  show (ExceptT.bindCont f (x s).1) (x s).2 = _
  rw [h]; rfl

theorem run_lift_bind (x : StateM ρ α) (f : α → ExceptT ε (StateM ρ) β) (s : ρ) :
    ((liftM x : ExceptT ε (StateM ρ) α) >>= f) s = f (x s).1 (x s).2 := rfl

/-! ## The relation and its rules -/

/-- From related states, related answers and related states. -/
def Alike (S : ρ → ρ' → Prop) (A : α → α' → Prop) (x : StateM ρ α) (y : StateM ρ' α') : Prop :=
  ∀ s t, S s t → A (x s).1 (y t).1 ∧ S (x s).2 (y t).2

/-- Both succeed with related values, or both fail for the same reason. -/
def SameOutcome (A : α → α' → Prop) : Except ε α → Except ε α' → Prop
  | .ok a, .ok b => A a b
  | .error e, .error e' => e = e'
  | _, _ => False

/-- `Alike` for computations that may fail. -/
def AlikeE (S : ρ → ρ' → Prop) (A : α → α' → Prop)
    (x : ExceptT ε (StateM ρ) α) (y : ExceptT ε (StateM ρ') α') : Prop :=
  ∀ s t, S s t → SameOutcome A (x s).1 (y t).1 ∧ S (x s).2 (y t).2

theorem SameOutcome.eq {r r' : Except ε α} (h : SameOutcome Eq r r') : r = r' := by
  cases r with
  | ok a =>
    cases r' with
    | ok b => exact congrArg _ h
    | error e => exact h.elim
  | error e =>
    cases r' with
    | ok b => exact h.elim
    | error e' => exact congrArg _ h

theorem SameOutcome.of_eq {r r' : Except ε α} (h : r = r') : SameOutcome Eq r r' := by
  subst h
  cases r with
  | ok a => exact rfl
  | error e => exact rfl

section Rules

variable {S : ρ → ρ' → Prop} {A : α → α' → Prop} {B : β → β' → Prop}

theorem Alike.pure {a : α} {b : α'} (h : A a b) : Alike S A (Pure.pure a) (Pure.pure b) :=
  fun _ _ hs => ⟨h, hs⟩

theorem Alike.bind {x : StateM ρ α} {y : StateM ρ' α'} {f : α → StateM ρ β} {g : α' → StateM ρ' β'}
    (hx : Alike S A x y) (hf : ∀ a b, A a b → Alike S B (f a) (g b)) :
    Alike S B (x >>= f) (y >>= g) := by
  intro s t hs
  obtain ⟨ha, hs'⟩ := hx s t hs
  exact hf _ _ ha _ _ hs'

/-- The common case: the first answers are equal. -/
theorem Alike.andThen {x : StateM ρ α} {y : StateM ρ' α} {f : α → StateM ρ β} {g : α → StateM ρ' β'}
    (hx : Alike S Eq x y) (hf : ∀ a, Alike S B (f a) (g a)) : Alike S B (x >>= f) (y >>= g) :=
  hx.bind fun a _ hab => hab ▸ hf a

theorem Alike.get_bind {f : ρ → StateM ρ β} {g : ρ' → StateM ρ' β'}
    (h : ∀ s t, S s t → Alike S B (f s) (g t)) : Alike S B (get >>= f) (get >>= g) :=
  fun s t hs => h s t hs s t hs

theorem AlikeE.pure {a : α} {b : α'} (h : A a b) :
    AlikeE (ε := ε) S A (Pure.pure a) (Pure.pure b) :=
  fun _ _ hs => ⟨h, hs⟩

theorem AlikeE.throw {e : ε} :
    AlikeE S A (throw e : ExceptT ε (StateM ρ) α) (throw e : ExceptT ε (StateM ρ') α') :=
  fun _ _ hs => ⟨rfl, hs⟩

/-- The two ways in which a pair of runs can end. -/
theorem AlikeE.runs {x : ExceptT ε (StateM ρ) α} {y : ExceptT ε (StateM ρ') α'}
    (h : AlikeE S A x y) {s : ρ} {t : ρ'} (hs : S s t) :
    (∃ e s' t', x s = (.error e, s') ∧ y t = (.error e, t') ∧ S s' t') ∨
      ∃ a b s' t', x s = (.ok a, s') ∧ y t = (.ok b, t') ∧ A a b ∧ S s' t' := by
  obtain ⟨hr, hs'⟩ := h s t hs
  rcases hx : x s with ⟨r, s'⟩
  rcases hy : y t with ⟨r', t'⟩
  rw [hx, hy] at hr hs'
  cases r with
  | error e =>
    cases r' with
    | error e' =>
      cases (hr : e = e')
      exact .inl ⟨e, s', t', rfl, rfl, hs'⟩
    | ok b => exact hr.elim
  | ok a =>
    cases r' with
    | error e' => exact hr.elim
    | ok b => exact .inr ⟨a, b, s', t', rfl, rfl, hr, hs'⟩

theorem AlikeE.bind {x : ExceptT ε (StateM ρ) α} {y : ExceptT ε (StateM ρ') α'}
    {f : α → ExceptT ε (StateM ρ) β} {g : α' → ExceptT ε (StateM ρ') β'}
    (hx : AlikeE S A x y) (hf : ∀ a b, A a b → AlikeE S B (f a) (g b)) :
    AlikeE S B (x >>= f) (y >>= g) := by
  intro s t hs
  rcases hx.runs hs with ⟨e, s', t', hxs, hyt, hs'⟩ | ⟨a, b, s', t', hxs, hyt, hab, hs'⟩
  · rw [run_bind_of_error hxs, run_bind_of_error hyt]
    exact ⟨rfl, hs'⟩
  · rw [run_bind_of_ok hxs, run_bind_of_ok hyt]
    exact hf a b hab s' t' hs'

/-- The common case: the first values are equal. -/
theorem AlikeE.andThen {x : ExceptT ε (StateM ρ) α} {y : ExceptT ε (StateM ρ') α}
    {f : α → ExceptT ε (StateM ρ) β} {g : α → ExceptT ε (StateM ρ') β'}
    (hx : AlikeE S Eq x y) (hf : ∀ a, AlikeE S B (f a) (g a)) :
    AlikeE S B (x >>= f) (y >>= g) :=
  hx.bind fun a _ hab => hab ▸ hf a

theorem AlikeE.lift_bind {x : StateM ρ α} {y : StateM ρ' α} {f : α → ExceptT ε (StateM ρ) β}
    {g : α → ExceptT ε (StateM ρ') β'} (hx : Alike S Eq x y)
    (hf : ∀ a, AlikeE S B (f a) (g a)) : AlikeE S B (liftM x >>= f) (liftM y >>= g) := by
  intro s t hs
  obtain ⟨ha, hs'⟩ := hx s t hs
  have h := hf (x s).1 _ _ hs'
  rw [ha] at h
  exact ⟨by rw [run_lift_bind, ha]; exact h.1, by rw [run_lift_bind, ha]; exact h.2⟩

theorem AlikeE.get_bind {f : ρ → ExceptT ε (StateM ρ) β} {g : ρ' → ExceptT ε (StateM ρ') β'}
    (h : ∀ s t, S s t → AlikeE S B (f s) (g t)) : AlikeE S B (get >>= f) (get >>= g) :=
  fun s t hs => h s t hs s t hs

/-- A computation that may fail, seen as one that answers with its outcome. -/
theorem AlikeE.outcome {x : ExceptT ε (StateM ρ) α} {y : ExceptT ε (StateM ρ') α}
    (h : AlikeE S Eq x y) : Alike S Eq x.run y.run :=
  fun s t hs => ⟨(h s t hs).1.eq, (h s t hs).2⟩

end Rules

end DeviceCode

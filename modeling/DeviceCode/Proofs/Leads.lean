import DeviceCode.Proofs.Watch

/-!
# Where a computation that may fail ends

`Leads P x Q E`: from a state with `P`, the computation `x` either succeeds in a state with `Q` of
its answer, or fails in a state with `E`. What holds after a failure is as much part of a load's
contract as what holds after a success, so both are always stated.

One rule per way in which steps of a load are put together.
-/

namespace DeviceCode

variable {σ ρ α β ε : Type}

/-- What holds of an outcome and of the state that it comes with. -/
def Ends (Q : α → ρ → Prop) (E : ρ → Prop) : Except ε α × ρ → Prop
  | (.ok a, s) => Q a s
  | (.error _, s) => E s

/-- From states with `P`, success leads to `Q` and failure to `E`. -/
def Leads (P : ρ → Prop) (x : ExceptT ε (StateM ρ) α) (Q : α → ρ → Prop) (E : ρ → Prop) : Prop :=
  ∀ s, P s → Ends Q E (x s)

namespace Ends

variable {Q Q' : α → ρ → Prop} {E E' : ρ → Prop}

theorem imp {r : Except ε α × ρ} (h : Ends Q E r) (hq : ∀ a s, Q a s → Q' a s)
    (he : ∀ s, E s → E' s) : Ends Q' E' r := by
  rcases r with ⟨_ | a, s⟩
  · exact he s h
  · exact hq a s h

/-- What always holds, holds at the end. -/
theorem of_all {r : Except ε α × ρ} (hq : ∀ a s, Q a s) (he : ∀ s, E s) : Ends Q E r := by
  rcases r with ⟨_ | a, s⟩
  · exact he s
  · exact hq a s

/-- What holds after success and failure alike. -/
theorem state {P : ρ → Prop} {r : Except ε α × ρ} (h : Ends (fun _ => P) P r) : P r.2 := by
  rcases r with ⟨_ | a, s⟩ <;> exact h

theorem of_state {P : ρ → Prop} {r : Except ε α × ρ} (h : P r.2) : Ends (fun _ => P) P r := by
  rcases r with ⟨_ | a, s⟩ <;> exact h

theorem bind {x : ExceptT ε (StateM ρ) α} {f : α → ExceptT ε (StateM ρ) β} {B : β → ρ → Prop}
    {s : ρ} (hx : Ends Q E (x s)) (hf : ∀ a t, Q a t → Ends B E (f a t)) :
    Ends B E ((x >>= f) s) := by
  rcases hr : x s with ⟨e | a, t⟩
  · rw [hr] at hx
    rw [run_bind_of_error hr]
    exact hx
  · rw [hr] at hx
    rw [run_bind_of_ok hr]
    exact hf a t hx

theorem get {f : ρ → ExceptT ε (StateM ρ) α} {s : ρ} (h : Ends Q E (f s s)) :
    Ends Q E ((MonadState.get >>= f) s) := h

/-- A call of the simulator that fails. -/
theorem of_fails {Q : α → Simulator → Prop} {E : Simulator → Prop} {s : Simulator}
    {r : Reply Simulator α} (h : Simulator.Fails r s)
    (he : ∀ journal loads, E { s with journal, loads }) : Ends Q E r := by
  obtain ⟨err, journal, loads, rfl⟩ := h
  exact he journal loads

/-- A call of the simulator that succeeds. -/
theorem of_succeeds {Q : α → Simulator → Prop} {E : Simulator → Prop} {t : Simulator} {a : α}
    {r : Reply Simulator α} (h : Simulator.Succeeds r a t)
    (hq : ∀ journal loads, Q a { t with journal, loads }) : Ends Q E r := by
  obtain ⟨journal, loads, rfl⟩ := h
  exact hq journal loads

/-- A call that is passed on and noted. -/
theorem pass {Q : α → σ → Prop} {E : σ → Prop} {s : Watched σ} {call : σ → Reply σ α}
    {note : α → Ties} (h : Ends Q E (call s.inner)) :
    Ends (fun a t => Q a t.inner ∧ t.ties = s.ties.add (note a))
      (fun t => E t.inner ∧ t.ties = s.ties) (Watched.pass call note s) := by
  rcases hcall : call s.inner with ⟨e | a, t⟩
  · rw [Watched.pass_error hcall]
    rw [hcall] at h
    exact ⟨h, rfl⟩
  · rw [Watched.pass_ok hcall]
    rw [hcall] at h
    exact ⟨h, rfl⟩

end Ends

namespace Leads

variable {P : ρ → Prop} {Q : α → ρ → Prop} {B : β → ρ → Prop} {E : ρ → Prop}

theorem pure {a : α} (h : ∀ s, P s → Q a s) :
    Leads P (Pure.pure a : ExceptT ε (StateM ρ) α) Q E := h

theorem throw {e : ε} (h : ∀ s, P s → E s) :
    Leads P (MonadExcept.throw e : ExceptT ε (StateM ρ) α) Q E := h

theorem bind {x : ExceptT ε (StateM ρ) α} {f : α → ExceptT ε (StateM ρ) β}
    (hx : Leads P x Q E) (hf : ∀ a, Leads (Q a) (f a) B E) : Leads P (x >>= f) B E :=
  fun s hs => (hx s hs).bind fun a t ht => hf a t ht

theorem get_bind {f : ρ → ExceptT ε (StateM ρ) β} (h : ∀ s, P s → Ends B E (f s s)) :
    Leads P (get >>= f) B E := h

end Leads

/-! ## Calls of the accelerator -/

variable {Q : α → World σ → Prop} {E : World σ → Prop} {w : World σ} {f : σ → Reply σ α}

/-- A check that changes nothing. -/
theorem Ends.check {r : Except LoadError β} {g : β → Attempt σ α} (h : E w)
    (hg : ∀ b, Ends Q E (g b w)) : Ends Q E ((Attempt.ofExcept r >>= g) w) := by
  cases r with
  | error e => exact h
  | ok b => exact hg b

/-- A call, by what the accelerator answers. -/
theorem Ends.call {cause : CallError → LoadError}
    (h : Ends (fun a s => Q a { w with accelerator := s }) (fun s => E { w with accelerator := s })
      (f w.accelerator)) :
    Ends Q E (Attempt.call cause f w) := by
  rcases hcall : f w.accelerator with ⟨e | a, s⟩
  · rw [hcall] at h
    rw [Attempt.run_call_error cause hcall]
    exact h
  · rw [hcall] at h
    rw [Attempt.run_call_ok cause hcall]
    exact h

/-- A release whose failure is only logged. -/
theorem Ends.discard {f : σ → Reply σ Unit} {warning : CallError → Trace.Event} {Q : World σ → Prop}
    (h : Ends (fun _ s => Q { w with accelerator := s })
      (fun s => ∀ log, Q { w with accelerator := s, log := log }) (f w.accelerator)) :
    Q (World.discard f warning w).2 := by
  rcases hcall : f w.accelerator with ⟨e | a, s⟩
  · rw [hcall] at h
    unfold World.discard
    rw [run_bind_of (World.run_call hcall)]
    exact h _
  · rw [hcall] at h
    unfold World.discard
    rw [run_bind_of (World.run_call hcall)]
    exact h

/-! ## Steps of a load -/

/-- An attempt, by what it does to the world. -/
theorem Leads.attempt {P : LoadProgress σ → Prop} {Q : α → LoadProgress σ → Prop}
    {E : LoadProgress σ → Prop} {x : Attempt σ α}
    (h : ∀ p, P p → Ends (fun a w => Q a { p with world := w }) (fun w => E { p with world := w })
      (x p.world)) :
    Leads P (LoadStep.attempt x) Q E := by
  intro p hp
  have hends := h p hp
  unfold LoadStep.attempt
  rcases hx : x p.world with ⟨e | a, w⟩
  · rw [hx] at hends
    exact hends
  · rw [hx] at hends
    exact hends

theorem Leads.call {P : LoadProgress σ → Prop} {Q : α → LoadProgress σ → Prop}
    {E : LoadProgress σ → Prop} {cause : CallError → LoadError} {f : σ → Reply σ α}
    (h : ∀ p, P p → Ends (fun a s => Q a { p with world := { p.world with accelerator := s } })
      (fun s => E { p with world := { p.world with accelerator := s } })
      (f p.world.accelerator)) :
    Leads P (LoadStep.call cause f) Q E :=
  Leads.attempt fun p hp => (h p hp).call

theorem Leads.hold {P : LoadProgress σ → Prop} {Q : Unit → LoadProgress σ → Prop}
    {E : LoadProgress σ → Prop} {f : Holdings → Holdings}
    (h : ∀ p, P p → Q () { p with held := f p.held }) : Leads P (LoadStep.hold f) Q E := h

end DeviceCode

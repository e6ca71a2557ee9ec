import DeviceCode.Proofs.Acquired

/-!
# Loads in progress

A load is followed over the watched simulator, one stage at a time. At every stage the world is the
one at the start with the load's holdings on top (`Underway`), and the notes that were added since
are about those holdings (`Ties.About`). From the failure of any step the way back leads through
`Loader.rollBack`, which leaves nothing of the holdings but what an injected fault kept it from
giving back (`Holdings.left`).

`Loader.loadFileSteps_leads` and `Loader.loadImageSteps_leads` are the two paths, and
`Loader.transaction_ends` closes either of them.
-/

namespace DeviceCode

variable {α : Type}

/-- A loader over the simulator. -/
def Simulator.loader (settings : LoaderSettings) (hooks : LaunchHooks) : Loader Simulator where
  accelerator := Simulator.accelerator
  settings := settings
  hooks := hooks

/-- A loader over the watched simulator. -/
def Simulator.watchedLoader (settings : LoaderSettings) (hooks : LaunchHooks) :
    Loader (Watched Simulator) :=
  (Simulator.loader settings hooks).watch

/-- What backs loaded code is among the holdings. -/
def Backing.HeldBy (held : Holdings) : Backing → Prop
  | .codeObject c => held.codeObject = some c
  | .reader r => held.reader = some r

/-- Notes about nothing but holdings of one load. -/
structure Ties.About (news : Ties) (held : Holdings) : Prop where
  readFrom : ∀ x ∈ news.readFrom, held.codeObject = some x.1 ∧ held.allocation = some x.2
  loaded : ∀ x ∈ news.loaded, held.executable = some x.1 ∧ x.2.HeldBy held
  bound : ∀ x ∈ news.bound, held.executable = some x.1

/-- Every binding that was noted has a pin of its own. -/
def Ties.CoveredBy (news : Ties) (pins : List PinnedGlobal) : Prop :=
  ∀ x, (news.bound.map (·.2)).count x ≤ (pins.map (·.hostAddress)).count x

namespace Ties.About

variable {news more : Ties} {held : Holdings}

theorem nil : Ties.About {} held where
  readFrom _ hx := absurd hx List.not_mem_nil
  loaded _ hx := absurd hx List.not_mem_nil
  bound _ hx := absurd hx List.not_mem_nil

theorem add (h : news.About held) (hm : more.About held) : (news.add more).About held where
  readFrom x hx := (List.mem_append.mp hx).elim (h.readFrom x) (hm.readFrom x)
  loaded x hx := (List.mem_append.mp hx).elim (h.loaded x) (hm.loaded x)
  bound x hx := (List.mem_append.mp hx).elim (h.bound x) (hm.bound x)

/-- Notes stay about the holdings when more is held. -/
theorem mono {held' : Holdings} (h : news.About held)
    (he : ∀ e, held.executable = some e → held'.executable = some e)
    (hc : ∀ c, held.codeObject = some c → held'.codeObject = some c)
    (ha : ∀ x, held.allocation = some x → held'.allocation = some x)
    (hr : ∀ r, held.reader = some r → held'.reader = some r) : news.About held' where
  readFrom x hx := ⟨hc _ (h.readFrom x hx).1, ha _ (h.readFrom x hx).2⟩
  loaded x hx := by
    obtain ⟨h1, h2⟩ := h.loaded x hx
    refine ⟨he _ h1, ?_⟩
    cases hb : x.2 with
    | codeObject c => rw [hb] at h2; exact hc c h2
    | reader r => rw [hb] at h2; exact hr r h2
  bound x hx := he _ (h.bound x hx)

end Ties.About

/-- The world `w` is `w₀` with the holdings of a load on top. Besides them only the log and the
cached host image have changed. -/
structure Underway (w₀ : World (Watched Simulator)) (held : Holdings) (frozen : Bool) (news : Ties)
    (w : World (Watched Simulator)) : Prop where
  acquired : Simulator.Acquired w₀.accelerator.inner w.accelerator.inner held frozen
  ties : w.accelerator.ties = w₀.accelerator.ties.add news
  loader : w.loader = { w₀.loader with hostImage := w.loader.hostImage }
  host : w.host = w₀.host
  completions : w.completions = w₀.completions
  hookCalls : w.hookCalls = w₀.hookCalls

namespace Underway

variable {w₀ w : World (Watched Simulator)} {held held' : Holdings} {frozen frozen' : Bool}
  {news : Ties}

theorem start (h : w.accelerator.inner.Sound) : Underway w {} frozen {} w where
  acquired := .start h
  ties := (Ties.add_nil _).symm
  loader := rfl
  host := rfl
  completions := rfl
  hookCalls := rfl

theorem logged (h : Underway w₀ held frozen news w) (log : List Trace.Event) :
    Underway w₀ held frozen news { w with log } :=
  { h with }

/-- After a call that noted something. -/
theorem noted (h : Underway w₀ held frozen news w) {s : Watched Simulator} {more : Ties}
    (ha : Simulator.Acquired w₀.accelerator.inner s.inner held' frozen')
    (ht : s.ties = w.accelerator.ties.add more) :
    Underway w₀ held' frozen' (news.add more) { w with accelerator := s } :=
  { h with
    acquired := ha
    ties := by
      show s.ties = w₀.accelerator.ties.add (news.add more)
      rw [ht, h.ties, Ties.add_assoc] }

/-- After a call that noted nothing. -/
theorem called (h : Underway w₀ held frozen news w) {s : Watched Simulator}
    (ha : Simulator.Acquired w₀.accelerator.inner s.inner held' frozen')
    (ht : s.ties = w.accelerator.ties) :
    Underway w₀ held' frozen' news { w with accelerator := s } :=
  { h with acquired := ha, ties := ht.trans h.ties }

end Underway

/-! ## Giving back -/

/-- What a roll back cannot give back: what the injected faults keep it from. -/
def Holdings.left (held : Holdings) (s : Simulator) : Holdings where
  executable := if s.faulty .destroyExecutable then held.executable else none
  allocation := if s.faulty .free then held.allocation else none

namespace Holdings

variable {held : Holdings} {s : Simulator}

theorem left_executable_of_faulty (h : s.faulty .destroyExecutable = true) :
    (held.left s).executable = held.executable := if_pos h

theorem left_executable_of_not (h : s.faulty .destroyExecutable = false) :
    (held.left s).executable = none := if_neg (ne_true_of_eq_false h)

theorem left_executable_of_none (h : held.executable = none) :
    (held.left s).executable = held.executable := by
  show (if _ then held.executable else none) = _
  rw [h, ite_self]

theorem left_allocation_of_faulty (h : s.faulty .free = true) :
    (held.left s).allocation = held.allocation := if_pos h

theorem left_allocation_of_not (h : s.faulty .free = false) :
    (held.left s).allocation = none := if_neg (ne_true_of_eq_false h)

theorem left_allocation_of_none (h : held.allocation = none) :
    (held.left s).allocation = held.allocation := by
  show (if _ then held.allocation else none) = _
  rw [h, ite_self]

/-- Nothing is left of a roll back when nothing keeps it from giving back. -/
theorem left_nil (hd : s.faulty .destroyExecutable = false) (hf : s.faulty .free = false) :
    held.left s = {} := by
  unfold left
  rw [if_neg (ne_true_of_eq_false hd), if_neg (ne_true_of_eq_false hf)]

end Holdings

namespace Loader

variable {settings : LoaderSettings} {hooks : LaunchHooks}
  {w₀ w : World (Watched Simulator)} {held : Holdings} {frozen : Bool} {news : Ties}

/-- Unpinning takes all pins off the holdings. -/
theorem unpinAll_underway (settings : LoaderSettings) (hooks : LaunchHooks)
    (pins : List PinnedGlobal)
    (h : Underway w₀ { held with pins } frozen news w) :
    Underway w₀ { held with pins := [] } frozen news
      ((Simulator.watchedLoader settings hooks).unpinAll pins w).2 := by
  induction pins generalizing w with
  | nil => exact h
  | cons pin pins ih =>
    refine ih (Ends.discard (h.acquired.unlockMemory.pass.imp ?_ ?_))
    · rintro _ s ⟨ha, ht⟩
      rw [Ties.add_nil] at ht
      exact h.called ha ht
    · rintro s ⟨hfalse, -⟩
      exact hfalse.elim

variable {l : Loader (Watched Simulator)}

/-- Giving back one thing, by what the release does. -/
theorem giveBack_underway {κ : Type} (thing : Option κ) (after : Holdings)
    (release : κ → Simulator → Reply Simulator Unit) (message what : String) (label : κ → String)
    (h : Underway w₀ held frozen news w) (hnone : thing = none → after = held)
    (hsome : ∀ x, thing = some x →
      Ends (fun _ t => Simulator.Acquired w₀.accelerator.inner t after frozen)
        (fun t => Simulator.Acquired w₀.accelerator.inner t after frozen)
        (release x w.accelerator.inner)) :
    Underway w₀ after frozen news
      (giveBack thing (fun x => Watched.pass (release x) fun _ => {}) message what label w).2 := by
  cases thing with
  | none =>
    rw [hnone rfl]
    exact h
  | some x =>
    refine Ends.discard ((hsome x rfl).pass.imp ?_ ?_)
    · rintro _ s ⟨ha, ht⟩
      rw [Ties.add_nil] at ht
      exact h.called ha ht
    · rintro s ⟨ha, ht⟩ log
      exact (h.called ha ht).logged log

/-- **A roll back leaves what the faults keep, and nothing else.** -/
theorem rollBack_underway (h : Underway w₀ held frozen news w) :
    Underway w₀ (held.left w₀.accelerator.inner) frozen news
      ((Simulator.watchedLoader settings hooks).rollBack held w).2 := by
  let s₀ := w₀.accelerator.inner
  -- five releases, each of what is left after the one before; only the first and the third can fail
  have h1 := giveBack_underway held.executable
    { held with executable := (held.left s₀).executable } (fun e s => s.destroyExecutable e)
    "rollback: failed to destroy executable" "executable" (·.label) h
    (fun hnone => by rw [Holdings.left_executable_of_none hnone])
    (fun e he => (h.acquired.destroyExecutable he).imp
      (fun _ t ⟨ha, hfault⟩ => by rw [Holdings.left_executable_of_not hfault]; exact ha)
      (fun t ⟨ha, hfault⟩ => by rw [Holdings.left_executable_of_faulty hfault]; exact ha))
  have h2 := giveBack_underway held.codeObject
    { held with executable := (held.left s₀).executable, codeObject := none }
    (fun c s => s.destroyCodeObject c) "rollback: failed to destroy code object" "code_object"
    (·.label) h1 (fun hnone => by rw [← hnone])
    (fun c hc => (h1.acquired.destroyCodeObject hc).imp (fun _ _ ha => ha) fun _ hf => hf.elim)
  have h3 := giveBack_underway held.allocation
    { held with
      executable := (held.left s₀).executable
      codeObject := none
      allocation := (held.left s₀).allocation }
    (fun x s => s.free x) "rollback: failed to free device image" "address" toString h2
    (fun hnone => by rw [Holdings.left_allocation_of_none hnone])
    (fun x hx => (h2.acquired.free hx).imp
      (fun _ t ⟨ha, hfault⟩ => by rw [Holdings.left_allocation_of_not hfault]; exact ha)
      (fun t ⟨ha, hfault⟩ => by rw [Holdings.left_allocation_of_faulty hfault]; exact ha))
  have h4 := giveBack_underway held.reader { held.left s₀ with pins := held.pins }
    (fun r s => s.destroyReader r) "rollback: failed to destroy reader" "reader" (·.label) h3
    (fun hnone => by rw [hnone]; rfl)
    (fun r hr => (h3.acquired.destroyReader hr).imp (fun _ _ ha => ha) fun _ hf => hf.elim)
  have h5 := unpinAll_underway settings hooks held.pins h4
  unfold rollBack
  by_cases hempty : held = {}
  · rw [if_pos hempty]
    exact h5
  · rw [if_neg hempty]
    exact h5.logged _

end Loader

end DeviceCode

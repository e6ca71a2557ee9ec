import DeviceCode.Proofs.Books

/-!
# How an unload ends

An unload takes a module's things out of the simulator one after the other, the executable first,
and stops at the first failure. Between any two steps the module's own notes agree with what is
still there: a thing either is where it was, or it has left the simulator and the notes say so
(`Assoc.Dropped`). So the module that comes back from an unload that stopped can be unloaded again,
and nothing is released twice.

The order is part of the statement: as long as the executable is there, so are the code object and
the device image.
-/

namespace DeviceCode

/-- A thing is still where it was, or it has left the map that it was in. -/
def Assoc.Dropped {κ α : Type} [DecidableEq κ] (kept kept' : Assoc κ α) (thing thing' : Option κ) :
    Prop :=
  (thing' = thing ∧ kept' = kept) ∨
    ∃ k, thing = some k ∧ thing' = none ∧ kept.contains k = true ∧ kept' = kept.erase k

namespace Assoc.Dropped

variable {κ α : Type} [DecidableEq κ] {kept kept' : Assoc κ α} {thing thing' : Option κ}

theorem refl : Dropped kept kept thing thing := .inl ⟨rfl, rfl⟩

/-- What is there now was there before. -/
theorem of_some {k : κ} (h : Dropped kept kept' thing (some k)) :
    thing = some k ∧ kept' = kept := by
  rcases h with ⟨hthing, hkept⟩ | ⟨_, _, hnone, _⟩
  · exact ⟨hthing.symm, hkept⟩
  · cases hnone

theorem drop {k : κ} (h : Dropped kept kept' thing (some k)) (hk : kept'.contains k = true) :
    Dropped kept (kept'.erase k) thing none := by
  obtain ⟨hthing, rfl⟩ := h.of_some
  exact .inr ⟨k, hthing, rfl, hk, rfl⟩

/-- The map has lost what the thing's owner has. -/
theorem tally_add (h : Dropped kept kept' thing thing') (k : κ) :
    kept'.tally k + thing.toList.count k = kept.tally k + thing'.toList.count k := by
  rcases h with ⟨rfl, rfl⟩ | ⟨k', rfl, rfl, hk', rfl⟩
  · rfl
  · have hlost := tally_erase hk' k
    rw [Option.toList_some, Option.toList_none, List.count_nil]
    omega

/-- What is left in the map is as it was. -/
theorem get?_of_contains (h : Dropped kept kept' thing thing') {k : κ}
    (hk : kept'.contains k = true) : kept'.get? k = kept.get? k := by
  rcases h with ⟨_, rfl⟩ | ⟨k', _, _, _, rfl⟩
  · rfl
  · rw [contains_erase, Bool.and_eq_true, Bool.not_eq_true', decide_eq_false_iff_not] at hk
    rw [get?_erase, if_neg hk.1]

theorem contains_of_contains (h : Dropped kept kept' thing thing') {k : κ}
    (hk : kept'.contains k = true) : kept.contains k = true := by
  unfold contains at hk ⊢
  rw [← h.get?_of_contains hk]
  exact hk

/-- What is gone from the owner is gone from the map. -/
theorem not_contains (h : Dropped kept kept' thing none) {k : κ} (hk : thing = some k) :
    kept'.contains k = false := by
  rcases h with ⟨hthing, _⟩ | ⟨k', hthing, _, _, rfl⟩
  · rw [hk] at hthing
    cases hthing
  · rw [hk] at hthing
    cases hthing
    rw [contains_erase]
    simp

end Assoc.Dropped

/-- An unload in progress: what has become of the module and of the simulator. -/
structure Unloading (w₀ : World (Watched Simulator)) (m₀ : LoadedModule)
    (p : UnloadProgress (Watched Simulator)) : Prop where
  module : p.module.pristine = m₀.pristine
  executables : Assoc.Dropped w₀.accelerator.inner.executables p.world.accelerator.inner.executables
    m₀.executable? p.module.executable?
  codeObjects : Assoc.Dropped w₀.accelerator.inner.codeObjects p.world.accelerator.inner.codeObjects
    m₀.codeObject? p.module.codeObject?
  allocations : Assoc.Dropped w₀.accelerator.inner.allocations p.world.accelerator.inner.allocations
    m₀.allocation? p.module.allocation?
  /-- The executable goes first. -/
  ordered : p.module.executable? = none ∨
    p.module.codeObject? = m₀.codeObject? ∧ p.module.allocation? = m₀.allocation?
  /-- Nothing else changes but histories, and no tie is noted. -/
  readers : p.world.accelerator.inner.readers = w₀.accelerator.inner.readers
  pinned : p.world.accelerator.inner.pinned = w₀.accelerator.inner.pinned
  bystanders : p.world.accelerator.inner.bystanders = w₀.accelerator.inner.bystanders
  ties : p.world.accelerator.ties = w₀.accelerator.ties
  loader : p.world.loader = w₀.loader

namespace Unloading

variable {w₀ : World (Watched Simulator)} {m₀ : LoadedModule}
  {p : UnloadProgress (Watched Simulator)} {β : Type}

theorem start (w : World (Watched Simulator)) (m : LoadedModule) : Unloading w m ⟨m, w⟩ where
  module := rfl
  executables := .refl
  codeObjects := .refl
  allocations := .refl
  ordered := .inr ⟨rfl, rfl⟩
  readers := rfl
  pinned := rfl
  bystanders := rfl
  ties := rfl
  loader := rfl

/-- An unload whose simulator has gone on. -/
def after (p : UnloadProgress (Watched Simulator)) (s : Simulator) :
    UnloadProgress (Watched Simulator) :=
  { p with world := { p.world with accelerator := { p.world.accelerator with inner := s } } }

/-- An unload that has noted a release. -/
def noted (p : UnloadProgress (Watched Simulator)) (note : Released → Released) :
    UnloadProgress (Watched Simulator) :=
  { p with module := { p.module with released := note p.module.released } }

theorem histories (h : Unloading w₀ m₀ p) (journal : List JournalEntry) (loads : Nat) :
    Unloading w₀ m₀ (after p { p.world.accelerator.inner with journal, loads }) :=
  { h with }

/-- The executable has left, and the module says so. -/
theorem dropExecutable (h : Unloading w₀ m₀ p) (hkept : ¬ p.module.released.executable = true)
    (hthere : p.world.accelerator.inner.executables.contains p.module.executable = true)
    (journal : List JournalEntry) (loads : Nat) :
    Unloading w₀ m₀ (after (noted p ({ · with executable := true }))
      { p.world.accelerator.inner with
        executables := p.world.accelerator.inner.executables.erase p.module.executable
        journal, loads }) := by
  have hdropped := h.executables
  rw [LoadedModule.executable?_of_not hkept] at hdropped
  exact { h with
    executables := hdropped.drop hthere
    ordered := .inl rfl }

/-- The code object has left. The executable had left before. -/
theorem dropCodeObject (h : Unloading w₀ m₀ p) {d : DeviceImage}
    (hd : p.module.deviceImage = some d) (hgone : p.module.executable? = none)
    (hkept : ¬ p.module.released.codeObject = true)
    (hthere : p.world.accelerator.inner.codeObjects.contains d.codeObject = true)
    (journal : List JournalEntry) (loads : Nat) :
    Unloading w₀ m₀ (after (noted p ({ · with codeObject := true }))
      { p.world.accelerator.inner with
        codeObjects := p.world.accelerator.inner.codeObjects.erase d.codeObject
        journal, loads }) := by
  have hdropped := h.codeObjects
  rw [LoadedModule.codeObject?_of_not hkept hd] at hdropped
  exact { h with
    codeObjects := hdropped.drop hthere
    ordered := .inl hgone }

/-- The device image has left. The executable had left before. -/
theorem dropDeviceImage (h : Unloading w₀ m₀ p) {d : DeviceImage}
    (hd : p.module.deviceImage = some d) (hgone : p.module.executable? = none)
    (hkept : ¬ p.module.released.deviceImage = true)
    (hthere : p.world.accelerator.inner.allocations.contains d.address = true)
    (journal : List JournalEntry) (loads : Nat) :
    Unloading w₀ m₀ (after (noted p ({ · with deviceImage := true }))
      { p.world.accelerator.inner with
        allocations := p.world.accelerator.inner.allocations.erase d.address
        journal, loads }) := by
  have hdropped := h.allocations
  rw [LoadedModule.allocation?_of_not hkept hd] at hdropped
  exact { h with
    allocations := hdropped.drop hthere
    ordered := .inl hgone }

/-- Forgetting the functions is no release. -/
theorem forget (h : Unloading w₀ m₀ p) :
    Unloading w₀ m₀ { p with module := { p.module with functions := [] } } :=
  { h with }

/-- Unloads do not change what a module was made from. -/
theorem deviceImage_eq (h : Unloading w₀ m₀ p) : p.module.deviceImage = m₀.deviceImage :=
  congrArg (·.deviceImage) h.module

/-- A call of the simulator, by what it answers. -/
theorem called_leads {P : UnloadProgress (Watched Simulator) → Prop}
    {Q : β → UnloadProgress (Watched Simulator) → Prop}
    {E : UnloadProgress (Watched Simulator) → Prop} {call : Simulator → Reply Simulator β}
    (h : ∀ p, P p → Ends (fun b s => Q b (after p s)) (fun s => E (after p s))
      (call p.world.accelerator.inner)) :
    Leads P (UnloadStep.call (Watched.pass call fun _ => {})) Q E := by
  intro p hp
  have hends := h p hp
  unfold UnloadStep.call
  rcases hcall : call p.world.accelerator.inner with ⟨e | b, s⟩
  · rw [hcall] at hends
    rw [World.run_call (Watched.pass_error hcall)]
    exact hends
  · rw [hcall] at hends
    rw [World.run_call (Watched.pass_ok hcall), Ties.add_nil]
    exact hends

/-- Release something and note it. -/
theorem release_leads {P Q : UnloadProgress (Watched Simulator) → Prop}
    {release : Simulator → Reply Simulator Unit} {note : Released → Released}
    (h : ∀ p, P p → Ends
      (fun _ s => Q (after (noted p note) s))
      (fun s => Unloading w₀ m₀ (after p s)) (release p.world.accelerator.inner)) :
    Leads P (UnloadStep.call (Watched.pass release fun _ => {}) >>= fun _ => UnloadStep.note note)
      (fun _ => Q) (Unloading w₀ m₀) :=
  (called_leads h).bind fun _ _ hp => hp

end Unloading

namespace Loader

variable {settings : LoaderSettings} {hooks : LaunchHooks} {w₀ : World (Watched Simulator)}
  {m₀ : LoadedModule}

open Unloading

theorem synchronize_leads (agent : AgentHandle) :
    Leads (Unloading w₀ m₀)
      (UnloadStep.call ((Simulator.watchedLoader settings hooks).accelerator.synchronize agent))
      (fun _ => Unloading w₀ m₀) (Unloading w₀ m₀) := by
  refine called_leads fun p hp => ?_
  obtain ⟨journal, loads, hs⟩ := p.world.accelerator.inner.synchronize_state agent
  show Ends _ _ (p.world.accelerator.inner.synchronize agent)
  rcases hcall : p.world.accelerator.inner.synchronize agent with ⟨_ | _, s⟩
  all_goals
    rw [hcall] at hs
    cases hs
    exact hp.histories journal loads

theorem releaseExecutable_leads :
    Leads (Unloading w₀ m₀) (Simulator.watchedLoader settings hooks).releaseExecutable
      (fun _ p => Unloading w₀ m₀ p ∧ p.module.executable? = none) (Unloading w₀ m₀) := by
  refine Leads.get_bind fun p hp => ?_
  -- an earlier attempt may have come this far already
  by_cases hreleased : p.module.released.executable = true
  · rw [if_pos hreleased]
    exact ⟨hp, LoadedModule.executable?_of_released hreleased⟩
  · rw [if_neg hreleased]
    have hsome := LoadedModule.executable?_of_not hreleased
    refine release_leads (P := fun q => q = p)
      (Q := fun q => Unloading w₀ m₀ q ∧ q.module.executable? = none) (fun q hq => ?_) p rfl
    subst hq
    rcases q.world.accelerator.inner.destroyExecutable_cases q.module.executable with
      ⟨_, hfails⟩ | ⟨_, hthere, hok⟩
    · exact .of_fails hfails fun journal loads => hp.histories journal loads
    · exact .of_succeeds hok fun journal loads =>
        ⟨hp.dropExecutable hreleased hthere journal loads, rfl⟩

/-- A module loaded from memory whose executable has left. -/
def Imaged (w₀ : World (Watched Simulator)) (m₀ : LoadedModule) (d : DeviceImage)
    (p : UnloadProgress (Watched Simulator)) : Prop :=
  Unloading w₀ m₀ p ∧ p.module.deviceImage = some d ∧ p.module.executable? = none

theorem releaseCodeObject_leads (d : DeviceImage) :
    Leads (Imaged w₀ m₀ d) ((Simulator.watchedLoader settings hooks).releaseCodeObject d)
      (fun _ p => Imaged w₀ m₀ d p ∧ p.module.codeObject? = none) (Unloading w₀ m₀) := by
  refine Leads.get_bind fun p hp => ?_
  obtain ⟨hu, hd, hgone⟩ := hp
  by_cases hreleased : p.module.released.codeObject = true
  · rw [if_pos hreleased]
    exact ⟨⟨hu, hd, hgone⟩, LoadedModule.codeObject?_of_released hreleased⟩
  · rw [if_neg hreleased]
    refine release_leads (P := fun q => q = p)
      (Q := fun q => Imaged w₀ m₀ d q ∧ q.module.codeObject? = none) (fun q hq => ?_) p rfl
    subst hq
    rcases q.world.accelerator.inner.destroyCodeObject_cases d.codeObject with
      ⟨_, hfails⟩ | ⟨hthere, hok⟩
    · exact .of_fails hfails fun journal loads => hu.histories journal loads
    · exact .of_succeeds hok fun journal loads =>
        ⟨⟨hu.dropCodeObject hd hgone hreleased hthere journal loads, hd, hgone⟩, rfl⟩

/-- The last thing to go leaves nothing to answer for. -/
theorem releaseDeviceImage_leads (d : DeviceImage) :
    Leads (fun p => Imaged w₀ m₀ d p ∧ p.module.codeObject? = none)
      ((Simulator.watchedLoader settings hooks).releaseDeviceImage d)
      (fun _ p => Unloading w₀ m₀ p ∧ p.module.Spent) (Unloading w₀ m₀) := by
  refine Leads.get_bind fun p hp => ?_
  obtain ⟨⟨hu, hd, hgone⟩, hcode⟩ := hp
  by_cases hreleased : p.module.released.deviceImage = true
  · rw [if_pos hreleased]
    exact ⟨hu, hgone, hcode, LoadedModule.allocation?_of_released hreleased⟩
  · rw [if_neg hreleased]
    refine release_leads (P := fun q => q = p)
      (Q := fun q => Unloading w₀ m₀ q ∧ q.module.Spent) (fun q hq => ?_) p rfl
    subst hq
    rcases q.world.accelerator.inner.free_cases d.address with ⟨_, hfails⟩ | ⟨_, hthere, hok⟩
    · exact .of_fails hfails fun journal loads => hu.histories journal loads
    · exact .of_succeeds hok fun journal loads =>
        ⟨hu.dropDeviceImage hd hgone hreleased hthere journal loads, hgone, hcode, rfl⟩

/-- All steps together leave a module that answers for nothing. -/
theorem releaseSteps_leads (settings : LoaderSettings) (hooks : LaunchHooks) :
    Leads (Unloading w₀ m₀) (Simulator.watchedLoader settings hooks).releaseSteps
      (fun _ p => Unloading w₀ m₀ p ∧ p.module.Spent) (Unloading w₀ m₀) := by
  refine Leads.get_bind fun p hp => ?_
  refine ((synchronize_leads p.module.agent).bind fun _ => ?_) p hp
  refine releaseExecutable_leads.bind fun _ => ?_
  -- forgetting the functions touches nothing that anybody answers for
  refine Leads.bind (Q := fun _ q => Unloading w₀ m₀ q ∧ q.module.executable? = none)
    (fun q hq => ⟨hq.1.forget, hq.2⟩) fun functions => ?_
  have himage := hp.deviceImage_eq
  cases hd : p.module.deviceImage with
  | none =>
    -- a module from a file has a reader, and that stays with the registry
    refine Leads.pure fun q hq => ⟨hq.1, ?_⟩
    have hnone : q.module.deviceImage = none := by rw [hq.1.deviceImage_eq, ← himage, hd]
    exact ⟨hq.2, LoadedModule.codeObject?_of_file hnone, LoadedModule.allocation?_of_file hnone⟩
  | some d =>
    intro q hq
    have himaged : Imaged w₀ m₀ d q := ⟨hq.1, by rw [hq.1.deviceImage_eq, ← himage, hd], hq.2⟩
    refine ((releaseCodeObject_leads d).bind fun _ => ?_) q himaged
    exact (releaseDeviceImage_leads d).bind fun _ => Leads.pure fun q hq => hq

/-- **How an unload ends**: everything of the module has left, and it is no longer live; or some of
it has left, and the module that comes back says what. -/
theorem unload_cases (settings : LoaderSettings) (hooks : LaunchHooks)
    (m : LoadedModule) (w : World (Watched Simulator)) :
    (∃ p log, Unloading w m p ∧ p.module.Spent ∧
        (Simulator.watchedLoader settings hooks).unload m w = (.ok (), { p.world with
          log
          loader := { w.loader with residency := w.loader.residency.release m.id } })) ∨
      ∃ p cause log, Unloading w m p ∧
        (Simulator.watchedLoader settings hooks).unload m w =
          (.error ⟨p.module, cause⟩, { p.world with log }) := by
  have hsteps := releaseSteps_leads settings hooks _ (Unloading.start w m)
  unfold unload
  rcases hrun : (Simulator.watchedLoader settings hooks).releaseSteps ⟨m, w⟩ with ⟨e | functions, p⟩
  · rw [hrun] at hsteps
    exact .inr ⟨p, .callFailed e, p.world.log ++ [.unloadStopped m.id e], hsteps, rfl⟩
  · rw [hrun] at hsteps
    obtain ⟨hu, hspent⟩ := hsteps
    refine .inl ⟨p, p.world.log ++ [.moduleUnloaded m.id functions], hu, hspent, ?_⟩
    rw [← hu.loader]
    rfl

end Loader

end DeviceCode

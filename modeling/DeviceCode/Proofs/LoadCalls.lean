import DeviceCode.Proofs.Carrying
import DeviceCode.Proofs.LoadOutcome
import DeviceCode.Proofs.UnloadCalls

/-!
# The calls of a load

The steps of a load once more, with an eye on what they call. Each of them leads from one stage of
its executable to the next, or to a load that is `Doomed`; and the roll back of one that is gives
back everything that it holds (`Loader.rollBack_carrying`).

`Loader.loadFrom_calls` says what all of it amounts to, for every source: the calls go on lawfully,
and either a module holds what they got, with its executable frozen, or nothing is held.
-/

namespace DeviceCode

variable {α : Type} {H : List Call} {held held' : Holdings}

/-! ## Single calls -/

section Calls

open Simulator

variable {s : Chronicled Simulator}

/-- A call that is written down only when it hands something out. -/
theorem Ends.granted {Q : α → Chronicled Simulator → Prop} {E : Chronicled Simulator → Prop}
    {call : Simulator → Reply Simulator α} {entry : α → JournalEntry}
    (hsound : (call s.inner).2.Sound)
    (hrec : s.inner.Recorded (Chronicled.listed? (Chronicled.granted entry) (call s.inner).1)
      (call s.inner).2)
    (hok : ∀ a t, t.Sound → s.inner.Recorded (some (entry a, true)) t →
      Q a ⟨t, s.calls ++ [(entry a, true)]⟩)
    (herror : ∀ t, t.Sound → s.inner.Recorded none t → E ⟨t, s.calls⟩) :
    Ends Q E (Chronicled.pass call (Chronicled.granted entry) s) :=
  .written hsound hrec hok fun _ t hs hr => (List.append_nil s.calls).symm ▸ herror t hs hr

theorem Opening.lockMemory (h : Opening H held s) (g : AgentHandle) (x : UInt64) (n : Nat) :
    Ends (fun _ => Opening H held) (Opening H held)
      (accelerator.chronicle.lockMemory g x n s) :=
  .written (h.sound.lockMemory g x n) (lockMemory_recorded ..)
    (fun _ _ hs hr => h.bystander hs hr rfl rfl) fun _ _ hs hr => h.bystander hs hr rfl rfl

theorem Opening.unlockMemory (h : Opening H held s) (x : UInt64) :
    Ends (fun _ => Opening H held) (Opening H held) (accelerator.chronicle.unlockMemory x s) :=
  .written (h.sound.unlockMemory x) (unlockMemory_recorded ..)
    (fun _ _ hs hr => h.bystander hs hr rfl rfl) fun _ _ hs hr => h.bystander hs hr rfl rfl

theorem Opening.writeMemory (h : Opening H held s) (x : Nat) (bs : Bytes) :
    Ends (fun _ => Opening H held) (Opening H held) (accelerator.chronicle.writeMemory x bs s) :=
  .written (h.sound.writeMemory x bs) (writeMemory_recorded ..)
    (fun _ _ hs hr => h.bystander hs hr rfl rfl) fun _ _ hs hr => h.bystander hs hr rfl rfl

theorem Opening.findRegion (h : Opening H held s) (g : AgentHandle) :
    Ends (fun _ => Opening H held) (Opening H held) (accelerator.chronicle.findRegion g s) := by
  refine .written ?_ (findRegion_recorded ..) (fun _ _ hs hr => ?_) fun _ _ hs hr => ?_
  · exact h.sound.called (.findRegion g)
  all_goals
    rw [show Chronicled.listed? Chronicled.never _ = none from rfl, Option.toList_none,
      List.append_nil]
    exact h.unwritten hs hr

theorem Opening.defineGlobal (h : Opening H held s) {e : ExecutableHandle}
    (he : held.executable = some e) (name : String) (x : UInt64) :
    Ends (fun _ => Opening H held) (Opening H held)
      (accelerator.chronicle.defineGlobal e name x s) :=
  .written (h.sound.defineGlobal e name x) (defineGlobal_recorded ..)
    (fun _ _ hs hr => h.bound hs hr he) fun _ _ hs hr => h.bound hs hr he

theorem Opening.createExecutable (h : Opening H held s) :
    Ends (fun e => Opening H { held with executable := some e }) (Opening H held)
      (accelerator.chronicle.createExecutable s) :=
  .granted h.sound.createExecutable (createExecutable_recorded h.sound)
    (fun _ _ hs hr => h.created hs hr) fun _ hs hr => h.unwritten hs hr

theorem Opening.createReader (h : Opening H held s) (fs : Host.FileSystem) (path : String) :
    Ends (fun r => Opening H { held with reader := some r }) (Opening H held)
      (accelerator.chronicle.createReader fs path s) := by
  refine .granted (h.sound.createReader fs path) (createReader_recorded ..) (fun r _ hs hr => ?_)
    fun _ hs hr => h.unwritten hs hr
  refine h.acquired (k := .reader r) hs hr rfl fun k hk => ?_
  cases k with
  | reader r' => exact .inl (congrArg _ (Option.some.inj hk).symm)
  | _ => exact .inr hk

theorem Opening.allocate (h : Opening H held s) (region : RegionHandle) (size : Nat) :
    Ends (fun x => Opening H { held with allocation := some x }) (Opening H held)
      (accelerator.chronicle.allocate region size s) := by
  refine .granted (h.sound.allocate region size) (allocate_recorded ..) (fun x _ hs hr => ?_)
    fun _ hs hr => h.unwritten hs hr
  refine h.acquired (k := .allocation x) hs hr rfl fun k hk => ?_
  cases k with
  | allocation x' => exact .inl (congrArg _ (Option.some.inj hk).symm)
  | _ => exact .inr hk

theorem Opening.deserialize (h : Opening H held s) (x size : Nat) :
    Ends (fun c => Opening H { held with codeObject := some c }) (Opening H held)
      (accelerator.chronicle.deserialize x size s) := by
  refine .granted (h.sound.deserialize x size) (deserialize_recorded ..) (fun c _ hs hr => ?_)
    fun _ hs hr => h.unwritten hs hr
  refine h.acquired (k := .codeObject c) hs hr rfl fun k hk => ?_
  cases k with
  | codeObject c' => exact .inl (congrArg _ (Option.some.inj hk).symm)
  | _ => exact .inr hk

theorem Opening.loadReader (h : Opening H held s) {e : ExecutableHandle}
    (he : held.executable = some e) (g : AgentHandle) (r : ReaderHandle) :
    Ends (fun _ => Filled H held e) (Doomed H held)
      (accelerator.chronicle.loadReader e g r s) :=
  .written (h.sound.loadReader e g r) (loadReader_recorded ..)
    (fun _ _ hs hr => (h.loaded hs he rfl hr).1 rfl) fun _ _ hs hr => (h.loaded hs he rfl hr).2 rfl

theorem Opening.loadCodeObject (h : Opening H held s) {e : ExecutableHandle}
    (he : held.executable = some e) (g : AgentHandle) (c : CodeObjectHandle) :
    Ends (fun _ => Filled H held e) (Doomed H held)
      (accelerator.chronicle.loadCodeObject e g c s) :=
  .written (h.sound.loadCodeObject e g c) (loadCodeObject_recorded ..)
    (fun _ _ hs hr => (h.loaded hs he rfl hr).1 rfl) fun _ _ hs hr => (h.loaded hs he rfl hr).2 rfl

theorem Filled.call_freeze {e : ExecutableHandle} (h : Filled H held e s) :
    Ends (fun _ => Sealed H held e) (Doomed H held) (accelerator.chronicle.freeze e s) :=
  .written (h.sound.freeze e) (freeze_recorded ..) (fun _ _ hs hr => (h.freeze hs hr).1 rfl)
    fun _ _ hs hr => (h.freeze hs hr).2 rfl

/-- An attempt to give something back. -/
theorem Carrying.giveBack (h : Carrying H held s) {k : Resource}
    {release : Simulator → Reply Simulator Unit}
    (hsound : (release s.inner).2.Sound)
    (hrec : s.inner.Recorded
      (Chronicled.listed? (Chronicled.always k.gone) (release s.inner).1) (release s.inner).2)
    (hk : held.Has k) (hunfrozen : ∀ e, k = .executable e → (.freeze e, true) ∉ s.calls)
    (hheld : ∀ k', held'.Has k' → k' ≠ k ∧ held.Has k') :
    Ends (fun _ => Carrying H held') (Carrying H held')
      (Chronicled.pass release (Chronicled.always k.gone) s) :=
  .written hsound hrec (fun _ _ hs hr => h.givenBack hs hr hk hunfrozen hheld)
    fun _ _ hs hr => h.givenBack hs hr hk hunfrozen hheld

theorem Carrying.unlockMemory (h : Carrying H held s) (x : UInt64) :
    Ends (fun _ => Carrying H held) (Carrying H held) (accelerator.chronicle.unlockMemory x s) :=
  .written (h.sound.unlockMemory x) (unlockMemory_recorded ..)
    (fun _ _ hs hr => h.written hs hr trivial rfl nofun)
    fun _ _ hs hr => h.written hs hr trivial rfl nofun

end Calls

/-! ## Binding host globals -/

/-- A loader over the chronicled simulator. -/
abbrev Simulator.chronicledLoader (settings : LoaderSettings) (hooks : LaunchHooks) :
    Loader (Chronicled Simulator) :=
  (Simulator.loader settings hooks).chronicle

/-- A load whose calls have come this far, in a world. -/
def Opens (H : List Call) (held : Holdings) (w : World (Chronicled Simulator)) : Prop :=
  Opening H held w.accelerator

namespace Loader

variable (settings : LoaderSettings) (hooks : LaunchHooks) {e : ExecutableHandle}

/-- Unpinning keeps whatever a single unpin keeps. -/
theorem unpinAll_keeps {P : Chronicled Simulator → Prop}
    (hP : ∀ x s, P s → Ends (fun _ => P) P (Simulator.accelerator.chronicle.unlockMemory x s))
    (pins : List PinnedGlobal) {w : World (Chronicled Simulator)} (h : P w.accelerator) :
    P ((Simulator.chronicledLoader settings hooks).unpinAll pins w).2.accelerator := by
  induction pins generalizing w with
  | nil => exact h
  | cons pin pins ih =>
    let l := Simulator.chronicledLoader settings hooks
    have hnext : P (World.discard (l.accelerator.unlockMemory pin.hostAddress)
        (.releaseFailed "failed to unpin host global during rollback" "symbol" pin.name)
        w).2.accelerator :=
      Ends.discard (Q := fun w => P w.accelerator)
        ((hP pin.hostAddress w.accelerator h).imp (fun _ _ hs => hs) fun _ hs _ => hs)
    exact ih hnext

theorem pinGlobal_opens (host : Host.Image) (agent : AgentHandle) (name : String) :
    Leads (Opens H held) ((Simulator.chronicledLoader settings hooks).pinGlobal host agent name)
      (fun _ => Opens H held) (Opens H held) := by
  unfold pinGlobal
  cases host.lookup? name with
  | none => exact Leads.throw fun _ hw => hw
  | some g =>
    refine Leads.bind (Q := fun _ => Opens H held) (fun w hw => Ends.call ?_) fun _ =>
      Leads.pure fun _ hw => hw
    exact Opening.lockMemory hw agent g.address _

theorem defineGlobal_opens (he : held.executable = some e) (pin : PinnedGlobal) :
    Leads (Opens H held) ((Simulator.chronicledLoader settings hooks).defineGlobal e pin)
      (fun _ => Opens H held) (Opens H held) := by
  refine Leads.bind (Q := fun _ => Opens H held) (fun w hw => Ends.call ?_) fun _ _ hw => hw
  exact Opening.defineGlobal hw he pin.name pin.deviceAddress

theorem bindUntilFailure_opens (he : held.executable = some e) (host : Host.Image)
    (agent : AgentHandle) (names : List String) (pins : List PinnedGlobal)
    {w : World (Chronicled Simulator)} (h : Opens H held w) :
    ∃ r w', (Simulator.chronicledLoader settings hooks).bindUntilFailure host agent e pins names w =
      (r, w') ∧ Opens H held w' := by
  induction names generalizing pins w with
  | nil => exact ⟨_, _, rfl, h⟩
  | cons name names ih =>
    -- the name is pinned and then bound, and the loop goes on only when both succeed
    have hpin := pinGlobal_opens settings hooks host agent name w h
    rcases hrun : (Simulator.chronicledLoader settings hooks).pinGlobal host agent name w with
      ⟨err | pin, w₁⟩
    · rw [hrun] at hpin
      exact ⟨_, _, run_bind_of hrun _, hpin⟩
    · rw [hrun] at hpin
      have hdefine := defineGlobal_opens settings hooks he pin w₁ hpin
      rcases hrun' : (Simulator.chronicledLoader settings hooks).defineGlobal e pin w₁ with
        ⟨err | _, w₂⟩
      · rw [hrun'] at hdefine
        exact ⟨_, _, (run_bind_of hrun _).trans (run_bind_of hrun' _), hdefine⟩
      · rw [hrun'] at hdefine
        obtain ⟨r, w', hloop, hw'⟩ := ih (pins ++ [pin]) hdefine
        exact ⟨r, w', (run_bind_of hrun _).trans ((run_bind_of hrun' _).trans hloop), hw'⟩

theorem bindGlobals_opens (he : held.executable = some e) (host : Host.Image)
    (agent : AgentHandle) (names : List String) :
    Leads (Opens H held)
      ((Simulator.chronicledLoader settings hooks).bindGlobals host agent e names)
      (fun _ => Opens H held) (Opens H held) := by
  intro w hw
  obtain ⟨⟨pins, err⟩, w₁, hrun, hbound⟩ :=
    bindUntilFailure_opens settings hooks he host agent names [] hw
  unfold bindGlobals
  rw [run_lift_bind, hrun]
  cases err with
  | none => exact hbound
  | some err =>
    exact unpinAll_keeps settings hooks (fun x s hs => Opening.unlockMemory hs x) pins hbound

theorem hostImage_opens :
    Leads (Opens H held) (Simulator.chronicledLoader settings hooks).hostImage
      (fun _ => Opens H held) (Opens H held) := by
  refine Leads.get_bind fun w hw => ?_
  cases w.loader.hostImage with
  | some image => exact hw
  | none =>
    rcases Host.Image.load w.host (Simulator.chronicledLoader settings hooks).settings with _ | _
    · exact hw
    · exact hw

/-! ## The steps of a load -/

/-- A load in progress that has come this far. What it notes as held may have pins besides. -/
structure At (H : List Call) (held : Holdings) (p : LoadProgress (Chronicled Simulator)) :
    Prop where
  opening : Opening H held p.world.accelerator
  noted : p.held = { held with pins := p.held.pins }

/-- A load in progress that will be rolled back. -/
def Failing (H : List Call) (p : LoadProgress (Chronicled Simulator)) : Prop :=
  Doomed H p.held p.world.accelerator

theorem Failing.of_doomed {p : LoadProgress (Chronicled Simulator)}
    (h : Doomed H held p.world.accelerator) (hnoted : p.held = { held with pins := p.held.pins }) :
    Failing H p := by
  unfold Failing
  rw [hnoted]
  exact { h.toCarrying.of_has fun k hk => by cases k <;> exact hk with unfrozen := h.unfrozen }

theorem At.failing {p : LoadProgress (Chronicled Simulator)} (h : At H held p) : Failing H p :=
  .of_doomed h.opening.doomed h.noted

theorem attempt_at {x : Attempt (Chronicled Simulator) α}
    (h : Leads (Opens H held) x (fun _ => Opens H held) (Opens H held)) :
    Leads (At H held) (LoadStep.attempt x) (fun _ => At H held) (Failing H) :=
  Leads.attempt fun p hp => (h p.world hp.opening).imp (fun _ _ hw => ⟨hw, hp.noted⟩)
    fun _ hw => At.failing ⟨hw, hp.noted⟩

/-- A call that hands nothing out. -/
theorem call_at {cause : CallError → LoadError}
    {call : Chronicled Simulator → Reply (Chronicled Simulator) α}
    (h : ∀ s, Opening H held s → Ends (fun _ => Opening H held) (Opening H held) (call s)) :
    Leads (At H held) (LoadStep.call cause call) (fun _ => At H held) (Failing H) :=
  attempt_at fun w hw => Ends.call (h w.accelerator hw)

/-- A call that hands something out, which is noted as held. -/
theorem acquire_at {β : Type} {cause : CallError → LoadError}
    {call : Chronicled Simulator → Reply (Chronicled Simulator) α}
    (hold : α → Holdings → Holdings) {rest : α → LoadStep (Chronicled Simulator) β}
    {Q : β → LoadProgress (Chronicled Simulator) → Prop}
    (hcall : ∀ s, Opening H held s →
      Ends (fun a => Opening H (hold a held)) (Opening H held) (call s))
    (hpins : ∀ a pins, hold a { held with pins } = { hold a held with pins })
    (hrest : ∀ a, Leads (At H (hold a held)) (rest a) Q (Failing H)) :
    Leads (At H held)
      (LoadStep.call cause call >>= fun a => LoadStep.hold (hold a) >>= fun _ => rest a) Q
      (Failing H) := by
  refine Leads.bind (Q := fun a p => Opening H (hold a held) p.world.accelerator ∧
    p.held = { held with pins := p.held.pins }) (Leads.call fun p hp => ?_) fun a => ?_
  · exact (hcall _ hp.opening).imp (fun _ _ hs => ⟨hs, hp.noted⟩)
      fun _ hs => At.failing ⟨hs, hp.noted⟩
  · refine Leads.bind (Leads.hold fun p hp => ?_) fun _ => hrest a
    have hnoted : hold a p.held = { hold a held with pins := p.held.pins } := by
      rw [← hpins a p.held.pins, ← hp.2]
    exact ⟨hp.1, by rw [hnoted]⟩

theorem newExecutable_at :
    Leads (At H held) (Simulator.chronicledLoader settings hooks).newExecutable
      (fun e => At H { held with executable := some e }) (Failing H) :=
  acquire_at (fun e held => { held with executable := some e })
    (fun _ hs => hs.createExecutable) (fun _ _ => rfl) fun _ => Leads.pure fun _ hp => hp

theorem bindUndefined_at (he : held.executable = some e) (agent : AgentHandle)
    (undefined : List String) :
    Leads (At H held)
      ((Simulator.chronicledLoader settings hooks).bindUndefined agent e undefined)
      (fun _ => At H held) (Failing H) := by
  unfold bindUndefined
  split
  · exact Leads.pure fun _ hp => hp
  · refine (attempt_at (hostImage_opens settings hooks)).bind fun host => ?_
    refine (attempt_at (bindGlobals_opens settings hooks he host agent undefined)).bind fun pins =>
      Leads.hold fun p hp => ⟨hp.opening, ?_⟩
    rw [hp.noted]

/-- Code is loaded into an executable that is ready for it, which then is frozen. -/
theorem finish_at {cause cause' : CallError → LoadError}
    {load : Chronicled Simulator → Reply (Chronicled Simulator) Unit}
    (hload : ∀ s, Opening H held s → Ends (fun _ => Filled H held e) (Doomed H held) (load s))
    (a : α) :
    Leads (At H held)
      (LoadStep.call cause load >>= fun _ =>
        LoadStep.call cause' ((Simulator.chronicledLoader settings hooks).accelerator.freeze e) >>=
          fun _ => pure a)
      (fun b p => b = a ∧ Sealed H held e p.world.accelerator ∧
        p.held = { held with pins := p.held.pins }) (Failing H) := by
  refine Leads.bind (Q := fun _ p => Filled H held e p.world.accelerator ∧
    p.held = { held with pins := p.held.pins }) (Leads.call fun p hp => ?_) fun _ => ?_
  · exact (hload _ hp.opening).imp (fun _ _ hs => ⟨hs, hp.noted⟩)
      fun _ hs => .of_doomed hs hp.noted
  · refine Leads.bind (Q := fun _ p => Sealed H held e p.world.accelerator ∧
      p.held = { held with pins := p.held.pins }) (Leads.call fun p hp => ?_) fun _ =>
        Leads.pure fun _ hp => ⟨rfl, hp⟩
    exact hp.1.call_freeze.imp (fun _ _ hs => ⟨hs, hp.2⟩) fun _ hs => .of_doomed hs hp.2

/-- A complete load, with the executable and, from memory, the image that it has made. -/
def Complete (H : List Call) (e : ExecutableHandle) (image : Option DeviceImage)
    (p : LoadProgress (Chronicled Simulator)) : Prop :=
  Sealed H p.held e p.world.accelerator ∧ p.held.codeObject = image.map (·.codeObject) ∧
    p.held.allocation = image.map (·.address)

theorem complete_of {image : Option DeviceImage} {p : LoadProgress (Chronicled Simulator)}
    (h : Sealed H held e p.world.accelerator) (hnoted : p.held = { held with pins := p.held.pins })
    (hc : held.codeObject = image.map (·.codeObject))
    (hx : held.allocation = image.map (·.address)) : Complete H e image p := by
  unfold Complete
  rw [hnoted]
  refine ⟨{ h.toCarrying.of_has fun k hk => by cases k <;> exact hk with
    executable := h.executable, frozen := h.frozen }, hc, hx⟩

theorem loadFileSteps_at (agent : AgentHandle) (path : String) (undefined : List String) :
    Leads (At H {})
      ((Simulator.chronicledLoader settings hooks).loadFileSteps agent path undefined)
      (fun e => Complete H e none) (Failing H) := by
  refine (newExecutable_at settings hooks).bind fun e => ?_
  refine (bindUndefined_at settings hooks rfl agent undefined).bind fun _ => ?_
  refine Leads.get_bind fun p hp => ?_
  refine acquire_at (fun r held => { held with reader := some r })
    (fun _ hs => hs.createReader p.world.host.files path) (fun _ _ => rfl) (fun r => ?_) p hp
  intro q hq
  refine (finish_at settings hooks (fun _ hs => hs.loadReader rfl agent r) e q hq).imp ?_
    fun _ hf => hf
  rintro b q' ⟨rfl, hsealed, hnoted⟩
  exact complete_of hsealed hnoted rfl rfl

theorem imageRegion_at (agent : AgentHandle) :
    Leads (At H held) ((Simulator.chronicledLoader settings hooks).imageRegion agent)
      (fun _ => At H held) (Failing H) := by
  refine (call_at fun _ hs => hs.findRegion agent).bind fun found => ?_
  cases found with
  | none => exact Leads.throw fun _ hp => hp.failing
  | some region => exact Leads.pure fun _ hp => hp

theorem loadImageSteps_at (agent : AgentHandle) (image : Bytes) (undefined : List String) :
    Leads (At H {})
      ((Simulator.chronicledLoader settings hooks).loadImageSteps agent image undefined)
      (fun r => Complete H r.1 (some r.2)) (Failing H) := by
  refine (imageRegion_at settings hooks agent).bind fun region => ?_
  refine acquire_at (fun x held => { held with allocation := some x })
    (fun _ hs => hs.allocate region image.length) (fun _ _ => rfl) fun x => ?_
  refine (call_at fun _ hs => hs.writeMemory x image).bind fun _ => ?_
  refine acquire_at (fun c held => { held with codeObject := some c })
    (fun _ hs => hs.deserialize x image.length) (fun _ _ => rfl) fun c => ?_
  refine (newExecutable_at settings hooks).bind fun e => ?_
  refine (bindUndefined_at settings hooks rfl agent undefined).bind fun _ => ?_
  intro q hq
  refine (finish_at settings hooks (fun _ hs => hs.loadCodeObject rfl agent c) _ q hq).imp ?_
    fun _ hf => hf
  rintro b q' ⟨rfl, hsealed, hnoted⟩
  exact complete_of hsealed hnoted rfl rfl

/-! ## Rolling back -/

section RollBack

open Simulator

variable {settings hooks} {w : World (Chronicled Simulator)}

/-- Giving back one thing, by what the release does. -/
theorem giveBack_carrying {κ : Type} (held' : Holdings) (thing : Option κ)
    (release : κ → Chronicled Simulator → Reply (Chronicled Simulator) Unit)
    (message what : String) (label : κ → String) (h : Carrying H held w.accelerator)
    (hnone : ∀ k, thing = none → held'.Has k → held.Has k)
    (hsome : ∀ x, thing = some x →
      Ends (fun _ => Carrying H held') (Carrying H held') (release x w.accelerator)) :
    Carrying H held' (giveBack thing release message what label w).2.accelerator := by
  cases thing with
  | none => exact h.of_has fun k hk => hnone k rfl hk
  | some x =>
    exact Ends.discard (Q := fun w => Carrying H held' w.accelerator)
      ((hsome x rfl).imp (fun _ _ hs => hs) fun _ hs _ => hs)

/-- **A roll back gives back what the load got**, and no executable that is frozen. -/
theorem rollBack_carrying (h : Doomed H held w.accelerator) :
    Carrying H {} ((chronicledLoader settings hooks).rollBack held w).2.accelerator := by
  -- the executable goes first, and as the load is doomed it is not frozen
  have h1 := giveBack_carrying { held with executable := none }
    held.executable Simulator.accelerator.chronicle.destroyExecutable
    "rollback: failed to destroy executable" "executable" (·.label) h.toCarrying
    (fun k _ hk => by cases k <;> first | exact hk | cases hk)
    (fun e he => h.toCarrying.giveBack (k := .executable e) (h.sound.destroyExecutable e)
      (destroyExecutable_recorded ..) he (fun e' he' => by cases he'; exact h.unfrozen e he)
      fun k hk => by cases k <;> first | exact ⟨by simp, hk⟩ | cases hk)
  -- whether that succeeds or not, all the rest is given back after it
  have h2 := giveBack_carrying { held with executable := none, codeObject := none }
    held.codeObject Simulator.accelerator.chronicle.destroyCodeObject
    "rollback: failed to destroy code object" "code_object" (·.label) h1
    (fun k _ hk => by cases k <;> first | exact hk | cases hk)
    (fun c hc => h1.giveBack (k := .codeObject c) (h1.sound.destroyCodeObject c)
      (destroyCodeObject_recorded ..) hc nofun
      fun k hk => by cases k <;> first | exact ⟨by simp, hk⟩ | cases hk)
  have h3 := giveBack_carrying
    { held with executable := none, codeObject := none, allocation := none }
    held.allocation Simulator.accelerator.chronicle.free
    "rollback: failed to free device image" "address" toString h2
    (fun k _ hk => by cases k <;> first | exact hk | cases hk)
    (fun x hx => h2.giveBack (k := .allocation x) (h2.sound.free x) (free_recorded ..) hx nofun
      fun k hk => by cases k <;> first | exact ⟨by simp, hk⟩ | cases hk)
  have h4 := giveBack_carrying {}
    held.reader Simulator.accelerator.chronicle.destroyReader
    "rollback: failed to destroy reader" "reader" (·.label) h3
    (fun k _ hk => by cases k <;> cases hk)
    (fun r hr => h3.giveBack (k := .reader r) (h3.sound.destroyReader r)
      (destroyReader_recorded ..) hr nofun fun k hk => by cases k <;> cases hk)
  have h5 := unpinAll_keeps settings hooks (fun x s hs => Carrying.unlockMemory hs x) held.pins h4
  unfold rollBack
  by_cases hempty : held = {}
  · rw [if_pos hempty]
    exact h5
  · rw [if_neg hempty]
    exact h5

end RollBack

/-! ## Whole loads -/

/-- A new module and the calls that led to it. -/
structure Made (H : List Call) (m : LoadedModule) (s : Chronicled Simulator) : Prop where
  carrying : ∃ held, Carrying H held s ∧ ∀ k ∈ m.kept, held.Has k
  frozen : (.freeze m.executable, true) ∈ s.calls
  released : m.released = {}

/-- A load that holds nothing, in a world. -/
def Empty (H : List Call) (w : World (Chronicled Simulator)) : Prop := Carrying H {} w.accelerator

/-- What a load holds when it is complete is what its module has. -/
theorem made_of {m : LoadedModule} {s : Chronicled Simulator}
    (h : Sealed H held m.executable s) (hreleased : m.released = {})
    (hc : held.codeObject = m.deviceImage.map (·.codeObject))
    (hx : held.allocation = m.deviceImage.map (·.address)) : Made H m s := by
  refine ⟨⟨held, h.toCarrying, fun k hk => ?_⟩, h.frozen, hreleased⟩
  unfold LoadedModule.kept LoadedModule.executable? LoadedModule.codeObject?
    LoadedModule.allocation? at hk
  rw [hreleased] at hk
  rcases List.mem_append.mp hk with hk | hk
  · rw [List.mem_singleton.mp hk]
    exact h.executable
  · rcases List.mem_append.mp hk with hk | hk
    · obtain ⟨c, hmem, rfl⟩ := List.mem_map.mp hk
      exact hc.trans (Option.mem_toList.mp hmem)
    · obtain ⟨x, hmem, rfl⟩ := List.mem_map.mp hk
      exact hx.trans (Option.mem_toList.mp hmem)

theorem transaction_calls {steps : LoadStep (Chronicled Simulator) α} (e : α → ExecutableHandle)
    (image : α → Option DeviceImage)
    (hsteps : Leads (At H {}) steps (fun a => Complete H (e a) (image a)) (Failing H)) :
    Leads (Empty H) ((Simulator.chronicledLoader settings hooks).transaction steps)
      (fun r w => Sealed H r.2 (e r.1) w.accelerator ∧
        r.2.codeObject = (image r.1).map (·.codeObject) ∧
        r.2.allocation = (image r.1).map (·.address)) (Empty H) := by
  intro w hw
  have hopening : Opening H {} w.accelerator :=
    { (hw : Carrying H {} w.accelerator) with blank := nofun }
  have hrun := hsteps { world := w } ⟨hopening, rfl⟩
  unfold transaction
  rcases hsteps' : steps { world := w } with ⟨err | a, p⟩
  · rw [hsteps'] at hrun
    exact rollBack_carrying hrun
  · rw [hsteps'] at hrun
    exact hrun

theorem check_empty (r : Except LoadError α) :
    Leads (Empty H) (Attempt.ofExcept r) (fun _ => Empty H) (Empty H) := by
  cases r with
  | error e => exact fun _ hw => hw
  | ok a => exact fun _ hw => hw

theorem report_empty (e : Trace.Event) :
    Leads (Empty H) (Attempt.report e) (fun _ => Empty H) (Empty H) := fun _ hw => hw

theorem load_calls (current : Option Device) (path : String) :
    Leads (Empty H) ((Simulator.chronicledLoader settings hooks).load current path)
      (fun m w => Made H m w.accelerator) (Empty H) := by
  refine (check_empty _).bind fun device => ?_
  refine (report_empty _).bind fun _ => ?_
  refine Leads.get_bind fun w hw => ?_
  cases w.host.files.read path with
  | error fault => exact hw
  | ok bytes =>
    refine ((check_empty (.ok bytes)).bind fun image => ?_) w hw
    refine (check_empty _).bind fun undefined => ?_
    refine (transaction_calls settings hooks (fun e => e) (fun _ => none)
      (loadFileSteps_at settings hooks device.agent path undefined)).bind fun r => ?_
    exact fun w hr => made_of hr.1 rfl hr.2.1 hr.2.2

theorem loadData_calls (current : Option Device) (bytes : Bytes) :
    Leads (Empty H) ((Simulator.chronicledLoader settings hooks).loadData current bytes)
      (fun m w => Made H m w.accelerator) (Empty H) := by
  refine (check_empty _).bind fun device => ?_
  refine (report_empty _).bind fun _ => ?_
  refine (check_empty _).bind fun o => ?_
  refine (check_empty _).bind fun image => ?_
  refine (check_empty _).bind fun undefined => ?_
  refine (transaction_calls settings hooks (·.1) (fun r => some r.2)
    (loadImageSteps_at settings hooks device.agent image undefined)).bind fun r => ?_
  exact fun w hr => made_of hr.1 rfl hr.2.1 hr.2.2

/-- **The calls of a load**, whatever it loads from. -/
theorem loadFrom_calls (current : Option Device) (source : LoadSource) :
    Leads (Empty H) ((Simulator.chronicledLoader settings hooks).loadFrom current source)
      (fun m w => Made H m w.accelerator) (Empty H) := by
  cases source with
  | file path => exact load_calls settings hooks current path
  | memory bytes => exact loadData_calls settings hooks current bytes
  | memoryWith bytes options =>
    unfold loadFrom loadDataWith
    dsimp only
    split
    · exact loadData_calls settings hooks current bytes
    · exact (report_empty _).bind fun _ => loadData_calls settings hooks current bytes

end Loader

end DeviceCode

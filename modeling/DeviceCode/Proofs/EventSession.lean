import DeviceCode.Proofs.Audit
import DeviceCode.Proofs.Leases

/-!
# Programs that launch and wait

An `EventSession` is a program that launches kernels on one accelerator, keeps events, and clones
the leases that its launches gave out. `EventRequest` lists what it can do, one operation after the
other in any order, with calls of the accelerator made to fail in between. The loaders that launch
may differ in everything but the accelerator.

Who holds a completion is read off what the program itself can see (`EventSession.Holds`): the
records of attached events, and its clones.
-/

namespace DeviceCode

variable {σ : Type}

/-- What a program can ask for. Clones are meant by their place among those it has. -/
inductive EventRequest where
  | launch (settings : LoaderSettings) (hooks : LaunchHooks) (current : Option Device)
      (f : KernelFunction) (r : LaunchRequest) (args : LaunchArgs)
  | launchBlocks (settings : LoaderSettings) (hooks : LaunchHooks) (current : Option Device)
      (f : KernelFunction) (blocks block : Dim3) (dynamicShared : Nat) (queue : Option QueueHandle)
      (args : LaunchArgs)
  /-- Reset an event or drop it; a new one may take its name. -/
  | detach (event : String)
  /-- Clone the lease that an attached event holds. -/
  | cloneOf (event : String)
  | cloneAgain (index : Nat)
  | dropClone (index : Nat)
  /-- Go on with another loader, or with other layouts and modules in this one. -/
  | setLoader (state : LoaderState)
  | inject (point : FaultPoint)
  | clearFaults

/-- A loader with other settings and hooks on the same accelerator. -/
def Rig.via (rig : Rig σ) (settings : LoaderSettings) (hooks : LaunchHooks) : Loader σ :=
  { rig.loader with settings, hooks }

/-- A program that launches and waits. -/
structure EventSession (σ : Type) where
  world : World σ
  /-- The leases that it cloned. -/
  clones : List Hold := []

namespace EventSession

/-- The effect of a request on the world alone. -/
def inWorld {α : Type} (s : EventSession σ) (x : Action σ α) : EventSession σ :=
  { s with world := (x s.world).2 }

/-- One more clone of a lease that somebody holds. -/
def clone (s : EventSession σ) (x : Hold) : EventSession σ where
  world := (World.shareLease x.lease s.world).2
  clones := x :: s.clones

/-- One request. -/
def step (rig : Rig σ) (s : EventSession σ) : EventRequest → EventSession σ
  | .launch settings hooks current f r args =>
    s.inWorld ((rig.via settings hooks).launch current f r args).run
  | .launchBlocks settings hooks current f blocks block dynamicShared queue args =>
    s.inWorld ((rig.via settings hooks).launchBlocks current f blocks block dynamicShared queue
      args).run
  | .detach event => s.inWorld (rig.loader.detach event)
  | .cloneOf event => (s.world.completions.holdOf? event).elim s s.clone
  | .cloneAgain index => s.clones[index]?.elim s s.clone
  | .dropClone index =>
    s.clones[index]?.elim s fun x =>
      { s.inWorld (rig.loader.leaveLease x.lease) with clones := s.clones.eraseIdx index }
  | .setLoader state => { s with world := { s.world with loader := state } }
  | .inject point =>
    { s with world := { s.world with accelerator := rig.inject point s.world.accelerator } }
  | .clearFaults =>
    { s with world := { s.world with accelerator := rig.clearFaults s.world.accelerator } }

/-- Requests one after the other. -/
def run (rig : Rig σ) (s : EventSession σ) (requests : List EventRequest) : EventSession σ :=
  requests.foldl (step rig) s

/-- The program holds a completion: an attached event has it on record, or it has a clone of its
lease. -/
def Holds (s : EventSession σ) (c : CompletionHandle) : Prop :=
  (∃ event record, s.world.completions.record? event = some record ∧ record.completion = c) ∨
    ∃ x ∈ s.clones, x.completion = c

/-- The beginning of a program in a world in which nobody holds a completion. -/
def start (w : World Simulator) : EventSession Simulator where
  world := { w with
    accelerator := { w.accelerator with completions := [] }
    completions := {} }

/-! ## Audited sessions -/

/-- A session whose accelerator is audited from now on. -/
def audited (s : EventSession σ) : EventSession (Audited σ) where
  world := s.world.audited
  clones := s.clones

/-- A session without the audit. -/
def unaudited (s : EventSession (Audited σ)) : EventSession σ where
  world := s.world.unaudited
  clones := s.clones

variable {rig : Rig σ} {s : EventSession (Audited σ)}

theorem inWorld_unaudited {α : Type} {x : Action (Audited σ) α} {y : Action σ α}
    (h : Alike (World.Match Audited.Erases) Eq x y) (s : EventSession (Audited σ)) :
    (s.inWorld x).unaudited = s.unaudited.inWorld y := by
  have hw := (h s.world s.world.unaudited s.world.match_unaudited).2.unaudited_eq
  unfold unaudited inWorld
  rw [hw]

/-- **An audit has no effect on a request.** -/
theorem step_unaudited (rig : Rig σ) (s : EventSession (Audited σ)) (r : EventRequest) :
    (s.step rig.audit r).unaudited = s.unaudited.step rig r := by
  have hdispatch : ∀ a q p bs w, CallsAlike Audited.Erases
      (rig.audit.loader.accelerator.dispatch a q p bs w)
      (rig.loader.accelerator.dispatch a q p bs w) := fun _ _ _ _ _ => Audited.pass_erases _ _
  have hrelease : ∀ c, CallsAlike Audited.Erases
      (rig.audit.loader.accelerator.releaseCompletion c)
      (rig.loader.accelerator.releaseCompletion c) := fun _ => Audited.pass_erases _ _
  cases r with
  | launch settings hooks current f r args =>
    exact inWorld_unaudited (Loader.launch_alike (l := rig.audit.via settings hooks)
      (k := rig.via settings hooks) rfl hdispatch hrelease rfl (fun _ _ _ _ _ _ => trivial) current
      f r args).outcome s
  | launchBlocks settings hooks current f blocks block dynamicShared queue args =>
    exact inWorld_unaudited (Loader.launchBlocks_alike (l := rig.audit.via settings hooks)
      (k := rig.via settings hooks) rfl hdispatch hrelease rfl (fun _ _ _ _ _ _ => trivial) current
      f blocks block dynamicShared queue args).outcome s
  | detach event => exact inWorld_unaudited (Loader.detach_alike hrelease event) s
  | cloneOf event =>
    show ((s.world.completions.holdOf? event).elim s s.clone).unaudited =
      (s.world.completions.holdOf? event).elim s.unaudited s.unaudited.clone
    cases s.world.completions.holdOf? event <;> rfl
  | cloneAgain index =>
    show (s.clones[index]?.elim s s.clone).unaudited =
      s.clones[index]?.elim s.unaudited s.unaudited.clone
    cases s.clones[index]? <;> rfl
  | dropClone index =>
    show (s.clones[index]?.elim s _).unaudited = s.clones[index]?.elim s.unaudited _
    cases s.clones[index]? with
    | none => rfl
    | some x =>
      have h := inWorld_unaudited (Loader.leaveLease_alike hrelease x.lease) s
      exact congrArg (fun t : EventSession σ => { t with clones := s.clones.eraseIdx index }) h
  | setLoader state => rfl
  | inject point => rfl
  | clearFaults => rfl

/-- **An audit has no effect on a run.** -/
theorem run_unaudited (rig : Rig σ) (s : EventSession (Audited σ)) (rs : List EventRequest) :
    (s.run rig.audit rs).unaudited = s.unaudited.run rig rs := by
  induction rs generalizing s with
  | nil => rfl
  | cons r rs ih =>
    show ((s.step rig.audit r).run rig.audit rs).unaudited = (s.unaudited.step rig r).run rig rs
    rw [ih, step_unaudited]

end EventSession

end DeviceCode

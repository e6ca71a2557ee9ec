import DeviceCode.Proofs.Exposure
import DeviceCode.Proofs.Fleet
import DeviceCode.Proofs.Lookups

/-!
# What one operation does to the modules

A program can use several loaders and, next to them, the simulator itself: call it, set faults and
set the sizes that it reports. `Fleet.Ran` are the programs that anything of this leads to, with a
`Lookup` for every time that a loader was asked for a function.

`Session.Move` says once what a request can do to the modules that a program holds and which lookups
it makes. Everything about runs is derived from that and from what all operations of the simulator
keep (`Fleet.step_reaches`).
-/

namespace DeviceCode

variable {σ : Type}

/-! ## Operations of the simulator -/

namespace Simulator

/-- What a call or a switch of the simulator leaves behind. -/
inductive Operated (s : Simulator) : Simulator → Prop
  | called {t : Simulator} (c : Called s t) : Operated s t
  | inject (point : FaultPoint) : Operated s (s.inject point)
  | clearFaults : Operated s s.clearFaults
  | setSegmentSizes (kernel : String) (group private_ : UInt32) :
      Operated s (s.setSegmentSizes kernel group private_)
  | setArgumentSize (kernel : String) (size : UInt32) : Operated s (s.setArgumentSize kernel size)

theorem Reachable.operated {s t : Simulator} (h : s.Reachable) (o : Operated s t) :
    t.Reachable := by
  cases o with
  | called c => exact h.called c
  | inject point => exact h.inject point
  | clearFaults => exact h.clearFaults
  | setSegmentSizes kernel group private_ => exact h.setSegmentSizes kernel group private_
  | setArgumentSize kernel size => exact h.setArgumentSize kernel size

/-- What all operations keep is kept on the way from the one to the other. -/
def Reaches (s t : Simulator) : Prop :=
  ∀ P : Simulator → Prop, (∀ s t, Operated s t → P s → P t) → P s → P t

section Kept

variable {P : Simulator → Prop} (hP : ∀ s t, Operated s t → P s → P t)
include hP

/-- What all operations keep, each loader of a program keeps. -/
theorem serving_only (settings : LoaderSettings) (hooks : LaunchHooks) (m : Member) :
    Rig.Alike (Only P) ((rig settings hooks).serving m) ((rig settings hooks).serving m) where
  accelerator := accelerator_only fun s t c hs => hP s t (.called c) hs
  settings := rfl
  hooks := rfl
  inject point s t h := by
    obtain ⟨rfl, hs⟩ := h
    exact ⟨rfl, hP s _ (.inject point) hs⟩
  clearFaults s t h := by
    obtain ⟨rfl, hs⟩ := h
    exact ⟨rfl, hP s _ .clearFaults hs⟩

end Kept

end Simulator

/-! ## Lookups -/

/-- A time that a loader was asked for a function: the module as it was loaded, the name, and the
answer. -/
structure Lookup where
  module : LoadedModule
  name : String
  answer : Except LoadError KernelFunction

/-- The lookup that a request makes, if it makes one. -/
def Session.lookups (rig : Rig σ) (s : Session σ) : Request → List Lookup
  | .getFunction current index name =>
    (s.modules[index]?.map fun m =>
      { module := m.pristine, name
        answer := (rig.loader.getFunction current m name s.world).1.map (·.1) : Lookup }).toList
  | _ => []

theorem Session.lookups_getFunction (rig : Rig σ) (s : Session σ) (current : Option Device)
    (index : Nat) (name : String) :
    s.lookups rig (.getFunction current index name) = (s.modules[index]?.map fun m =>
      { module := m.pristine, name
        answer := (rig.loader.getFunction current m name s.world).1.map (·.1) : Lookup }).toList :=
  rfl

/-- The lookup that a request to one of the loaders makes. -/
def Fleet.lookups (rig : Rig σ) (f : Fleet σ) : FleetRequest → List Lookup
  | .through i r => (f.member? i).elim [] fun m => (f.entered m).lookups (rig.serving m) r
  | _ => []

namespace Loader

/-! ## Functions -/

/-- A function that a module remembers is answered by any loader in any world, and nobody is asked
for it. -/
theorem getFunction_known (l : Loader σ) {m : LoadedModule} (hlive : m.released.executable = false)
    {name : String} {f : KernelFunction} (hknown : m.known? name = some f) (device : Device)
    (w : World σ) : l.getFunction (some device) m name w = (.ok (f, m), w) := by
  unfold getFunction
  rw [run_bind_of_ok (Attempt.device_ok_iff.mpr ⟨rfl, rfl⟩)]
  have hexecutable : liveExecutable m w = (.ok m.executable, w) := by
    unfold liveExecutable
    rw [hlive]
    rfl
  rw [run_bind_of_ok hexecutable, hknown]
  rfl

end Loader

namespace Simulator

/-- What an executable answers for a function. -/
def answerOf (exe : Executable) (name : String) : Except LoadError KernelFunction :=
  (fitting exe name (·.isKernel)).map (·.toFunction name)

/-- An answer that does not contradict an executable: errors that say nothing of the name are
allowed. -/
structure Agrees (exe : Executable) (name : String) (answer : Except LoadError KernelFunction) :
    Prop where
  found : ∀ f, answer = .ok f → answerOf exe name = .ok f
  missing : ∀ n, answer = .error (.symbolNotFound n) → ∀ f, answerOf exe name ≠ .ok f

/-- What can come of a lookup of a function. -/
inductive LookedUp (s : Simulator) (m : LoadedModule) (name : String) :
    Except LoadError (KernelFunction × LoadedModule) → Prop
  /-- It fails, and if it has looked, the executable has no such function. -/
  | failed {e : LoadError} (h : (∃ n, e = .symbolNotFound n) → ∃ exe,
      s.executables.get? m.executable = some exe ∧ ∀ f, answerOf exe name ≠ .ok f) :
      LookedUp s m name (.error e)
  | known {f : KernelFunction} (hlive : m.released.executable = false)
      (h : m.known? name = some f) : LookedUp s m name (.ok (f, m))
  /-- The module learns a function from its executable. -/
  | learned {f : KernelFunction} {exe : Executable} (hlive : m.released.executable = false)
      (hnew : m.known? name = none) (hexe : s.executables.get? m.executable = some exe)
      (h : answerOf exe name = .ok f) :
      LookedUp s m name (.ok (f, { m with functions := m.functions ++ [f] }))

/-- A lookup changes nothing of the module but what it remembers. -/
theorem LookedUp.pristine {s : Simulator} {m : LoadedModule} {name : String}
    {r : Except LoadError (KernelFunction × LoadedModule)} (h : LookedUp s m name r) :
    ((r.map (·.2)).toOption.getD m).pristine = m.pristine := by
  cases h <;> rfl

end Simulator

namespace Loader

open Simulator

variable {l : Loader Simulator}

theorem findSymbol_cases (hl : l.accelerator = Simulator.accelerator) (device : Device)
    (m : LoadedModule) (name : String) (w : World Simulator) :
    (∃ e, (l.findSymbol device m name (·.isKernel) w).1 = .error e ∧ ∀ n, e ≠ .symbolNotFound n) ∨
      ∃ exe, w.accelerator.executables.get? m.executable = some exe ∧
        (l.findSymbol device m name (·.isKernel) w).1 = fitting exe name (·.isKernel) := by
  unfold findSymbol
  rw [hl]
  rcases hcall : w.accelerator.getSymbol m.executable device.agent name with ⟨e | found, t⟩
  · rw [run_bind_of_error (Attempt.run_call_error (.symbolQuery name) hcall)]
    exact .inl ⟨_, rfl, nofun⟩
  · obtain ⟨exe, hexe, rfl⟩ := getSymbol_ok hcall
    rw [run_bind_of_ok (Attempt.run_call_ok (.symbolQuery name) hcall)]
    refine .inr ⟨exe, hexe, ?_⟩
    unfold fitting
    cases (lookup exe name).filter (·.isKernel) <;> rfl

/-- **What can come of a lookup.** -/
theorem getFunction_cases (hl : l.accelerator = Simulator.accelerator) (current : Option Device)
    (m : LoadedModule) (name : String) (w : World Simulator) :
    LookedUp w.accelerator m name (l.getFunction current m name w).1 := by
  cases current with
  | none => exact .failed nofun
  | some device =>
    cases hlive : m.released.executable with
    | true =>
      rw [getFunction_gone l hlive device name w]
      exact .failed nofun
    | false =>
      cases hknown : m.known? name with
      | some f =>
        rw [getFunction_known l hlive hknown device w]
        exact .known hlive hknown
      | none =>
        unfold getFunction
        rw [run_bind_of_ok (Attempt.device_ok_iff.mpr ⟨rfl, rfl⟩),
          run_bind_of_ok (liveExecutable_of hlive w), hknown]
        dsimp only
        have hcases := findSymbol_cases hl device m name w
        rcases hfind : l.findSymbol device m name (·.isKernel) w with ⟨e | x, v⟩
        · rw [hfind] at hcases
          rw [run_bind_of_error hfind]
          refine .failed fun hmissing => ?_
          obtain ⟨e', he, hother⟩ | ⟨exe, hexe, hfit⟩ := hcases
          · cases he
            obtain ⟨n, rfl⟩ := hmissing
            exact absurd rfl (hother n)
          · refine ⟨exe, hexe, fun f => ?_⟩
            rw [answerOf, ← hfit]
            exact nofun
        · rw [hfind] at hcases
          rw [run_bind_of_ok hfind]
          obtain ⟨e', he, -⟩ | ⟨exe, hexe, hfit⟩ := hcases
          · cases he
          · refine .learned hlive hknown hexe ?_
            rw [answerOf, ← hfit]
            rfl

end Loader

/-! ## Unloads that stop -/

/-- What is left of a module whose unload stopped: it has its executable and all of its functions,
or neither. -/
structure Stopped (m m' : LoadedModule) : Prop where
  pristine : m'.pristine = m.pristine
  functions : m'.functions = m.functions ∧ m'.released.executable = m.released.executable ∨
    m'.functions = [] ∧ m'.released.executable = true

namespace Loader

theorem forgetFunctions_leads {m : LoadedModule} {E : UnloadProgress σ → Prop} :
    Leads (fun p : UnloadProgress σ =>
        p.module.pristine = m.pristine ∧ p.module.released.executable = true)
      forgetFunctions (fun _ p => p.module.pristine = m.pristine ∧ p.module.functions = [] ∧
        p.module.released.executable = true) E :=
  fun _ hp => ⟨hp.1, rfl, hp.2⟩

theorem releaseExecutable_stops (l : Loader σ) (m : LoadedModule) :
    Leads (fun p : UnloadProgress σ => p.module = m) l.releaseExecutable
      (fun _ p => p.module.pristine = m.pristine ∧ p.module.released.executable = true)
      fun p => Stopped m p.module := by
  refine Leads.get_bind fun p hp => ?_
  have hsame : Stopped m p.module := hp ▸ ⟨rfl, .inl ⟨rfl, rfl⟩⟩
  by_cases hgone : p.module.released.executable = true
  · rw [if_pos hgone]
    exact ⟨hsame.pristine, hgone⟩
  · rw [if_neg hgone]
    have hcall := UnloadStep.call_module (P := fun m' => m' = m)
      (l.accelerator.destroyExecutable p.module.executable) p hp
    refine (hcall.imp (fun _ _ h => h) fun q hq => ?_).bind fun _ q hq => ?_
    · exact hq ▸ ⟨rfl, .inl ⟨rfl, rfl⟩⟩
    · have hpristine : q.module.pristine = m.pristine := congrArg _ hq
      exact ⟨hpristine, rfl⟩

/-- **Executable and functions go together**, however far an unload gets. -/
theorem unload_stops (l : Loader σ) {m : LoadedModule} {w w' : World σ} {e : UnloadError}
    (h : l.unload m w = (.error e, w')) : Stopped m e.module := by
  -- behind the executable nothing is left that matters here
  let Over (m' : LoadedModule) : Prop :=
    m'.pristine = m.pristine ∧ m'.functions = [] ∧ m'.released.executable = true
  have hover : ∀ m', Over m' → Stopped m m' := fun m' h => ⟨h.1, .inr h.2⟩
  have hsteps : Leads (fun p : UnloadProgress σ => p.module = m) l.releaseSteps
      (fun _ _ => True) (fun p => Stopped m p.module) := by
    refine Leads.get_bind fun p hp => ?_
    have hcall := UnloadStep.call_module (P := fun m' => m' = m)
      (l.accelerator.synchronize p.module.agent) p hp
    refine (hcall.imp (fun _ _ h => h) fun q hq => hq ▸ ⟨rfl, .inl ⟨rfl, rfl⟩⟩).bind fun _ => ?_
    refine Leads.bind (releaseExecutable_stops l m) fun _ => ?_
    refine Leads.bind forgetFunctions_leads fun functions => ?_
    cases p.module.deviceImage with
    | none => exact Leads.pure fun _ _ => trivial
    | some d =>
      have hcodeObject := release_module (P := Over) ({ · with codeObject := true })
        (fun m' h => h) (·.module.released.codeObject)
        fun _ => l.accelerator.destroyCodeObject d.codeObject
      have hdeviceImage := release_module (P := Over) ({ · with deviceImage := true })
        (fun m' h => h) (·.module.released.deviceImage) fun _ => l.accelerator.free d.address
      intro q hq
      refine ((hcodeObject q hq).imp (fun _ _ h => h) fun q hq => hover _ hq).bind fun _ q hq => ?_
      refine ((hdeviceImage q hq).imp (fun _ _ h => h) fun q hq => hover _ hq).bind fun _ q hq => ?_
      exact trivial
  have hend := hsteps ⟨m, w⟩ rfl
  unfold unload at h
  rcases hrun : l.releaseSteps ⟨m, w⟩ with ⟨err | functions, p⟩
  · rw [hrun] at h hend
    cases h
    exact hend
  · rw [hrun] at h
    cases h

end Loader

/-! ## Requests -/

open Simulator

/-- What a request can do to the modules of a program, with the lookups that it makes. -/
inductive Session.Move (s : Session Simulator) : List Lookup → Session Simulator → Prop
  | still {t : Session Simulator} (h : t.modules = s.modules) : Move s [] t
  /-- A load has succeeded. -/
  | loaded {m : LoadedModule} {t : Session Simulator}
      (hm : New s.world.accelerator m t.world.accelerator) (h : t.modules = s.modules ++ [m]) :
      Move s [] t
  /-- An unload is complete. -/
  | unloaded {index : Nat} {t : Session Simulator} (h : t.modules = s.modules.eraseIdx index) :
      Move s [] t
  | stopped {index : Nat} {m m' : LoadedModule} {t : Session Simulator}
      (hm : s.modules[index]? = some m) (hm' : Stopped m m')
      (h : t.modules = s.modules.set index m') : Move s [] t
  /-- A function was asked for. -/
  | asked {index : Nat} {m m' : LoadedModule} {name : String}
      {r : Except LoadError (KernelFunction × LoadedModule)} {t : Session Simulator}
      (hm : s.modules[index]? = some m) (hr : LookedUp s.world.accelerator m name r)
      (hm' : m' = (r.map (·.2)).toOption.getD m) (h : t.modules = s.modules.set index m') :
      Move s [{ module := m.pristine, name, answer := r.map (·.1) }] t

namespace Session

variable {settings : LoaderSettings} {hooks : LaunchHooks} {rig : Rig Simulator}

/-- Only the modules and the simulator matter, not which loader is used. -/
theorem Move.of_loader {s t : Session Simulator} {notes : List Lookup} {state : LoaderState}
    (h : Move { s with world := { s.world with loader := state } } notes t) : s.Move notes t := by
  cases h with
  | still h => exact .still h
  | loaded hm h => exact .loaded hm h
  | unloaded h => exact .unloaded h
  | stopped hm hm' h => exact .stopped hm hm' h
  | asked hm hr hm' h => exact .asked hm hr hm' h

theorem unload_move (l : Loader Simulator) (s : Session Simulator) (index : Nat) :
    s.Move [] (s.unload l index) := by
  unfold unload
  cases hm : s.modules[index]? with
  | none => exact .still rfl
  | some m =>
    dsimp only
    rcases hrun : l.unload m s.world with ⟨e | u, w⟩
    · exact .stopped hm (Loader.unload_stops l hrun) rfl
    · exact .unloaded rfl

theorem getFunction_move (hrig : rig.loader.accelerator = Simulator.accelerator)
    (s : Session Simulator) (current : Option Device) (index : Nat) (name : String) :
    s.Move (s.lookups rig (.getFunction current index name))
      (s.getFunction rig.loader current index name) := by
  rw [lookups_getFunction]
  unfold getFunction
  cases hm : s.modules[index]? with
  | none => exact .still rfl
  | some m =>
    have hcases := Loader.getFunction_cases hrig current m name s.world
    rw [Option.map_some, Option.toList_some]
    dsimp only
    rcases hrun : rig.loader.getFunction current m name s.world with ⟨e | ⟨f, m'⟩, w⟩
    · rw [hrun] at hcases
      refine .asked hm hcases rfl ?_
      -- the module is put back where it was
      obtain ⟨hindex, rfl⟩ := List.getElem?_eq_some_iff.mp hm
      exact (List.set_getElem_self hindex).symm
    · rw [hrun] at hcases
      exact .asked hm hcases rfl rfl

theorem load_move (s : Session Simulator) (current : Option Device) (source : LoadSource) :
    s.Move [] (s.load (Simulator.loader settings hooks) current source) := by
  unfold load
  rcases hrun : (Simulator.loader settings hooks).loadFrom current source s.world with ⟨e | x, w⟩
  · exact .still rfl
  · exact .loaded (loadFrom_builds hrun) rfl

/-- **What a request does to the modules.** -/
theorem step_move (m : Member) (s : Session Simulator) (r : Request) :
    s.Move (s.lookups ((Simulator.rig settings hooks).serving m) r)
      (s.step ((Simulator.rig settings hooks).serving m) r) := by
  cases r with
  | load current source => exact load_move s current source
  | unload index => exact unload_move _ s index
  | getFunction current index name => exact getFunction_move rfl s current index name
  | getGlobal current index name =>
    refine .still ?_
    show (s.getGlobal _ current index name).modules = s.modules
    unfold getGlobal
    cases s.modules[index]? <;> rfl
  | _ => exact .still rfl

end Session

namespace Fleet

variable (settings : LoaderSettings) (hooks : LaunchHooks)

/-- The fleet after the program has used the simulator itself. -/
def operate (f : Fleet σ) (accelerator : σ) : Fleet σ :=
  { f with session := { f.session with world := { f.session.world with accelerator } } }

/-- Programs that some run leads to, with the lookups that it has made. A run is made of requests to
any loaders and of operations of the simulator, in any order. -/
inductive Ran : List Lookup → Fleet Simulator → Prop
  | start (hasRegion : Bool) (host : Host.System) : Ran [] (start { hasRegion } host)
  | requested {notes : List Lookup} {f : Fleet Simulator} (h : Ran notes f) (r : FleetRequest) :
      Ran (notes ++ f.lookups (Simulator.rig settings hooks) r)
        (f.step (Simulator.rig settings hooks) r)
  | operated {notes : List Lookup} {f : Fleet Simulator} (h : Ran notes f) {t : Simulator}
      (o : Operated f.session.world.accelerator t) : Ran notes (f.operate t)

variable {settings hooks}

/-- A run from the beginning of a program. -/
theorem ran_run (hasRegion : Bool) (host : Host.System) (rs : List FleetRequest) :
    ∃ notes, Ran settings hooks notes
      ((start { hasRegion } host).run (Simulator.rig settings hooks) rs) := by
  induction rs using List.reverseRecOn with
  | nil => exact ⟨[], .start hasRegion host⟩
  | append_singleton rs r ih =>
    obtain ⟨notes, h⟩ := ih
    rw [run_append]
    exact ⟨_, h.requested r⟩

/-- A request to a fleet does to the modules what one to a session does. -/
theorem step_move (f : Fleet Simulator) (r : FleetRequest) :
    f.session.Move (f.lookups (Simulator.rig settings hooks) r)
      (f.step (Simulator.rig settings hooks) r).session := by
  cases r with
  | create settings hooks hostImage => exact .still rfl
  | drop i =>
    show f.session.Move [] ((f.member? i).elim f _).session
    cases f.member? i <;> exact .still rfl
  | through i r =>
    show f.session.Move ((f.member? i).elim [] _) ((f.member? i).elim f _).session
    cases f.member? i with
    | none => exact .still rfl
    | some m => exact (Session.step_move m (f.entered m) r).of_loader

section Kept

variable {P : Simulator → Prop} (hP : ∀ s t, Operated s t → P s → P t)
include hP

theorem close_only (settings : LoaderSettings) (hooks : LaunchHooks) (w : World Simulator)
    (h : P w.accelerator) : P ((Simulator.loader settings hooks).close w).2.accelerator := by
  have hcalls := accelerator_only fun s t c hs => hP s t (.called c) hs
  have halike := Loader.close_alike (l := Simulator.loader settings hooks)
    (k := Simulator.loader settings hooks) hcalls.unlockMemory hcalls.destroyReader
  exact (halike w w (World.Match.only h)).2.accelerator.2

theorem step_only (f : Fleet Simulator) (r : FleetRequest)
    (h : P f.session.world.accelerator) :
    P (f.step (Simulator.rig settings hooks) r).session.world.accelerator := by
  cases r with
  | create settings hooks hostImage => exact h
  | drop i =>
    show P ((f.member? i).elim f _).session.world.accelerator
    cases f.member? i with
    | none => exact h
    | some m => exact close_only hP m.settings m.hooks (f.entered m).world h
  | through i r =>
    show P ((f.member? i).elim f _).session.world.accelerator
    cases f.member? i with
    | none => exact h
    | some m =>
      have hsame : Session.Match (Only P) (f.entered m) (f.entered m) :=
        ⟨World.Match.only h, rfl⟩
      exact (Session.step_alike (serving_only hP settings hooks m) hsame r).world.accelerator.2

end Kept

/-- **What all operations of the simulator keep, every request keeps.** -/
theorem step_reaches (f : Fleet Simulator) (r : FleetRequest) :
    f.session.world.accelerator.Reaches
      (f.step (Simulator.rig settings hooks) r).session.world.accelerator :=
  fun _ hP h => step_only hP f r h

end Fleet

end DeviceCode

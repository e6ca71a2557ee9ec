import DeviceCode.Proofs.LoadOutcome

/-!
# Sessions

A session is a program that uses one loader: its world and the modules it holds. `Request` lists
what it can do, one operation after the other in any order, and `Session.run` does it. A module that
was unloaded is gone; one whose unload stopped half-way stays and can be unloaded again.

A run is the same whether its accelerator is watched or not (`Session.run_unwatched`), and it keeps
whatever all calls of the accelerator keep (`Session.run_alike`); so what it leads to is reachable
in the sense of the simulator alone (`Session.run_reachable`).
-/

namespace DeviceCode

variable {σ τ : Type}

/-- What a program can ask for. Modules are meant by their place among those it holds. -/
inductive Request where
  | load (current : Option Device) (source : LoadSource)
  /-- Unload a module, or go on with an unload that stopped. -/
  | unload (index : Nat)
  | getFunction (current : Option Device) (index : Nat) (name : String)
  | getGlobal (current : Option Device) (index : Nat) (name : String)
  | launch (current : Option Device) (f : KernelFunction) (r : LaunchRequest) (args : LaunchArgs)
  | launchBlocks (current : Option Device) (f : KernelFunction) (blocks block : Dim3)
      (dynamicShared : Nat) (queue : Option QueueHandle) (args : LaunchArgs)
  | shutdown
  | declareKernel (kernel : String) (ps : List Parameter)
  | registerLayout (kernel : String) (layout : ArgLayout)
  | declareDocument (text : String)
  /-- The files of the host or its memory mappings change. -/
  | setHost (host : Host.System)
  | inject (point : FaultPoint)
  | clearFaults

/-- A loader and the switches of the accelerator behind it. -/
structure Rig (σ : Type) where
  loader : Loader σ
  inject : FaultPoint → σ → σ
  clearFaults : σ → σ

/-- A loader over the simulator. -/
def Simulator.rig (settings : LoaderSettings) (hooks : LaunchHooks) : Rig Simulator where
  loader := Simulator.loader settings hooks
  inject point s := s.inject point
  clearFaults := Simulator.clearFaults

/-- A loader over the watched simulator. -/
def Simulator.watchedRig (settings : LoaderSettings) (hooks : LaunchHooks) :
    Rig (Watched Simulator) where
  loader := Simulator.watchedLoader settings hooks
  inject point s := { s with inner := s.inner.inject point }
  clearFaults s := { s with inner := s.inner.clearFaults }

/-- A program that uses a loader. -/
structure Session (σ : Type) where
  world : World σ
  /-- The modules that it holds. -/
  modules : List LoadedModule := []

namespace Session

/-- The effect of a request on the world alone. -/
def inWorld {α : Type} (s : Session σ) (x : Action σ α) : Session σ :=
  { s with world := (x s.world).2 }

/-- Load a module and hold it. -/
def load (l : Loader σ) (s : Session σ) (current : Option Device) (source : LoadSource) :
    Session σ :=
  match l.loadFrom current source s.world with
  | (.ok m, world) => { world, modules := s.modules ++ [m] }
  | (.error _, world) => { s with world }

/-- Unload a module, or take it back as far as it was unloaded. -/
def unload (l : Loader σ) (s : Session σ) (index : Nat) : Session σ :=
  match s.modules[index]? with
  | none => s
  | some m =>
    match l.unload m s.world with
    | (.ok _, world) => { world, modules := s.modules.eraseIdx index }
    | (.error e, world) => { world, modules := s.modules.set index e.module }

/-- Look a function up; the module remembers it. -/
def getFunction (l : Loader σ) (s : Session σ) (current : Option Device) (index : Nat)
    (name : String) : Session σ :=
  match s.modules[index]? with
  | none => s
  | some m =>
    match l.getFunction current m name s.world with
    | (.ok (_, m'), world) => { world, modules := s.modules.set index m' }
    | (.error _, world) => { s with world }

def getGlobal (l : Loader σ) (s : Session σ) (current : Option Device) (index : Nat)
    (name : String) : Session σ :=
  match s.modules[index]? with
  | none => s
  | some m => s.inWorld (l.getGlobal current m name).run

/-- One request. -/
def step (rig : Rig σ) (s : Session σ) : Request → Session σ
  | .load current source => s.load rig.loader current source
  | .unload index => s.unload rig.loader index
  | .getFunction current index name => s.getFunction rig.loader current index name
  | .getGlobal current index name => s.getGlobal rig.loader current index name
  | .launch current f r args => s.inWorld (rig.loader.launch current f r args).run
  | .launchBlocks current f blocks block dynamicShared queue args =>
    s.inWorld (rig.loader.launchBlocks current f blocks block dynamicShared queue args).run
  | .shutdown => s.inWorld rig.loader.shutdown
  | .declareKernel kernel ps => s.inWorld (World.declareKernel kernel ps)
  | .registerLayout kernel layout => s.inWorld (World.registerLayout kernel layout)
  | .declareDocument text => s.inWorld (World.declareDocument text).run
  | .setHost host => { s with world := { s.world with host } }
  | .inject point =>
    { s with world := { s.world with accelerator := rig.inject point s.world.accelerator } }
  | .clearFaults =>
    { s with world := { s.world with accelerator := rig.clearFaults s.world.accelerator } }

/-- Requests one after the other. -/
def run (rig : Rig σ) (s : Session σ) (requests : List Request) : Session σ :=
  requests.foldl (step rig) s

theorem run_append (rig : Rig σ) (s : Session σ) (rs : List Request) (r : Request) :
    s.run rig (rs ++ [r]) = (s.run rig rs).step rig r := by
  unfold run
  rw [List.foldl_append]
  rfl

/-! ## Sessions that run alike -/

/-- Sessions that are the same but for the states of their accelerators. -/
structure Match (R : σ → τ → Prop) (s : Session σ) (t : Session τ) : Prop where
  world : World.Match R s.world t.world
  modules : s.modules = t.modules

end Session

/-- Rigs all of whose calls and switches run alike. -/
structure Rig.Alike (R : σ → τ → Prop) (a : Rig σ) (b : Rig τ) : Prop where
  accelerator : a.loader.accelerator.Alike R b.loader.accelerator
  settings : a.loader.settings = b.loader.settings
  hooks : a.loader.hooks = b.loader.hooks
  inject : ∀ point s t, R s t → R (a.inject point s) (b.inject point t)
  clearFaults : ∀ s t, R s t → R (a.clearFaults s) (b.clearFaults t)

namespace Session

variable {R : σ → τ → Prop} {a : Rig σ} {b : Rig τ} {s : Session σ} {t : Session τ}

theorem Match.inWorld {α : Type} (h : Match R s t) {x : Action σ α} {y : Action τ α}
    (hxy : Alike (World.Match R) Eq x y) : Match R (s.inWorld x) (t.inWorld y) :=
  ⟨(hxy s.world t.world h.world).2, h.modules⟩

theorem load_alike (hab : Rig.Alike R a b) (h : Match R s t) (current : Option Device)
    (source : LoadSource) :
    Match R (s.load a.loader current source) (t.load b.loader current source) := by
  have halike := Loader.loadFrom_alike hab.accelerator hab.settings current source
  unfold load
  rcases halike.runs h.world with ⟨e, v, w, hl, hk, hw⟩ | ⟨m, _, v, w, hl, hk, rfl, hw⟩
  · rw [hl, hk]
    exact ⟨hw, h.modules⟩
  · rw [hl, hk]
    exact ⟨hw, by dsimp only; rw [h.modules]⟩

theorem unload_alike (hab : Rig.Alike R a b) (h : Match R s t) (index : Nat) :
    Match R (s.unload a.loader index) (t.unload b.loader index) := by
  unfold unload
  rw [h.modules]
  cases t.modules[index]? with
  | none => exact h
  | some m =>
    obtain ⟨hr, hw⟩ := Loader.unload_alike hab.accelerator m s.world t.world h.world
    rcases hl : a.loader.unload m s.world with ⟨r, v⟩
    rcases hk : b.loader.unload m t.world with ⟨r', w⟩
    rw [hl, hk] at hr hw
    cases (hr : r = r')
    dsimp only
    rw [hl, hk]
    cases r with
    | ok _ => exact ⟨hw, rfl⟩
    | error e => exact ⟨hw, rfl⟩

theorem getFunction_alike (hab : Rig.Alike R a b) (h : Match R s t) (current : Option Device)
    (index : Nat) (name : String) :
    Match R (s.getFunction a.loader current index name)
      (t.getFunction b.loader current index name) := by
  unfold getFunction
  rw [h.modules]
  cases t.modules[index]? with
  | none => exact h
  | some m =>
    have halike := Loader.getFunction_alike (L := fun _ => True) hab.accelerator.getSymbol current m
      name
    rcases halike.runs h.world with ⟨e, v, w, hl, hk, hw⟩ | ⟨r, _, v, w, hl, hk, rfl, hw⟩
    · dsimp only
      rw [hl, hk]
      exact ⟨hw, rfl⟩
    · dsimp only
      rw [hl, hk]
      exact ⟨hw, rfl⟩

theorem getGlobal_alike (hab : Rig.Alike R a b) (h : Match R s t) (current : Option Device)
    (index : Nat) (name : String) :
    Match R (s.getGlobal a.loader current index name)
      (t.getGlobal b.loader current index name) := by
  unfold getGlobal
  rw [h.modules]
  cases t.modules[index]? with
  | none => exact h
  | some m =>
    exact h.inWorld (Loader.getGlobal_alike hab.accelerator.getSymbol current m name).outcome

/-- **Requests run alike** over accelerators whose calls do. -/
theorem step_alike (hab : Rig.Alike R a b) (h : Match R s t) (r : Request) :
    Match R (s.step a r) (t.step b r) := by
  cases r with
  | load current source => exact load_alike hab h current source
  | unload index => exact unload_alike hab h index
  | getFunction current index name => exact getFunction_alike hab h current index name
  | getGlobal current index name => exact getGlobal_alike hab h current index name
  | launch current f r args =>
    exact h.inWorld (Loader.launch_alike hab.hooks hab.accelerator.dispatch
      hab.accelerator.releaseCompletion hab.settings (fun _ _ _ _ _ _ => trivial) current f r
      args).outcome
  | launchBlocks current f blocks block dynamicShared queue args =>
    exact h.inWorld (Loader.launchBlocks_alike hab.hooks hab.accelerator.dispatch
      hab.accelerator.releaseCompletion hab.settings (fun _ _ _ _ _ _ => trivial) current f blocks
      block dynamicShared queue args).outcome
  | shutdown => exact h.inWorld (Loader.shutdown_alike hab.accelerator)
  | declareKernel kernel ps => exact h.inWorld (World.updateLoader_alike _ fun _ _ => trivial)
  | registerLayout kernel layout => exact h.inWorld (World.updateLoader_alike _ fun _ _ => trivial)
  | declareDocument text =>
    refine h.inWorld (AlikeE.outcome ?_)
    unfold World.declareDocument
    cases Metadata.parse? text with
    | none => exact AlikeE.throw
    | some m =>
      refine (Attempt.perform_alike (World.updateLoader_alike _ fun _ _ => trivial)).andThen ?_
      exact fun _ => (Attempt.report_alike _).andThen fun _ => AlikeE.pure rfl
  | setHost host => exact ⟨{ h.world with host := rfl }, h.modules⟩
  | inject point =>
    exact ⟨{ h.world with accelerator := hab.inject point _ _ h.world.accelerator }, h.modules⟩
  | clearFaults =>
    exact ⟨{ h.world with accelerator := hab.clearFaults _ _ h.world.accelerator }, h.modules⟩

theorem run_alike (hab : Rig.Alike R a b) (h : Match R s t) (rs : List Request) :
    Match R (s.run a rs) (t.run b rs) := by
  induction rs generalizing s t with
  | nil => exact h
  | cons r rs ih => exact ih (step_alike hab h r)

/-! ## Starting, and watching a run -/

/-- The beginning of a program on an accelerator that nobody has used. -/
def fresh (hasRegion : Bool) (host : Host.System) : Session Simulator where
  world := { accelerator := { hasRegion }, host }

/-- A session whose accelerator is watched from now on. -/
def watched (s : Session σ) : Session (Watched σ) where
  world := s.world.watched
  modules := s.modules

/-- A session without the notes. -/
def unwatched (s : Session (Watched σ)) : Session σ where
  world := s.world.unwatched
  modules := s.modules

variable (settings : LoaderSettings) (hooks : LaunchHooks)

theorem rig_erases : Rig.Alike Watched.Erases (Simulator.watchedRig settings hooks)
    (Simulator.rig settings hooks) where
  accelerator := Simulator.accelerator.watch_alike
  settings := rfl
  hooks := rfl
  inject point s t h := by cases (h : s.inner = t); rfl
  clearFaults s t h := by cases (h : s.inner = t); rfl

/-- **Notes have no effect on a run.** -/
theorem run_unwatched (s : Session (Watched Simulator)) (rs : List Request) :
    (s.run (Simulator.watchedRig settings hooks) rs).unwatched =
      s.unwatched.run (Simulator.rig settings hooks) rs := by
  have h := run_alike (rig_erases settings hooks)
    (s := s) (t := s.unwatched) ⟨World.match_unwatched s.world, rfl⟩ rs
  unfold unwatched
  rw [h.world.unwatched_eq, h.modules]
  rfl

/-! ## Reachable simulators -/

theorem rig_reachable : Rig.Alike (Only Simulator.Reachable) (Simulator.rig settings hooks)
    (Simulator.rig settings hooks) where
  accelerator := Simulator.accelerator_only fun _ _ hc hs => hs.called hc
  settings := rfl
  hooks := rfl
  inject point s t h := by
    obtain ⟨rfl, hs⟩ := h
    exact ⟨rfl, hs.inject point⟩
  clearFaults s t h := by
    obtain ⟨rfl, hs⟩ := h
    exact ⟨rfl, hs.clearFaults⟩

/-- A run only leads to reachable simulators. -/
theorem run_reachable (hasRegion : Bool) (host : Host.System) (rs : List Request) :
    ((fresh hasRegion host).run (Simulator.rig settings hooks)
      rs).world.accelerator.Reachable := by
  have h := run_alike (rig_reachable settings hooks) (s := fresh hasRegion host)
    (t := fresh hasRegion host) ⟨.only (.fresh hasRegion), rfl⟩ rs
  exact h.world.accelerator.2

end Session

end DeviceCode

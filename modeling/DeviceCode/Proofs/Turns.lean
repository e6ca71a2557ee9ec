import DeviceCode.Proofs.LayoutSession
import DeviceCode.Proofs.RequestCalls

/-!
# What a request does to the registry

Over any accelerator, a request does one of four things to what a loader keeps for its modules
(`Session.Turn`): nothing; one module more, under the next number; a number that is live no longer;
or a teardown. The accelerator decides only which of them, by the outcomes of its calls.

Loads and unloads that fail are among the requests that do nothing here.
-/

namespace DeviceCode

variable {σ α : Type}

namespace Loader

variable {l : Loader σ} {s₀ : LoaderState} {w : World σ}

/-! ## Loads -/

/-- A module has got the next number, and what must outlive it is kept under that number. -/
structure Registered (s : LoaderState) (m : LoadedModule) (t : LoaderState) : Prop where
  id : m.id = s.nextModule
  nextModule : t.nextModule = s.nextModule + 1
  residency : ∃ pins reader, t.residency = s.residency.retain m.id pins reader

/-- The steps of a load leave the registry alone, whether they succeed or are rolled back. -/
theorem transaction_registers {steps : LoadStep σ α}
    (h : AlikeE (LoadProgress.MatchOn s₀.Keeps Eq) Eq steps steps) (hw : s₀.Keeps w.loader) :
    Ends (fun _ w => s₀.Keeps w.loader) (fun w => s₀.Keeps w.loader) (l.transaction steps w) :=
  .of_state (Alike.keeps (transaction_alike l.accelerator.alike_refl h).outcome hw)

theorem commit_registers (hw : s₀.Keeps w.loader) (held : Holdings) {m : LoadedModule}
    (hid : m.id = w.loader.nextModule) (undefined : Nat) :
    Registered s₀ m (announce m undefined (commit held w).2).2.loader where
  id := hid.trans hw.2
  nextModule := congrArg (· + 1) hw.2
  residency := ⟨held.pins, held.reader, by
    show w.loader.residency.retain w.loader.nextModule held.pins held.reader = _
    rw [hid, hw.1]⟩

section Entries

variable (hw : s₀.Keeps w.loader) (current : Option Device)
include hw

theorem load_registers (path : String) :
    Ends (fun m w => Registered s₀ m w.loader) (fun w => s₀.Keeps w.loader)
      (l.load current path w) := by
  refine Ends.check hw fun device => ?_
  refine Ends.bind (Q := fun _ (v : World σ) => s₀.Keeps v.loader) hw fun _ w hw => ?_
  refine Ends.get ?_
  cases w.host.files.read path with
  | error fault => exact hw
  | ok bytes =>
    refine Ends.check hw fun image => Ends.check hw fun undefined => ?_
    refine Ends.bind (transaction_registers (loadFileSteps_alike l.accelerator.alike_refl
      (fun _ _ h => h) rfl device.agent path undefined) hw) fun r w hw => ?_
    exact commit_registers hw r.2 rfl undefined.length

theorem loadData_registers (bytes : Bytes) :
    Ends (fun m w => Registered s₀ m w.loader) (fun w => s₀.Keeps w.loader)
      (l.loadData current bytes w) := by
  refine Ends.check hw fun device => ?_
  refine Ends.bind (Q := fun _ (v : World σ) => s₀.Keeps v.loader) hw fun _ w hw => ?_
  refine Ends.check hw fun o => Ends.check hw fun image => Ends.check hw fun undefined => ?_
  refine Ends.bind (transaction_registers (loadImageSteps_alike l.accelerator.alike_refl
    (fun _ _ h => h) rfl device.agent image undefined) hw) fun r w hw => ?_
  exact commit_registers hw r.2 rfl undefined.length

/-- **A load changes the registry only when it succeeds**, and then by its own module. -/
theorem loadFrom_registers (source : LoadSource) :
    Ends (fun m w => Registered s₀ m w.loader) (fun w => s₀.Keeps w.loader)
      (l.loadFrom current source w) := by
  cases source with
  | file path => exact load_registers hw current path
  | memory bytes => exact loadData_registers hw current bytes
  | memoryWith bytes options =>
    unfold loadFrom loadDataWith
    dsimp only
    split
    · exact loadData_registers hw current bytes
    · refine Ends.bind (Q := fun _ (v : World σ) => s₀.Keeps v.loader) hw fun _ w hw => ?_
      exact loadData_registers hw current bytes

end Entries

end Loader

/-! ## All requests -/

namespace Session

/-- What a request does to the registry. -/
inductive Turn (s : Session (Chronicled σ)) : Request → Session (Chronicled σ) → Prop
  /-- The registry and the numbers of the modules are as they were. -/
  | still {r : Request} {t : Session (Chronicled σ)} (h : s.world.loader.Keeps t.world.loader)
      (hids : t.modules.map (·.id) = s.modules.map (·.id)) : Turn s r t
  /-- A load has succeeded. -/
  | loaded {current : Option Device} {source : LoadSource} {m : LoadedModule}
      {w : World (Chronicled σ)} (h : Loader.Registered s.world.loader m w.loader) :
      Turn s (.load current source) { world := w, modules := s.modules ++ [m] }
  /-- An unload is complete. -/
  | unloaded {index : Nat} {m : LoadedModule} {w : World (Chronicled σ)}
      (hm : s.modules[index]? = some m)
      (h : w.loader =
        { s.world.loader with residency := s.world.loader.residency.release m.id }) :
      Turn s (.unload index) { world := w, modules := s.modules.eraseIdx index }
  | tornDown {w : World (Chronicled σ)} (h : Loader.TornDown s.world w) :
      Turn s .shutdown { s with world := w }

variable {l : Loader σ} {rig : Rig σ} {s : Session (Chronicled σ)}

theorem load_turn (current : Option Device) (source : LoadSource) :
    Turn s (.load current source) (s.load l.chronicle current source) := by
  have hsame : s.world.loader.Keeps s.world.loader := ⟨rfl, rfl⟩
  have hends := Loader.loadFrom_registers (l := l.chronicle) hsame current source
  unfold load
  rcases hrun : l.chronicle.loadFrom current source s.world with ⟨e | m, w⟩
  · rw [hrun] at hends
    exact .still hends rfl
  · rw [hrun] at hends
    exact .loaded hends

theorem unload_turn (index : Nat) : Turn s (.unload index) (s.unload l.chronicle index) := by
  unfold unload
  cases hm : s.modules[index]? with
  | none => exact .still ⟨rfl, rfl⟩ rfl
  | some m =>
    dsimp only
    rcases Loader.unload_calls l m s.world with
      ⟨w, hrun, -, hloader⟩ | ⟨e, w, hrun, hloader, hhalted⟩
    · rw [hrun]
      exact .unloaded hm hloader
    · rw [hrun]
      -- what comes back is the same module, but for what was released
      have hid : e.module.id = m.id :=
        (congrArg LoadedModule.id hhalted.pristine_eq : e.module.pristine.id = m.pristine.id)
      refine .still ?_ (map_set_of_eq _ hm hid)
      show s.world.loader.Keeps w.loader
      rw [hloader]
      exact ⟨rfl, rfl⟩

theorem getFunction_turn (current : Option Device) (index : Nat) (name : String) :
    Turn s (.getFunction current index name) (s.getFunction l.chronicle current index name) := by
  have hsym := l.chronicle.accelerator.alike_refl.getSymbol
  refine .still (getFunction_holds (P := fun w => s.world.loader.Keeps w.loader) ⟨rfl, rfl⟩
    fun m => Alike.keeps (Loader.getFunction_alike hsym current m name).outcome ⟨rfl, rfl⟩) ?_
  unfold getFunction
  cases hm : s.modules[index]? with
  | none => rfl
  | some m =>
    have hanswer := getFunction_forgetful l.chronicle current m name s.world trivial
    dsimp only
    rcases hrun : l.chronicle.getFunction current m name s.world with ⟨e | ⟨f, m'⟩, w⟩
    · rfl
    · rw [hrun] at hanswer
      have hsame : m'.forgetful = m.forgetful := hanswer
      have hid : m'.id = m.id :=
        (congrArg LoadedModule.id hsame : m'.forgetful.id = m.forgetful.id)
      exact map_set_of_eq _ hm hid

/-- **What a request does to the registry**, over any accelerator. -/
theorem step_turn (rig : Rig σ) (s : Session (Chronicled σ)) (r : Request) :
    Turn s r (s.step rig.chronicle r) := by
  have halike := rig.chronicle.loader.accelerator.alike_refl
  cases r with
  | load current source => exact load_turn current source
  | unload index => exact unload_turn index
  | getFunction current index name => exact getFunction_turn current index name
  | getGlobal current index name =>
    refine .still (getGlobal_holds (P := fun w => s.world.loader.Keeps w.loader) ⟨rfl, rfl⟩ fun m =>
      Alike.keeps (Loader.getGlobal_alike halike.getSymbol current m name).outcome ⟨rfl, rfl⟩) ?_
    show (s.getGlobal rig.chronicle.loader current index name).modules.map _ = _
    unfold getGlobal
    cases s.modules[index]? <;> rfl
  | launch current f r args =>
    exact .still (Alike.keeps (Loader.launch_alike rfl halike.dispatch halike.releaseCompletion rfl
      (fun _ _ _ _ hs _ => hs) current f r args).outcome ⟨rfl, rfl⟩) rfl
  | launchBlocks current f blocks block dynamicShared queue args =>
    exact .still (Alike.keeps (Loader.launchBlocks_alike rfl halike.dispatch
      halike.releaseCompletion rfl (fun _ _ _ _ hs _ => hs) current f blocks block dynamicShared
      queue args).outcome ⟨rfl, rfl⟩) rfl
  | shutdown => exact .tornDown (rig.loader.shutdown_tornDown s.world)
  | declareKernel kernel ps => exact .still ⟨rfl, rfl⟩ rfl
  | registerLayout kernel layout => exact .still ⟨rfl, rfl⟩ rfl
  | declareDocument text =>
    refine .still ?_ rfl
    show s.world.loader.Keeps (World.declareDocument text s.world).2.loader
    rw [LayoutSession.declareDocument_run]
    cases Metadata.parse? text <;> exact ⟨rfl, rfl⟩
  | setHost host => exact .still ⟨rfl, rfl⟩ rfl
  | inject point => exact .still ⟨rfl, rfl⟩ rfl
  | clearFaults => exact .still ⟨rfl, rfl⟩ rfl

end Session

end DeviceCode

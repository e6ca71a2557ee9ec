import DeviceCode.Proofs.LoadOutcome
import DeviceCode.Proofs.LoadPaths

/-!
# What a new module's executable is

A load that succeeds has made an executable of its own, under a handle that was never handed out
before. It is frozen, and its symbols are those that the module's image exposes at the code base of
the load. Nothing was looked up in the module yet, and nothing of it is released.

`Simulator.loadFrom_builds` says so of all the ways to load, in whatever state the simulator is.
-/

namespace DeviceCode

variable {α : Type}

/-- A computation that keeps a property whenever it succeeds follows itself. -/
theorem Follows.only {σ ε : Type} {P : σ → Prop} {f : ExceptT ε (StateM σ) α}
    (h : ∀ s, P s → ∀ a t, f s = (.ok a, t) → P t) :
    Follows (Only P) f f fun a b s t => a = b ∧ Only P s t := by
  intro s t hst a s' hrun
  obtain ⟨rfl, hs⟩ := hst
  exact ⟨a, s', hrun, rfl, rfl, h s hs a s' hrun⟩

namespace Simulator

variable {settings : LoaderSettings} {hooks : LaunchHooks} {agent : AgentHandle}
  {e : ExecutableHandle} {image : Bytes} {s t : Simulator}

/-- The symbols of the executable are those that the image exposes at a code base. -/
def Shows (exe : Executable) (image : Bytes) (base : UInt64) : Prop :=
  ∃ (s : Simulator) (o : Elf.Object) (symbols : List ExecutableSymbol),
    Elf.Object.parse image = .ok o ∧ s.exposed base o = .ok symbols ∧
      exe.symbols = (addSymbols {} symbols).symbols

/-- An executable that is still to be loaded into, next to these code objects. -/
structure AwaitsCode (e : ExecutableHandle) (codeObjects : Assoc CodeObjectHandle Bytes)
    (s : Simulator) : Prop where
  executable : ∃ exe : Executable,
    s.executables.get? e = some exe ∧ exe.frozen = false ∧ exe.symbols = {}
  codeObjects : s.codeObjects = codeObjects

/-- An executable that was made since `s`, loaded with an image and frozen. -/
structure Built (s : Simulator) (e : ExecutableHandle) (image : Bytes) (t : Simulator) : Prop where
  /-- Its handle is a new one. -/
  fresh : s.lastHandle < e.id
  executable : ∃ exe : Executable, t.executables.get? e = some exe ∧ exe.frozen = true ∧
    ∃ n, Shows exe image (codeBase n)

/-- A module that was loaded since `s`, with nothing looked up and nothing released. -/
structure New (s : Simulator) (m : LoadedModule) (t : Simulator) : Prop
    extends Built s m.executable m.image t where
  functions : m.functions = []
  released : m.released = {}

/-! ## Calls -/

theorem createReader_ok {fs : Host.FileSystem} {path : String} {r : ReaderHandle}
    (h : s.createReader fs path = (.ok r, t)) : ∃ bytes, fs.read path = .ok bytes ∧
      t.readers.get? r = some bytes ∧ t.executables = s.executables := by
  unfold createReader at h
  split at h
  · cases h
  · split at h
    · cases h
    · next bytes hfile =>
      cases h
      exact ⟨bytes, hfile, Assoc.get?_put_self, rfl⟩

/-- Loading an image into an empty executable exposes the image's symbols. -/
theorem loadImage_shows {operation : String} {exe : Executable}
    (hexe : s.executables.get? e = some exe) (hempty : exe.symbols = {})
    (h : s.loadImage operation e image = (.ok (), t)) :
    ∃ exe' : Executable, t.executables.get? e = some exe' ∧ ∃ n, Shows exe' image (codeBase n) := by
  obtain ⟨o, undefined, symbols, exe₀, hparse, -, hexe₀, -, -, hexposed, rfl⟩ :=
    loadImage_ok_iff.mp h
  cases hexe.symm.trans hexe₀
  refine ⟨_, Assoc.get?_put_self, _, s, o, symbols, hparse, hexposed, ?_⟩
  unfold addSymbols
  rw [hempty]

theorem freeze_shows {exe : Executable} {n : Nat} (hexe : s.executables.get? e = some exe)
    (hshows : Shows exe image (codeBase n)) (h : s.freeze e = (.ok (), t)) :
    ∃ exe' : Executable, t.executables.get? e = some exe' ∧ exe'.frozen = true ∧
      ∃ n, Shows exe' image (codeBase n) := by
  obtain ⟨-, exe₀, hexe₀, -, ht⟩ := freeze_ok_iff.mp h
  cases hexe.symm.trans hexe₀
  cases ht
  exact ⟨_, Assoc.get?_put_self, rfl, n, hshows⟩

section AwaitsCode

variable {codeObjects : Assoc CodeObjectHandle Bytes} (hs : AwaitsCode e codeObjects s)
include hs

theorem AwaitsCode.lockMemory {g : AgentHandle} {x y : UInt64} {size : Nat}
    (h : s.lockMemory g x size = (.ok y, t)) : AwaitsCode e codeObjects t := by
  obtain ⟨-, -, -, rfl⟩ := lockMemory_ok_iff.mp h
  exact ⟨hs.executable, hs.codeObjects⟩

theorem AwaitsCode.defineGlobal {name : String} {x : UInt64} {u : Unit}
    (h : s.defineGlobal e name x = (.ok u, t)) : AwaitsCode e codeObjects t := by
  obtain ⟨-, exe, hexe, hopen, ht⟩ := defineGlobal_ok_iff.mp h
  obtain ⟨exe₀, hexe₀, -, hempty⟩ := hs.executable
  cases hexe.symm.trans hexe₀
  cases ht
  exact ⟨⟨_, Assoc.get?_put_self, hopen, hempty⟩, hs.codeObjects⟩

end AwaitsCode

/-! ## Steps of a load -/

section Steps

variable {p q : LoadProgress Simulator}

theorem newExecutable_ok (h : (loader settings hooks).newExecutable p = (.ok e, q)) :
    e.id = p.world.accelerator.nextHandle ∧
      AwaitsCode e p.world.accelerator.codeObjects q.world.accelerator ∧
      q.world.host = p.world.host := by
  obtain ⟨e', _, hcall, h⟩ := run_bind_eq_ok.mp h
  obtain ⟨s, hs, rfl⟩ := LoadStep.call_ok_iff.mp hcall
  obtain ⟨-, rfl, rfl⟩ := createExecutable_ok_iff.mp hs
  obtain ⟨_, _, hhold, h⟩ := run_bind_eq_ok.mp h
  cases hhold
  cases h
  exact ⟨rfl, ⟨⟨_, Assoc.get?_put_self, rfl, rfl⟩, rfl⟩, rfl⟩

/-- Binding host globals keeps what the two calls that it makes keep. -/
theorem bindUndefined_only {P : Simulator → Prop} {undefined : List String}
    (hlock : ∀ x n s y t, P s → s.lockMemory agent x n = (.ok y, t) → P t)
    (hdefine : ∀ name x s u t, P s → s.defineGlobal e name x = (.ok u, t) → P t)
    (hp : P p.world.accelerator)
    (h : (loader settings hooks).bindUndefined agent e undefined p = (.ok (), q)) :
    P q.world.accelerator ∧ q.world.host = p.world.host := by
  have hfollows : Follows (LoadProgress.Abreast p.world.host (fun _ _ => True) (Only P))
      ((loader settings hooks).bindUndefined agent e undefined)
      ((loader settings hooks).bindUndefined agent e undefined) fun _ _ =>
        LoadProgress.Abreast p.world.host (fun _ _ => True) (Only P) :=
    Loader.bindUndefined_follows
      (fun x n => Follows.only fun s hs y t h => hlock x n s y t hs h)
      (fun name x => (Follows.only fun s hs u t h => hdefine name x s u t hs h).imp
        fun _ _ _ _ h => h.2)
      rfl (fun _ _ _ _ => trivial) undefined
  obtain ⟨_, q', hq', habreast⟩ :=
    hfollows p p ⟨trivial, ⟨rfl, hp⟩, rfl, rfl, rfl, rfl, rfl⟩ () q h
  exact ⟨habreast.world.accelerator.2, habreast.world.host⟩

/-- Binding host globals leaves the code of an executable alone. -/
theorem bindUndefined_ok {undefined : List String} {codeObjects : Assoc CodeObjectHandle Bytes}
    (hp : AwaitsCode e codeObjects p.world.accelerator)
    (h : (loader settings hooks).bindUndefined agent e undefined p = (.ok (), q)) :
    AwaitsCode e codeObjects q.world.accelerator ∧ q.world.host = p.world.host :=
  bindUndefined_only (fun _ _ _ _ _ hs h => hs.lockMemory h)
    (fun _ _ _ _ _ hs h => hs.defineGlobal h) hp h

/-- Copying an image takes handles of its own, so the counter does not go back. -/
theorem copyImage_lastHandle_le {copied : Nat × CodeObjectHandle}
    (h : (loader settings hooks).copyImage agent image p = (.ok copied, q)) :
    p.world.accelerator.lastHandle ≤ q.world.accelerator.lastHandle := by
  have hcalls := accelerator_only (P := fun s => p.world.accelerator.lastHandle ≤ s.lastHandle)
    fun s t c hs => Nat.le_trans hs c.lastHandle_le
  have halike : AlikeE (LoadProgress.MatchOn (fun _ => True)
      (Only fun s : Simulator => p.world.accelerator.lastHandle ≤ s.lastHandle)) Eq
      ((loader settings hooks).copyImage agent image)
      ((loader settings hooks).copyImage agent image) := by
    refine (Loader.imageRegion_alike hcalls agent).andThen fun region => ?_
    refine (LoadStep.call_alike _ (hcalls.allocate _ _)).andThen fun address => ?_
    refine (LoadStep.hold_alike _).andThen fun _ => ?_
    refine (LoadStep.call_alike _ (hcalls.writeMemory _ _)).andThen fun _ => ?_
    refine (LoadStep.call_alike _ (hcalls.deserialize _ _)).andThen fun c => ?_
    exact (LoadStep.hold_alike _).andThen fun _ => AlikeE.pure rfl
  have hend := (halike p p ⟨rfl, World.Match.only (Nat.le_refl _)⟩).2
  rw [h] at hend
  exact hend.world.accelerator.2

theorem loadImageSteps_builds {undefined : List String} {d : DeviceImage}
    (h : (loader settings hooks).loadImageSteps agent image undefined p = (.ok (e, d), q)) :
    Built p.world.accelerator e image q.world.accelerator := by
  rw [Loader.loadImageSteps_eq] at h
  obtain ⟨⟨address, c⟩, p₁, hcopy, h⟩ := run_bind_eq_ok.mp h
  obtain ⟨-, hcode, -⟩ := copyImage_ok hcopy
  have hcounter := copyImage_lastHandle_le hcopy
  obtain ⟨e', p₂, hnew, h⟩ := run_bind_eq_ok.mp h
  obtain ⟨hid, hempty, -⟩ := newExecutable_ok hnew
  obtain ⟨_, p₃, hbind, h⟩ := run_bind_eq_ok.mp h
  obtain ⟨hempty, -⟩ := bindUndefined_ok hempty hbind
  obtain ⟨_, p₄, hload, h⟩ := run_bind_eq_ok.mp h
  obtain ⟨s, hs, rfl⟩ := LoadStep.call_ok_iff.mp hload
  obtain ⟨exe, hexe, -, hsymbols⟩ := hempty.executable
  -- the code object holds the image still
  have hcode : p₃.world.accelerator.codeObjects.get? c = some image := by
    rw [hempty.codeObjects]
    exact hcode
  have hthere : (p₃.world.accelerator.record (.loadCodeObject e' c)).executables.get? e' =
      some exe := hexe
  obtain ⟨exe₁, hexe₁, n, hshows⟩ :=
    loadImage_shows hthere hsymbols (loadCodeObject_ok (g := agent) hcode hs)
  obtain ⟨_, p₅, hfreeze, h⟩ := run_bind_eq_ok.mp h
  obtain ⟨t, ht, rfl⟩ := LoadStep.call_ok_iff.mp hfreeze
  cases h
  refine ⟨?_, freeze_shows hexe₁ hshows ht⟩
  rw [hid]
  exact Nat.lt_succ_of_le hcounter

theorem loadFileSteps_builds {path : String} {undefined : List String}
    (h : (loader settings hooks).loadFileSteps agent path undefined p = (.ok e, q))
    (hfile : p.world.host.files.read path = .ok image) :
    Built p.world.accelerator e image q.world.accelerator := by
  obtain ⟨e', p₁, hnew, h⟩ := run_bind_eq_ok.mp h
  obtain ⟨hid, hempty, hhost⟩ := newExecutable_ok hnew
  obtain ⟨_, p₂, hbind, h⟩ := run_bind_eq_ok.mp h
  obtain ⟨hempty, hhost'⟩ := bindUndefined_ok hempty hbind
  obtain ⟨_, _, hget, h⟩ := run_bind_eq_ok.mp h
  cases hget
  obtain ⟨r, p₃, hreader, h⟩ := run_bind_eq_ok.mp h
  obtain ⟨s, hs, rfl⟩ := LoadStep.call_ok_iff.mp hreader
  -- the reader reads what the loader has read
  obtain ⟨bytes, hbytes, hr, hsame⟩ := createReader_ok hs
  rw [hhost', hhost, hfile] at hbytes
  cases hbytes
  obtain ⟨_, _, hhold, h⟩ := run_bind_eq_ok.mp h
  cases hhold
  obtain ⟨_, p₄, hload, h⟩ := run_bind_eq_ok.mp h
  obtain ⟨s', hs', rfl⟩ := LoadStep.call_ok_iff.mp hload
  obtain ⟨exe, hexe, -, hsymbols⟩ := hempty.executable
  have hthere : (s.record (.loadReader e' r)).executables.get? e' = some exe := hsame ▸ hexe
  obtain ⟨exe₁, hexe₁, n, hshows⟩ :=
    loadImage_shows hthere hsymbols (loadReader_ok (g := agent) hr hs')
  obtain ⟨_, p₅, hfreeze, h⟩ := run_bind_eq_ok.mp h
  obtain ⟨t, ht, rfl⟩ := LoadStep.call_ok_iff.mp hfreeze
  cases h
  refine ⟨?_, freeze_shows hexe₁ hshows ht⟩
  rw [hid]
  exact Nat.lt_succ_self _

end Steps

/-! ## Loads -/

section Loads

variable {w w' : World Simulator} {current : Option Device} {m : LoadedModule}

theorem load_builds {path : String}
    (h : (loader settings hooks).load current path w = (.ok m, w')) :
    New w.accelerator m w'.accelerator := by
  unfold Loader.load at h
  obtain ⟨device, v, hdevice, hload⟩ := run_bind_eq_ok.mp h
  obtain ⟨-, hv⟩ := Attempt.device_ok_iff.mp hdevice
  subst hv
  obtain ⟨_, _, hreport, hload⟩ := run_bind_eq_ok.mp hload
  cases hreport
  obtain ⟨_, _, hget, hload⟩ := run_bind_eq_ok.mp hload
  cases hget
  dsimp only at hload
  cases hfile : v.host.files.read path with
  | error fault =>
    rw [hfile] at hload
    cases hload
  | ok image =>
    rw [hfile] at hload
    obtain ⟨_, _, hpure, hload⟩ := run_bind_eq_ok.mp hload
    cases hpure
    obtain ⟨undefined, u, hundefined, hsteps⟩ := run_bind_eq_ok.mp hload
    obtain ⟨-, hu⟩ := Attempt.wellFormed_ok_iff.mp hundefined
    subst hu
    obtain ⟨⟨e, held⟩, _, htransaction, hrest⟩ := run_bind_eq_ok.mp hsteps
    have hbuilt := loadFileSteps_builds (Loader.transaction_ok_iff.mp htransaction) hfile
    obtain ⟨_, _, hcommit, hrest⟩ := run_bind_eq_ok.mp hrest
    cases hcommit
    obtain ⟨_, _, hannounce, hrest⟩ := run_bind_eq_ok.mp hrest
    cases hannounce
    cases hrest
    exact ⟨hbuilt, rfl, rfl⟩

theorem loadData_builds {bytes : Bytes}
    (h : (loader settings hooks).loadData current bytes w = (.ok m, w')) :
    New w.accelerator m w'.accelerator := by
  obtain ⟨device, o, image, undefined, e, d, held, v, -, -, -, -, hsteps, rfl, rfl⟩ :=
    Loader.loadData_ok_iff.mp h
  exact ⟨loadImageSteps_builds hsteps, rfl, rfl⟩

/-- **Every load makes a frozen executable of its own**, with the symbols of the image. -/
theorem loadFrom_builds {source : LoadSource}
    (h : (loader settings hooks).loadFrom current source w = (.ok m, w')) :
    New w.accelerator m w'.accelerator := by
  cases source with
  | file path => exact load_builds h
  | memory bytes => exact loadData_builds h
  | memoryWith bytes options =>
    unfold Loader.loadFrom Loader.loadDataWith at h
    dsimp only at h
    split at h
    · exact loadData_builds h
    · -- options are only reported
      obtain ⟨_, _, hreport, h⟩ := run_bind_eq_ok.mp h
      cases hreport
      exact loadData_builds (w := { w with log := w.log ++ [.optionsIgnored options] }) h

end Loads

end Simulator

end DeviceCode

import DeviceCode.Proofs.Elf.Extent
import DeviceCode.Proofs.LoadSuccess

/-!
# The two ways to load

An image in memory and a file with the same bytes give modules that cannot be told apart by what is
looked up in them. From memory only the part up to the extent is loaded, from a file everything, and
the handles differ; but what the part says as an object the whole says too, so the same symbols are
exposed at the same addresses, and the same names are bound to the same host globals.

The two loads run side by side (`Follows`) over simulators that stay `Level`: without faults, with
the same pinned ranges, the same count of loads and the same sizes set. In the end the executables
are equal, under different handles.
-/

namespace DeviceCode

theorem Assoc.get?_put_self {κ α : Type} [DecidableEq κ] {m : Assoc κ α} {k : κ} {a : α} :
    (m.put k a).get? k = some a := by
  rw [get?_put, if_pos rfl]

namespace Simulator

variable {settings : LoaderSettings} {hooks : LaunchHooks} {agent : AgentHandle}
  {bytes image : Bytes} {c : CodeObjectHandle} {e e' : ExecutableHandle} {r : ReaderHandle}
  {sys : Host.System}

/-- Simulators without faults that agree on all that a load reads but their own handles. -/
structure Level (s t : Simulator) : Prop where
  pinned : s.pinned = t.pinned
  loads : s.loads = t.loads
  segmentSizes : s.segmentSizes = t.segmentSizes
  argumentSizes : s.argumentSizes = t.argumentSizes
  noFaults : s.faults = []
  noFaults' : t.faults = []

/-- The first simulator holds an image in a code object. -/
structure Copied (c : CodeObjectHandle) (image : Bytes) (s t : Simulator) : Prop extends
    Level s t where
  codeObject : s.codeObjects.get? c = some image

/-- An executable of the first simulator is, under another handle, one of the second. -/
structure Paired (c : CodeObjectHandle) (image : Bytes) (e e' : ExecutableHandle)
    (s t : Simulator) : Prop extends Copied c image s t where
  executable : ∃ exe, s.executables.get? e = some exe ∧ t.executables.get? e' = some exe

theorem Paired.there {s t : Simulator} {exe : Executable} (h : Paired c image e e' s t)
    (hexe : s.executables.get? e = some exe) : t.executables.get? e' = some exe := by
  obtain ⟨_, hs, ht⟩ := h.executable
  rw [hexe] at hs
  cases hs
  exact ht

theorem createExecutable_paired :
    Follows (Copied c image) createExecutable createExecutable fun e e' => Paired c image e e' := by
  intro s t h e s' hrun
  obtain ⟨-, rfl, rfl⟩ := createExecutable_ok_iff.mp hrun
  refine ⟨_, _, createExecutable_ok_iff.mpr ⟨faulty_of_faults h.noFaults' _, rfl, rfl⟩, ?_⟩
  exact { h with executable := ⟨{}, Assoc.get?_put_self, Assoc.get?_put_self⟩ }

theorem lockMemory_paired (g : AgentHandle) (x : UInt64) (n : Nat) :
    Follows (Paired c image e e') (fun s => s.lockMemory g x n) (fun s => s.lockMemory g x n)
      fun a b s t => a = b ∧ Paired c image e e' s t := by
  intro s t h y s' hrun
  obtain ⟨-, hrange, rfl, rfl⟩ := lockMemory_ok_iff.mp hrun
  refine ⟨_, _, lockMemory_ok_iff.mpr ⟨faulty_of_faults h.noFaults' _, hrange, rfl, rfl⟩, rfl, ?_⟩
  exact { h with pinned := by dsimp only; rw [h.pinned] }

theorem defineGlobal_paired (name : String) (x : UInt64) :
    Follows (Paired c image e e') (fun s => s.defineGlobal e name x)
      (fun s => s.defineGlobal e' name x) fun _ _ => Paired c image e e' := by
  intro s t h a s' hrun
  obtain ⟨-, exe, hexe, hopen, hs⟩ := defineGlobal_ok_iff.mp hrun
  cases hs
  refine ⟨(), _, defineGlobal_ok_iff.mpr ⟨faulty_of_faults h.noFaults' _, exe, h.there hexe, hopen,
    rfl⟩, ?_⟩
  exact { h with executable := ⟨_, Assoc.get?_put_self, Assoc.get?_put_self⟩ }

theorem freeze_paired :
    Follows (Paired c image e e') (fun s => s.freeze e) (fun s => s.freeze e')
      fun _ _ => Paired c image e e' := by
  intro s t h a s' hrun
  obtain ⟨-, exe, hexe, hopen, hs⟩ := freeze_ok_iff.mp hrun
  cases hs
  refine ⟨(), _, freeze_ok_iff.mpr ⟨faulty_of_faults h.noFaults' _, exe, h.there hexe, hopen, rfl⟩,
    ?_⟩
  exact { h with executable := ⟨_, Assoc.get?_put_self, Assoc.get?_put_self⟩ }

/-- Code that can be loaded from the first bytes of an image can be loaded from all of it, and
exposes the same symbols. -/
theorem loadCode_paired {n : Nat} {o : Elf.Object} (hparse : Elf.Object.parse bytes = .ok o)
    (g : AgentHandle) :
    Follows (fun s t => Paired c (bytes.take n) e e' s t ∧ t.readers.get? r = some bytes)
      (fun s => s.loadCodeObject e g c) (fun s => s.loadReader e' g r)
      fun _ _ => Paired c (bytes.take n) e e' := by
  rintro s t ⟨h, hr⟩ a s' hrun
  obtain ⟨o', undefined, symbols, exe, hparse', hundefined, hexe, hopen, hdefined, hexposed, rfl⟩ :=
    loadImage_ok_iff.mp (loadCodeObject_ok h.codeObject hrun)
  have hextends := Elf.Object.extends_of_take hparse' hparse
  have hexposed' : (t.record (.loadReader e' r)).exposed (codeBase (t.loads + 1)) o =
      .ok symbols := by
    rw [← h.loads, ← exposed_congr (s := s.record (.loadCodeObject e c))
      (t := t.record (.loadReader e' r)) h.segmentSizes h.argumentSizes]
    exact exposed_extends hextends hexposed
  have hload := (loadReader_of (e := e') (g := g) h.noFaults' hr).trans
    (loadImage_ok_iff.mpr ⟨o, undefined, symbols, exe, hparse,
      hextends.undefinedGlobals hundefined, h.there hexe, hopen, hdefined, hexposed', rfl⟩)
  refine ⟨(), _, hload, ?_⟩
  exact { h with
    loads := congrArg (· + 1) h.loads
    executable := ⟨_, Assoc.get?_put_self, Assoc.get?_put_self⟩ }

/-! ## The steps -/

/-- Only the pins among the holdings are the same. -/
def SamePins (held held' : Holdings) : Prop := held.pins = held'.pins

/-- **The steps of a load from a file succeed when those of a load from memory do**, and make the
same executable. -/
theorem loadFileSteps_follows {path : String} {undefined : List String} {n : Nat} {o : Elf.Object}
    (hparse : Elf.Object.parse bytes = .ok o) (hfile : sys.files.read path = .ok bytes) :
    Follows (LoadProgress.Abreast sys SamePins fun s t => s = t ∧ s.faults = [])
      ((loader settings hooks).loadImageSteps agent (bytes.take n) undefined)
      ((loader settings hooks).loadFileSteps agent path undefined)
      fun a b => LoadProgress.Abreast sys SamePins
        (Paired a.2.codeObject (bytes.take n) a.1 b) := by
  rw [Loader.loadImageSteps_eq]
  -- only the load from memory copies
  refine Follows.bind_left
    (M := fun copied => LoadProgress.Abreast sys SamePins (Copied copied.2 (bytes.take n))) ?_ ?_
  · rintro p q ⟨hheld, hworld⟩ ⟨address, c⟩ p' hrun
    obtain ⟨hst, hfaults⟩ := hworld.accelerator
    obtain ⟨-, hcode, lastHandle, pages, codeObjects, journal, rfl⟩ :=
      copyImage_ok hrun
    refine ⟨hheld, { hworld with accelerator := ?_ }⟩
    exact
      { pinned := congrArg (·.pinned) hst
        loads := congrArg (·.loads) hst
        segmentSizes := congrArg (·.segmentSizes) hst
        argumentSizes := congrArg (·.argumentSizes) hst
        noFaults := hfaults
        noFaults' := hst ▸ hfaults
        codeObject := hcode }
  rintro ⟨address, c⟩
  refine Follows.bind (T := fun e e' => LoadProgress.Abreast sys SamePins
    (Paired c (bytes.take n) e e')) ?_ fun e e' => ?_
  · refine (LoadStep.call_follows _ _ createExecutable_paired).bind fun e e' => ?_
    refine (LoadStep.hold_follows (J := SamePins) ?_).bind fun _ _ => ?_
    · exact fun _ _ h => h
    · exact Follows.pure fun _ _ h => h
  refine (Loader.bindUndefined_follows (lockMemory_paired agent) defineGlobal_paired rfl
    (fun _ _ _ _ => rfl) undefined).bind fun _ _ => ?_
  -- only the load from a file opens a reader
  refine Follows.bind_right (M := fun state p q => q = state ∧
    LoadProgress.Abreast sys SamePins (Paired c (bytes.take n) e e') p q)
    (fun p q h => ⟨q, q, rfl, rfl, h⟩) fun state => ?_
  refine Follows.bind_right (M := fun r => LoadProgress.Abreast sys SamePins fun s t =>
    Paired c (bytes.take n) e e' s t ∧ t.readers.get? r = some bytes) ?_ fun r => ?_
  · rintro p q ⟨rfl, hheld, hworld⟩
    rw [hworld.host']
    obtain ⟨journal, hopen⟩ := createReader_of hworld.accelerator.noFaults' hfile
    refine ⟨_, _, LoadStep.call_ok_iff.mpr ⟨_, hopen, rfl⟩, hheld,
      { hworld with accelerator := ?_ }⟩
    exact ⟨{ hworld.accelerator with }, by rw [Assoc.get?_put, if_pos rfl]⟩
  refine Follows.bind_right (M := fun _ => LoadProgress.Abreast sys SamePins fun s t =>
    Paired c (bytes.take n) e e' s t ∧ t.readers.get? r = some bytes)
    (fun p q h => ⟨(), _, rfl, h.held, h.world⟩) fun _ => ?_
  refine (LoadStep.call_follows _ _ (loadCode_paired hparse agent)).bind fun _ _ => ?_
  refine (LoadStep.call_follows _ _ freeze_paired).bind fun _ _ => ?_
  exact Follows.pure fun _ _ h => h

/-! ## Looking symbols up -/

/-- What an executable answers for a name: a symbol of its code, or a global that is bound to it. -/
def lookup (exe : Executable) (name : String) : Option ExecutableSymbol :=
  (exe.symbols.get? name).or ((exe.globals.get? name).map fun address =>
    { name, kind := .variable, address })

/-- The symbol of a name in an executable, if it fits. -/
def fitting (exe : Executable) (name : String) (fits : ExecutableSymbol → Bool) :
    Except LoadError ExecutableSymbol :=
  match (lookup exe name).filter fits with
  | some found => .ok found
  | none => .error (.symbolNotFound name)

/-- A function that is what looking its name up in an executable gives. -/
def Answers (exe : Executable) (f : KernelFunction) : Prop :=
  (fitting exe f.name (·.isKernel)).map (·.toFunction f.name) = .ok f

/-- The variable of a name: its address is the executable's, its size the one that the image
declares if it declares one. -/
def variableOf (exe : Executable) (image : Bytes) (name : String) :
    Except LoadError GlobalVariable := do
  let found ← fitting exe name fun _ => true
  let declared ← (Elf.Object.parse image >>= (·.symbolSize name)).mapError .malformedObject
  return { address := found.address
           size := if declared = 0 then found.size else UInt64.ofNat declared }

theorem liveExecutable_of {m : LoadedModule} (h : m.released.executable = false)
    (v : World Simulator) : Loader.liveExecutable m v = (.ok m.executable, v) := by
  unfold Loader.liveExecutable
  rw [h]
  rfl

/-- An executable that is there answers, unless the call is made to fail. -/
theorem getSymbol_eq {s : Simulator} {exe : Executable} (hask : s.faulty .getSymbol = false)
    (hexe : s.executables.get? e = some exe) (g : AgentHandle) (name : String) :
    s.getSymbol e g name = (.ok (lookup exe name), s.record (.getSymbol e name)) := by
  have hfaulty : (s.record (.getSymbol e name)).faulty .getSymbol = false := hask
  have hthere : (s.record (.getSymbol e name)).executables.get? e = some exe := hexe
  unfold getSymbol
  dsimp only
  rw [hfaulty, hthere]
  rfl

section Lookup

variable {exe : Executable} {m : LoadedModule} {v : World Simulator}
  (hask : v.accelerator.faulty .getSymbol = false)
  (hexe : v.accelerator.executables.get? m.executable = some exe)
include hask hexe

variable (settings hooks) in
theorem findSymbol_eq (device : Device) (name : String) (fits : ExecutableSymbol → Bool) :
    (loader settings hooks).findSymbol device m name fits v = (fitting exe name fits,
      { v with accelerator := v.accelerator.record (.getSymbol m.executable name) }) := by
  have hcall := getSymbol_eq hask hexe device.agent name
  unfold Loader.findSymbol fitting
  rw [run_bind_of_ok (Attempt.run_call_ok (.symbolQuery name) hcall)]
  cases (lookup exe name).filter fits with
  | some found => rfl
  | none => rfl

/-- A function is a kernel of the executable, whether it was looked up before or not. -/
theorem getFunction_eq (hlive : m.released.executable = false)
    (hknown : ∀ f ∈ m.functions, Answers exe f) (device : Device) (name : String) :
    ((loader settings hooks).getFunction (some device) m name v).1.map (·.1) =
      (fitting exe name (·.isKernel)).map (·.toFunction name) := by
  have hfind := findSymbol_eq settings hooks hask hexe device name (·.isKernel)
  unfold Loader.getFunction
  rw [run_bind_of_ok (Attempt.device_ok_iff.mpr ⟨rfl, rfl⟩),
    run_bind_of_ok (liveExecutable_of hlive v)]
  cases hremembered : m.known? name with
  | some f =>
    have hname : f.name = name := eq_of_beq (List.find?_some hremembered :)
    have hanswers := hknown f (List.mem_of_find?_eq_some hremembered)
    unfold Answers at hanswers
    rw [hname] at hanswers
    rw [hanswers]
    rfl
  | none =>
    dsimp only
    cases hfit : fitting exe name (·.isKernel) with
    | error err =>
      rw [hfit] at hfind
      rw [run_bind_of_error hfind]
      rfl
    | ok found =>
      rw [hfit] at hfind
      rw [run_bind_of_ok hfind]
      rfl

theorem getGlobal_eq (hlive : m.released.executable = false) (device : Device) (name : String) :
    ((loader settings hooks).getGlobal (some device) m name v).1 = variableOf exe m.image name := by
  have hfind := findSymbol_eq settings hooks hask hexe device name fun _ => true
  unfold Loader.getGlobal variableOf
  rw [run_bind_of_ok (Attempt.device_ok_iff.mpr ⟨rfl, rfl⟩),
    run_bind_of_ok (liveExecutable_of hlive v)]
  cases hfit : fitting exe name (fun _ => true) with
  | error err =>
    rw [hfit] at hfind
    rw [run_bind_of_error hfind]
    rfl
  | ok found =>
    rw [hfit] at hfind
    rw [run_bind_of_ok hfind]
    cases hdeclared : (Elf.Object.parse m.image >>= (·.symbolSize name)) <;> rfl

/-- A variable has the address that the executable answers, and the size that the image declares if
it declares one. -/
theorem getGlobal_ok_iff (hlive : m.released.executable = false) (device : Device) (name : String)
    {g : GlobalVariable} :
    ((loader settings hooks).getGlobal (some device) m name v).1 = .ok g ↔
      ∃ found declared, fitting exe name (fun _ => true) = .ok found ∧
        (Elf.Object.parse m.image >>= (·.symbolSize name)) = .ok declared ∧
        g = { address := found.address
              size := if declared = 0 then found.size else UInt64.ofNat declared } := by
  rw [getGlobal_eq hask hexe hlive device name]
  unfold variableOf
  cases fitting exe name (fun _ => true) with
  | error err => exact ⟨nofun, fun ⟨_, _, h, _⟩ => nomatch h⟩
  | ok found =>
    cases (Elf.Object.parse m.image >>= (·.symbolSize name)) with
    | error err => exact ⟨nofun, fun ⟨_, _, _, h, _⟩ => nomatch h⟩
    | ok declared =>
      constructor
      · intro h
        cases h
        exact ⟨found, declared, rfl, rfl, rfl⟩
      · rintro ⟨_, _, h, h', rfl⟩
        cases h
        cases h'
        rfl

end Lookup

/-! ## The two loads -/

/-- Two modules, each in its world, that cannot be told apart by what is looked up in them. From the
second world a variable may be answered that the first one fails to size. -/
structure LoadsAgree (l : Loader Simulator) (m m' : LoadedModule) (v v' : World Simulator) :
    Prop where
  id : m'.id = m.id
  /-- The same names are bound to the same host addresses. -/
  pins : v'.loader.residency.pins = v.loader.residency.pins
  executable : ∃ exe, v.accelerator.executables.get? m.executable = some exe ∧
    v'.accelerator.executables.get? m'.executable = some exe
  /-- A function is found in both, as the same record, or in neither. -/
  function : ∀ device name,
    (∃ f, (l.getFunction (some device) m name v).1.map (·.1) = .ok f ∧
      (l.getFunction (some device) m' name v').1.map (·.1) = .ok f) ∨
    ((l.getFunction (some device) m name v).1.map (·.1) = .error (.symbolNotFound name) ∧
      (l.getFunction (some device) m' name v').1.map (·.1) = .error (.symbolNotFound name))
  /-- A variable found in the first is the same in the second. -/
  global : ∀ device name g, (l.getGlobal (some device) m name v).1 = .ok g →
    (l.getGlobal (some device) m' name v').1 = .ok g

theorem fitting_cases (exe : Executable) (name : String) (fits : ExecutableSymbol → Bool) :
    (∃ found, fitting exe name fits = .ok found) ∨
      fitting exe name fits = .error (.symbolNotFound name) := by
  unfold fitting
  cases (lookup exe name).filter fits with
  | some found => exact .inl ⟨found, rfl⟩
  | none => exact .inr rfl

/-- A module in which nothing was looked up and of which nothing was released. -/
def Pristine (m : LoadedModule) : Prop := m.functions = [] ∧ m.released = {}

/-- Modules of equal executables agree when one image declares all sizes that the other does. -/
theorem loadsAgree_of {m m' : LoadedModule} {v v' : World Simulator} {exe : Executable}
    (hid : m'.id = m.id) (hpins : v'.loader.residency.pins = v.loader.residency.pins)
    (hm : Pristine m) (hm' : Pristine m') (hfaults : v.accelerator.faults = [])
    (hfaults' : v'.accelerator.faults = [])
    (hexe : v.accelerator.executables.get? m.executable = some exe)
    (hexe' : v'.accelerator.executables.get? m'.executable = some exe)
    (hsizes : ∀ name n, (Elf.Object.parse m.image >>= (·.symbolSize name)) = .ok n →
      (Elf.Object.parse m'.image >>= (·.symbolSize name)) = .ok n) :
    LoadsAgree (loader settings hooks) m m' v v' := by
  have hlive : m.released.executable = false := by rw [hm.2]
  have hlive' : m'.released.executable = false := by rw [hm'.2]
  have hask := faulty_of_faults hfaults .getSymbol
  have hask' := faulty_of_faults hfaults' .getSymbol
  refine
    { id := hid
      pins := hpins
      executable := ⟨exe, hexe, hexe'⟩
      function := fun device name => ?_
      global := fun device name g hg => ?_ }
  · rw [getFunction_eq hask hexe hlive (by rw [hm.1]; nofun),
      getFunction_eq hask' hexe' hlive' (by rw [hm'.1]; nofun)]
    rcases fitting_cases exe name (·.isKernel) with ⟨found, hfound⟩ | hnone
    · rw [hfound]
      exact .inl ⟨_, rfl, rfl⟩
    · rw [hnone]
      exact .inr ⟨rfl, rfl⟩
  · obtain ⟨found, declared, hfound, hdeclared, rfl⟩ :=
      (getGlobal_ok_iff hask hexe hlive device name).mp hg
    exact (getGlobal_ok_iff hask' hexe' hlive' device name).mpr
      ⟨found, declared, hfound, hsizes name declared hdeclared, rfl⟩

/-- **A file loads when an image with its bytes does, and both loads agree.** -/
theorem load_agrees (settings : LoaderSettings) (hooks : LaunchHooks) (w : World Simulator)
    (current : Option Device) (path : String) (bytes : Bytes) (m : LoadedModule)
    (hfaults : w.accelerator.faults = []) (hfile : w.host.files.read path = .ok bytes)
    (hloaded : ((loader settings hooks).loadData current bytes w).1 = .ok m) :
    ∃ m', ((loader settings hooks).load current path w).1 = .ok m' ∧
      LoadsAgree (loader settings hooks) m m' ((loader settings hooks).loadData current bytes w).2
        ((loader settings hooks).load current path w).2 := by
  rcases hrun : (loader settings hooks).loadData current bytes w with ⟨r, v⟩
  rw [hrun] at hloaded
  cases (hloaded : r = .ok m)
  obtain ⟨device, o, image, undefined, e, d, held, v₀, rfl, hparse, himage, hundefined, hsteps, rfl,
    rfl⟩ := Loader.loadData_ok_iff.mp hrun
  obtain ⟨-, -, rfl⟩ := o.objectBytes_ok_iff.mp himage
  rw [Elf.Object.parse_bytes hparse] at *
  let start (e : Trace.Event) : LoadProgress Simulator :=
    { world := { w with log := w.log ++ [e] } }
  obtain ⟨e', ⟨held', u₀⟩, hsteps', hheld, hworld⟩ := loadFileSteps_follows hparse
    hfile (start (.loadStarted "memory" (some bytes.length))) (start (.loadStarted path none))
    ⟨rfl, ⟨rfl, hfaults⟩, rfl, rfl, rfl, rfl, rfl⟩ _ _ hsteps
  have hnames : (Elf.Object.parse bytes >>= Elf.Object.undefinedGlobals) = .ok undefined := by
    rw [hparse]
    exact hundefined
  have hload := Loader.load_ok_of hfile hnames hsteps'
  rw [hload]
  refine ⟨_, rfl, ?_⟩
  obtain ⟨exe, hexe, hexe'⟩ := hworld.accelerator.executable
  have hpins : held.pins = held'.pins := hheld
  have hloader : v₀.loader = u₀.loader := hworld.loader
  refine loadsAgree_of ?_ ?_ ⟨rfl, rfl⟩ ⟨rfl, rfl⟩ hworld.accelerator.noFaults
    hworld.accelerator.noFaults' hexe hexe' ?_
  · show u₀.loader.nextModule = v₀.loader.nextModule
    rw [hloader]
  · show (u₀.loader.residency.retain _ held'.pins held'.reader).pins =
      (v₀.loader.residency.retain _ held.pins held.reader).pins
    unfold Residency.retain
    rw [hloader, hpins]
  · -- the part that was copied declares what the whole does, if it can be read
    intro name n hsize
    dsimp only at hsize ⊢
    cases hpart : Elf.Object.parse (bytes.take o.extent) with
    | error err =>
      rw [hpart] at hsize
      cases hsize
    | ok o' =>
      rw [hpart] at hsize
      rw [hparse]
      exact (Elf.Object.extends_of_take hpart hparse).symbolSize hsize

/-- A kernel and a table, with a host global to bind. -/
def kernelDraft : Elf.Draft where
  text := [0x90]
  symbols := [.function "vadd" 0x10 8, .object "table" 0x40 16]
  dynamic := [.undefined "counter"]

/-- A host with the draft in a file, which defines the global, and an empty simulator. -/
def filingWorld : World Simulator where
  accelerator := {}
  host := { files := { nodes := [(["k.o"], .file kernelDraft.encode)], workingFolder := [] } }
  loader := { hostImage := some ⟨"/host", 0, ⟨[("counter", ⟨0x5000, 8⟩)]⟩⟩ }

/-- Both loads of an object with a kernel, a table and a host global to bind. -/
theorem load_agrees_kernel :
    let device : Option Device := some ⟨0, ⟨0xa600⟩, ⟨0x9000⟩⟩
    let l := loader {} .default
    ∃ m m', filingWorld.accelerator.faults = [] ∧
      filingWorld.host.files.read "k.o" = .ok kernelDraft.encode ∧
      (l.loadData device kernelDraft.encode filingWorld).1 = .ok m ∧
      (l.load device "k.o" filingWorld).1 = .ok m' ∧
      LoadsAgree l m m' (l.loadData device kernelDraft.encode filingWorld).2
        (l.load device "k.o" filingWorld).2 := by
  intro device l
  have hfile : filingWorld.host.files.read "k.o" = .ok kernelDraft.encode := by
    have hzero : "k.o".contains '\x00' = false := by simp
    have hparts : "k.o".splitOn "/" = ["k.o"] := by cbv
    unfold Host.FileSystem.read Host.FileSystem.locate
    rw [hzero, hparts]
    decide +kernel
  have hok : (l.loadData device kernelDraft.encode filingWorld).1.isOk = true := by decide +kernel
  cases hloaded : (l.loadData device kernelDraft.encode filingWorld).1 with
  | error e =>
    rw [hloaded] at hok
    cases hok
  | ok m =>
    obtain ⟨m', hload, hagree⟩ :=
      load_agrees {} .default filingWorld device "k.o" kernelDraft.encode m rfl hfile hloaded
    exact ⟨m, m', rfl, hfile, rfl, hload, hagree⟩

end Simulator

end DeviceCode

import DeviceCode.Proofs.Elf.Extension
import DeviceCode.Proofs.Elf.FirstTables
import DeviceCode.Simulator.Dispatches

/-!
# When a call of the simulator succeeds

The calls that a load makes, with what their success tells: the conditions that were met and the
state that they leave, the count of loads included. For the calls that any two loads have in common
the conditions are also enough (`ok_iff`), so what one load has met can be used for the other.

An image that was allocated, written and deserialized is the image that the code object holds.
-/

namespace DeviceCode.Simulator

variable {s t : Simulator}

theorem faulty_of_faults (h : s.faults = []) (point : FaultPoint) : s.faulty point = false := by
  unfold faulty
  rw [h]
  rfl

theorem fail_ne_ok {α : Type} {operation reason : String} {status : Nat} {a : α} :
    (s.fail operation status reason : Reply Simulator α) ≠ (.ok a, t) := by
  intro h
  cases h

/-! ## Memory and code objects -/

/-- An allocation that was put last is the first one that is found at its address. -/
theorem allocationAt?_put {allocations : Assoc Nat Bytes} {address size : Nat} {bytes : Bytes}
    (h : t.allocations = allocations.put address bytes) (hsize : bytes.length = size) :
    t.allocationAt? address size = some (address, bytes) := by
  subst hsize
  unfold allocationAt?
  rw [h]
  exact List.find?_cons_of_pos (by simp)

theorem allocate_ok {region : RegionHandle} {size address : Nat}
    (h : s.allocate region size = (.ok address, t)) :
    ∃ pages journal, t = { s with
      pages, journal, allocations := s.allocations.put address (Bytes.zeros size) } := by
  unfold allocate at h
  split at h
  · cases h
  · split at h
    · cases h
    · cases h
      exact ⟨_, _, rfl⟩

theorem writeMemory_ok {address : Nat} {old bytes : Bytes}
    (hat : s.allocationAt? address bytes.length = some (address, old))
    (h : s.writeMemory address bytes = (.ok (), t)) :
    ∃ journal, t = { s with
      journal, allocations := s.allocations.put address (Bytes.overwrite old 0 bytes) } := by
  unfold writeMemory at h
  dsimp only at h
  split at h
  · cases h
  · rw [show (s.record (.writeMemory address)).allocationAt? address bytes.length =
      some (address, old) from hat] at h
    cases h
    rw [Nat.sub_self]
    exact ⟨_, rfl⟩

theorem deserialize_ok {address size : Nat} {bytes : Bytes} {c : CodeObjectHandle}
    (hat : s.allocationAt? address size = some (address, bytes))
    (h : s.deserialize address size = (.ok c, t)) :
    (∃ o, Elf.Object.parse (Bytes.slice bytes 0 size) = .ok o) ∧ ∃ lastHandle journal, t = { s with
      lastHandle, journal, codeObjects := s.codeObjects.put c (Bytes.slice bytes 0 size) } := by
  unfold deserialize at h
  rw [hat] at h
  dsimp only at h
  rw [Nat.sub_self] at h
  split at h
  · cases h
  · split at h
    · cases h
    · next o hparse =>
      cases h
      exact ⟨⟨o, hparse⟩, _, _, rfl⟩

/-! ## Readers -/

theorem createReader_of {fs : Host.FileSystem} {path : String} {bytes : Bytes}
    (hfaults : s.faults = []) (hfile : fs.read path = .ok bytes) :
    ∃ journal, s.createReader fs path = (.ok ⟨s.nextHandle⟩, { s with
      journal, lastHandle := s.nextHandle, readers := s.readers.put ⟨s.nextHandle⟩ bytes }) := by
  unfold createReader
  rw [faulty_of_faults hfaults, hfile]
  exact ⟨_, rfl⟩

/-! ## Executables -/

theorem createExecutable_ok_iff {e : ExecutableHandle} :
    s.createExecutable = (.ok e, t) ↔ s.faulty .createExecutable = false ∧ e = ⟨s.nextHandle⟩ ∧
      t = { s with
        lastHandle := s.nextHandle
        executables := s.executables.put e {}
        journal := s.journal ++ [.createExecutable e] } := by
  unfold createExecutable
  split
  · next hfault =>
    exact ⟨fun h => absurd h fail_ne_ok, fun h => absurd hfault (ne_true_of_eq_false h.1)⟩
  · next hfault =>
    constructor
    · intro h
      cases h
      exact ⟨eq_false_of_ne_true hfault, rfl, rfl⟩
    · rintro ⟨-, rfl, rfl⟩
      rfl

theorem lockMemory_ok_iff {g : AgentHandle} {x y : UInt64} {size : Nat} :
    s.lockMemory g x size = (.ok y, t) ↔ s.faulty .lockMemory = false ∧ ¬ (x = 0 ∨ size = 0) ∧
      y = x ∧ t = { s with
        pinned := s.pinned.put x ⟨max ((s.pinned.get? x).getD ⟨0, 0⟩).size size,
          ((s.pinned.get? x).getD ⟨0, 0⟩).holders + 1⟩
        journal := s.journal ++ [.lockMemory x] } := by
  unfold lockMemory
  dsimp only
  split
  · next hfault =>
    exact ⟨fun h => absurd h fail_ne_ok, fun h => absurd hfault (ne_true_of_eq_false h.1)⟩
  next hfault =>
  split
  · next hrange => exact ⟨fun h => absurd h fail_ne_ok, fun h => absurd hrange h.2.1⟩
  next hrange =>
  constructor
  · intro h
    cases h
    exact ⟨eq_false_of_ne_true hfault, hrange, rfl, rfl⟩
  · rintro ⟨-, -, rfl, rfl⟩
    rfl

/-- What is done to an executable that must be there and not frozen. -/
theorem open_ok_iff {e : ExecutableHandle} {unknown : Reply Simulator Unit}
    {frozen change : Executable → Reply Simulator Unit} (hunknown : unknown ≠ (.ok (), t))
    (hfrozen : ∀ exe, frozen exe ≠ (.ok (), t)) :
    (match s.executables.get? e with
      | none => unknown
      | some exe => if exe.frozen then frozen exe else change exe) = (.ok (), t) ↔
      ∃ exe : Executable, s.executables.get? e = some exe ∧ exe.frozen = false ∧
        change exe = (.ok (), t) := by
  cases s.executables.get? e with
  | none =>
    refine ⟨fun h => absurd h hunknown, ?_⟩
    rintro ⟨exe, hexe, -⟩
    cases hexe
  | some exe =>
    dsimp only
    constructor
    · intro h
      split at h
      · exact absurd h (hfrozen exe)
      · next hopen => exact ⟨exe, rfl, eq_false_of_ne_true hopen, h⟩
    · rintro ⟨exe', hexe, hopen, h⟩
      cases hexe
      rw [if_neg (ne_true_of_eq_false hopen)]
      exact h

theorem defineGlobal_ok_iff {e : ExecutableHandle} {name : String} {x : UInt64} :
    s.defineGlobal e name x = (.ok (), t) ↔ s.faulty .defineGlobal = false ∧
      ∃ exe : Executable, s.executables.get? e = some exe ∧ exe.frozen = false ∧
        (.ok (), { s with
          executables := s.executables.put e { exe with globals := exe.globals.put name x }
          journal := s.journal ++ [.defineGlobal e name] }) =
            ((.ok (), t) : Reply Simulator Unit) := by
  unfold defineGlobal
  dsimp only
  split
  · next hfault =>
    exact ⟨fun h => absurd h fail_ne_ok, fun h => absurd hfault (ne_true_of_eq_false h.1)⟩
  · next hfault =>
    rw [and_iff_right (show s.faulty .defineGlobal = false from eq_false_of_ne_true hfault)]
    exact open_ok_iff fail_ne_ok fun _ => fail_ne_ok

theorem freeze_ok_iff {e : ExecutableHandle} :
    s.freeze e = (.ok (), t) ↔ s.faulty .freeze = false ∧
      ∃ exe : Executable, s.executables.get? e = some exe ∧ exe.frozen = false ∧
        (.ok (), { s with
          executables := s.executables.put e { exe with frozen := true }
          journal := s.journal ++ [.freeze e] }) =
            ((.ok (), t) : Reply Simulator Unit) := by
  unfold freeze
  dsimp only
  split
  · next hfault =>
    exact ⟨fun h => absurd h fail_ne_ok, fun h => absurd hfault (ne_true_of_eq_false h.1)⟩
  · next hfault =>
    rw [and_iff_right (show s.faulty .freeze = false from eq_false_of_ne_true hfault)]
    exact open_ok_iff fail_ne_ok fun _ => fail_ne_ok

/-! ## Loading code -/

/-- What is exposed comes from the definitions, in their order. -/
theorem exposed_eq {base : UInt64} {o : Elf.Object} :
    s.exposed base o = o.definitions.map (·.filterMap (s.expose? base)) := by
  unfold exposed Elf.Object.definitions
  cases o.symbolTable with
  | error e => rfl
  | ok static =>
    cases o.dynamicSymbolTable with
    | error e => rfl
    | ok dynamic => exact congrArg Except.ok List.filterMap_flatMap.symm

/-- What is exposed depends on the sizes that were set, and on nothing else of the simulator. -/
theorem exposed_congr (hsegments : s.segmentSizes = t.segmentSizes)
    (harguments : s.argumentSizes = t.argumentSizes) (base : UInt64) (o : Elf.Object) :
    s.exposed base o = t.exposed base o := by
  have hkernel : s.kernelSymbol = t.kernelSymbol := by
    funext name address
    unfold kernelSymbol
    rw [hsegments, harguments]
  unfold exposed expose?
  rw [hkernel]

/-- A longer image exposes what the shorter one does. -/
theorem exposed_extends {o o' : Elf.Object} (h : o.Extends o') {base : UInt64}
    {symbols : List ExecutableSymbol} (hexposed : s.exposed base o = .ok symbols) :
    s.exposed base o' = .ok symbols := by
  unfold exposed Elf.Object.symbolTable Elf.Object.dynamicSymbolTable at hexposed ⊢
  cases hstatic : o.firstTable Elf.SectionHeader.symtab with
  | error err =>
    rw [hstatic] at hexposed
    cases hexposed
  | ok static =>
    cases hdynamic : o.firstTable Elf.SectionHeader.dynsym with
    | error err =>
      rw [hstatic, hdynamic] at hexposed
      cases hexposed
    | ok dynamic =>
      rw [hstatic, hdynamic] at hexposed
      rw [h.firstTable hstatic, h.firstTable hdynamic]
      exact hexposed

theorem loadImage_ok_iff {operation : String} {e : ExecutableHandle} {image : Bytes} :
    s.loadImage operation e image = (.ok (), t) ↔
      ∃ o undefined symbols, ∃ exe : Executable, Elf.Object.parse image = .ok o ∧
        o.undefinedGlobals = .ok undefined ∧ s.executables.get? e = some exe ∧
        exe.frozen = false ∧ undefined.find? (!exe.globals.contains ·) = none ∧
        s.exposed (codeBase (s.loads + 1)) o = .ok symbols ∧ t = { s with
          loads := s.loads + 1
          executables := s.executables.put e (addSymbols exe symbols) } := by
  unfold loadImage
  dsimp only
  cases hparse : Elf.Object.parse image with
  | error err =>
    refine ⟨fun h => absurd h fail_ne_ok, ?_⟩
    rintro ⟨o, _, _, _, ho, -⟩
    cases ho
  | ok o =>
    dsimp only
    refine Iff.trans (open_ok_iff fail_ne_ok fun _ => fail_ne_ok) ?_
    constructor
    · rintro ⟨exe, hexe, hopen, h⟩
      split at h
      · cases h
      next undefined hundefined =>
      split at h
      · cases h
      next hdefined =>
      split at h
      · cases h
      next symbols hexposed =>
      cases h
      exact ⟨o, undefined, symbols, exe, rfl, hundefined, hexe, hopen, hdefined, hexposed, rfl⟩
    · rintro ⟨_, undefined, symbols, exe, ho, hundefined, hexe, hopen, hdefined, hexposed, rfl⟩
      cases ho
      refine ⟨exe, hexe, hopen, ?_⟩
      have hexposed' : ({ s with loads := s.loads + 1 } : Simulator).exposed
        (codeBase (s.loads + 1)) o = .ok symbols := hexposed
      rw [hundefined]
      dsimp only
      rw [hdefined]
      dsimp only
      rw [hexposed']

theorem loadCodeObject_ok {e : ExecutableHandle} {g : AgentHandle} {c : CodeObjectHandle}
    {image : Bytes} (hc : s.codeObjects.get? c = some image)
    (h : s.loadCodeObject e g c = (.ok (), t)) :
    (s.record (.loadCodeObject e c)).loadImage "executable_load_code_object" e image =
      (.ok (), t) := by
  unfold loadCodeObject at h
  dsimp only at h
  split at h
  · cases h
  · rwa [show (s.record (.loadCodeObject e c)).codeObjects.get? c = some image from hc] at h

/-- Code is loaded only from a code object that is there. -/
theorem loadCodeObject_image {e : ExecutableHandle} {g : AgentHandle} {c : CodeObjectHandle}
    (h : s.loadCodeObject e g c = (.ok (), t)) : ∃ image, s.codeObjects.get? c = some image := by
  unfold loadCodeObject at h
  dsimp only at h
  split at h
  · cases h
  · split at h
    · cases h
    · next image hc => exact ⟨image, hc⟩

theorem loadReader_ok {e : ExecutableHandle} {g : AgentHandle} {r : ReaderHandle} {image : Bytes}
    (hr : s.readers.get? r = some image) (h : s.loadReader e g r = (.ok (), t)) :
    (s.record (.loadReader e r)).loadImage "executable_load_agent_code_object" e image =
      (.ok (), t) := by
  unfold loadReader at h
  dsimp only at h
  split at h
  · cases h
  · rwa [show (s.record (.loadReader e r)).readers.get? r = some image from hr] at h

/-- Code is loaded only from a reader that is there. -/
theorem loadReader_image {e : ExecutableHandle} {g : AgentHandle} {r : ReaderHandle}
    (h : s.loadReader e g r = (.ok (), t)) : ∃ image, s.readers.get? r = some image := by
  unfold loadReader at h
  dsimp only at h
  split at h
  · cases h
  · split at h
    · cases h
    · next image hr => exact ⟨image, hr⟩

theorem loadReader_of {e : ExecutableHandle} {g : AgentHandle} {r : ReaderHandle} {image : Bytes}
    (hfaults : s.faults = []) (hr : s.readers.get? r = some image) :
    s.loadReader e g r =
      (s.record (.loadReader e r)).loadImage "executable_load_agent_code_object" e image := by
  have hfaulty : (s.record (.loadReader e r)).faulty .loadReader = false :=
    faulty_of_faults hfaults _
  have hreader : (s.record (.loadReader e r)).readers.get? r = some image := hr
  unfold loadReader
  dsimp only
  rw [hfaulty, hreader]
  rfl

end DeviceCode.Simulator

import DeviceCode.Proofs.Session

/-!
# Keeping books on what is kept

Whatever the simulator keeps, somebody must answer for: modules for executables, code objects and
device memory, the residency registry for readers and pins. `Books` puts both sides next to each
other. They are `Solvent` when everything that somebody answers for is there, counted with its
multiplicity, and `Exact` when nothing else is.

Both are kept by every change that moves the two sides by the same amounts (`Balanced`), so each
operation needs a single lemma.
-/

namespace DeviceCode

namespace LoadedModule

variable (m : LoadedModule)

/-- The module as it was when it was loaded. -/
def pristine : LoadedModule := { m with functions := [], released := {} }

/-- The executable, until an unload destroys it. -/
def executable? : Option ExecutableHandle :=
  if m.released.executable then none else some m.executable

/-- The code object, if the module has one, until an unload destroys it. -/
def codeObject? : Option CodeObjectHandle :=
  if m.released.codeObject then none else m.deviceImage.map (·.codeObject)

/-- The device image's memory, if the module has one, until an unload frees it. -/
def allocation? : Option Nat :=
  if m.released.deviceImage then none else m.deviceImage.map (·.address)

/-- Nothing is left to answer for. -/
structure Spent : Prop where
  executable : m.executable? = none
  codeObject : m.codeObject? = none
  allocation : m.allocation? = none

variable {m}

theorem executable?_of_released (h : m.released.executable = true) : m.executable? = none :=
  if_pos h

theorem executable?_of_not (h : ¬ m.released.executable = true) :
    m.executable? = some m.executable := if_neg h

theorem codeObject?_of_released (h : m.released.codeObject = true) : m.codeObject? = none :=
  if_pos h

theorem codeObject?_of_not {d : DeviceImage} (h : ¬ m.released.codeObject = true)
    (hd : m.deviceImage = some d) : m.codeObject? = some d.codeObject := by
  unfold codeObject?
  rw [if_neg h, hd]
  rfl

theorem allocation?_of_released (h : m.released.deviceImage = true) : m.allocation? = none :=
  if_pos h

theorem allocation?_of_not {d : DeviceImage} (h : ¬ m.released.deviceImage = true)
    (hd : m.deviceImage = some d) : m.allocation? = some d.address := by
  unfold allocation?
  rw [if_neg h, hd]
  rfl

/-- A module from a file has no code object and no device memory. -/
theorem codeObject?_of_file (h : m.deviceImage = none) : m.codeObject? = none := by
  unfold codeObject?
  rw [h]
  exact ite_self _

theorem allocation?_of_file (h : m.deviceImage = none) : m.allocation? = none := by
  unfold allocation?
  rw [h]
  exact ite_self _

end LoadedModule

/-- What a simulator keeps, and those who answer for it. -/
structure Books where
  simulator : Simulator
  modules : List LoadedModule
  residency : Residency

namespace Books

variable (b : Books)

/-- How many modules answer for an executable. -/
def executablesOwned (e : ExecutableHandle) : Nat :=
  (b.modules.filterMap (·.executable?)).count e

def codeObjectsOwned (c : CodeObjectHandle) : Nat :=
  (b.modules.filterMap (·.codeObject?)).count c

def allocationsOwned (x : Nat) : Nat := (b.modules.filterMap (·.allocation?)).count x

/-- How many entries of the registry answer for a reader. -/
def readersOwned (r : ReaderHandle) : Nat := (b.residency.readers.map (·.2)).count r

/-- How many entries of the registry answer for a pin of a host address. -/
def pinsOwned (x : UInt64) : Nat := (b.residency.pins.map (·.2.hostAddress)).count x

/-- Everything that somebody answers for is kept. -/
structure Solvent : Prop where
  executables : ∀ e, b.executablesOwned e ≤ b.simulator.executables.tally e
  codeObjects : ∀ c, b.codeObjectsOwned c ≤ b.simulator.codeObjects.tally c
  allocations : ∀ x, b.allocationsOwned x ≤ b.simulator.allocations.tally x
  readers : ∀ r, b.readersOwned r ≤ b.simulator.readers.tally r
  pins : ∀ x, b.pinsOwned x ≤ b.simulator.holders x

/-- And nothing else is kept. -/
structure Exact : Prop where
  executables : ∀ e, b.executablesOwned e = b.simulator.executables.tally e
  codeObjects : ∀ c, b.codeObjectsOwned c = b.simulator.codeObjects.tally c
  allocations : ∀ x, b.allocationsOwned x = b.simulator.allocations.tally x
  readers : ∀ r, b.readersOwned r = b.simulator.readers.tally r
  pins : ∀ x, b.pinsOwned x = b.simulator.holders x

/-- Both sides have moved by the same amounts. -/
structure Balanced (b b' : Books) : Prop where
  executables : ∀ e, b'.executablesOwned e + b.simulator.executables.tally e =
    b.executablesOwned e + b'.simulator.executables.tally e
  codeObjects : ∀ c, b'.codeObjectsOwned c + b.simulator.codeObjects.tally c =
    b.codeObjectsOwned c + b'.simulator.codeObjects.tally c
  allocations : ∀ x, b'.allocationsOwned x + b.simulator.allocations.tally x =
    b.allocationsOwned x + b'.simulator.allocations.tally x
  readers : ∀ r, b'.readersOwned r + b.simulator.readers.tally r =
    b.readersOwned r + b'.simulator.readers.tally r
  pins : ∀ x, b'.pinsOwned x + b.simulator.holders x = b.pinsOwned x + b'.simulator.holders x

variable {b} {b' : Books}

theorem Balanced.solvent (h : Balanced b b') (hb : b.Solvent) : b'.Solvent where
  executables e := by have := h.executables e; have := hb.executables e; omega
  codeObjects c := by have := h.codeObjects c; have := hb.codeObjects c; omega
  allocations x := by have := h.allocations x; have := hb.allocations x; omega
  readers r := by have := h.readers r; have := hb.readers r; omega
  pins x := by have := h.pins x; have := hb.pins x; omega

theorem Balanced.exact (h : Balanced b b') (hb : b.Exact) : b'.Exact where
  executables e := by have := h.executables e; have := hb.executables e; omega
  codeObjects c := by have := h.codeObjects c; have := hb.codeObjects c; omega
  allocations x := by have := h.allocations x; have := hb.allocations x; omega
  readers r := by have := h.readers r; have := hb.readers r; omega
  pins x := by have := h.pins x; have := hb.pins x; omega

/-! ## What solvency means for single things -/

theorem count_filterMap_pos {α β : Type} [BEq β] [LawfulBEq β] {f : α → Option β} {l : List α}
    {a : α} {y : β} (ha : a ∈ l) (hf : f a = some y) : 0 < (l.filterMap f).count y :=
  List.count_pos_iff.mpr (List.mem_filterMap.mpr ⟨a, ha, hf⟩)

namespace Solvent

variable {m : LoadedModule}

theorem contains_executable (h : b.Solvent) (hm : m ∈ b.modules) {e : ExecutableHandle}
    (he : m.executable? = some e) : b.simulator.executables.contains e = true :=
  Assoc.tally_pos.mp (Nat.lt_of_lt_of_le (count_filterMap_pos hm he) (h.executables e))

theorem contains_codeObject (h : b.Solvent) (hm : m ∈ b.modules) {c : CodeObjectHandle}
    (hc : m.codeObject? = some c) : b.simulator.codeObjects.contains c = true :=
  Assoc.tally_pos.mp (Nat.lt_of_lt_of_le (count_filterMap_pos hm hc) (h.codeObjects c))

theorem contains_allocation (h : b.Solvent) (hm : m ∈ b.modules) {x : Nat}
    (hx : m.allocation? = some x) : b.simulator.allocations.contains x = true :=
  Assoc.tally_pos.mp (Nat.lt_of_lt_of_le (count_filterMap_pos hm hx) (h.allocations x))

theorem contains_reader (h : b.Solvent) {id : ModuleId} {r : ReaderHandle}
    (hr : (id, r) ∈ b.residency.readers) : b.simulator.readers.contains r = true := by
  have hpos : 0 < b.readersOwned r :=
    List.count_pos_iff.mpr (List.mem_map.mpr ⟨(id, r), hr, rfl⟩)
  exact Assoc.tally_pos.mp (Nat.lt_of_lt_of_le hpos (h.readers r))

end Solvent

/-! ## Books after a change of one module -/

section OneModule

variable {α β : Type}

theorem count_filterMap_cons [BEq β] (f : α → Option β) (a : α) (l : List α) (y : β) :
    ((a :: l).filterMap f).count y = (f a).toList.count y + (l.filterMap f).count y := by
  rw [List.filterMap_cons]
  cases f a with
  | none => rw [Option.toList_none, List.count_nil, Nat.zero_add]
  | some v => rw [Option.toList_some, List.count_cons, List.count_singleton, Nat.add_comm]

/-- A module is replaced in its place. -/
theorem count_filterMap_set [BEq β] (f : α → Option β) (l : List α) {i : Nat} {a : α}
    (ha : l[i]? = some a) (a' : α) (y : β) :
    ((l.set i a').filterMap f).count y + (f a).toList.count y =
      (l.filterMap f).count y + (f a').toList.count y := by
  induction l generalizing i with
  | nil => cases ha
  | cons x xs ih =>
    cases i with
    | zero =>
      cases ha
      rw [List.set_cons_zero, count_filterMap_cons, count_filterMap_cons]
      omega
    | succ i =>
      rw [List.set_cons_succ, count_filterMap_cons, count_filterMap_cons]
      have := ih ha
      omega

/-- A module leaves. -/
theorem count_filterMap_eraseIdx [BEq β] (f : α → Option β) (l : List α) {i : Nat} {a : α}
    (ha : l[i]? = some a) (y : β) :
    ((l.eraseIdx i).filterMap f).count y + (f a).toList.count y = (l.filterMap f).count y := by
  induction l generalizing i with
  | nil => cases ha
  | cons x xs ih =>
    cases i with
    | zero =>
      cases ha
      rw [List.eraseIdx_cons_zero, count_filterMap_cons, Nat.add_comm]
    | succ i =>
      rw [List.eraseIdx_cons_succ, count_filterMap_cons, count_filterMap_cons]
      have := ih ha
      omega

/-- A module comes in. -/
theorem count_filterMap_concat [BEq β] (f : α → Option β) (l : List α) (a : α) (y : β) :
    ((l ++ [a]).filterMap f).count y = (l.filterMap f).count y + (f a).toList.count y := by
  rw [List.filterMap_append, List.count_append, count_filterMap_cons, List.filterMap_nil,
    List.count_nil, Nat.add_zero]

end OneModule

end Books

/-- The books of a session. -/
def Session.books (s : Session Simulator) : Books where
  simulator := s.world.accelerator
  modules := s.modules
  residency := s.world.loader.residency

end DeviceCode

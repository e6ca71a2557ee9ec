import DeviceCode.Proofs.LoadPaths
import DeviceCode.Proofs.Soundness

/-!
# Using the simulator directly

The simulator can be used without a loader: by its calls, and by switching faults, sizes and the
region in between. `Operation.run` performs such operations one after the other, and
`Operation.history` lists them with whether they succeeded.

`Operation.Turns` says what an operation can do to what is under one executable's handle, and
`Operation.run_tells` what the history tells of the state at its end: the sizes that are set, and
for every executable the addresses its globals are bound to, whether it is frozen, and that it has
no symbols before code was loaded.
-/

namespace DeviceCode

namespace Simulator

variable {α β : Type} {s t : Simulator}

theorem Fails.same {r : Reply Simulator α} (h : Fails r s) (f : Simulator → β)
    (hf : ∀ s journal loads, f { s with journal, loads } = f s) : f r.2 = f s := by
  obtain ⟨err, journal, loads, rfl⟩ := h
  exact hf s journal loads

theorem Succeeds.same {r : Reply Simulator α} {a : α} (h : Succeeds r a t) (f : Simulator → β)
    (hf : ∀ s journal loads, f { s with journal, loads } = f s) : f r.2 = f t := by
  obtain ⟨journal, loads, rfl⟩ := h
  exact hf t journal loads

theorem inject_eq (s : Simulator) (point : FaultPoint) :
    ∃ faults, s.inject point = { s with faults } := by
  unfold inject
  split
  · exact ⟨s.faults, rfl⟩
  · exact ⟨_, rfl⟩

/-- What is set from outside. -/
def settings (s : Simulator) :
    List FaultPoint × Assoc String (UInt32 × UInt32) × Assoc String UInt32 × Bool :=
  (s.faults, s.segmentSizes, s.argumentSizes, s.hasRegion)

/-- No call changes what is set from outside. -/
theorem Called.settings_eq (c : Called s t) : t.settings = s.settings := by
  have hsame : ∀ (s : Simulator) journal loads, settings { s with journal, loads } = s.settings :=
    fun _ _ _ => rfl
  cases c with
  | createExecutable =>
    rcases createExecutable_cases s with h | h <;> exact h.same settings hsame
  | loadReader e g r =>
    rcases loadReader_cases s e g r with h | ⟨_, _, _, _, _, h⟩ <;> exact h.same settings hsame
  | loadCodeObject e g c =>
    rcases loadCodeObject_cases s e g c with h | ⟨_, _, _, _, _, h⟩ <;> exact h.same settings hsame
  | freeze e =>
    rcases freeze_cases s e with ⟨_, h⟩ | ⟨_, _, _, _, h⟩ <;> exact h.same settings hsame
  | destroyExecutable e =>
    rcases destroyExecutable_cases s e with ⟨_, h⟩ | ⟨_, _, h⟩ <;> exact h.same settings hsame
  | getSymbol e g n =>
    obtain ⟨journal, loads, hstate⟩ := getSymbol_state s e g n
    exact (congrArg settings hstate :)
  | defineGlobal e n x =>
    rcases defineGlobal_cases s e n x with h | ⟨_, _, _, _, _, h⟩ <;> exact h.same settings hsame
  | createReader fs p =>
    rcases createReader_cases s fs p with h | ⟨_, h⟩ <;> exact h.same settings hsame
  | destroyReader r =>
    rcases destroyReader_cases s r with ⟨_, h⟩ | ⟨_, h⟩ <;> exact h.same settings hsame
  | deserialize x n =>
    rcases deserialize_cases s x n with h | ⟨_, h⟩ <;> exact h.same settings hsame
  | destroyCodeObject c =>
    rcases destroyCodeObject_cases s c with ⟨_, h⟩ | ⟨_, h⟩ <;> exact h.same settings hsame
  | lockMemory g x n =>
    rcases lockMemory_cases s g x n with h | ⟨_, _, h⟩ <;> exact h.same settings hsame
  | unlockMemory x =>
    rcases unlockMemory_cases s x with ⟨_, h⟩ | ⟨_, _, h⟩ <;> exact h.same settings hsame
  | findRegion g => exact congrArg settings (findRegion_state s g)
  | allocate r n =>
    rcases allocate_cases s r n with h | ⟨_, _, h⟩ <;> exact h.same settings hsame
  | free x =>
    rcases free_cases s x with ⟨_, h⟩ | ⟨_, _, h⟩ <;> exact h.same settings hsame
  | writeMemory x bs =>
    rcases writeMemory_cases s x bs with h | ⟨_, _, _, _, h⟩ <;> exact h.same settings hsame
  | dispatch g q p bs w =>
    obtain ⟨_, _, _, hstate | hstate⟩ := dispatch_state s g q p bs w
    all_goals exact (congrArg settings hstate :)
  | synchronize g =>
    obtain ⟨journal, loads, hstate⟩ := synchronize_state s g
    exact (congrArg settings hstate :)
  | releaseCompletion c =>
    obtain ⟨_, _, hstate | hstate⟩ := releaseCompletion_state s c
    all_goals exact (congrArg settings hstate :)

end Simulator

open Simulator

/-- What the simulator can be asked for. -/
inductive Operation where
  | createExecutable
  | loadReader (e : ExecutableHandle) (g : AgentHandle) (r : ReaderHandle)
  | loadCodeObject (e : ExecutableHandle) (g : AgentHandle) (c : CodeObjectHandle)
  | freeze (e : ExecutableHandle)
  | destroyExecutable (e : ExecutableHandle)
  | getSymbol (e : ExecutableHandle) (g : AgentHandle) (name : String)
  | defineGlobal (e : ExecutableHandle) (name : String) (address : UInt64)
  | createReader (fs : Host.FileSystem) (path : String)
  | destroyReader (r : ReaderHandle)
  | deserialize (address size : Nat)
  | destroyCodeObject (c : CodeObjectHandle)
  | lockMemory (g : AgentHandle) (address : UInt64) (size : Nat)
  | unlockMemory (address : UInt64)
  | findRegion (g : AgentHandle)
  | allocate (region : RegionHandle) (size : Nat)
  | free (address : Nat)
  | writeMemory (address : Nat) (bytes : Bytes)
  | dispatch (g : AgentHandle) (q : QueueHandle) (packet : Packet) (arguments : Bytes)
      (wantCompletion : Bool)
  | synchronize (g : AgentHandle)
  | releaseCompletion (c : CompletionHandle)
  | inject (point : FaultPoint)
  | clearFaults
  | setSegmentSizes (kernel : String) (group private_ : UInt32)
  | setArgumentSize (kernel : String) (size : UInt32)
  | withdrawRegion
  deriving DecidableEq

namespace Operation

/-- Whether a call succeeds, and what it leaves behind. -/
def outcome {α : Type} (r : Reply Simulator α) : Bool × Simulator := (r.1.isOk, r.2)

/-- Whether an operation succeeds, and what it leaves behind. -/
def perform (s : Simulator) : Operation → Bool × Simulator
  | createExecutable => outcome s.createExecutable
  | loadReader e g r => outcome (s.loadReader e g r)
  | loadCodeObject e g c => outcome (s.loadCodeObject e g c)
  | freeze e => outcome (s.freeze e)
  | destroyExecutable e => outcome (s.destroyExecutable e)
  | getSymbol e g name => outcome (s.getSymbol e g name)
  | defineGlobal e name address => outcome (s.defineGlobal e name address)
  | createReader fs path => outcome (s.createReader fs path)
  | destroyReader r => outcome (s.destroyReader r)
  | deserialize address size => outcome (s.deserialize address size)
  | destroyCodeObject c => outcome (s.destroyCodeObject c)
  | lockMemory g address size => outcome (s.lockMemory g address size)
  | unlockMemory address => outcome (s.unlockMemory address)
  | findRegion g => outcome (s.findRegion g)
  | allocate region size => outcome (s.allocate region size)
  | free address => outcome (s.free address)
  | writeMemory address bytes => outcome (s.writeMemory address bytes)
  | dispatch g q packet arguments wantCompletion =>
    outcome (s.dispatch g q packet arguments wantCompletion)
  | synchronize g => outcome (s.synchronize g)
  | releaseCompletion c => outcome (s.releaseCompletion c)
  | inject point => (true, s.inject point)
  | clearFaults => (true, s.clearFaults)
  | setSegmentSizes kernel group private_ => (true, s.setSegmentSizes kernel group private_)
  | setArgumentSize kernel size => (true, s.setArgumentSize kernel size)
  | withdrawRegion => (true, { s with hasRegion := false })

/-- Perform operations one after the other. -/
def run (s : Simulator) (ops : List Operation) : Simulator :=
  ops.foldl (fun s op => (op.perform s).2) s

/-- The operations in their order, with whether they succeed. -/
def history (s : Simulator) : List Operation → List (Operation × Bool)
  | [] => []
  | op :: ops => (op, (op.perform s).1) :: history (op.perform s).2 ops

/-- The executable that code is to be loaded into. -/
def loads? : Operation → Option ExecutableHandle
  | loadReader e _ _ => some e
  | loadCodeObject e _ _ => some e
  | _ => none

/-- The executable that is to be changed or destroyed. -/
def changes? : Operation → Option ExecutableHandle
  | loadReader e _ _ => some e
  | loadCodeObject e _ _ => some e
  | freeze e => some e
  | defineGlobal e _ _ => some e
  | destroyExecutable e => some e
  | _ => none

/-- The image that is to be loaded. -/
def image? (s : Simulator) : Operation → Option Bytes
  | loadReader _ _ r => s.readers.get? r
  | loadCodeObject _ _ c => s.codeObjects.get? c
  | _ => none

/-- Not a switch. -/
def isCall : Operation → Bool
  | inject _ => false
  | clearFaults => false
  | setSegmentSizes _ _ _ => false
  | setArgumentSize _ _ => false
  | withdrawRegion => false
  | _ => true

/-! ## Reading a history -/

/-- What the latest entry of a history says that says anything. -/
def latest {α : Type} (says? : Operation × Bool → Option α) (h : List (Operation × Bool)) :
    Option α :=
  h.reverse.findSome? says?

/-- The group and private sizes that are set for kernels of a name. -/
def segments? (kernel : String) : Operation × Bool → Option (UInt32 × UInt32)
  | (setSegmentSizes kernel' group private_, _) =>
    if kernel' = kernel then some (group, private_) else none
  | _ => none

/-- The argument segment size that is set for kernels of a name. -/
def arguments? (kernel : String) : Operation × Bool → Option UInt32
  | (setArgumentSize kernel' size, _) => if kernel' = kernel then some size else none
  | _ => none

/-- The address that a global of an executable is bound to. -/
def global? (e : ExecutableHandle) (name : String) : Operation × Bool → Option UInt64
  | (defineGlobal e' name' address, true) =>
    if e' = e ∧ name' = name then some address else none
  | _ => none

section History

variable {α : Type} {says? : Operation × Bool → Option α} {h : List (Operation × Bool)}
  {s : Simulator} {ops ops' : List Operation}

theorem latest_concat (c : Operation × Bool) :
    latest says? (h ++ [c]) = (says? c).or (latest says? h) := by
  unfold latest
  rw [List.reverse_concat, List.findSome?_cons]
  cases says? c <;> rfl

theorem latest_eq_none (hnone : ∀ c ∈ h, says? c = none) : latest says? h = none :=
  List.findSome?_eq_none_iff.mpr fun c hc => hnone c (List.mem_reverse.mp hc)

theorem run_append : run s (ops ++ ops') = run (run s ops) ops' := List.foldl_append

theorem history_append : history s (ops ++ ops') = history s ops ++ history (run s ops) ops' := by
  induction ops generalizing s with
  | nil => rfl
  | cons op ops ih => exact congrArg _ ih

end History

/-! ## What one operation does -/

/-- What an operation can do to what is under the handle of an executable. -/
inductive Turns (s : Simulator) (e : ExecutableHandle) :
    Operation → Bool → Option Executable → Option Executable → Prop
  /-- Failed, or about something else. -/
  | kept {op : Operation} {ok : Bool} {exe? : Option Executable}
      (h : ok = true → op.changes? ≠ some e) : Turns s e op ok exe? exe?
  /-- The handle is a new one. -/
  | created (h : s.lastHandle < e.id) : Turns s e .createExecutable true none (some {})
  | loaded {op : Operation} {exe : Executable} {image : Bytes} {o : Elf.Object}
      {symbols : List ExecutableSymbol} (hop : op.loads? = some e)
      (himage : op.image? s = some image)
      (hparse : Elf.Object.parse image = .ok o)
      (hexposed : s.exposed (codeBase (s.loads + 1)) o = .ok symbols)
      (hopen : exe.frozen = false) :
      Turns s e op true (some exe) (some (addSymbols exe symbols))
  | froze {exe : Executable} (hopen : exe.frozen = false) :
      Turns s e (.freeze e) true (some exe) (some { exe with frozen := true })
  | defined {exe : Executable} {name : String} {address : UInt64} (hopen : exe.frozen = false) :
      Turns s e (.defineGlobal e name address) true (some exe)
        (some { exe with globals := exe.globals.put name address })
  | destroyed {exe : Executable} : Turns s e (.destroyExecutable e) true (some exe) none

section Perform

variable {α : Type} {s t : Simulator} {op : Operation} {ok : Bool} {e e' : ExecutableHandle}
  {exe exe' : Executable}

theorem changes?_of_loads? (h : op.loads? = some e) : op.changes? = some e := by
  cases op with
  | loadReader e' g r => exact h
  | loadCodeObject e' g c => exact h
  | _ => cases h

theorem Turns.of_same (hsame : t.executables = s.executables)
    (h : ok = true → op.changes? ≠ some e) :
    Turns s e op ok (s.executables.get? e) (t.executables.get? e) := by
  rw [hsame]
  exact .kept h

theorem Turns.of_fails {r : Reply Simulator α} (hr : Fails r s) :
    Turns s e op (outcome r).1 (s.executables.get? e) ((outcome r).2.executables.get? e) := by
  obtain ⟨err, journal, loads, rfl⟩ := hr
  exact .of_same rfl nofun

/-- What happens to one executable does nothing to the others. -/
theorem Turns.of_put (hexe : s.executables.get? e' = some exe) (hop : op.changes? = some e')
    (hsame : t.executables = s.executables.put e' exe')
    (h : Turns s e' op true (some exe) (some exe')) :
    Turns s e op true (s.executables.get? e) (t.executables.get? e) := by
  rw [hsame, Assoc.get?_put]
  by_cases he : e' = e
  · subst he
    rw [if_pos rfl, hexe]
    exact h
  · rw [if_neg he]
    refine .kept fun _ heq => he ?_
    rw [hop] at heq
    exact Option.some.inj heq

theorem createExecutable_turns (hs : s.Sound) (e : ExecutableHandle) :
    Turns s e .createExecutable (outcome s.createExecutable).1 (s.executables.get? e)
      ((outcome s.createExecutable).2.executables.get? e) := by
  rcases createExecutable_cases s with hf | ⟨journal, loads, hok⟩
  · exact .of_fails hf
  · rw [hok]
    show Turns s e _ true _ ((s.executables.put ⟨s.nextHandle⟩ {}).get? e)
    rw [Assoc.get?_put]
    by_cases he : (⟨s.nextHandle⟩ : ExecutableHandle) = e
    · subst he
      have hnone : s.executables.get? ⟨s.nextHandle⟩ = none := by
        simpa [Assoc.contains] using hs.fresh_executable
      rw [if_pos rfl, hnone]
      exact .created (Nat.lt_succ_self _)
    · rw [if_neg he]
      exact .kept fun _ => (Option.some_ne_none e).symm

theorem loadImage_turns (op : Operation) {operation : String} {image : Bytes}
    (hop : op.loads? = some e') (himage : op.image? s = some image) {entry : JournalEntry}
    (h : (s.record entry).loadImage operation e' image = (.ok (), t)) (e : ExecutableHandle) :
    Turns s e op true (s.executables.get? e) (t.executables.get? e) := by
  obtain ⟨o, undefined, symbols, exe, hparse, -, hexe, hopen, -, hexposed, rfl⟩ :=
    loadImage_ok_iff.mp h
  exact .of_put hexe (changes?_of_loads? hop) rfl (.loaded hop himage hparse hexposed hopen)

theorem loadReader_turns (s : Simulator) (e' : ExecutableHandle) (g : AgentHandle)
    (r : ReaderHandle) (e : ExecutableHandle) :
    Turns s e (.loadReader e' g r) (outcome (s.loadReader e' g r)).1 (s.executables.get? e)
      ((outcome (s.loadReader e' g r)).2.executables.get? e) := by
  rcases loadReader_cases s e' g r with hf | ⟨_, _, _, _, _, journal, loads, hok⟩
  · exact .of_fails hf
  · obtain ⟨image, himage⟩ := loadReader_image hok
    have hload := loadReader_ok himage hok
    rw [hok]
    exact loadImage_turns (.loadReader e' g r) rfl himage hload e

theorem loadCodeObject_turns (s : Simulator) (e' : ExecutableHandle) (g : AgentHandle)
    (c : CodeObjectHandle) (e : ExecutableHandle) :
    Turns s e (.loadCodeObject e' g c) (outcome (s.loadCodeObject e' g c)).1 (s.executables.get? e)
      ((outcome (s.loadCodeObject e' g c)).2.executables.get? e) := by
  rcases loadCodeObject_cases s e' g c with hf | ⟨_, _, _, _, _, journal, loads, hok⟩
  · exact .of_fails hf
  · obtain ⟨image, himage⟩ := loadCodeObject_image hok
    have hload := loadCodeObject_ok himage hok
    rw [hok]
    exact loadImage_turns (.loadCodeObject e' g c) rfl himage hload e

theorem freeze_turns (s : Simulator) (e' e : ExecutableHandle) :
    Turns s e (.freeze e') (outcome (s.freeze e')).1 (s.executables.get? e)
      ((outcome (s.freeze e')).2.executables.get? e) := by
  rcases freeze_cases s e' with ⟨-, hf⟩ | ⟨exe, -, hexe, hopen, journal, loads, hok⟩
  · exact .of_fails hf
  · rw [hok]
    exact .of_put hexe rfl rfl (.froze hopen)

theorem defineGlobal_turns (s : Simulator) (e' : ExecutableHandle) (name : String)
    (address : UInt64) (e : ExecutableHandle) :
    Turns s e (.defineGlobal e' name address) (outcome (s.defineGlobal e' name address)).1
      (s.executables.get? e) ((outcome (s.defineGlobal e' name address)).2.executables.get? e) := by
  rcases defineGlobal_cases s e' name address with hf | ⟨_, _, _, _, _, journal, loads, hok⟩
  · exact .of_fails hf
  · obtain ⟨-, exe, hexe, hopen, ht⟩ := defineGlobal_ok_iff.mp hok
    rw [hok]
    exact .of_put hexe rfl (congrArg (·.2.executables) ht).symm (.defined hopen)

theorem destroyExecutable_turns (s : Simulator) (e' e : ExecutableHandle) :
    Turns s e (.destroyExecutable e') (outcome (s.destroyExecutable e')).1 (s.executables.get? e)
      ((outcome (s.destroyExecutable e')).2.executables.get? e) := by
  rcases destroyExecutable_cases s e' with ⟨-, hf⟩ | ⟨-, hthere, journal, loads, hok⟩
  · exact .of_fails hf
  · rw [hok]
    show Turns s e _ true _ ((s.executables.erase e').get? e)
    rw [Assoc.get?_erase]
    by_cases he : e' = e
    · subst he
      obtain ⟨exe, hexe⟩ := Assoc.get?_of_contains hthere
      rw [if_pos rfl, hexe]
      exact .destroyed
    · rw [if_neg he]
      exact .kept fun _ heq => he (Option.some.inj heq)

/-- The operations that are not about executables leave them as they are. -/
theorem turns_of_called {r : Reply Simulator α} (hsame : r.2.executables = s.executables)
    (hop : op.changes? = none) (e : ExecutableHandle) :
    Turns s e op (outcome r).1 (s.executables.get? e) ((outcome r).2.executables.get? e) :=
  .of_same hsame fun _ heq => by
    rw [hop] at heq
    cases heq

/-- **What an operation does to the executables**, whatever it is. -/
theorem perform_turns (hs : s.Sound) (op : Operation) (e : ExecutableHandle) :
    Turns s e op (op.perform s).1 (s.executables.get? e) ((op.perform s).2.executables.get? e) := by
  cases op with
  | createExecutable => exact createExecutable_turns hs e
  | loadReader e' g r => exact loadReader_turns s e' g r e
  | loadCodeObject e' g c => exact loadCodeObject_turns s e' g c e
  | freeze e' => exact freeze_turns s e' e
  | destroyExecutable e' => exact destroyExecutable_turns s e' e
  | defineGlobal e' name address => exact defineGlobal_turns s e' name address e
  | getSymbol e' g name =>
    obtain ⟨journal, loads, hstate⟩ := getSymbol_state s e' g name
    exact turns_of_called (congrArg (·.executables) hstate) rfl e
  | createReader fs path =>
    refine turns_of_called ?_ rfl e
    rcases createReader_cases s fs path with h | ⟨_, h⟩ <;>
      exact h.same Simulator.executables fun _ _ _ => rfl
  | destroyReader r =>
    refine turns_of_called ?_ rfl e
    rcases destroyReader_cases s r with ⟨-, h⟩ | ⟨-, h⟩ <;>
      exact h.same Simulator.executables fun _ _ _ => rfl
  | deserialize address size =>
    refine turns_of_called ?_ rfl e
    rcases deserialize_cases s address size with h | ⟨_, h⟩ <;>
      exact h.same Simulator.executables fun _ _ _ => rfl
  | destroyCodeObject c =>
    refine turns_of_called ?_ rfl e
    rcases destroyCodeObject_cases s c with ⟨-, h⟩ | ⟨-, h⟩ <;>
      exact h.same Simulator.executables fun _ _ _ => rfl
  | lockMemory g address size =>
    refine turns_of_called ?_ rfl e
    rcases lockMemory_cases s g address size with h | ⟨_, -, h⟩ <;>
      exact h.same Simulator.executables fun _ _ _ => rfl
  | unlockMemory address =>
    refine turns_of_called ?_ rfl e
    rcases unlockMemory_cases s address with ⟨-, h⟩ | ⟨_, -, h⟩ <;>
      exact h.same Simulator.executables fun _ _ _ => rfl
  | findRegion g => exact turns_of_called (congrArg (·.executables) (findRegion_state s g)) rfl e
  | allocate region size =>
    refine turns_of_called ?_ rfl e
    rcases allocate_cases s region size with h | ⟨_, -, h⟩ <;>
      exact h.same Simulator.executables fun _ _ _ => rfl
  | free address =>
    refine turns_of_called ?_ rfl e
    rcases free_cases s address with ⟨-, h⟩ | ⟨-, -, h⟩ <;>
      exact h.same Simulator.executables fun _ _ _ => rfl
  | writeMemory address bytes =>
    refine turns_of_called ?_ rfl e
    rcases writeMemory_cases s address bytes with h | ⟨_, _, _, -, h⟩ <;>
      exact h.same Simulator.executables fun _ _ _ => rfl
  | dispatch g q packet arguments wantCompletion =>
    refine turns_of_called ?_ rfl e
    obtain ⟨_, _, _, hstate | hstate⟩ := dispatch_state s g q packet arguments wantCompletion
    all_goals exact (congrArg Simulator.executables hstate :)
  | synchronize g =>
    obtain ⟨journal, loads, hstate⟩ := synchronize_state s g
    exact turns_of_called (congrArg (·.executables) hstate) rfl e
  | releaseCompletion c =>
    refine turns_of_called ?_ rfl e
    obtain ⟨_, _, hstate | hstate⟩ := releaseCompletion_state s c
    all_goals exact (congrArg Simulator.executables hstate :)
  | inject point =>
    obtain ⟨faults, hstate⟩ := s.inject_eq point
    exact .of_same (congrArg Simulator.executables hstate :) nofun
  | clearFaults => exact .of_same rfl nofun
  | setSegmentSizes kernel group private_ => exact .of_same rfl nofun
  | setArgumentSize kernel size => exact .of_same rfl nofun
  | withdrawRegion => exact .of_same rfl nofun

theorem perform_called (h : op.isCall = true) : Called s (op.perform s).2 := by
  cases op with
  | createExecutable => exact .createExecutable
  | loadReader e g r => exact .loadReader e g r
  | loadCodeObject e g c => exact .loadCodeObject e g c
  | freeze e => exact .freeze e
  | destroyExecutable e => exact .destroyExecutable e
  | getSymbol e g name => exact .getSymbol e g name
  | defineGlobal e name address => exact .defineGlobal e name address
  | createReader fs path => exact .createReader fs path
  | destroyReader r => exact .destroyReader r
  | deserialize address size => exact .deserialize address size
  | destroyCodeObject c => exact .destroyCodeObject c
  | lockMemory g address size => exact .lockMemory g address size
  | unlockMemory address => exact .unlockMemory address
  | findRegion g => exact .findRegion g
  | allocate region size => exact .allocate region size
  | free address => exact .free address
  | writeMemory address bytes => exact .writeMemory address bytes
  | dispatch g q packet arguments wantCompletion =>
    exact .dispatch g q packet arguments wantCompletion
  | synchronize g => exact .synchronize g
  | releaseCompletion c => exact .releaseCompletion c
  | _ => cases h

/-- A switch changes nothing but what is set from outside. -/
theorem perform_switch (h : op.isCall = false) : ∃ faults segmentSizes argumentSizes hasRegion,
    (op.perform s).2 = { s with faults, segmentSizes, argumentSizes, hasRegion } := by
  cases op with
  | inject point =>
    obtain ⟨faults, hstate⟩ := s.inject_eq point
    exact ⟨faults, _, _, _, hstate⟩
  | clearFaults => exact ⟨_, _, _, _, rfl⟩
  | setSegmentSizes kernel group private_ => exact ⟨_, _, _, _, rfl⟩
  | setArgumentSize kernel size => exact ⟨_, _, _, _, rfl⟩
  | withdrawRegion => exact ⟨_, _, _, _, rfl⟩
  | _ => cases h

theorem perform_sound (hs : s.Sound) (op : Operation) : (op.perform s).2.Sound := by
  cases hcall : op.isCall with
  | true => exact hs.called (perform_called hcall)
  | false =>
    obtain ⟨faults, segmentSizes, argumentSizes, hasRegion, hstate⟩ := perform_switch hcall (s := s)
    rw [hstate]
    exact ⟨hs.executables, hs.codeObjects, hs.readers, hs.allocations, hs.pins⟩

theorem perform_lastHandle_le (s : Simulator) (op : Operation) :
    s.lastHandle ≤ (op.perform s).2.lastHandle := by
  cases hcall : op.isCall with
  | true => exact (perform_called hcall).lastHandle_le
  | false =>
    obtain ⟨faults, segmentSizes, argumentSizes, hasRegion, hstate⟩ := perform_switch hcall (s := s)
    rw [hstate]

theorem perform_segmentSizes (s : Simulator) (op : Operation) (kernel : String) :
    (op.perform s).2.segmentSizes.get? kernel =
      (segments? kernel (op, (op.perform s).1)).or (s.segmentSizes.get? kernel) := by
  cases hcall : op.isCall with
  | true =>
    have hnone : segments? kernel (op, (op.perform s).1) = none := by
      cases op with
      | setSegmentSizes kernel' group private_ => cases hcall
      | _ => rfl
    have hsame := (perform_called hcall (s := s)).settings_eq
    rw [hnone]
    exact congrArg (·.2.1.get? kernel) hsame
  | false =>
    cases op with
    | setSegmentSizes kernel' group private_ =>
      show (s.segmentSizes.put kernel' (group, private_)).get? kernel = _
      rw [Assoc.get?_put]
      unfold segments?
      by_cases hkernel : kernel' = kernel <;> simp [hkernel]
    | inject point =>
      obtain ⟨faults, hstate⟩ := s.inject_eq point
      exact congrArg (·.segmentSizes.get? kernel) hstate
    | clearFaults => rfl
    | setArgumentSize kernel' size => rfl
    | withdrawRegion => rfl
    | _ => cases hcall

theorem perform_argumentSizes (s : Simulator) (op : Operation) (kernel : String) :
    (op.perform s).2.argumentSizes.get? kernel =
      (arguments? kernel (op, (op.perform s).1)).or (s.argumentSizes.get? kernel) := by
  cases hcall : op.isCall with
  | true =>
    have hnone : arguments? kernel (op, (op.perform s).1) = none := by
      cases op with
      | setArgumentSize kernel' size => cases hcall
      | _ => rfl
    have hsame := (perform_called hcall (s := s)).settings_eq
    rw [hnone]
    exact congrArg (·.2.2.1.get? kernel) hsame
  | false =>
    cases op with
    | setArgumentSize kernel' size =>
      show (s.argumentSizes.put kernel' size).get? kernel = _
      rw [Assoc.get?_put]
      unfold arguments?
      by_cases hkernel : kernel' = kernel <;> simp [hkernel]
    | inject point =>
      obtain ⟨faults, hstate⟩ := s.inject_eq point
      exact congrArg (·.argumentSizes.get? kernel) hstate
    | clearFaults => rfl
    | setSegmentSizes kernel' group private_ => rfl
    | withdrawRegion => rfl
    | _ => cases hcall

end Perform

/-! ## What a history tells -/

/-- What the operations so far tell of the state that they have led to. -/
structure Tells (h : List (Operation × Bool)) (s : Simulator) : Prop where
  sound : s.Sound
  segments : ∀ kernel, s.segmentSizes.get? kernel = latest (segments? kernel) h
  arguments : ∀ kernel, s.argumentSizes.get? kernel = latest (arguments? kernel) h
  /-- Only what was handed out can be changed. -/
  passed : ∀ op e, (op, true) ∈ h → op.changes? = some e → e.id ≤ s.lastHandle
  gone : ∀ e, (.destroyExecutable e, true) ∈ h → s.executables.get? e = none
  frozen : ∀ e, s.isFrozen e = true ↔ (.freeze e, true) ∈ h ∧ (.destroyExecutable e, true) ∉ h
  globals : ∀ e exe, s.executables.get? e = some exe →
    ∀ name, exe.globals.get? name = latest (global? e name) h
  /-- No code was loaded into it. -/
  symbols : ∀ e exe, s.executables.get? e = some exe →
    (∀ op, op.loads? = some e → (op, true) ∉ h) → exe.symbols = {}

section Tells

variable {h : List (Operation × Bool)} {s : Simulator} {op : Operation} {e : ExecutableHandle}
  {exe : Executable}

theorem mem_concat {c c' : Operation × Bool} : c ∈ h ++ [c'] ↔ c ∈ h ∨ c = c' := by
  rw [List.mem_append, List.mem_singleton]

theorem global?_eq_none {ok : Bool} (hop : ok = true → op.changes? ≠ some e) (name : String) :
    global? e name (op, ok) = none := by
  unfold global?
  split
  · next e' name' address heq =>
    cases heq
    rw [if_neg]
    intro hsame
    exact hop rfl (congrArg some hsame.1)
  · rfl

theorem tells_fresh : Tells [] {} where
  sound := (Reachable.fresh true).sound
  segments _ := rfl
  arguments _ := rfl
  passed _ _ hop := absurd hop List.not_mem_nil
  gone _ hop := absurd hop List.not_mem_nil
  frozen _ := ⟨fun hfrozen => absurd hfrozen Bool.false_ne_true,
    fun hfroze => absurd hfroze.1 List.not_mem_nil⟩
  globals e exe hexe := by cases hexe
  symbols e exe hexe := by cases hexe

section Step

variable {ok : Bool} {exe? exe?' : Option Executable} (ht : Turns s e op ok exe? exe?')
include ht

/-- What is changed is there. -/
theorem Turns.there (hok : ok = true) (hop : op.changes? = some e) : ∃ exe, exe? = some exe := by
  cases ht with
  | kept h => exact absurd hop (h hok)
  | created _ => cases hop
  | loaded _ _ _ _ _ => exact ⟨_, rfl⟩
  | froze _ => exact ⟨_, rfl⟩
  | defined _ => exact ⟨_, rfl⟩
  | destroyed => exact ⟨_, rfl⟩

variable (hpassed : ∀ op, (op, true) ∈ h → op.changes? = some e → e.id ≤ s.lastHandle)
include hpassed

theorem Turns.gone (hgone : (.destroyExecutable e, true) ∈ h → exe? = none)
    (hdestroyed : (.destroyExecutable e, true) ∈ h ++ [(op, ok)]) : exe?' = none := by
  rcases mem_concat.mp hdestroyed with hbefore | heq
  · have hnone := hgone hbefore
    cases ht with
    | kept _ => exact hnone
    | created hnew => exact absurd (hpassed _ hbefore rfl) (Nat.not_le_of_lt hnew)
    | loaded _ _ _ _ _ => cases hnone
    | froze _ => cases hnone
    | defined _ => cases hnone
    | destroyed => rfl
  · cases heq
    cases ht with
    | kept hop => exact absurd rfl (hop rfl)
    | loaded hop _ _ _ _ => cases hop
    | destroyed => rfl

theorem Turns.frozen (hgone : (.destroyExecutable e, true) ∈ h → exe? = none)
    (hfrozen : exe?.any (·.frozen) = true ↔
      (.freeze e, true) ∈ h ∧ (.destroyExecutable e, true) ∉ h) :
    exe?'.any (·.frozen) = true ↔ (.freeze e, true) ∈ h ++ [(op, ok)] ∧
      (.destroyExecutable e, true) ∉ h ++ [(op, ok)] := by
  rw [mem_concat, mem_concat]
  -- an operation of another kind, or on something else, does not count
  have hother : (freeze e, true) ≠ (op, ok) → (destroyExecutable e, true) ≠ (op, ok) →
      (((.freeze e, true) ∈ h ∨ (freeze e, true) = (op, ok)) ∧
        ¬ ((.destroyExecutable e, true) ∈ h ∨ (destroyExecutable e, true) = (op, ok)) ↔
      (.freeze e, true) ∈ h ∧ (.destroyExecutable e, true) ∉ h) := by
    intro hfreeze hdestroy
    simp only [hfreeze, hdestroy, or_false]
  cases ht with
  | kept hop =>
    rw [hother, hfrozen]
    · intro heq
      cases heq
      exact hop rfl rfl
    · intro heq
      cases heq
      exact hop rfl rfl
  | created hnew =>
    rw [hother nofun nofun]
    refine ⟨fun hfalse => absurd hfalse Bool.false_ne_true, fun hfroze => ?_⟩
    exact absurd (hpassed (.freeze e) hfroze.1 rfl) (Nat.not_le_of_lt hnew)
  | loaded hop _ _ _ hopen =>
    rw [hother, ← hfrozen]
    · exact Iff.rfl
    · intro heq
      cases heq
      cases hop
    · intro heq
      cases heq
      cases hop
  | froze hopen =>
    refine ⟨fun _ => ⟨.inr rfl, fun hdestroyed => ?_⟩, fun _ => rfl⟩
    rcases hdestroyed with hdestroyed | heq
    · cases hgone hdestroyed
    · cases heq
  | defined hopen =>
    rw [hother nofun nofun, ← hfrozen]
    exact Iff.rfl
  | destroyed => exact ⟨fun hfalse => absurd hfalse Bool.false_ne_true, fun hstays =>
      absurd (.inr rfl) hstays.2⟩

theorem Turns.globals
    (hglobals : ∀ exe, exe? = some exe →
      ∀ name, exe.globals.get? name = latest (global? e name) h)
    (hexe : exe?' = some exe) (name : String) :
    exe.globals.get? name = latest (global? e name) (h ++ [(op, ok)]) := by
  rw [latest_concat]
  cases ht with
  | kept hop =>
    rw [global?_eq_none hop]
    exact hglobals exe hexe name
  | created hnew =>
    cases hexe
    refine (latest_eq_none fun c hc => ?_).symm
    obtain ⟨op, ok⟩ := c
    refine global?_eq_none (fun hok hop => ?_) name
    subst hok
    exact absurd (hpassed op hc hop) (Nat.not_le_of_lt hnew)
  | loaded hop _ _ _ _ =>
    cases hexe
    have hnone : global? e name (op, true) = none := by
      cases op with
      | defineGlobal e' name' address => cases hop
      | _ => rfl
    rw [hnone]
    exact hglobals _ rfl name
  | froze _ =>
    cases hexe
    exact hglobals _ rfl name
  | @defined exe name' address _ =>
    cases hexe
    have hold := hglobals exe rfl name
    rw [Assoc.get?_put, hold]
    unfold global?
    by_cases hname : name' = name <;> simp [hname]
  | destroyed => cases hexe

omit hpassed in
theorem Turns.symbols
    (hsymbols : ∀ exe, exe? = some exe → (∀ op, op.loads? = some e → (op, true) ∉ h) →
      exe.symbols = {})
    (hexe : exe?' = some exe)
    (hfresh : ∀ op', op'.loads? = some e → (op', true) ∉ h ++ [(op, ok)]) : exe.symbols = {} := by
  have hold : ∀ op', op'.loads? = some e → (op', true) ∉ h := fun op' hop' hmem =>
    hfresh op' hop' (List.mem_append_left _ hmem)
  cases ht with
  | kept _ => exact hsymbols exe hexe hold
  | created _ =>
    cases hexe
    rfl
  | loaded hop _ _ _ _ => exact absurd (mem_concat.mpr (.inr rfl)) (hfresh op hop)
  | @froze exe _ =>
    cases hexe
    exact hsymbols exe rfl hold
  | @defined exe _ _ _ =>
    cases hexe
    exact hsymbols exe rfl hold
  | destroyed => cases hexe

end Step

theorem Tells.perform (hs : Tells h s) (op : Operation) :
    Tells (h ++ [(op, (op.perform s).1)]) (op.perform s).2 := by
  have hturns := perform_turns hs.sound op
  have hpassed : ∀ e op, (op, true) ∈ h → op.changes? = some e → e.id ≤ s.lastHandle :=
    fun e op => hs.passed op e
  exact
    { sound := perform_sound hs.sound op
      segments := fun kernel => by
        rw [perform_segmentSizes, latest_concat, hs.segments]
      arguments := fun kernel => by
        rw [perform_argumentSizes, latest_concat, hs.arguments]
      passed := fun op' e hop he => by
        refine Nat.le_trans ?_ (perform_lastHandle_le s op)
        rcases mem_concat.mp hop with hop | heq
        · exact hs.passed op' e hop he
        · obtain ⟨rfl, hok⟩ := Prod.mk.inj heq
          obtain ⟨exe, hexe⟩ := (hturns e).there hok.symm he
          exact hs.sound.executables e (Assoc.contains_of_get? hexe)
      gone := fun e => (hturns e).gone (hpassed e) (hs.gone e)
      frozen := fun e => (hturns e).frozen (hpassed e) (hs.gone e) (hs.frozen e)
      globals := fun e exe hexe => (hturns e).globals (hpassed e) (hs.globals e) hexe
      symbols := fun e exe hexe => (hturns e).symbols (hs.symbols e) hexe }

/-- **What a history tells**, for any operations. -/
theorem run_tells (ops : List Operation) : Tells (history {} ops) (run {} ops) := by
  induction ops using List.reverseRecOn with
  | nil => exact tells_fresh
  | append_singleton ops op ih =>
    rw [history_append, run_append]
    exact ih.perform op

end Tells

end Operation

end DeviceCode

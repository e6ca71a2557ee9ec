import DeviceCode.Simulator.Dispatches
import DeviceCode.Proofs.Maps

/-!
# What a call of the simulator can do

One lemma per call says everything that the call can do: it fails and leaves all that is kept as it
was, or it succeeds and makes one change. Later proofs use these and do not open the calls again.

Two parts of the state are histories: the journal, and the count of loads from which code addresses
are taken. Both may change in any call, so they are left open everywhere.
-/

namespace DeviceCode.Simulator

variable {α : Type} {s : Simulator}

/-- A call that fails changes the histories at most. -/
def Fails (r : Reply Simulator α) (s : Simulator) : Prop :=
  ∃ err journal loads, r = (.error err, { s with journal, loads })

/-- A call that succeeds with an answer and leaves a given state, up to the histories. -/
def Succeeds (r : Reply Simulator α) (a : α) (t : Simulator) : Prop :=
  ∃ journal loads, r = (.ok a, { t with journal, loads })

/-- How often a host range is pinned. -/
def holders (s : Simulator) (address : UInt64) : Nat :=
  ((s.pinned.get? address).map (·.holders)).getD 0

theorem isFrozen_iff {e : ExecutableHandle} :
    s.isFrozen e = true ↔ ∃ exe, s.executables.get? e = some exe ∧ exe.frozen = true := by
  unfold isFrozen
  cases s.executables.get? e <;> simp

/-! ## Executables -/

theorem createExecutable_cases (s : Simulator) :
    Fails s.createExecutable s ∨
      Succeeds s.createExecutable ⟨s.nextHandle⟩ { s with
        lastHandle := s.nextHandle
        executables := s.executables.put ⟨s.nextHandle⟩ {} } := by
  unfold createExecutable
  split
  · exact .inl ⟨_, s.journal, s.loads, rfl⟩
  · exact .inr ⟨_, s.loads, rfl⟩

/-- Loading code needs an executable that is not frozen, and leaves it unfrozen. -/
theorem loadImage_cases (s : Simulator) (operation : String) (e : ExecutableHandle)
    (image : Bytes) :
    Fails (s.loadImage operation e image) s ∨
      ∃ exe exe' : Executable, s.executables.get? e = some exe ∧ exe.frozen = false ∧
        exe'.frozen = false ∧
        Succeeds (s.loadImage operation e image) () { s with
          executables := s.executables.put e exe' } := by
  have hfail : ∀ status reason, Fails (s.fail operation status reason : Reply Simulator Unit) s :=
    fun _ _ => ⟨_, s.journal, s.loads, rfl⟩
  unfold loadImage
  dsimp only
  split
  · exact .inl (hfail _ _)
  · split
    · exact .inl (hfail _ _)
    · rename_i exe hexe
      split
      · exact .inl (hfail _ _)
      · rename_i hfrozen
        split
        · exact .inl (hfail _ _)
        · split
          · exact .inl (hfail _ _)
          · split
            · exact .inl ⟨_, s.journal, s.loads + 1, rfl⟩
            · rename_i symbols _
              refine .inr ⟨exe, addSymbols exe symbols, hexe, by simpa using hfrozen, ?_, ?_⟩
              · show exe.frozen = false
                simpa using hfrozen
              · exact ⟨s.journal, s.loads + 1, rfl⟩

theorem loadReader_cases (s : Simulator) (e : ExecutableHandle) (g : AgentHandle)
    (r : ReaderHandle) :
    Fails (s.loadReader e g r) s ∨
      ∃ exe exe' : Executable, s.executables.get? e = some exe ∧ exe.frozen = false ∧
        exe'.frozen = false ∧
        Succeeds (s.loadReader e g r) () { s with executables := s.executables.put e exe' } := by
  unfold loadReader
  dsimp only
  split
  · exact .inl ⟨_, _, s.loads, rfl⟩
  · split
    · exact .inl ⟨_, _, s.loads, rfl⟩
    · rename_i image _
      rcases loadImage_cases (s.record (.loadReader e r)) "executable_load_agent_code_object" e
        image with ⟨err, j, n, h⟩ | ⟨exe, exe', h1, h2, h3, j, n, h⟩
      · exact .inl ⟨err, j, n, h⟩
      · exact .inr ⟨exe, exe', h1, h2, h3, j, n, h⟩

theorem loadCodeObject_cases (s : Simulator) (e : ExecutableHandle) (g : AgentHandle)
    (c : CodeObjectHandle) :
    Fails (s.loadCodeObject e g c) s ∨
      ∃ exe exe' : Executable, s.executables.get? e = some exe ∧ exe.frozen = false ∧
        exe'.frozen = false ∧
        Succeeds (s.loadCodeObject e g c) ()
          { s with executables := s.executables.put e exe' } := by
  unfold loadCodeObject
  dsimp only
  split
  · exact .inl ⟨_, _, s.loads, rfl⟩
  · split
    · exact .inl ⟨_, _, s.loads, rfl⟩
    · rename_i image _
      rcases loadImage_cases (s.record (.loadCodeObject e c)) "executable_load_code_object" e image
        with ⟨err, j, n, h⟩ | ⟨exe, exe', h1, h2, h3, j, n, h⟩
      · exact .inl ⟨err, j, n, h⟩
      · exact .inr ⟨exe, exe', h1, h2, h3, j, n, h⟩

/-- Freezing an executable that is there and not frozen fails only when it is made to. -/
theorem freeze_cases (s : Simulator) (e : ExecutableHandle) :
    ((s.faulty .freeze = true ∨ ∀ exe, s.executables.get? e = some exe → exe.frozen = true) ∧
        Fails (s.freeze e) s) ∨
      ∃ exe : Executable, s.faulty .freeze = false ∧ s.executables.get? e = some exe ∧
        exe.frozen = false ∧
        Succeeds (s.freeze e) () { s with
          executables := s.executables.put e { exe with frozen := true } } := by
  unfold freeze
  dsimp only
  split
  · rename_i hfault
    exact .inl ⟨.inl hfault, _, _, s.loads, rfl⟩
  · rename_i hfault
    have hnone : s.faulty .freeze = false := by simpa [faulty, record] using hfault
    split
    · rename_i hexe
      refine .inl ⟨.inr fun exe h => ?_, _, _, s.loads, rfl⟩
      rw [show s.executables.get? e = none from hexe] at h
      cases h
    · rename_i exe hexe
      split
      · rename_i hfrozen
        refine .inl ⟨.inr fun exe' h => ?_, _, _, s.loads, rfl⟩
        rw [show s.executables.get? e = some exe from hexe] at h
        cases h
        exact hfrozen
      · rename_i hfrozen
        exact .inr ⟨exe, hnone, hexe, by simpa using hfrozen, _, s.loads, rfl⟩

theorem destroyExecutable_cases (s : Simulator) (e : ExecutableHandle) :
    ((s.faulty .destroyExecutable = true ∨ s.executables.contains e = false) ∧
        Fails (s.destroyExecutable e) s) ∨
      (s.faulty .destroyExecutable = false ∧ s.executables.contains e = true ∧
        Succeeds (s.destroyExecutable e) () { s with executables := s.executables.erase e }) := by
  unfold destroyExecutable
  dsimp only
  split
  · rename_i hfault
    exact .inl ⟨.inl hfault, _, _, s.loads, rfl⟩
  · rename_i hfault
    have hnone : s.faulty .destroyExecutable = false := by simpa [faulty, record] using hfault
    split
    · rename_i hc
      exact .inr ⟨hnone, hc, _, s.loads, rfl⟩
    · rename_i hc
      refine .inl ⟨.inr ?_, _, _, s.loads, rfl⟩
      simpa [record] using hc

/-- Asking for a symbol changes nothing that is kept. -/
theorem getSymbol_state (s : Simulator) (e : ExecutableHandle) (g : AgentHandle) (name : String) :
    ∃ journal loads, (s.getSymbol e g name).2 = { s with journal, loads } := by
  refine ⟨s.journal ++ [.getSymbol e name], s.loads, ?_⟩
  unfold getSymbol
  dsimp only
  split
  · rfl
  · split <;> rfl

theorem defineGlobal_cases (s : Simulator) (e : ExecutableHandle) (name : String)
    (address : UInt64) :
    Fails (s.defineGlobal e name address) s ∨
      ∃ exe exe' : Executable, s.executables.get? e = some exe ∧ exe.frozen = false ∧
        exe'.frozen = false ∧
        Succeeds (s.defineGlobal e name address) () { s with
          executables := s.executables.put e exe' } := by
  unfold defineGlobal
  dsimp only
  split
  · exact .inl ⟨_, _, s.loads, rfl⟩
  · split
    · exact .inl ⟨_, _, s.loads, rfl⟩
    · rename_i exe hexe
      split
      · exact .inl ⟨_, _, s.loads, rfl⟩
      · rename_i hfrozen
        have hf : exe.frozen = false := by simpa using hfrozen
        exact .inr ⟨exe, { exe with globals := exe.globals.put name address }, hexe, hf, hf, _,
          s.loads, rfl⟩

/-! ## Code objects and readers -/

theorem deserialize_cases (s : Simulator) (address size : Nat) :
    Fails (s.deserialize address size) s ∨
      ∃ image, Succeeds (s.deserialize address size) ⟨s.nextHandle⟩ { s with
        lastHandle := s.nextHandle
        codeObjects := s.codeObjects.put ⟨s.nextHandle⟩ image } := by
  unfold deserialize
  split
  · exact .inl ⟨_, s.journal, s.loads, rfl⟩
  · split
    · exact .inl ⟨_, s.journal, s.loads, rfl⟩
    · dsimp only
      split
      · exact .inl ⟨_, s.journal, s.loads, rfl⟩
      · exact .inr ⟨_, _, s.loads, rfl⟩

theorem destroyCodeObject_cases (s : Simulator) (c : CodeObjectHandle) :
    (s.codeObjects.contains c = false ∧ Fails (s.destroyCodeObject c) s) ∨
      (s.codeObjects.contains c = true ∧
        Succeeds (s.destroyCodeObject c) () { s with codeObjects := s.codeObjects.erase c }) := by
  unfold destroyCodeObject
  dsimp only
  split
  · rename_i hc
    exact .inr ⟨hc, _, s.loads, rfl⟩
  · rename_i hc
    exact .inl ⟨by simpa [record] using hc, _, _, s.loads, rfl⟩

theorem createReader_cases (s : Simulator) (fs : Host.FileSystem) (path : String) :
    Fails (s.createReader fs path) s ∨
      ∃ bytes, Succeeds (s.createReader fs path) ⟨s.nextHandle⟩ { s with
        lastHandle := s.nextHandle
        readers := s.readers.put ⟨s.nextHandle⟩ bytes } := by
  unfold createReader
  split
  · exact .inl ⟨_, s.journal, s.loads, rfl⟩
  · split
    · exact .inl ⟨_, s.journal, s.loads, rfl⟩
    · exact .inr ⟨_, _, s.loads, rfl⟩

theorem destroyReader_cases (s : Simulator) (r : ReaderHandle) :
    (s.readers.contains r = false ∧ Fails (s.destroyReader r) s) ∨
      (s.readers.contains r = true ∧
        Succeeds (s.destroyReader r) () { s with readers := s.readers.erase r }) := by
  unfold destroyReader
  dsimp only
  split
  · rename_i hc
    exact .inr ⟨hc, _, s.loads, rfl⟩
  · rename_i hc
    exact .inl ⟨by simpa [record] using hc, _, _, s.loads, rfl⟩

/-! ## Memory -/

theorem findRegion_state (s : Simulator) (g : AgentHandle) : (s.findRegion g).2 = s := by
  unfold findRegion
  split <;> rfl

/-- A new allocation starts past all earlier ones and is not empty. -/
theorem allocate_cases (s : Simulator) (region : RegionHandle) (size : Nat) :
    Fails (s.allocate region size) s ∨
      ∃ pages, s.pages < pages ∧
        Succeeds (s.allocate region size) (allocationBase + s.pages * pageSize) { s with
          pages
          allocations :=
            s.allocations.put (allocationBase + s.pages * pageSize) (Bytes.zeros size) } := by
  unfold allocate
  split
  · exact .inl ⟨_, s.journal, s.loads, rfl⟩
  · split
    · exact .inl ⟨_, s.journal, s.loads, rfl⟩
    · exact .inr ⟨_, Nat.lt_succ_of_le (Nat.le_add_right _ _), _, s.loads, rfl⟩

theorem free_cases (s : Simulator) (address : Nat) :
    ((s.faulty .free = true ∨ s.allocations.contains address = false) ∧
        Fails (s.free address) s) ∨
      (s.faulty .free = false ∧ s.allocations.contains address = true ∧
        Succeeds (s.free address) () { s with allocations := s.allocations.erase address }) := by
  unfold free
  dsimp only
  split
  · rename_i hfault
    exact .inl ⟨.inl hfault, _, _, s.loads, rfl⟩
  · rename_i hfault
    have hnone : s.faulty .free = false := by simpa [faulty, record] using hfault
    split
    · rename_i hc
      exact .inr ⟨hnone, hc, _, s.loads, rfl⟩
    · rename_i hc
      exact .inl ⟨.inr (by simpa [record] using hc), _, _, s.loads, rfl⟩

/-- Writing changes the one allocation that holds the whole range. -/
theorem writeMemory_cases (s : Simulator) (address : Nat) (bytes : Bytes) :
    Fails (s.writeMemory address bytes) s ∨
      ∃ base old new, s.allocationAt? address bytes.length = some (base, old) ∧
        Succeeds (s.writeMemory address bytes) () { s with
          allocations := s.allocations.put base new } := by
  unfold writeMemory
  dsimp only
  split
  · exact .inl ⟨_, _, s.loads, rfl⟩
  · split
    · exact .inl ⟨_, _, s.loads, rfl⟩
    · rename_i base old hfound
      exact .inr ⟨base, old, _, hfound, _, s.loads, rfl⟩

/-! ## Pins -/

theorem lockMemory_cases (s : Simulator) (g : AgentHandle) (address : UInt64) (size : Nat) :
    Fails (s.lockMemory g address size) s ∨
      ∃ pin : Pin, pin.holders = s.holders address + 1 ∧
        Succeeds (s.lockMemory g address size) address { s with
          pinned := s.pinned.put address pin } := by
  unfold lockMemory
  dsimp only
  split
  · exact .inl ⟨_, _, s.loads, rfl⟩
  · split
    · exact .inl ⟨_, _, s.loads, rfl⟩
    · refine .inr ⟨⟨max ((s.pinned.get? address).getD ⟨0, 0⟩).size size,
        ((s.pinned.get? address).getD ⟨0, 0⟩).holders + 1⟩, ?_, _, s.loads, rfl⟩
      unfold holders
      cases s.pinned.get? address <;> rfl

theorem unlockMemory_cases (s : Simulator) (address : UInt64) :
    (s.pinned.get? address = none ∧ Fails (s.unlockMemory address) s) ∨
      ∃ pin : Pin, s.pinned.get? address = some pin ∧
        Succeeds (s.unlockMemory address) () { s with
          pinned := if pin.holders ≤ 1 then s.pinned.erase address
            else s.pinned.put address { pin with holders := pin.holders - 1 } } := by
  unfold unlockMemory
  dsimp only
  split
  · rename_i hnone
    exact .inl ⟨hnone, _, _, s.loads, rfl⟩
  · rename_i pin hpin
    exact .inr ⟨pin, hpin, _, s.loads, rfl⟩

/-! ## Dispatches -/

/-- A dispatch hands out one completion at most, under a new handle. -/
theorem dispatch_state (s : Simulator) (g : AgentHandle) (q : QueueHandle) (p : Packet)
    (arguments : Bytes) (wantCompletion : Bool) :
    ∃ journal loads dispatches, (s.dispatch g q p arguments wantCompletion).2 =
        { s with journal, loads, dispatches } ∨
      (s.dispatch g q p arguments wantCompletion).2 = { s with
        journal, loads, dispatches
        lastHandle := s.nextHandle
        completions := s.completions ++ [⟨s.nextHandle⟩] } := by
  unfold dispatch
  dsimp only
  split
  · exact ⟨_, s.loads, s.dispatches, .inl rfl⟩
  · split
    · exact ⟨_, s.loads, _, .inr rfl⟩
    · exact ⟨_, s.loads, _, .inl rfl⟩

/-- A dispatch that is not made to fail is recorded, and its packet's signal is the completion that
was asked for, if any. -/
theorem dispatch_cases (s : Simulator) (g : AgentHandle) (q : QueueHandle) (p : Packet)
    (arguments : Bytes) (wantCompletion : Bool) :
    (s.faulty .dispatch = true ∧ Fails (s.dispatch g q p arguments wantCompletion) s) ∨
      (wantCompletion = true ∧ ∃ p' : Packet, p'.completionSignal = UInt64.ofNat s.nextHandle ∧
        Succeeds (s.dispatch g q p arguments wantCompletion) (some ⟨s.nextHandle⟩) { s with
          lastHandle := s.nextHandle
          completions := s.completions ++ [⟨s.nextHandle⟩]
          dispatches := s.dispatches ++ [⟨g, q, p', arguments⟩] }) ∨
      (wantCompletion = false ∧ ∃ p' : Packet, p'.completionSignal = 0 ∧
        Succeeds (s.dispatch g q p arguments wantCompletion) none { s with
          dispatches := s.dispatches ++ [⟨g, q, p', arguments⟩] }) := by
  unfold dispatch
  dsimp only
  split
  · rename_i hfault
    exact .inl ⟨hfault, _, _, s.loads, rfl⟩
  · split
    · rename_i hwant
      exact .inr (.inl ⟨hwant, _, rfl, _, s.loads, rfl⟩)
    · rename_i hwant
      exact .inr (.inr ⟨by simpa using hwant, _, rfl, _, s.loads, rfl⟩)

theorem synchronize_state (s : Simulator) (g : AgentHandle) :
    ∃ journal loads, (s.synchronize g).2 = { s with journal, loads } := by
  unfold synchronize
  dsimp only
  split <;> exact ⟨_, s.loads, rfl⟩

theorem releaseCompletion_state (s : Simulator) (c : CompletionHandle) :
    ∃ journal loads, (s.releaseCompletion c).2 = { s with journal, loads } ∨
      (s.releaseCompletion c).2 = { s with
        journal, loads, completions := s.completions.erase c } := by
  unfold releaseCompletion
  dsimp only
  split
  · exact ⟨_, s.loads, .inr rfl⟩
  · exact ⟨_, s.loads, .inl rfl⟩

/-- Releasing an outstanding completion succeeds. -/
theorem releaseCompletion_of_mem {c : CompletionHandle} (h : c ∈ s.completions) :
    Succeeds (s.releaseCompletion c) () { s with completions := s.completions.erase c } := by
  have hheld : (s.record (.releaseCompletion c)).completions.contains c = true :=
    List.contains_iff_mem.mpr h
  unfold releaseCompletion
  dsimp only
  rw [if_pos hheld]
  exact ⟨_, s.loads, rfl⟩

end DeviceCode.Simulator

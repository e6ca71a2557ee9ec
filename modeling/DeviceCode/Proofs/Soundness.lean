import DeviceCode.Proofs.LoadAlike
import DeviceCode.Proofs.SimulatorCalls

/-!
# Reachable simulators

`Reachable` simulators are those that any sequence of calls leads to from a fresh one, with faults
and reported sizes set in between in any way. All of them are `Sound`: every handle and every
address in use was handed out by a counter that has passed it since, so the next one handed out is
new, and no pinned range is kept that nobody holds.

Loader operations reach the simulator through calls only, so they keep whatever all calls keep
(`Accelerator.Alike` of the simulator with itself).
-/

namespace DeviceCode

variable {σ τ α : Type}

/-- The diagonal of a property: what relates a state to itself when it has the property. -/
def Only (P : σ → Prop) (s t : σ) : Prop := s = t ∧ P s

theorem CallsAlike.only {P : σ → Prop} {f : σ → Reply σ α} (h : ∀ s, P s → P (f s).2) :
    CallsAlike (Only P) f f := by
  rintro s t ⟨rfl, hs⟩
  exact ⟨rfl, rfl, h s hs⟩

theorem World.Match.only {P : σ → Prop} {w : World σ} (h : P w.accelerator) :
    World.Match (Only P) w w :=
  ⟨⟨rfl, h⟩, rfl, rfl, trivial, rfl, rfl, rfl⟩

namespace Simulator

variable {s t : Simulator}

/-- What a call leaves behind, whatever it answers. -/
inductive Called (s : Simulator) : Simulator → Prop
  | createExecutable : Called s s.createExecutable.2
  | loadReader (e g r) : Called s (s.loadReader e g r).2
  | loadCodeObject (e g c) : Called s (s.loadCodeObject e g c).2
  | freeze (e) : Called s (s.freeze e).2
  | destroyExecutable (e) : Called s (s.destroyExecutable e).2
  | getSymbol (e g n) : Called s (s.getSymbol e g n).2
  | defineGlobal (e n x) : Called s (s.defineGlobal e n x).2
  | createReader (fs p) : Called s (s.createReader fs p).2
  | destroyReader (r) : Called s (s.destroyReader r).2
  | deserialize (x n) : Called s (s.deserialize x n).2
  | destroyCodeObject (c) : Called s (s.destroyCodeObject c).2
  | lockMemory (g x n) : Called s (s.lockMemory g x n).2
  | unlockMemory (x) : Called s (s.unlockMemory x).2
  | findRegion (g) : Called s (s.findRegion g).2
  | allocate (r n) : Called s (s.allocate r n).2
  | free (x) : Called s (s.free x).2
  | writeMemory (x bs) : Called s (s.writeMemory x bs).2
  | dispatch (g q p) (bs : Bytes) (w) : Called s (s.dispatch g q p bs w).2
  | synchronize (g) : Called s (s.synchronize g).2
  | releaseCompletion (c) : Called s (s.releaseCompletion c).2

/-- The simulators that any use of a fresh one leads to. -/
inductive Reachable : Simulator → Prop
  | fresh (hasRegion : Bool) : Reachable { hasRegion }
  | called {s t : Simulator} (h : Reachable s) (c : Called s t) : Reachable t
  | inject {s : Simulator} (h : Reachable s) (point : FaultPoint) : Reachable (s.inject point)
  | clearFaults {s : Simulator} (h : Reachable s) : Reachable s.clearFaults
  | setSegmentSizes {s : Simulator} (h : Reachable s) (kernel : String) (group private_ : UInt32) :
      Reachable (s.setSegmentSizes kernel group private_)
  | setArgumentSize {s : Simulator} (h : Reachable s) (kernel : String) (size : UInt32) :
      Reachable (s.setArgumentSize kernel size)

/-- What all calls keep, a loader keeps. -/
theorem accelerator_only {P : Simulator → Prop} (h : ∀ s t, Called s t → P s → P t) :
    accelerator.Alike (Only P) accelerator where
  createExecutable := .only fun s hs => h s _ .createExecutable hs
  loadReader e g r := .only fun s hs => h s _ (.loadReader e g r) hs
  loadCodeObject e g c := .only fun s hs => h s _ (.loadCodeObject e g c) hs
  freeze e := .only fun s hs => h s _ (.freeze e) hs
  destroyExecutable e := .only fun s hs => h s _ (.destroyExecutable e) hs
  getSymbol e g n := .only fun s hs => h s _ (.getSymbol e g n) hs
  defineGlobal e n x := .only fun s hs => h s _ (.defineGlobal e n x) hs
  createReader fs p := .only fun s hs => h s _ (.createReader fs p) hs
  destroyReader r := .only fun s hs => h s _ (.destroyReader r) hs
  deserialize x n := .only fun s hs => h s _ (.deserialize x n) hs
  destroyCodeObject c := .only fun s hs => h s _ (.destroyCodeObject c) hs
  lockMemory g x n := .only fun s hs => h s _ (.lockMemory g x n) hs
  unlockMemory x := .only fun s hs => h s _ (.unlockMemory x) hs
  findRegion g := .only fun s hs => h s _ (.findRegion g) hs
  allocate r n := .only fun s hs => h s _ (.allocate r n) hs
  free x := .only fun s hs => h s _ (.free x) hs
  writeMemory x bs := .only fun s hs => h s _ (.writeMemory x bs) hs
  dispatch g q p bs w := .only fun s hs => h s _ (.dispatch g q p bs w) hs
  synchronize g := .only fun s hs => h s _ (.synchronize g) hs
  releaseCompletion c := .only fun s hs => h s _ (.releaseCompletion c) hs

/-! ## The counter of handles -/

theorem Fails.lastHandle_le {r : Reply Simulator α} (h : Fails r s) :
    s.lastHandle ≤ r.2.lastHandle := by
  obtain ⟨err, journal, loads, rfl⟩ := h
  exact Nat.le_refl _

theorem Succeeds.lastHandle_le {r : Reply Simulator α} {a : α} (h : Succeeds r a t) :
    t.lastHandle ≤ r.2.lastHandle := by
  obtain ⟨journal, loads, rfl⟩ := h
  exact Nat.le_refl _

/-- The counter never goes back. -/
theorem Called.lastHandle_le (c : Called s t) : s.lastHandle ≤ t.lastHandle := by
  have hnext : s.lastHandle ≤ s.nextHandle := Nat.le_succ _
  cases c with
  | createExecutable =>
    rcases createExecutable_cases s with h | h
    · exact h.lastHandle_le
    · exact Nat.le_trans hnext h.lastHandle_le
  | loadReader e g r =>
    rcases loadReader_cases s e g r with h | ⟨_, _, _, _, _, h⟩ <;> exact h.lastHandle_le
  | loadCodeObject e g c =>
    rcases loadCodeObject_cases s e g c with h | ⟨_, _, _, _, _, h⟩ <;> exact h.lastHandle_le
  | freeze e =>
    rcases freeze_cases s e with ⟨_, h⟩ | ⟨_, _, _, _, h⟩ <;> exact h.lastHandle_le
  | destroyExecutable e =>
    rcases destroyExecutable_cases s e with ⟨_, h⟩ | ⟨_, _, h⟩ <;> exact h.lastHandle_le
  | getSymbol e g n =>
    obtain ⟨journal, loads, heq⟩ := getSymbol_state s e g n
    exact heq ▸ Nat.le_refl _
  | defineGlobal e n x =>
    rcases defineGlobal_cases s e n x with h | ⟨_, _, _, _, _, h⟩ <;> exact h.lastHandle_le
  | createReader fs p =>
    rcases createReader_cases s fs p with h | ⟨_, h⟩
    · exact h.lastHandle_le
    · exact Nat.le_trans hnext h.lastHandle_le
  | destroyReader r =>
    rcases destroyReader_cases s r with ⟨_, h⟩ | ⟨_, h⟩ <;> exact h.lastHandle_le
  | deserialize x n =>
    rcases deserialize_cases s x n with h | ⟨_, h⟩
    · exact h.lastHandle_le
    · exact Nat.le_trans hnext h.lastHandle_le
  | destroyCodeObject c =>
    rcases destroyCodeObject_cases s c with ⟨_, h⟩ | ⟨_, h⟩ <;> exact h.lastHandle_le
  | lockMemory g x n =>
    rcases lockMemory_cases s g x n with h | ⟨_, _, h⟩ <;> exact h.lastHandle_le
  | unlockMemory x =>
    rcases unlockMemory_cases s x with ⟨_, h⟩ | ⟨_, _, h⟩ <;> exact h.lastHandle_le
  | findRegion g => exact (findRegion_state s g).symm ▸ Nat.le_refl _
  | allocate r n =>
    rcases allocate_cases s r n with h | ⟨_, _, h⟩ <;> exact h.lastHandle_le
  | free x =>
    rcases free_cases s x with ⟨_, h⟩ | ⟨_, _, h⟩ <;> exact h.lastHandle_le
  | writeMemory x bs =>
    rcases writeMemory_cases s x bs with h | ⟨_, _, _, _, h⟩ <;> exact h.lastHandle_le
  | dispatch g q p bs w =>
    obtain ⟨_, _, _, heq | heq⟩ := dispatch_state s g q p bs w
    · exact heq ▸ Nat.le_refl _
    · exact heq ▸ hnext
  | synchronize g =>
    obtain ⟨journal, loads, heq⟩ := synchronize_state s g
    exact heq ▸ Nat.le_refl _
  | releaseCompletion c =>
    obtain ⟨_, _, heq | heq⟩ := releaseCompletion_state s c <;> exact heq ▸ Nat.le_refl _

/-! ## Soundness -/

/-- Everything in use lies behind the counters, and no pin is without a holder. -/
structure Sound (s : Simulator) : Prop where
  executables : ∀ e, s.executables.contains e = true → e.id ≤ s.lastHandle
  codeObjects : ∀ c, s.codeObjects.contains c = true → c.id ≤ s.lastHandle
  readers : ∀ r, s.readers.contains r = true → r.id ≤ s.lastHandle
  allocations : ∀ x, s.allocations.contains x = true → x < allocationBase + s.pages * pageSize
  pins : ∀ x pin, s.pinned.get? x = some pin → 1 ≤ pin.holders

namespace Sound

variable {journal : List JournalEntry} {loads : Nat}

theorem histories (h : Sound s) : Sound { s with journal, loads } :=
  ⟨h.executables, h.codeObjects, h.readers, h.allocations, h.pins⟩

theorem of_fails {r : Reply Simulator α} (h : Sound s) (hr : Fails r s) : Sound r.2 := by
  obtain ⟨err, journal, loads, rfl⟩ := hr
  exact h.histories

theorem of_succeeds {r : Reply Simulator α} {a : α} (hr : Succeeds r a t) (h : Sound t) :
    Sound r.2 := by
  obtain ⟨journal, loads, rfl⟩ := hr
  exact h.histories

/-- The handle that comes next is not in use. -/
theorem fresh_executable (h : Sound s) : s.executables.contains ⟨s.nextHandle⟩ = false := by
  cases hc : s.executables.contains ⟨s.nextHandle⟩ with
  | false => rfl
  | true => exact absurd (h.executables _ hc) (Nat.not_succ_le_self _)

theorem fresh_codeObject (h : Sound s) : s.codeObjects.contains ⟨s.nextHandle⟩ = false := by
  cases hc : s.codeObjects.contains ⟨s.nextHandle⟩ with
  | false => rfl
  | true => exact absurd (h.codeObjects _ hc) (Nat.not_succ_le_self _)

theorem fresh_reader (h : Sound s) : s.readers.contains ⟨s.nextHandle⟩ = false := by
  cases hc : s.readers.contains ⟨s.nextHandle⟩ with
  | false => rfl
  | true => exact absurd (h.readers _ hc) (Nat.not_succ_le_self _)

theorem fresh_allocation (h : Sound s) :
    s.allocations.contains (allocationBase + s.pages * pageSize) = false := by
  cases hc : s.allocations.contains (allocationBase + s.pages * pageSize) with
  | false => rfl
  | true => exact absurd (h.allocations _ hc) (Nat.lt_irrefl _)

/-- An executable that is there may be replaced. -/
theorem put_executable (h : Sound s) {e : ExecutableHandle} {exe : Executable}
    (he : s.executables.get? e = some exe) (exe' : Executable) :
    Sound { s with executables := s.executables.put e exe' } where
  executables e' he' := by
    rcases Assoc.of_contains_put he' with rfl | he'
    · exact h.executables _ (Assoc.contains_of_get? he)
    · exact h.executables _ he'
  codeObjects := h.codeObjects
  readers := h.readers
  allocations := h.allocations
  pins := h.pins

/-- The counter may move on. -/
theorem next (h : Sound s) : Sound { s with lastHandle := s.nextHandle } where
  executables e he := Nat.le_succ_of_le (h.executables e he)
  codeObjects c hc := Nat.le_succ_of_le (h.codeObjects c hc)
  readers r hr := Nat.le_succ_of_le (h.readers r hr)
  allocations := h.allocations
  pins := h.pins

theorem createExecutable (h : Sound s) : Sound s.createExecutable.2 := by
  rcases createExecutable_cases s with hf | hok
  · exact h.of_fails hf
  · refine of_succeeds hok ⟨fun e he => ?_, h.next.codeObjects, h.next.readers, h.allocations,
      h.pins⟩
    rcases Assoc.of_contains_put he with rfl | he
    · exact Nat.le_refl _
    · exact h.next.executables e he

theorem deserialize (h : Sound s) (x n : Nat) : Sound (s.deserialize x n).2 := by
  rcases deserialize_cases s x n with hf | ⟨image, hok⟩
  · exact h.of_fails hf
  · refine of_succeeds hok ⟨h.next.executables, fun c hc => ?_, h.next.readers, h.allocations,
      h.pins⟩
    rcases Assoc.of_contains_put hc with rfl | hc
    · exact Nat.le_refl _
    · exact h.next.codeObjects c hc

theorem createReader (h : Sound s) (fs : Host.FileSystem) (p : String) :
    Sound (s.createReader fs p).2 := by
  rcases createReader_cases s fs p with hf | ⟨bytes, hok⟩
  · exact h.of_fails hf
  · refine of_succeeds hok ⟨h.next.executables, h.next.codeObjects, fun r hr => ?_, h.allocations,
      h.pins⟩
    rcases Assoc.of_contains_put hr with rfl | hr
    · exact Nat.le_refl _
    · exact h.next.readers r hr

theorem loadReader (h : Sound s) (e : ExecutableHandle) (g : AgentHandle) (r : ReaderHandle) :
    Sound (s.loadReader e g r).2 := by
  rcases loadReader_cases s e g r with hf | ⟨exe, exe', he, _, _, hok⟩
  · exact h.of_fails hf
  · exact of_succeeds hok (h.put_executable he exe')

theorem loadCodeObject (h : Sound s) (e : ExecutableHandle) (g : AgentHandle)
    (c : CodeObjectHandle) : Sound (s.loadCodeObject e g c).2 := by
  rcases loadCodeObject_cases s e g c with hf | ⟨exe, exe', he, _, _, hok⟩
  · exact h.of_fails hf
  · exact of_succeeds hok (h.put_executable he exe')

theorem freeze (h : Sound s) (e : ExecutableHandle) : Sound (s.freeze e).2 := by
  rcases freeze_cases s e with ⟨_, hf⟩ | ⟨exe, _, he, _, hok⟩
  · exact h.of_fails hf
  · exact of_succeeds hok (h.put_executable he _)

theorem defineGlobal (h : Sound s) (e : ExecutableHandle) (n : String) (x : UInt64) :
    Sound (s.defineGlobal e n x).2 := by
  rcases defineGlobal_cases s e n x with hf | ⟨exe, exe', he, _, _, hok⟩
  · exact h.of_fails hf
  · exact of_succeeds hok (h.put_executable he exe')

theorem destroyExecutable (h : Sound s) (e : ExecutableHandle) :
    Sound (s.destroyExecutable e).2 := by
  rcases destroyExecutable_cases s e with ⟨_, hf⟩ | ⟨_, _, hok⟩
  · exact h.of_fails hf
  · refine of_succeeds hok ⟨fun e' he => ?_, h.codeObjects, h.readers, h.allocations, h.pins⟩
    rw [Assoc.contains_erase, Bool.and_eq_true] at he
    exact h.executables e' he.2

theorem destroyReader (h : Sound s) (r : ReaderHandle) : Sound (s.destroyReader r).2 := by
  rcases destroyReader_cases s r with ⟨_, hf⟩ | ⟨_, hok⟩
  · exact h.of_fails hf
  · refine of_succeeds hok ⟨h.executables, h.codeObjects, fun r' hr => ?_, h.allocations, h.pins⟩
    rw [Assoc.contains_erase, Bool.and_eq_true] at hr
    exact h.readers r' hr.2

theorem destroyCodeObject (h : Sound s) (c : CodeObjectHandle) :
    Sound (s.destroyCodeObject c).2 := by
  rcases destroyCodeObject_cases s c with ⟨_, hf⟩ | ⟨_, hok⟩
  · exact h.of_fails hf
  · refine of_succeeds hok ⟨h.executables, fun c' hc => ?_, h.readers, h.allocations, h.pins⟩
    rw [Assoc.contains_erase, Bool.and_eq_true] at hc
    exact h.codeObjects c' hc.2

theorem lockMemory (h : Sound s) (g : AgentHandle) (x : UInt64) (n : Nat) :
    Sound (s.lockMemory g x n).2 := by
  rcases lockMemory_cases s g x n with hf | ⟨pin, hpin, hok⟩
  · exact h.of_fails hf
  · refine of_succeeds hok ⟨h.executables, h.codeObjects, h.readers, h.allocations,
      fun y pin' hy => ?_⟩
    rw [Assoc.get?_put] at hy
    split at hy
    · cases hy
      omega
    · exact h.pins y pin' hy

theorem unlockMemory (h : Sound s) (x : UInt64) : Sound (s.unlockMemory x).2 := by
  rcases unlockMemory_cases s x with ⟨_, hf⟩ | ⟨pin, hpin, hok⟩
  · exact h.of_fails hf
  · refine of_succeeds hok ⟨h.executables, h.codeObjects, h.readers, h.allocations,
      fun y pin' hy => ?_⟩
    dsimp only at hy
    split at hy
    · rw [Assoc.get?_erase] at hy
      split at hy
      · cases hy
      · exact h.pins y pin' hy
    · rw [Assoc.get?_put] at hy
      split at hy
      · cases hy
        dsimp only
        omega
      · exact h.pins y pin' hy

theorem allocate (h : Sound s) (r : RegionHandle) (n : Nat) : Sound (s.allocate r n).2 := by
  rcases allocate_cases s r n with hf | ⟨pages, hpages, hok⟩
  · exact h.of_fails hf
  · have hmore : s.pages * pageSize < pages * pageSize :=
      (Nat.mul_lt_mul_right (by decide)).mpr hpages
    refine of_succeeds hok ⟨h.executables, h.codeObjects, h.readers, fun x hx => ?_, h.pins⟩
    rcases Assoc.of_contains_put hx with rfl | hx
    · exact Nat.add_lt_add_left hmore _
    · exact Nat.lt_trans (h.allocations x hx) (Nat.add_lt_add_left hmore _)

theorem free (h : Sound s) (x : Nat) : Sound (s.free x).2 := by
  rcases free_cases s x with ⟨_, hf⟩ | ⟨_, _, hok⟩
  · exact h.of_fails hf
  · refine of_succeeds hok ⟨h.executables, h.codeObjects, h.readers, fun y hy => ?_, h.pins⟩
    rw [Assoc.contains_erase, Bool.and_eq_true] at hy
    exact h.allocations y hy.2

/-- The allocation that holds a range is one of those in use. -/
theorem contains_of_allocationAt? {base address size : Nat}
    {old : Bytes} (h : s.allocationAt? address size = some (base, old)) :
    s.allocations.contains base = true := by
  cases hc : s.allocations.contains base with
  | true => rfl
  | false => exact absurd rfl (Assoc.ne_of_not_contains hc _ (List.mem_of_find?_eq_some h))

theorem writeMemory (h : Sound s) (x : Nat) (bs : Bytes) : Sound (s.writeMemory x bs).2 := by
  rcases writeMemory_cases s x bs with hf | ⟨base, old, new, hfound, hok⟩
  · exact h.of_fails hf
  · refine of_succeeds hok ⟨h.executables, h.codeObjects, h.readers, fun y hy => ?_, h.pins⟩
    rcases Assoc.of_contains_put hy with rfl | hy
    · exact h.allocations _ (contains_of_allocationAt? hfound)
    · exact h.allocations y hy

theorem dispatch (h : Sound s) (g : AgentHandle) (q : QueueHandle) (p : Packet) (bs : Bytes)
    (w : Bool) : Sound (s.dispatch g q p bs w).2 := by
  obtain ⟨journal, loads, dispatches, heq | heq⟩ := dispatch_state s g q p bs w <;> rw [heq]
  · exact ⟨h.executables, h.codeObjects, h.readers, h.allocations, h.pins⟩
  · exact ⟨h.next.executables, h.next.codeObjects, h.next.readers, h.allocations, h.pins⟩

/-- **Every call keeps the simulator sound.** -/
theorem called (h : Sound s) (c : Called s t) : Sound t := by
  cases c with
  | createExecutable => exact h.createExecutable
  | loadReader e g r => exact h.loadReader e g r
  | loadCodeObject e g c => exact h.loadCodeObject e g c
  | freeze e => exact h.freeze e
  | destroyExecutable e => exact h.destroyExecutable e
  | getSymbol e g n =>
    obtain ⟨journal, loads, heq⟩ := getSymbol_state s e g n
    exact heq ▸ h.histories
  | defineGlobal e n x => exact h.defineGlobal e n x
  | createReader fs p => exact h.createReader fs p
  | destroyReader r => exact h.destroyReader r
  | deserialize x n => exact h.deserialize x n
  | destroyCodeObject c => exact h.destroyCodeObject c
  | lockMemory g x n => exact h.lockMemory g x n
  | unlockMemory x => exact h.unlockMemory x
  | findRegion g => exact (findRegion_state s g).symm ▸ h
  | allocate r n => exact h.allocate r n
  | free x => exact h.free x
  | writeMemory x bs => exact h.writeMemory x bs
  | dispatch g q p bs w => exact h.dispatch g q p bs w
  | synchronize g =>
    obtain ⟨journal, loads, heq⟩ := synchronize_state s g
    exact heq ▸ h.histories
  | releaseCompletion c =>
    obtain ⟨journal, loads, heq | heq⟩ := releaseCompletion_state s c <;> rw [heq]
    · exact h.histories
    · exact ⟨h.executables, h.codeObjects, h.readers, h.allocations, h.pins⟩

end Sound

/-- **Every reachable simulator is sound.** -/
theorem Reachable.sound (h : Reachable s) : Sound s := by
  induction h with
  | fresh hasRegion =>
    exact ⟨fun _ he => absurd he Bool.false_ne_true, fun _ hc => absurd hc Bool.false_ne_true,
      fun _ hr => absurd hr Bool.false_ne_true, fun _ hx => absurd hx Bool.false_ne_true,
      fun _ _ hx => by cases hx⟩
  | called _ c ih => exact ih.called c
  | inject _ point ih =>
    unfold Simulator.inject
    split
    · exact ih
    · exact ⟨ih.executables, ih.codeObjects, ih.readers, ih.allocations, ih.pins⟩
  | clearFaults _ ih => exact ⟨ih.executables, ih.codeObjects, ih.readers, ih.allocations, ih.pins⟩
  | setSegmentSizes _ kernel group private_ ih =>
    exact ⟨ih.executables, ih.codeObjects, ih.readers, ih.allocations, ih.pins⟩
  | setArgumentSize _ kernel size ih =>
    exact ⟨ih.executables, ih.codeObjects, ih.readers, ih.allocations, ih.pins⟩

end Simulator

end DeviceCode

import DeviceCode.Proofs.Kernel.PackedFields
import DeviceCode.Proofs.Operations

/-!
# Allocations lie apart

The simulator hands out device memory by a counter of pages that only goes up. An allocation starts
at the counter (`frontier`) and takes as many pages as its bytes need and one page more, so it ends
before the next one starts, and a byte is left free behind it.

`Reallotted` says once what an operation can do to device memory. What every run keeps follows from
it: allocations lie `Apart`, and the frontier never goes back. The test for the allocation that
holds a range looks at the end of an allocation too, where an empty range may start; because of the
free byte it still finds one allocation at most, in whatever order they are looked at.
-/

namespace DeviceCode

/-- Where one entry at most passes a test, what is found is what passes it. -/
theorem find?_eq_some_iff_of_unique {α : Type} {l : List α} {p : α → Prop} [DecidablePred p]
    (h : ∀ a ∈ l, ∀ b ∈ l, p a → p b → a = b) {a : α} :
    l.find? (fun x => decide (p x)) = some a ↔ a ∈ l ∧ p a := by
  constructor
  · intro hfind
    exact ⟨List.mem_of_find?_eq_some hfind, of_decide_eq_true (List.find?_some hfind :)⟩
  · intro ⟨ha, hpa⟩
    have hsome : (l.find? fun x => decide (p x)).isSome = true :=
      List.find?_isSome.mpr ⟨a, ha, decide_eq_true hpa⟩
    obtain ⟨b, hb⟩ := Option.isSome_iff_exists.mp hsome
    have hpb : p b := of_decide_eq_true (List.find?_some hb :)
    rw [hb, h a ha b (List.mem_of_find?_eq_some hb) hpa hpb]

namespace Simulator

variable {s t : Simulator} {address size base : Nat} {bytes old : Bytes}

/-- Where the next allocation starts. -/
def frontier (s : Simulator) : Nat := allocationBase + s.pages * pageSize

/-- What the simulator knows of device memory. -/
def memory (s : Simulator) : Assoc Nat Bytes × Nat := (s.allocations, s.pages)

/-- Whether an allocation holds `[address, address + size)`. It may start where the allocation ends,
if it is empty. -/
def Covers (address size : Nat) (e : Nat × Bytes) : Prop :=
  e.1 ≤ address ∧ address - e.1 + size ≤ e.2.length

instance (address size : Nat) : DecidablePred (Covers address size) :=
  fun _ => inferInstanceAs (Decidable (_ ∧ _))

theorem allocationAt?_eq (s : Simulator) (address size : Nat) :
    s.allocationAt? address size =
      s.allocations.entries.find? fun e => decide (Covers address size e) := by
  unfold allocationAt?
  refine congrArg (s.allocations.entries.find? ·) (funext fun e => ?_)
  exact (Bool.decide_and _ _).symm

/-- The byte at an address belongs to an allocation. -/
def Occupied (s : Simulator) (address : Nat) : Prop :=
  ∃ e ∈ s.allocations.entries, e.1 ≤ address ∧ address < e.1 + e.2.length

/-- What an operation can do to device memory. -/
inductive Reallotted (s t : Simulator) : Prop
  | kept (h : t.memory = s.memory)
  /-- The frontier moves on, past the end of the new allocation. -/
  | allocated {size : Nat} (h : t.allocations = s.allocations.put s.frontier (Bytes.zeros size))
      (hpast : s.frontier + size < t.frontier)
  | freed {address : Nat} (h : t.memory = (s.allocations.erase address, s.pages))
  | written {address : Nat} {bytes : Bytes} {base : Nat} {old : Bytes}
      (hfound : s.allocationAt? address bytes.length = some (base, old))
      (h : t.memory =
        (s.allocations.put base (Bytes.overwrite old (address - base) bytes), s.pages))

theorem frontier_of_memory (h : t.memory = s.memory) : t.frontier = s.frontier := by
  have hpages : t.pages = s.pages := congrArg (·.2) h
  unfold frontier
  rw [hpages]

/-! ## The three calls -/

/-- The pages of an allocation and the one behind them reach past its end. -/
theorem lt_pages (pages size : Nat) :
    allocationBase + pages * pageSize + size <
      allocationBase + (pages + (size + pageSize - 1) / pageSize + 1) * pageSize := by
  unfold pageSize
  omega

theorem allocate_answer {region : RegionHandle}
    (h : s.allocate region size = (.ok address, t)) :
    address = s.frontier ∧ t.allocations = s.allocations.put s.frontier (Bytes.zeros size) ∧
      s.frontier + size < t.frontier := by
  unfold allocate at h
  split at h
  · cases h
  · split at h
    · cases h
    · cases h
      exact ⟨rfl, rfl, lt_pages s.pages size⟩

theorem allocate_reallotted (s : Simulator) (region : RegionHandle) (size : Nat) :
    Reallotted s (s.allocate region size).2 := by
  rcases hrun : s.allocate region size with ⟨e | x, t⟩
  · rcases allocate_cases s region size with hfails | ⟨_, _, _, _, hok⟩
    · have hsame := hfails.same memory fun _ _ _ => rfl
      rw [hrun] at hsame
      exact .kept hsame
    · rw [hrun] at hok
      cases hok
  · obtain ⟨-, hallocations, hpast⟩ := allocate_answer hrun
    exact .allocated hallocations hpast

theorem free_reallotted (s : Simulator) (address : Nat) : Reallotted s (s.free address).2 := by
  rcases free_cases s address with ⟨-, hfails⟩ | ⟨-, -, hok⟩
  · exact .kept (hfails.same memory fun _ _ _ => rfl)
  · exact .freed (hok.same memory fun _ _ _ => rfl)

theorem writeMemory_answer (h : s.writeMemory address bytes = (.ok (), t)) :
    ∃ base old, s.allocationAt? address bytes.length = some (base, old) ∧
      t.memory = (s.allocations.put base (Bytes.overwrite old (address - base) bytes),
        s.pages) := by
  unfold writeMemory at h
  dsimp only at h
  split at h
  · cases h
  · split at h
    · cases h
    · next base old hfound =>
      cases h
      exact ⟨base, old, hfound, rfl⟩

theorem writeMemory_reallotted (s : Simulator) (address : Nat) (bytes : Bytes) :
    Reallotted s (s.writeMemory address bytes).2 := by
  rcases hrun : s.writeMemory address bytes with ⟨e | u, t⟩
  · rcases writeMemory_cases s address bytes with hfails | ⟨_, _, _, _, _, _, hok⟩
    · have hsame := hfails.same memory fun _ _ _ => rfl
      rw [hrun] at hsame
      exact .kept hsame
    · rw [hrun] at hok
      cases hok
  · obtain ⟨base, old, hfound, hmemory⟩ := writeMemory_answer hrun
    exact .written hfound hmemory

end Simulator

/-! ## Operations -/

namespace Operation

open Simulator

/-- The operations that are about device memory. -/
def changesMemory : Operation → Bool
  | allocate _ _ => true
  | free _ => true
  | writeMemory _ _ => true
  | _ => false

/-- **No other operation changes device memory.** -/
theorem perform_memory {op : Operation} (h : op.changesMemory = false) (s : Simulator) :
    (op.perform s).2.memory = s.memory := by
  have hsame : ∀ (s : Simulator) journal loads, memory { s with journal, loads } = s.memory :=
    fun _ _ _ => rfl
  cases op with
  | createExecutable =>
    rcases createExecutable_cases s with h | h <;> exact h.same memory hsame
  | loadReader e g r =>
    rcases loadReader_cases s e g r with h | ⟨_, _, _, _, _, h⟩ <;> exact h.same memory hsame
  | loadCodeObject e g c =>
    rcases loadCodeObject_cases s e g c with h | ⟨_, _, _, _, _, h⟩ <;> exact h.same memory hsame
  | freeze e =>
    rcases freeze_cases s e with ⟨_, h⟩ | ⟨_, _, _, _, h⟩ <;> exact h.same memory hsame
  | destroyExecutable e =>
    rcases destroyExecutable_cases s e with ⟨_, h⟩ | ⟨_, _, h⟩ <;> exact h.same memory hsame
  | getSymbol e g name =>
    obtain ⟨journal, loads, hstate⟩ := getSymbol_state s e g name
    exact (congrArg memory hstate :)
  | defineGlobal e name x =>
    rcases defineGlobal_cases s e name x with h | ⟨_, _, _, _, _, h⟩ <;> exact h.same memory hsame
  | createReader fs path =>
    rcases createReader_cases s fs path with h | ⟨_, h⟩ <;> exact h.same memory hsame
  | destroyReader r =>
    rcases destroyReader_cases s r with ⟨_, h⟩ | ⟨_, h⟩ <;> exact h.same memory hsame
  | deserialize x n =>
    rcases deserialize_cases s x n with h | ⟨_, h⟩ <;> exact h.same memory hsame
  | destroyCodeObject c =>
    rcases destroyCodeObject_cases s c with ⟨_, h⟩ | ⟨_, h⟩ <;> exact h.same memory hsame
  | lockMemory g x n =>
    rcases lockMemory_cases s g x n with h | ⟨_, _, h⟩ <;> exact h.same memory hsame
  | unlockMemory x =>
    rcases unlockMemory_cases s x with ⟨_, h⟩ | ⟨_, _, h⟩ <;> exact h.same memory hsame
  | findRegion g => exact congrArg memory (findRegion_state s g)
  | dispatch g q packet arguments wantCompletion =>
    obtain ⟨_, _, _, hstate | hstate⟩ := dispatch_state s g q packet arguments wantCompletion
    all_goals exact (congrArg memory hstate :)
  | synchronize g =>
    obtain ⟨journal, loads, hstate⟩ := synchronize_state s g
    exact (congrArg memory hstate :)
  | releaseCompletion c =>
    obtain ⟨_, _, hstate | hstate⟩ := releaseCompletion_state s c
    all_goals exact (congrArg memory hstate :)
  | inject point =>
    obtain ⟨faults, hstate⟩ := s.inject_eq point
    exact (congrArg memory hstate :)
  | clearFaults => rfl
  | setSegmentSizes kernel group private_ => rfl
  | setArgumentSize kernel size => rfl
  | withdrawRegion => rfl
  | _ => cases h

/-- **What an operation does to device memory.** -/
theorem perform_reallotted (s : Simulator) (op : Operation) : Reallotted s (op.perform s).2 := by
  cases hmemory : op.changesMemory with
  | false => exact .kept (perform_memory hmemory s)
  | true =>
    cases op with
    | allocate region size => exact allocate_reallotted s region size
    | free address => exact free_reallotted s address
    | writeMemory address bytes => exact writeMemory_reallotted s address bytes
    | _ => cases hmemory

end Operation

namespace Simulator

variable {s t : Simulator} {address size base : Nat} {bytes old : Bytes}

theorem Reallotted.frontier_le (h : Reallotted s t) : s.frontier ≤ t.frontier := by
  have hpages : ∀ {allocations : Assoc Nat Bytes}, t.memory = (allocations, s.pages) →
      s.frontier ≤ t.frontier := by
    intro allocations hmemory
    have hsame : t.pages = s.pages := congrArg (·.2) hmemory
    unfold frontier
    rw [hsame]
  cases h with
  | kept h => exact Nat.le_of_eq (frontier_of_memory h).symm
  | allocated _ hpast => omega
  | freed h => exact hpages h
  | written _ h => exact hpages h

/-! ## Apart -/

/-- Allocations end before the next one starts, with a byte to spare. -/
structure Apart (s : Simulator) : Prop where
  /-- There is one allocation at most at an address. -/
  keys : s.allocations.keys.Nodup
  behind : ∀ base bytes, s.allocations.get? base = some bytes → base + bytes.length < s.frontier
  apart : ∀ base bytes base' bytes', s.allocations.get? base = some bytes →
    s.allocations.get? base' = some bytes' → base < base' → base + bytes.length < base'

theorem covers_of_found (h : s.allocationAt? address size = some (base, bytes)) :
    (base, bytes) ∈ s.allocations.entries ∧ Covers address size (base, bytes) := by
  rw [allocationAt?_eq] at h
  exact ⟨List.mem_of_find?_eq_some h, of_decide_eq_true (List.find?_some h :)⟩

namespace Apart

/-- What was there keeps its size, and the frontier does not go back. -/
theorem of_lengths (h : s.Apart) (hkeys : t.allocations.keys.Nodup)
    (hfrontier : s.frontier ≤ t.frontier)
    (hold : ∀ base bytes, t.allocations.get? base = some bytes →
      ∃ old, s.allocations.get? base = some old ∧ bytes.length = old.length) : t.Apart where
  keys := hkeys
  behind base bytes hbase := by
    obtain ⟨old, hold, hlength⟩ := hold base bytes hbase
    have := h.behind base old hold
    omega
  apart base bytes base' bytes' hbase hbase' hlt := by
    obtain ⟨old, hbefore, hlength⟩ := hold base bytes hbase
    obtain ⟨old', hbefore', -⟩ := hold base' bytes' hbase'
    rw [hlength]
    exact h.apart base old base' old' hbefore hbefore' hlt

/-- What lies at the frontier has everything else before it. -/
theorem allocated (h : s.Apart)
    (hallocations : t.allocations = s.allocations.put s.frontier (Bytes.zeros size))
    (hpast : s.frontier + size < t.frontier) : t.Apart := by
  have hcases : ∀ base bytes, t.allocations.get? base = some bytes →
      base = s.frontier ∧ bytes.length = size ∨ s.allocations.get? base = some bytes := by
    intro base bytes hbase
    rw [hallocations, Assoc.get?_put] at hbase
    split at hbase
    · next hfrontier =>
      cases hbase
      exact .inl ⟨hfrontier.symm, Bytes.length_zeros size⟩
    · exact .inr hbase
  refine ⟨?_, fun base bytes hbase => ?_, fun base bytes base' bytes' hbase hbase' hlt => ?_⟩
  · rw [hallocations]
    exact Assoc.keys_put_nodup h.keys _ _
  · obtain ⟨rfl, rfl⟩ | hbase := hcases base bytes hbase
    · exact hpast
    · have := h.behind base bytes hbase
      omega
  · obtain ⟨rfl, -⟩ | hbase := hcases base bytes hbase
    · -- nothing lies behind the new allocation
      obtain ⟨rfl, -⟩ | hbase' := hcases base' bytes' hbase'
      · omega
      · have := h.behind base' bytes' hbase'
        omega
    · obtain ⟨rfl, -⟩ | hbase' := hcases base' bytes' hbase'
      · exact h.behind base bytes hbase
      · exact h.apart base bytes base' bytes' hbase hbase' hlt

/-- The allocation that is found is the one at its address. -/
theorem get?_of_found (h : s.Apart)
    (hfound : s.allocationAt? address size = some (base, bytes)) :
    s.allocations.get? base = some bytes :=
  (Assoc.mem_entries h.keys).mp (covers_of_found hfound).1

/-- Writing over an allocation does not change its size. -/
theorem length_written (hfound : s.allocationAt? address bytes.length = some (base, old)) :
    (Bytes.overwrite old (address - base) bytes).length = old.length :=
  Bytes.length_overwrite (covers_of_found hfound).2.2

/-- **Every operation leaves allocations apart.** -/
theorem reallotted (h : s.Apart) (hstep : Reallotted s t) : t.Apart := by
  have hfrontier := hstep.frontier_le
  cases hstep with
  | kept hmemory =>
    have hsame : t.allocations = s.allocations := congrArg (·.1) hmemory
    refine h.of_lengths (hsame ▸ h.keys) hfrontier fun base bytes hbase => ?_
    exact ⟨bytes, hsame ▸ hbase, rfl⟩
  | allocated hallocations hpast => exact h.allocated hallocations hpast
  | @freed address hmemory =>
    have herased : t.allocations = s.allocations.erase address := congrArg (·.1) hmemory
    refine h.of_lengths (herased ▸ Assoc.keys_erase_nodup h.keys _) hfrontier ?_
    intro base bytes hbase
    rw [herased, Assoc.get?_erase] at hbase
    split at hbase
    · cases hbase
    · exact ⟨bytes, hbase, rfl⟩
  | @written address bytes base old hfound hmemory =>
    have hput : t.allocations =
      s.allocations.put base (Bytes.overwrite old (address - base) bytes) := congrArg (·.1) hmemory
    refine h.of_lengths (hput ▸ Assoc.keys_put_nodup h.keys _ _) hfrontier ?_
    intro other new hnew
    rw [hput, Assoc.get?_put] at hnew
    split at hnew
    · next hsame =>
      subst hsame
      cases hnew
      exact ⟨old, h.get?_of_found hfound, length_written hfound⟩
    · exact ⟨new, hnew, rfl⟩

/-! ### What it means for ranges -/

/-- Of two allocations one ends before the other starts. -/
theorem of_ne (h : s.Apart) {e e' : Nat × Bytes} (he : e ∈ s.allocations.entries)
    (he' : e' ∈ s.allocations.entries) (hne : e ≠ e') :
    e.1 + e.2.length < e'.1 ∨ e'.1 + e'.2.length < e.1 := by
  obtain ⟨base, bytes⟩ := e
  obtain ⟨base', bytes'⟩ := e'
  have hbase := (Assoc.mem_entries h.keys).mp he
  have hbase' := (Assoc.mem_entries h.keys).mp he'
  rcases Nat.lt_trichotomy base base' with hlt | rfl | hlt
  · exact .inl (h.apart base bytes base' bytes' hbase hbase' hlt)
  · rw [hbase] at hbase'
    cases hbase'
    exact absurd rfl hne
  · exact .inr (h.apart base' bytes' base bytes hbase' hbase hlt)

/-- **At most one allocation passes the test.** -/
theorem eq_of_covers (h : s.Apart) {e e' : Nat × Bytes} (he : e ∈ s.allocations.entries)
    (he' : e' ∈ s.allocations.entries) (hcovers : Covers address size e)
    (hcovers' : Covers address size e') : e = e' := by
  obtain ⟨hle, hend⟩ := hcovers
  obtain ⟨hle', hend'⟩ := hcovers'
  by_contra hne
  have := h.of_ne he he' hne
  omega

/-- What is found is what passes the test. -/
theorem allocationAt?_eq_some_iff (h : s.Apart) {e : Nat × Bytes} :
    s.allocationAt? address size = some e ↔
      e ∈ s.allocations.entries ∧ Covers address size e := by
  rw [allocationAt?_eq]
  exact find?_eq_some_iff_of_unique fun _ he _ he' => h.eq_of_covers he he'

/-- **The order in which allocations are looked at does not matter.** -/
theorem allocationAt?_perm (h : s.Apart) {entries : List (Nat × Bytes)}
    (hperm : entries.Perm s.allocations.entries) (address size : Nat) :
    ({ s with allocations := ⟨entries⟩ } : Simulator).allocationAt? address size =
      s.allocationAt? address size := by
  refine Option.ext fun e => ?_
  rw [h.allocationAt?_eq_some_iff, allocationAt?_eq, find?_eq_some_iff_of_unique]
  · exact and_congr_left' hperm.mem_iff
  · intro e he e' he'
    exact h.eq_of_covers (hperm.mem_iff.mp he) (hperm.mem_iff.mp he')

/-- The byte behind an allocation is free. -/
theorem not_occupied (h : s.Apart) {e : Nat × Bytes} (he : e ∈ s.allocations.entries) :
    ¬ s.Occupied (e.1 + e.2.length) := by
  intro ⟨e', he', hle, hlt⟩
  by_cases hsame : e = e'
  · subst hsame
    omega
  · have := h.of_ne he he' hsame
    omega

end Apart

/-- `t` is `s` with bytes written at an address: they lie inside one allocation, which has kept its
size and its other bytes, and no other allocation has changed. -/
structure WrittenIn (s : Simulator) (address : Nat) (bytes : Bytes) (base : Nat) (old new : Bytes)
    (t : Simulator) : Prop where
  before : s.allocations.get? base = some old
  after : t.allocations.get? base = some new
  inside : base ≤ address ∧ address + bytes.length ≤ base + old.length
  length : new.length = old.length
  bytes : ∀ i, new[i]? =
    if address ≤ base + i ∧ base + i < address + bytes.length then bytes[base + i - address]?
    else old[i]?
  others : ∀ other, other ≠ base → t.allocations.get? other = s.allocations.get? other

/-- **A write that succeeds changes the bytes of its range** and nothing else. -/
theorem Apart.writeMemory (h : s.Apart) (hwrite : s.writeMemory address bytes = (.ok (), t)) :
    ∃ base old new, WrittenIn s address bytes base old new t := by
  obtain ⟨base, old, hfound, hmemory⟩ := writeMemory_answer hwrite
  obtain ⟨hle, hend⟩ := (covers_of_found hfound).2
  dsimp only at hle hend
  have hput : t.allocations =
    s.allocations.put base (Bytes.overwrite old (address - base) bytes) := congrArg (·.1) hmemory
  refine ⟨base, old, _, h.get?_of_found hfound, ?_, ⟨hle, by omega⟩, length_written hfound,
    fun i => ?_, fun other hother => ?_⟩
  · rw [hput, Assoc.get?_put, if_pos rfl]
  · by_cases hinside : address ≤ base + i ∧ base + i < address + bytes.length
    · rw [if_pos hinside]
      have hi : i = address - base + (base + i - address) := by omega
      conv_lhs => rw [hi]
      exact Bytes.getElem?_overwrite_inside hend (by omega)
    · rw [if_neg hinside]
      exact Bytes.getElem?_overwrite_outside hend (by omega)
  · rw [hput, Assoc.get?_put, if_neg (Ne.symm hother)]

end Simulator

/-! ## Runs -/

namespace Operation

open Simulator

variable {s t : Simulator}

theorem run_frontier_le (s : Simulator) (ops : List Operation) :
    s.frontier ≤ (run s ops).frontier := by
  induction ops generalizing s with
  | nil => exact Nat.le_refl _
  | cons op ops ih => exact Nat.le_trans (perform_reallotted s op).frontier_le (ih _)

theorem run_apart (h : s.Apart) (ops : List Operation) : (run s ops).Apart := by
  induction ops generalizing s with
  | nil => exact h
  | cons op ops ih => exact ih (h.reallotted (perform_reallotted s op))

theorem fresh_apart : ({} : Simulator).Apart where
  keys := List.nodup_nil
  behind _ _ h := by cases h
  apart _ _ _ _ h := by cases h

/-- **What is handed out later lies behind all that was handed out before**, freed or not. -/
theorem allocate_later {region region' : RegionHandle} {size size' address address' : Nat}
    {u : Simulator} {ops : List Operation} (h : s.allocate region size = (.ok address, t))
    (h' : (run t ops).allocate region' size' = (.ok address', u)) : address + size < address' := by
  obtain ⟨rfl, -, hpast⟩ := allocate_answer h
  obtain ⟨rfl, -, -⟩ := allocate_answer h'
  have := run_frontier_le t ops
  omega

end Operation

namespace Simulator

variable {s : Simulator}

/-- No two allocations share an address, now or later, and what is asked for by address does not
depend on the order in which allocations are kept. -/
structure Unaliased (s : Simulator) : Prop where
  apart : ∀ e ∈ s.allocations.entries, ∀ e' ∈ s.allocations.entries, e ≠ e' →
    e.1 + e.2.length < e'.1 ∨ e'.1 + e'.2.length < e.1
  /-- The byte behind an allocation is free. -/
  behind : ∀ e ∈ s.allocations.entries, ¬ s.Occupied (e.1 + e.2.length)
  /-- No address is handed out again, whatever happens to the allocation in between. -/
  later : ∀ region size address t, s.allocate region size = (.ok address, t) →
    ∀ ops region' size' address' u,
      (Operation.run t ops).allocate region' size' = (.ok address', u) → address + size < address'
  unique : ∀ address size, ∀ e ∈ s.allocations.entries, ∀ e' ∈ s.allocations.entries,
    Covers address size e → Covers address size e' → e = e'
  found : ∀ address size e, s.allocationAt? address size = some e ↔
    e ∈ s.allocations.entries ∧ Covers address size e
  reordered : ∀ entries, entries.Perm s.allocations.entries → ∀ address size,
    ({ s with allocations := ⟨entries⟩ } : Simulator).allocationAt? address size =
      s.allocationAt? address size
  written : ∀ address bytes t, s.writeMemory address bytes = (.ok (), t) →
    ∃ base old new, WrittenIn s address bytes base old new t

theorem Apart.unaliased (h : s.Apart) : s.Unaliased where
  apart _ he _ he' hne := h.of_ne he he' hne
  behind _ he := h.not_occupied he
  later _ _ _ _ hfirst _ _ _ _ _ hthen := Operation.allocate_later hfirst hthen
  unique _ _ _ he _ he' hcovers hcovers' := h.eq_of_covers he he' hcovers hcovers'
  found _ _ _ := h.allocationAt?_eq_some_iff
  reordered _ hperm address size := h.allocationAt?_perm hperm address size
  written _ _ _ hwrite := h.writeMemory hwrite

end Simulator

end DeviceCode

import DeviceCode.Proofs.Leads

/-!
# What a load holds on to

`Acquired s₀ s held`: the simulator `s` is `s₀` with the holdings of one load on top, and nothing
else. Each kind of thing that a load acquires is one key more in one map, or one holder more of a
pinned range; taking it away again gives back the very map that was there before. Histories and
counters are left out, and so is the recorded size of a pinned range.

Each call that a load makes is one lemma: how the holdings change when it succeeds, and that they
stay when it fails.
-/

namespace DeviceCode

/-- All handles held are later than the `n`-th. -/
structure Holdings.Fresh (held : Holdings) (n : Nat) : Prop where
  executable : ∀ e, held.executable = some e → n < e.id
  codeObject : ∀ c, held.codeObject = some c → n < c.id
  reader : ∀ r, held.reader = some r → n < r.id

/-- How many of the pins held are pins of an address. -/
def Holdings.pinsAt (held : Holdings) (address : UInt64) : Nat :=
  (held.pins.map (·.hostAddress)).count address

namespace Simulator

/-- What no load touches. -/
def bystanders (s : Simulator) : List SubmittedDispatch × List CompletionHandle ×
    List FaultPoint × Assoc String (UInt32 × UInt32) × Assoc String UInt32 × Bool :=
  (s.dispatches, s.completions, s.faults, s.segmentSizes, s.argumentSizes, s.hasRegion)

theorem faults_of_bystanders {s t : Simulator} (h : s.bystanders = t.bystanders) :
    s.faults = t.faults := congrArg (fun b => b.2.2.1) h

theorem faulty_of_bystanders {s t : Simulator} (h : s.bystanders = t.bystanders)
    (point : FaultPoint) : s.faulty point = t.faulty point := by
  unfold faulty
  rw [faults_of_bystanders h]

/-- `s` is `s₀` and what is held on top. -/
structure Acquired (s₀ s : Simulator) (held : Holdings) (frozen : Bool) : Prop where
  sound : s.Sound
  later : s₀.lastHandle ≤ s.lastHandle
  fresh : held.Fresh s₀.lastHandle
  executables : Assoc.Gained s₀.executables s.executables held.executable
  codeObjects : Assoc.Gained s₀.codeObjects s.codeObjects held.codeObject
  readers : Assoc.Gained s₀.readers s.readers held.reader
  allocations : Assoc.Gained s₀.allocations s.allocations held.allocation
  holders : ∀ x, s.holders x = s₀.holders x + held.pinsAt x
  /-- Whether the executable held is frozen. -/
  state : ∀ e, held.executable = some e → s.isFrozen e = frozen
  bystanders : s.bystanders = s₀.bystanders

namespace Acquired

variable {s₀ s : Simulator} {held : Holdings} {frozen : Bool}

/-- To begin with nothing is held. -/
theorem start (h : s.Sound) : Acquired s s {} frozen where
  sound := h
  later := Nat.le_refl _
  fresh :=
    { executable := fun _ he => nomatch he
      codeObject := fun _ hc => nomatch hc
      reader := fun _ hr => nomatch hr }
  executables := rfl
  codeObjects := rfl
  readers := rfl
  allocations := rfl
  holders _ := rfl
  state _ he := nomatch he
  bystanders := rfl

theorem faulty_eq (h : Acquired s₀ s held frozen) (point : FaultPoint) :
    s.faulty point = s₀.faulty point := faulty_of_bystanders h.bystanders point

theorem histories (h : Acquired s₀ s held frozen) (journal : List JournalEntry) (loads : Nat) :
    Acquired s₀ { s with journal, loads } held frozen :=
  { h with sound := h.sound.histories }

theorem contains_executable (h : Acquired s₀ s held frozen) {e : ExecutableHandle}
    (he : held.executable = some e) : s.executables.contains e = true := by
  have hg := h.executables
  rw [he] at hg
  exact hg.1

theorem get?_executable (h : Acquired s₀ s held frozen) {e : ExecutableHandle}
    (he : held.executable = some e) :
    ∃ exe, s.executables.get? e = some exe ∧ exe.frozen = frozen := by
  obtain ⟨exe, hexe⟩ := Assoc.get?_of_contains (h.contains_executable he)
  have hstate := h.state e he
  unfold isFrozen at hstate
  rw [hexe] at hstate
  exact ⟨exe, hexe, hstate⟩

theorem frozen_put {e : ExecutableHandle} (exe : Executable) :
    ({ s with executables := s.executables.put e exe } : Simulator).isFrozen e = exe.frozen := by
  unfold isFrozen
  rw [Assoc.get?_put, if_pos rfl]
  rfl

/-- Putting another executable in the place of the one held. -/
theorem put_executable (h : Acquired s₀ s held frozen) {e : ExecutableHandle}
    (he : held.executable = some e) (exe : Executable) (journal : List JournalEntry) (loads : Nat) :
    Acquired s₀ { s with executables := s.executables.put e exe, journal, loads } held
      exe.frozen := by
  obtain ⟨old, hold, -⟩ := h.get?_executable he
  have hg := h.executables
  rw [he] at hg
  refine { h with
    sound := (h.sound.put_executable hold exe).histories
    executables := by rw [he]; exact hg.change exe
    state := fun e' he' => ?_ }
  rw [he] at he'
  cases he'
  exact frozen_put exe

/-! ## Executables -/

theorem createExecutable (h : Acquired s₀ s held frozen) (hnone : held.executable = none) :
    Ends (fun e t => Acquired s₀ t { held with executable := some e } false)
      (fun t => Acquired s₀ t held frozen) s.createExecutable := by
  have hsound := h.sound.createExecutable
  rcases createExecutable_cases s with hf | ⟨journal, loads, hr⟩
  · exact .of_fails hf fun j n => h.histories j n
  · rw [hr] at hsound ⊢
    have hg := h.executables
    rw [hnone] at hg
    refine { h with
      sound := hsound
      later := Nat.le_succ_of_le h.later
      fresh := { h.fresh with
        executable := fun e he => by cases he; exact Nat.lt_succ_of_le h.later }
      executables := hg.take h.sound.fresh_executable {}
      state := fun e he => ?_ }
    cases he
    exact frozen_put _

theorem loadReader (h : Acquired s₀ s held false) {e : ExecutableHandle}
    (he : held.executable = some e) (g : AgentHandle) (r : ReaderHandle) :
    Ends (fun _ t => Acquired s₀ t held false) (fun t => Acquired s₀ t held false)
      (s.loadReader e g r) := by
  rcases loadReader_cases s e g r with hf | ⟨exe, exe', _, _, hfrozen, hok⟩
  · exact .of_fails hf fun j n => h.histories j n
  · exact .of_succeeds hok fun j n => hfrozen ▸ h.put_executable he exe' j n

theorem loadCodeObject (h : Acquired s₀ s held false) {e : ExecutableHandle}
    (he : held.executable = some e) (g : AgentHandle) (c : CodeObjectHandle) :
    Ends (fun _ t => Acquired s₀ t held false) (fun t => Acquired s₀ t held false)
      (s.loadCodeObject e g c) := by
  rcases loadCodeObject_cases s e g c with hf | ⟨exe, exe', _, _, hfrozen, hok⟩
  · exact .of_fails hf fun j n => h.histories j n
  · exact .of_succeeds hok fun j n => hfrozen ▸ h.put_executable he exe' j n

theorem defineGlobal (h : Acquired s₀ s held false) {e : ExecutableHandle}
    (he : held.executable = some e) (name : String) (x : UInt64) :
    Ends (fun _ t => Acquired s₀ t held false) (fun t => Acquired s₀ t held false)
      (s.defineGlobal e name x) := by
  rcases defineGlobal_cases s e name x with hf | ⟨exe, exe', _, _, hfrozen, hok⟩
  · exact .of_fails hf fun j n => h.histories j n
  · exact .of_succeeds hok fun j n => hfrozen ▸ h.put_executable he exe' j n

/-- The executable held is not frozen, so only a fault keeps it from being frozen now. -/
theorem freeze (h : Acquired s₀ s held false) {e : ExecutableHandle}
    (he : held.executable = some e) :
    Ends (fun _ t => Acquired s₀ t held true ∧ s₀.faulty .freeze = false)
      (fun t => Acquired s₀ t held false ∧ s₀.faulty .freeze = true) (s.freeze e) := by
  obtain ⟨exe, hexe, hunfrozen⟩ := h.get?_executable he
  rcases freeze_cases s e with ⟨hfault | hfrozen, hf⟩ | ⟨exe', hfault, _, _, hok⟩
  · refine .of_fails hf fun j n => ⟨h.histories j n, ?_⟩
    rw [← h.faulty_eq]
    exact hfault
  · rw [hfrozen exe hexe] at hunfrozen
    exact Bool.noConfusion hunfrozen
  · refine .of_succeeds hok fun j n => ⟨h.put_executable he _ j n, ?_⟩
    rw [← h.faulty_eq]
    exact hfault

theorem destroyExecutable (h : Acquired s₀ s held frozen) {e : ExecutableHandle}
    (he : held.executable = some e) :
    Ends (fun _ t => Acquired s₀ t { held with executable := none } frozen ∧
        s₀.faulty .destroyExecutable = false)
      (fun t => Acquired s₀ t held frozen ∧ s₀.faulty .destroyExecutable = true)
      (s.destroyExecutable e) := by
  have hsound := h.sound.destroyExecutable e
  have hg := h.executables
  rw [he] at hg
  rcases destroyExecutable_cases s e with ⟨hfault | hnot, hf⟩ | ⟨hfault, _, journal, loads, hr⟩
  · refine .of_fails hf fun j n => ⟨h.histories j n, ?_⟩
    rw [← h.faulty_eq]
    exact hfault
  · rw [hg.1] at hnot
    exact Bool.noConfusion hnot
  · rw [hr] at hsound ⊢
    refine ⟨{ h with
      sound := hsound
      fresh := { h.fresh with executable := fun _ he => nomatch he }
      executables := hg.drop
      state := fun _ he => nomatch he }, ?_⟩
    rw [← h.faulty_eq]
    exact hfault

/-! ## Code objects and readers -/

theorem deserialize (h : Acquired s₀ s held frozen) (hnone : held.codeObject = none)
    (address size : Nat) :
    Ends (fun c t => Acquired s₀ t { held with codeObject := some c } frozen)
      (fun t => Acquired s₀ t held frozen) (s.deserialize address size) := by
  have hsound := h.sound.deserialize address size
  rcases deserialize_cases s address size with hf | ⟨image, journal, loads, hr⟩
  · exact .of_fails hf fun j n => h.histories j n
  · rw [hr] at hsound ⊢
    have hg := h.codeObjects
    rw [hnone] at hg
    exact { h with
      sound := hsound
      later := Nat.le_succ_of_le h.later
      fresh := { h.fresh with
        codeObject := fun c hc => by cases hc; exact Nat.lt_succ_of_le h.later }
      codeObjects := hg.take h.sound.fresh_codeObject image }

theorem destroyCodeObject (h : Acquired s₀ s held frozen) {c : CodeObjectHandle}
    (hc : held.codeObject = some c) :
    Ends (fun _ t => Acquired s₀ t { held with codeObject := none } frozen) (fun _ => False)
      (s.destroyCodeObject c) := by
  have hsound := h.sound.destroyCodeObject c
  have hg := h.codeObjects
  rw [hc] at hg
  rcases destroyCodeObject_cases s c with ⟨hnot, _⟩ | ⟨_, journal, loads, hr⟩
  · rw [hg.1] at hnot
    exact Bool.noConfusion hnot
  · rw [hr] at hsound ⊢
    exact { h with
      sound := hsound
      fresh := { h.fresh with codeObject := fun _ hc => nomatch hc }
      codeObjects := hg.drop }

theorem createReader (h : Acquired s₀ s held frozen) (hnone : held.reader = none)
    (fs : Host.FileSystem) (path : String) :
    Ends (fun r t => Acquired s₀ t { held with reader := some r } frozen)
      (fun t => Acquired s₀ t held frozen) (s.createReader fs path) := by
  have hsound := h.sound.createReader fs path
  rcases createReader_cases s fs path with hf | ⟨bytes, journal, loads, hr⟩
  · exact .of_fails hf fun j n => h.histories j n
  · rw [hr] at hsound ⊢
    have hg := h.readers
    rw [hnone] at hg
    exact { h with
      sound := hsound
      later := Nat.le_succ_of_le h.later
      fresh := { h.fresh with
        reader := fun r hr => by cases hr; exact Nat.lt_succ_of_le h.later }
      readers := hg.take h.sound.fresh_reader bytes }

theorem destroyReader (h : Acquired s₀ s held frozen) {r : ReaderHandle}
    (hr : held.reader = some r) :
    Ends (fun _ t => Acquired s₀ t { held with reader := none } frozen) (fun _ => False)
      (s.destroyReader r) := by
  have hsound := h.sound.destroyReader r
  have hg := h.readers
  rw [hr] at hg
  rcases destroyReader_cases s r with ⟨hnot, _⟩ | ⟨_, journal, loads, heq⟩
  · rw [hg.1] at hnot
    exact Bool.noConfusion hnot
  · rw [heq] at hsound ⊢
    exact { h with
      sound := hsound
      fresh := { h.fresh with reader := fun _ hr => nomatch hr }
      readers := hg.drop }

/-! ## Memory -/

/-- A new allocation is the first one that is found at its address. -/
theorem allocate (h : Acquired s₀ s held frozen) (hnone : held.allocation = none)
    (region : RegionHandle) (size : Nat) :
    Ends (fun x t => Acquired s₀ t { held with allocation := some x } frozen ∧
        t.allocationAt? x size = some (x, Bytes.zeros size))
      (fun t => Acquired s₀ t held frozen) (s.allocate region size) := by
  have hsound := h.sound.allocate region size
  rcases allocate_cases s region size with hf | ⟨pages, _, journal, loads, hr⟩
  · exact .of_fails hf fun j n => h.histories j n
  · rw [hr] at hsound ⊢
    have hg := h.allocations
    rw [hnone] at hg
    refine ⟨{ h with
      sound := hsound
      fresh := { h.fresh with }
      allocations := hg.take h.sound.fresh_allocation (Bytes.zeros size) }, ?_⟩
    exact List.find?_cons_of_pos (by simp [Bytes.zeros])

theorem writeMemory (h : Acquired s₀ s held frozen) {x : Nat} (hx : held.allocation = some x)
    (bytes : Bytes) (hat : s.allocationAt? x bytes.length = some (x, Bytes.zeros bytes.length)) :
    Ends (fun _ t => Acquired s₀ t held frozen) (fun t => Acquired s₀ t held frozen)
      (s.writeMemory x bytes) := by
  have hsound := h.sound.writeMemory x bytes
  rcases writeMemory_cases s x bytes with hf | ⟨base, old, new, hfound, journal, loads, hr⟩
  · exact .of_fails hf fun j n => h.histories j n
  · rw [hr] at hsound ⊢
    rw [hat] at hfound
    cases hfound
    have hg := h.allocations
    rw [hx] at hg
    exact { h with
      sound := hsound
      allocations := by rw [hx]; exact hg.change new }

theorem free (h : Acquired s₀ s held frozen) {x : Nat} (hx : held.allocation = some x) :
    Ends (fun _ t => Acquired s₀ t { held with allocation := none } frozen ∧
        s₀.faulty .free = false)
      (fun t => Acquired s₀ t held frozen ∧ s₀.faulty .free = true) (s.free x) := by
  have hsound := h.sound.free x
  have hg := h.allocations
  rw [hx] at hg
  rcases free_cases s x with ⟨hfault | hnot, hf⟩ | ⟨hfault, _, journal, loads, hr⟩
  · refine .of_fails hf fun j n => ⟨h.histories j n, ?_⟩
    rw [← h.faulty_eq]
    exact hfault
  · rw [hg.1] at hnot
    exact Bool.noConfusion hnot
  · rw [hr] at hsound ⊢
    refine ⟨{ h with sound := hsound, fresh := { h.fresh with }, allocations := hg.drop }, ?_⟩
    rw [← h.faulty_eq]
    exact hfault

/-! ## Pins -/

theorem lockMemory (h : Acquired s₀ s held frozen) (g : AgentHandle) (x : UInt64) (size : Nat) :
    Ends (fun y t => y = x ∧ ∀ pin : PinnedGlobal, pin.hostAddress = x →
        Acquired s₀ t { held with pins := held.pins ++ [pin] } frozen)
      (fun t => Acquired s₀ t held frozen) (s.lockMemory g x size) := by
  have hsound := h.sound.lockMemory g x size
  rcases lockMemory_cases s g x size with hf | ⟨range, hrange, journal, loads, hr⟩
  · exact .of_fails hf fun j n => h.histories j n
  · rw [hr] at hsound ⊢
    refine ⟨rfl, fun pin hpin => { h with
      sound := hsound
      fresh := { h.fresh with }
      holders := fun y => ?_ }⟩
    -- one more pin held, and one more holder where it points
    have hy := h.holders y
    unfold Holdings.pinsAt at hy ⊢
    rw [List.map_append, List.count_append, ← Nat.add_assoc, ← hy]
    unfold Simulator.holders
    rw [Assoc.get?_put]
    by_cases hxy : x = y
    · subst hxy
      rw [if_pos rfl, List.map_singleton, hpin, List.count_singleton_self]
      exact hrange
    · rw [if_neg hxy, List.map_singleton, hpin, List.count_singleton, beq_eq_false_iff_ne.mpr hxy]
      rfl

end Acquired

/-- Unpinning takes one holder away from a range that has one. -/
theorem unlockMemory_ends {s : Simulator} (hs : s.Sound) {x : UInt64} (hx : 0 < s.holders x) :
    Ends (fun _ t => t.Sound ∧ (∀ y, t.holders y + [x].count y = s.holders y) ∧
        ∃ pinned journal loads, t = { s with pinned, journal, loads }) (fun _ => False)
      (s.unlockMemory x) := by
  have hsound := hs.unlockMemory x
  rcases unlockMemory_cases s x with ⟨hnone, _⟩ | ⟨pin, hpin, journal, loads, hr⟩
  · unfold Simulator.holders at hx
    rw [hnone] at hx
    exact absurd hx (Nat.lt_irrefl _)
  · rw [hr] at hsound ⊢
    refine ⟨hsound, fun y => ?_, _, _, _, rfl⟩
    have hone := hs.pins x pin hpin
    unfold Simulator.holders
    dsimp only
    by_cases hxy : x = y
    · subst hxy
      rw [List.count_singleton_self, hpin]
      -- the last holder takes the whole entry along
      split
      · rw [Assoc.get?_erase, if_pos rfl]
        show 0 + 1 = pin.holders
        omega
      · rw [Assoc.get?_put, if_pos rfl]
        show pin.holders - 1 + 1 = pin.holders
        omega
    · rw [List.count_singleton, beq_eq_false_iff_ne.mpr hxy]
      split
      · rw [Assoc.get?_erase, if_neg hxy]
        rfl
      · rw [Assoc.get?_put, if_neg hxy]
        rfl

theorem Acquired.unlockMemory {s₀ s : Simulator} {held : Holdings} {frozen : Bool}
    {pin : PinnedGlobal} {pins : List PinnedGlobal}
    (h : Acquired s₀ s { held with pins := pin :: pins } frozen) :
    Ends (fun _ t => Acquired s₀ t { held with pins } frozen) (fun _ => False)
      (s.unlockMemory pin.hostAddress) := by
  have hcount : ∀ y, Holdings.pinsAt { held with pins := pin :: pins } y =
      Holdings.pinsAt { held with pins } y + [pin.hostAddress].count y := by
    intro y
    unfold Holdings.pinsAt
    rw [List.map_cons, List.count_cons, List.count_singleton]
  have hpos : 0 < s.holders pin.hostAddress := by
    rw [h.holders, hcount, List.count_singleton_self]
    omega
  refine (unlockMemory_ends h.sound hpos).imp ?_ fun _ hfalse => hfalse
  rintro _ t ⟨hsound, hholders, pinned, journal, loads, rfl⟩
  refine { h with sound := hsound, fresh := { h.fresh with }, holders := fun y => ?_ }
  have h1 := hholders y
  have h2 := h.holders y
  rw [hcount] at h2
  omega

end Simulator

end DeviceCode

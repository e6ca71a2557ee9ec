import DeviceCode.Proofs.Chronicle

/-!
# What the calls of the simulator add up to

The simulator hands out resources and takes them back, each by a call of its own. `Recorded` says
what a call that is written down in a certain way does to them, and to executables that are frozen.
Every call of the simulator is recorded in this sense, and every switch of its faults, as a call
that is not written down.

So whatever follows from `Recorded` alone holds of every run (`Session.run_recorded`).
-/

namespace DeviceCode

/-- Things that the simulator hands out and takes back. -/
inductive Resource where
  | executable (e : ExecutableHandle)
  | codeObject (c : CodeObjectHandle)
  | reader (r : ReaderHandle)
  | allocation (address : Nat)
  deriving DecidableEq

/-- The resource that a call hands out. -/
def JournalEntry.made? : JournalEntry → Option Resource
  | .createExecutable e => some (.executable e)
  | .deserialize c => some (.codeObject c)
  | .createReader r => some (.reader r)
  | .allocate address => some (.allocation address)
  | _ => none

/-- The resource that a call takes back. -/
def JournalEntry.gone? : JournalEntry → Option Resource
  | .destroyExecutable e => some (.executable e)
  | .destroyCodeObject c => some (.codeObject c)
  | .destroyReader r => some (.reader r)
  | .free address => some (.allocation address)
  | _ => none

namespace Resource

/-- The call that hands it out. -/
def made : Resource → JournalEntry
  | executable e => .createExecutable e
  | codeObject c => .deserialize c
  | reader r => .createReader r
  | allocation address => .allocate address

/-- The call that takes it back. -/
def gone : Resource → JournalEntry
  | executable e => .destroyExecutable e
  | codeObject c => .destroyCodeObject c
  | reader r => .destroyReader r
  | allocation address => .free address

variable {k k' : Resource} {entry : JournalEntry}

@[simp] theorem made?_made : k.made.made? = some k := by cases k <;> rfl

@[simp] theorem gone?_made : k.made.gone? = none := by cases k <;> rfl

@[simp] theorem made?_gone : k.gone.made? = none := by cases k <;> rfl

@[simp] theorem gone?_gone : k.gone.gone? = some k := by cases k <;> rfl

theorem eq_made_iff : entry = k.made ↔ entry.made? = some k := by
  constructor
  · rintro rfl
    exact made?_made
  · intro h
    cases entry <;> cases h <;> rfl

theorem eq_gone_iff : entry = k.gone ↔ entry.gone? = some k := by
  constructor
  · rintro rfl
    exact gone?_gone
  · intro h
    cases entry <;> cases h <;> rfl

theorem made_ne (h : entry.made? = none) : k.made ≠ entry := by
  rintro rfl
  rw [made?_made] at h
  cases h

theorem gone_ne (h : entry.gone? = none) : k.gone ≠ entry := by
  rintro rfl
  rw [gone?_gone] at h
  cases h

theorem made_inj (h : k.made = k'.made) : k = k' := by
  have hk := eq_made_iff.mp h
  rw [made?_made] at hk
  exact Option.some.inj hk

theorem gone_inj (h : k.gone = k'.gone) : k = k' := by
  have hk := eq_gone_iff.mp h
  rw [gone?_gone] at hk
  exact Option.some.inj hk

theorem made_ne_gone : k.made ≠ k'.gone := made_ne made?_gone

end Resource

namespace Assoc

variable {κ α : Type} [DecidableEq κ] {m : Assoc κ α} {k k' : κ} {a : α}

theorem contains_put_iff : (m.put k a).contains k' = true ↔ m.contains k' = true ∨ k' = k := by
  rw [contains_put, Bool.or_eq_true, decide_eq_true_eq, or_comm, @eq_comm κ k]

theorem contains_erase_iff :
    (m.erase k).contains k' = true ↔ m.contains k' = true ∧ k' ≠ k := by
  rw [contains_erase, Bool.and_eq_true, Bool.not_eq_true', decide_eq_false_iff_not, and_comm,
    @eq_comm κ k]

end Assoc

namespace Simulator

variable {α : Type} {s t : Simulator} {c? : Option Call}

/-- The simulator has it. -/
def Holds (s : Simulator) : Resource → Prop
  | .executable e => s.executables.contains e = true
  | .codeObject c => s.codeObjects.contains c = true
  | .reader r => s.readers.contains r = true
  | .allocation address => s.allocations.contains address = true

/-- The simulator will not hand it out any more: its counters are past it. -/
def Passed (s : Simulator) : Resource → Prop
  | .executable e => e.id ≤ s.lastHandle
  | .codeObject c => c.id ≤ s.lastHandle
  | .reader r => r.id ≤ s.lastHandle
  | .allocation address => address < allocationBase + s.pages * pageSize

theorem passed_next {k : Resource} (h : s.Passed k) :
    Passed { s with lastHandle := s.nextHandle } k := by
  cases k with
  | allocation x => exact h
  | _ => exact Nat.le_succ_of_le h

/-! ## One call -/

/-- What a call that is written down as `c?` does to what the simulator holds. -/
structure Accounts (s : Simulator) (c? : Option Call) (t : Simulator) : Prop where
  passed : ∀ k, s.Passed k → t.Passed k
  holds : ∀ k, t.Holds k ↔ (s.Holds k ∨ c? = some (k.made, true)) ∧ c? ≠ some (k.gone, true)
  /-- Only what was never handed out is handed out. -/
  made : ∀ k ok, c? = some (k.made, ok) → ok = true ∧ ¬ s.Passed k ∧ t.Passed k
  /-- Only what is there is taken back. -/
  gone : ∀ k, c? = some (k.gone, true) → s.Holds k
  /-- A frozen executable stays as it is for as long as it is there. -/
  kept : ∀ e exe, s.executables.get? e = some exe → exe.frozen = true →
    t.Holds (.executable e) → t.executables.get? e = some exe
  froze : ∀ e, c? = some (.freeze e, true) → t.isFrozen e = true

/-- What a call that is written down as `c?` leaves behind. -/
structure Recorded (s : Simulator) (c? : Option Call) (t : Simulator) : Prop
    extends Accounts s c? t where
  journal : t.journal = s.journal ++ (c?.map (·.1)).toList

/-- Calls that are written down without being about any resource's beginning or end. -/
def Idle (c? : Option Call) : Prop :=
  ∀ entry ok, c? = some (entry, ok) →
    entry.made? = none ∧ (ok = true → entry.gone? = none ∧ ∀ e, entry ≠ .freeze e)

theorem Idle.of_entry {entry : JournalEntry} (hmade : entry.made? = none)
    (hgone : entry.gone? = none) (hfreeze : ∀ e, entry ≠ .freeze e) (ok : Bool) :
    Idle (some (entry, ok)) := by
  rintro _ _ ⟨⟩
  exact ⟨hmade, fun _ => ⟨hgone, hfreeze⟩⟩

/-- A call that failed is not about any. -/
theorem Idle.of_failed {entry : JournalEntry} (hmade : entry.made? = none) :
    Idle (some (entry, false)) := by
  rintro _ _ ⟨⟩
  exact ⟨hmade, nofun⟩

theorem Idle.none : Idle none := nofun

namespace Idle

theorem ne_made (h : Idle c?) (k : Resource) (ok : Bool) : c? ≠ some (k.made, ok) :=
  fun heq => Resource.made_ne (h _ _ heq).1 rfl

theorem ne_gone (h : Idle c?) (k : Resource) : c? ≠ some (k.gone, true) :=
  fun heq => Resource.gone_ne ((h _ _ heq).2 rfl).1 rfl

theorem ne_freeze (h : Idle c?) (e : ExecutableHandle) : c? ≠ some (.freeze e, true) :=
  fun heq => ((h _ _ heq).2 rfl).2 e rfl

/-- A call that is about no resource, and after which the simulator holds what it held. -/
theorem accounts (h : Idle c?) (hpassed : ∀ k, s.Passed k → t.Passed k)
    (hholds : ∀ k, t.Holds k ↔ s.Holds k)
    (hkept : ∀ e exe, s.executables.get? e = some exe → exe.frozen = true →
      t.executables.get? e = some exe) : Accounts s c? t where
  passed := hpassed
  holds k := by
    rw [hholds]
    exact ⟨fun hk => ⟨.inl hk, h.ne_gone k⟩,
      fun ⟨hk, _⟩ => hk.elim id fun heq => absurd heq (h.ne_made k true)⟩
  made k ok heq := absurd heq (h.ne_made k ok)
  gone k heq := absurd heq (h.ne_gone k)
  kept e exe hexe hfrozen _ := hkept e exe hexe hfrozen
  froze e heq := absurd heq (h.ne_freeze e)

/-- The common case: nothing that is held has changed at all. -/
theorem accounts_of_same (h : Idle c?) (hl : s.lastHandle ≤ t.lastHandle)
    (hp : t.pages = s.pages) (he : t.executables = s.executables)
    (hc : t.codeObjects = s.codeObjects) (hr : t.readers = s.readers)
    (ha : t.allocations = s.allocations) : Accounts s c? t := by
  refine h.accounts (fun k hk => ?_) (fun k => ?_) fun e exe hexe _ => by rw [he]; exact hexe
  · cases k with
    | executable e => exact Nat.le_trans hk hl
    | codeObject c => exact Nat.le_trans hk hl
    | reader r => exact Nat.le_trans hk hl
    | allocation x =>
      show x < allocationBase + t.pages * pageSize
      rw [hp]
      exact hk
  · unfold Holds
    rw [he, hc, hr, ha]

end Idle

/-- An executable that is there and not frozen is replaced. -/
theorem Accounts.put_executable {entry : JournalEntry} {e : ExecutableHandle}
    {exe exe' : Executable} (he : s.executables.get? e = some exe) (hopen : exe.frozen = false)
    (hmade : entry.made? = none) (hgone : entry.gone? = none)
    (hfroze : ∀ e', entry = .freeze e' → e' = e ∧ exe'.frozen = true) :
    Accounts s (some (entry, true)) { s with executables := s.executables.put e exe' } where
  passed _ hk := hk
  holds k := by
    have hne : some (entry, true) ≠ some (k.made, true) := by
      rintro ⟨⟩
      exact Resource.made_ne hmade rfl
    have hne' : some (entry, true) ≠ some (k.gone, true) := by
      rintro ⟨⟩
      exact Resource.gone_ne hgone rfl
    have hsame : Holds { s with executables := s.executables.put e exe' } k ↔ s.Holds k := by
      cases k with
      | executable e' =>
        show (s.executables.put e exe').contains e' = true ↔ s.executables.contains e' = true
        rw [Assoc.contains_put, Bool.or_eq_true, decide_eq_true_eq]
        refine ⟨fun h => h.elim (fun heq => ?_) id, .inr⟩
        rw [← heq]
        exact Assoc.contains_of_get? he
      | codeObject c => rfl
      | reader r => rfl
      | allocation x => rfl
    rw [hsame]
    exact ⟨fun hk => ⟨.inl hk, hne'⟩, fun ⟨hk, _⟩ => hk.elim id fun heq => absurd heq hne⟩
  made k ok heq := by
    cases heq
    exact absurd rfl (Resource.made_ne hmade)
  gone k heq := by
    cases heq
    exact absurd rfl (Resource.gone_ne hgone)
  kept e' exe'' hexe hfrozen _ := by
    show (s.executables.put e exe').get? e' = some exe''
    rw [Assoc.get?_put, if_neg]
    · exact hexe
    · -- the one that is replaced was not frozen
      rintro rfl
      rw [he] at hexe
      cases hexe
      rw [hopen] at hfrozen
      cases hfrozen
  froze e' heq := by
    obtain ⟨rfl, hf⟩ := hfroze e' (congrArg Prod.fst (Option.some.inj heq))
    show ((s.executables.put e' exe').get? e').any (·.frozen) = true
    rw [Assoc.get?_put, if_pos rfl]
    exact hf

/-- A new resource is handed out. -/
theorem Accounts.hand_out {k : Resource} (hnew : ¬ s.Passed k) (hpassed : t.Passed k)
    (hmore : ∀ k, s.Passed k → t.Passed k) (hholds : ∀ k', t.Holds k' ↔ s.Holds k' ∨ k' = k)
    (hkept : ∀ e exe, s.executables.get? e = some exe → t.executables.get? e = some exe) :
    Accounts s (some (k.made, true)) t where
  passed := hmore
  holds k' := by
    rw [hholds]
    constructor
    · rintro (hk | rfl)
      · exact ⟨.inl hk, fun heq => Resource.made_ne_gone (Prod.mk.inj (Option.some.inj heq)).1⟩
      · exact ⟨.inr rfl, fun heq => Resource.made_ne_gone (Prod.mk.inj (Option.some.inj heq)).1⟩
    · rintro ⟨hk | heq, -⟩
      · exact .inl hk
      · exact .inr (Resource.made_inj (Prod.mk.inj (Option.some.inj heq)).1).symm
  made k' ok heq := by
    obtain ⟨hk, rfl⟩ := Prod.mk.inj (Option.some.inj heq)
    cases Resource.made_inj hk
    exact ⟨rfl, hnew, hpassed⟩
  gone k' heq := absurd (Prod.mk.inj (Option.some.inj heq)).1 Resource.made_ne_gone
  kept e exe hexe _ _ := hkept e exe hexe
  froze e heq := absurd (Prod.mk.inj (Option.some.inj heq)).1 (Resource.made_ne rfl)

/-- A resource is taken back. -/
theorem Accounts.take_back {k : Resource} (hthere : s.Holds k)
    (hsame : ∀ k, s.Passed k → t.Passed k) (hholds : ∀ k', t.Holds k' ↔ s.Holds k' ∧ k' ≠ k)
    (hkept : ∀ e exe, s.executables.get? e = some exe → .executable e ≠ k →
      t.executables.get? e = some exe) :
    Accounts s (some (k.gone, true)) t where
  passed := hsame
  holds k' := by
    rw [hholds]
    constructor
    · rintro ⟨hk, hne⟩
      exact ⟨.inl hk, fun heq =>
        hne (Resource.gone_inj (Prod.mk.inj (Option.some.inj heq)).1).symm⟩
    · rintro ⟨hk | heq, hne⟩
      · exact ⟨hk, fun heq => hne (by rw [heq])⟩
      · exact absurd (Prod.mk.inj (Option.some.inj heq)).1.symm Resource.made_ne_gone
  made k' ok heq := absurd (Prod.mk.inj (Option.some.inj heq)).1.symm Resource.made_ne_gone
  gone k' heq := by
    cases Resource.gone_inj (Prod.mk.inj (Option.some.inj heq)).1
    exact hthere
  kept e exe hexe _ hstill := hkept e exe hexe ((hholds _).mp hstill).2
  froze e heq := absurd (Prod.mk.inj (Option.some.inj heq)).1 (Resource.gone_ne rfl)

theorem Recorded.of_idle {c : Call} (h : Idle (some c)) {journal : List JournalEntry}
    {loads : Nat} (hjournal : journal = s.journal ++ [c.1]) :
    Recorded s (some c) { s with journal, loads } :=
  ⟨h.accounts_of_same (Nat.le_refl _) rfl rfl rfl rfl rfl, hjournal⟩

/-! ## The calls of the simulator -/

section Calls

open Chronicled

theorem Fails.recorded {r : Reply Simulator α} {note : Except CallError α → Option JournalEntry}
    (h : Fails r s) (hjournal : r.2.journal = s.journal ++ (note r.1).toList)
    (hidle : ∀ err, Idle (listed? note (.error err))) : Recorded s (listed? note r.1) r.2 := by
  obtain ⟨err, journal, loads, rfl⟩ := h
  exact
    { (hidle err).accounts_of_same (Nat.le_refl _) rfl rfl rfl rfl rfl with
      journal := by rw [map_listed?]; exact hjournal }

theorem Succeeds.recorded {r : Reply Simulator α} {a : α}
    {note : Except CallError α → Option JournalEntry} (h : Succeeds r a t)
    (hjournal : r.2.journal = s.journal ++ (note r.1).toList)
    (ht : Accounts s (listed? note (.ok a)) t) : Recorded s (listed? note r.1) r.2 := by
  obtain ⟨journal, loads, rfl⟩ := h
  exact
    { passed := ht.passed
      holds := ht.holds
      made := ht.made
      gone := ht.gone
      kept := ht.kept
      froze := ht.froze
      journal := by rw [map_listed?]; exact hjournal }

theorem createExecutable_recorded (h : s.Sound) :
    Recorded s (listed? (granted .createExecutable) s.createExecutable.1)
      s.createExecutable.2 := by
  have hjournal : s.createExecutable.2.journal =
      s.journal ++ (granted .createExecutable s.createExecutable.1).toList := by
    unfold createExecutable
    split
    · exact (List.append_nil _).symm
    · rfl
  rcases createExecutable_cases s with hf | hok
  · exact hf.recorded hjournal fun _ => .none
  · refine hok.recorded hjournal (Accounts.hand_out (k := .executable ⟨s.nextHandle⟩)
      (Nat.not_succ_le_self _) (Nat.le_refl _) ?_ ?_ ?_)
    · exact fun k hk => passed_next hk
    · intro k
      cases k with
      | executable e =>
        rw [Resource.executable.injEq]
        exact Assoc.contains_put_iff
      | _ => simp [Holds]
    · intro e exe hexe
      show (s.executables.put _ _).get? e = some exe
      rw [Assoc.get?_put, if_neg]
      · exact hexe
      · rintro rfl
        exact absurd (Assoc.contains_of_get? hexe) (ne_true_of_eq_false h.fresh_executable)

/-- Loading code is not written down by itself. -/
theorem loadImage_journal (s : Simulator) (operation : String) (e : ExecutableHandle)
    (image : Bytes) : (s.loadImage operation e image).2.journal = s.journal := by
  unfold loadImage
  dsimp only
  repeat' split
  all_goals rfl

theorem loadReader_recorded (s : Simulator) (e : ExecutableHandle) (g : AgentHandle)
    (r : ReaderHandle) :
    Recorded s (listed? (always (.loadReader e r)) (s.loadReader e g r).1)
      (s.loadReader e g r).2 := by
  have hjournal : (s.loadReader e g r).2.journal = s.journal ++ [JournalEntry.loadReader e r] := by
    unfold loadReader
    dsimp only
    split
    · rfl
    · split
      · rfl
      · exact loadImage_journal ..
  rcases loadReader_cases s e g r with hf | ⟨exe, exe', he, hopen, -, hok⟩
  · exact hf.recorded hjournal fun _ => .of_failed rfl
  · exact hok.recorded hjournal (.put_executable he hopen rfl rfl (by rintro _ ⟨⟩))

theorem loadCodeObject_recorded (s : Simulator) (e : ExecutableHandle) (g : AgentHandle)
    (c : CodeObjectHandle) :
    Recorded s (listed? (always (.loadCodeObject e c)) (s.loadCodeObject e g c).1)
      (s.loadCodeObject e g c).2 := by
  have hjournal : (s.loadCodeObject e g c).2.journal =
      s.journal ++ [JournalEntry.loadCodeObject e c] := by
    unfold loadCodeObject
    dsimp only
    split
    · rfl
    · split
      · rfl
      · exact loadImage_journal ..
  rcases loadCodeObject_cases s e g c with hf | ⟨exe, exe', he, hopen, -, hok⟩
  · exact hf.recorded hjournal fun _ => .of_failed rfl
  · exact hok.recorded hjournal (.put_executable he hopen rfl rfl (by rintro _ ⟨⟩))

theorem freeze_recorded (s : Simulator) (e : ExecutableHandle) :
    Recorded s (listed? (always (.freeze e)) (s.freeze e).1) (s.freeze e).2 := by
  have hjournal : (s.freeze e).2.journal = s.journal ++ [JournalEntry.freeze e] := by
    unfold freeze
    dsimp only
    repeat' split
    all_goals rfl
  rcases freeze_cases s e with ⟨-, hf⟩ | ⟨exe, -, he, hopen, hok⟩
  · exact hf.recorded hjournal fun _ => .of_failed rfl
  · refine hok.recorded hjournal (.put_executable he hopen rfl rfl ?_)
    rintro e' ⟨⟩
    exact ⟨rfl, rfl⟩

theorem defineGlobal_recorded (s : Simulator) (e : ExecutableHandle) (name : String)
    (x : UInt64) :
    Recorded s (listed? (always (.defineGlobal e name)) (s.defineGlobal e name x).1)
      (s.defineGlobal e name x).2 := by
  have hjournal : (s.defineGlobal e name x).2.journal =
      s.journal ++ [JournalEntry.defineGlobal e name] := by
    unfold defineGlobal
    dsimp only
    repeat' split
    all_goals rfl
  rcases defineGlobal_cases s e name x with hf | ⟨exe, exe', he, hopen, -, hok⟩
  · exact hf.recorded hjournal fun _ => .of_failed rfl
  · exact hok.recorded hjournal (.put_executable he hopen rfl rfl (by rintro _ ⟨⟩))

theorem destroyExecutable_recorded (s : Simulator) (e : ExecutableHandle) :
    Recorded s (listed? (always (.destroyExecutable e)) (s.destroyExecutable e).1)
      (s.destroyExecutable e).2 := by
  have hjournal : (s.destroyExecutable e).2.journal =
      s.journal ++ [JournalEntry.destroyExecutable e] := by
    unfold destroyExecutable
    dsimp only
    repeat' split
    all_goals rfl
  rcases destroyExecutable_cases s e with ⟨-, hf⟩ | ⟨-, hthere, hok⟩
  · exact hf.recorded hjournal fun _ => .of_failed rfl
  · refine hok.recorded hjournal
      (Accounts.take_back (k := .executable e) hthere ?_ ?_ ?_)
    · exact fun k hk => by cases k <;> exact hk
    · intro k
      cases k with
      | executable e' =>
        rw [ne_eq, Resource.executable.injEq]
        exact Assoc.contains_erase_iff
      | _ => simp [Holds]
    · intro e' exe hexe hne
      show (s.executables.erase e).get? e' = some exe
      rw [Assoc.get?_erase, if_neg]
      · exact hexe
      · rintro rfl
        exact hne rfl

theorem getSymbol_recorded (s : Simulator) (e : ExecutableHandle) (g : AgentHandle)
    (name : String) :
    Recorded s (listed? (always (.getSymbol e name)) (s.getSymbol e g name).1)
      (s.getSymbol e g name).2 := by
  have hjournal : (s.getSymbol e g name).2.journal =
      s.journal ++ [JournalEntry.getSymbol e name] := by
    unfold getSymbol
    dsimp only
    repeat' split
    all_goals rfl
  obtain ⟨journal, loads, hstate⟩ := getSymbol_state s e g name
  rw [hstate] at hjournal ⊢
  exact .of_idle (.of_entry rfl rfl (by rintro _ ⟨⟩) _) hjournal

theorem deserialize_recorded (s : Simulator) (x n : Nat) :
    Recorded s (listed? (granted .deserialize) (s.deserialize x n).1) (s.deserialize x n).2 := by
  have hjournal : (s.deserialize x n).2.journal =
      s.journal ++ (granted .deserialize (s.deserialize x n).1).toList := by
    unfold deserialize
    dsimp only
    repeat' split
    all_goals first | rfl | exact (List.append_nil _).symm
  rcases deserialize_cases s x n with hf | ⟨image, hok⟩
  · exact hf.recorded hjournal fun _ => .none
  · refine hok.recorded hjournal (Accounts.hand_out (k := .codeObject ⟨s.nextHandle⟩)
      (Nat.not_succ_le_self _) (Nat.le_refl _) ?_ ?_ fun _ _ hexe => hexe)
    · exact fun k hk => passed_next hk
    · intro k
      cases k with
      | codeObject c =>
        rw [Resource.codeObject.injEq]
        exact Assoc.contains_put_iff
      | _ => simp [Holds]

theorem destroyCodeObject_recorded (s : Simulator) (c : CodeObjectHandle) :
    Recorded s (listed? (always (.destroyCodeObject c)) (s.destroyCodeObject c).1)
      (s.destroyCodeObject c).2 := by
  have hjournal : (s.destroyCodeObject c).2.journal =
      s.journal ++ [JournalEntry.destroyCodeObject c] := by
    unfold destroyCodeObject
    dsimp only
    repeat' split
    all_goals rfl
  rcases destroyCodeObject_cases s c with ⟨-, hf⟩ | ⟨hthere, hok⟩
  · exact hf.recorded hjournal fun _ => .of_failed rfl
  · refine hok.recorded hjournal
      (Accounts.take_back (k := .codeObject c) hthere ?_ ?_ fun _ _ hexe _ => hexe)
    · exact fun k hk => by cases k <;> exact hk
    · intro k
      cases k with
      | codeObject c' =>
        rw [ne_eq, Resource.codeObject.injEq]
        exact Assoc.contains_erase_iff
      | _ => simp [Holds]

theorem createReader_recorded (s : Simulator) (fs : Host.FileSystem) (path : String) :
    Recorded s (listed? (granted .createReader) (s.createReader fs path).1)
      (s.createReader fs path).2 := by
  have hjournal : (s.createReader fs path).2.journal =
      s.journal ++ (granted .createReader (s.createReader fs path).1).toList := by
    unfold createReader
    dsimp only
    repeat' split
    all_goals first | rfl | exact (List.append_nil _).symm
  rcases createReader_cases s fs path with hf | ⟨bytes, hok⟩
  · exact hf.recorded hjournal fun _ => .none
  · refine hok.recorded hjournal (Accounts.hand_out (k := .reader ⟨s.nextHandle⟩)
      (Nat.not_succ_le_self _) (Nat.le_refl _) ?_ ?_ fun _ _ hexe => hexe)
    · exact fun k hk => passed_next hk
    · intro k
      cases k with
      | reader r =>
        rw [Resource.reader.injEq]
        exact Assoc.contains_put_iff
      | _ => simp [Holds]

theorem destroyReader_recorded (s : Simulator) (r : ReaderHandle) :
    Recorded s (listed? (always (.destroyReader r)) (s.destroyReader r).1)
      (s.destroyReader r).2 := by
  have hjournal : (s.destroyReader r).2.journal = s.journal ++ [JournalEntry.destroyReader r] := by
    unfold destroyReader
    dsimp only
    repeat' split
    all_goals rfl
  rcases destroyReader_cases s r with ⟨-, hf⟩ | ⟨hthere, hok⟩
  · exact hf.recorded hjournal fun _ => .of_failed rfl
  · refine hok.recorded hjournal
      (Accounts.take_back (k := .reader r) hthere ?_ ?_ fun _ _ hexe _ => hexe)
    · exact fun k hk => by cases k <;> exact hk
    · intro k
      cases k with
      | reader r' =>
        rw [ne_eq, Resource.reader.injEq]
        exact Assoc.contains_erase_iff
      | _ => simp [Holds]

theorem lockMemory_recorded (s : Simulator) (g : AgentHandle) (x : UInt64) (n : Nat) :
    Recorded s (listed? (always (.lockMemory x)) (s.lockMemory g x n).1)
      (s.lockMemory g x n).2 := by
  have hjournal : (s.lockMemory g x n).2.journal = s.journal ++ [JournalEntry.lockMemory x] := by
    unfold lockMemory
    dsimp only
    repeat' split
    all_goals rfl
  rcases lockMemory_cases s g x n with hf | ⟨pin, -, hok⟩
  · exact hf.recorded hjournal fun _ => .of_failed rfl
  · exact hok.recorded hjournal ((Idle.of_entry rfl rfl (by rintro _ ⟨⟩) _).accounts_of_same
      (Nat.le_refl _) rfl rfl rfl rfl rfl)

theorem unlockMemory_recorded (s : Simulator) (x : UInt64) :
    Recorded s (listed? (always (.unlockMemory x)) (s.unlockMemory x).1)
      (s.unlockMemory x).2 := by
  have hjournal : (s.unlockMemory x).2.journal = s.journal ++ [JournalEntry.unlockMemory x] := by
    unfold unlockMemory
    dsimp only
    split <;> rfl
  rcases unlockMemory_cases s x with ⟨-, hf⟩ | ⟨pin, -, hok⟩
  · exact hf.recorded hjournal fun _ => .of_failed rfl
  · exact hok.recorded hjournal ((Idle.of_entry rfl rfl (by rintro _ ⟨⟩) _).accounts_of_same
      (Nat.le_refl _) rfl rfl rfl rfl rfl)

theorem findRegion_recorded (s : Simulator) (g : AgentHandle) :
    Recorded s (listed? never (s.findRegion g).1) (s.findRegion g).2 := by
  rw [findRegion_state]
  exact ⟨Idle.none.accounts_of_same (Nat.le_refl _) rfl rfl rfl rfl rfl,
    (List.append_nil _).symm⟩

theorem allocate_recorded (s : Simulator) (region : RegionHandle) (size : Nat) :
    Recorded s (listed? (granted .allocate) (s.allocate region size).1)
      (s.allocate region size).2 := by
  have hjournal : (s.allocate region size).2.journal =
      s.journal ++ (granted .allocate (s.allocate region size).1).toList := by
    unfold allocate
    dsimp only
    repeat' split
    all_goals first | rfl | exact (List.append_nil _).symm
  rcases allocate_cases s region size with hf | ⟨pages, hpages, hok⟩
  · exact hf.recorded hjournal fun _ => .none
  · have hmore : allocationBase + s.pages * pageSize < allocationBase + pages * pageSize :=
      Nat.add_lt_add_left ((Nat.mul_lt_mul_right (by decide)).mpr hpages) _
    refine hok.recorded hjournal
      (Accounts.hand_out (k := .allocation (allocationBase + s.pages * pageSize))
        (Nat.lt_irrefl _) hmore ?_ ?_ fun _ _ hexe => hexe)
    · intro k hk
      cases k with
      | allocation x => exact Nat.lt_trans hk hmore
      | _ => exact hk
    · intro k
      cases k with
      | allocation x =>
        rw [Resource.allocation.injEq]
        exact Assoc.contains_put_iff
      | _ => simp [Holds]

theorem free_recorded (s : Simulator) (x : Nat) :
    Recorded s (listed? (always (.free x)) (s.free x).1) (s.free x).2 := by
  have hjournal : (s.free x).2.journal = s.journal ++ [JournalEntry.free x] := by
    unfold free
    dsimp only
    repeat' split
    all_goals rfl
  rcases free_cases s x with ⟨-, hf⟩ | ⟨-, hthere, hok⟩
  · exact hf.recorded hjournal fun _ => .of_failed rfl
  · refine hok.recorded hjournal
      (Accounts.take_back (k := .allocation x) hthere ?_ ?_ fun _ _ hexe _ => hexe)
    · exact fun k hk => by cases k <;> exact hk
    · intro k
      cases k with
      | allocation x' =>
        rw [ne_eq, Resource.allocation.injEq]
        exact Assoc.contains_erase_iff
      | _ => simp [Holds]

theorem writeMemory_recorded (s : Simulator) (x : Nat) (bs : Bytes) :
    Recorded s (listed? (always (.writeMemory x)) (s.writeMemory x bs).1)
      (s.writeMemory x bs).2 := by
  have hjournal : (s.writeMemory x bs).2.journal = s.journal ++ [JournalEntry.writeMemory x] := by
    unfold writeMemory
    dsimp only
    repeat' split
    all_goals rfl
  rcases writeMemory_cases s x bs with hf | ⟨base, old, new, hfound, hok⟩
  · exact hf.recorded hjournal fun _ => .of_failed rfl
  · refine hok.recorded hjournal ((Idle.of_entry rfl rfl (by rintro _ ⟨⟩) _).accounts
      (fun k hk => by cases k <;> exact hk) ?_ fun _ _ hexe _ => hexe)
    -- the allocation that is written to was there before
    intro k
    cases k with
    | allocation x' =>
      show (s.allocations.put base new).contains x' = true ↔ s.allocations.contains x' = true
      rw [Assoc.contains_put, Bool.or_eq_true, decide_eq_true_eq]
      refine ⟨fun h => h.elim (fun heq => ?_) id, .inr⟩
      rw [← heq]
      exact Sound.contains_of_allocationAt? hfound
    | _ => rfl

theorem dispatch_recorded (s : Simulator) (g : AgentHandle) (q : QueueHandle) (p : Packet)
    (bs : Bytes) (wanted : Bool) :
    Recorded s (listed? (always (.dispatch q)) (s.dispatch g q p bs wanted).1)
      (s.dispatch g q p bs wanted).2 := by
  have hjournal : (s.dispatch g q p bs wanted).2.journal =
      s.journal ++ [JournalEntry.dispatch q] := by
    unfold dispatch
    dsimp only
    repeat' split
    all_goals rfl
  have hidle : Idle (listed? (always (.dispatch q)) (s.dispatch g q p bs wanted).1) :=
    .of_entry rfl rfl (by rintro _ ⟨⟩) _
  obtain ⟨journal, loads, dispatches, hstate | hstate⟩ := dispatch_state s g q p bs wanted
  · rw [hstate] at hjournal ⊢
    exact ⟨hidle.accounts_of_same (Nat.le_refl _) rfl rfl rfl rfl rfl, hjournal⟩
  · rw [hstate] at hjournal ⊢
    exact ⟨hidle.accounts_of_same (Nat.le_succ _) rfl rfl rfl rfl rfl, hjournal⟩

theorem synchronize_recorded (s : Simulator) (g : AgentHandle) :
    Recorded s (listed? (always (.synchronize g)) (s.synchronize g).1) (s.synchronize g).2 := by
  have hjournal : (s.synchronize g).2.journal = s.journal ++ [JournalEntry.synchronize g] := by
    unfold synchronize
    dsimp only
    split <;> rfl
  obtain ⟨journal, loads, hstate⟩ := synchronize_state s g
  rw [hstate] at hjournal ⊢
  exact .of_idle (.of_entry rfl rfl (by rintro _ ⟨⟩) _) hjournal

theorem releaseCompletion_recorded (s : Simulator) (c : CompletionHandle) :
    Recorded s (listed? (always (.releaseCompletion c)) (s.releaseCompletion c).1)
      (s.releaseCompletion c).2 := by
  have hjournal : (s.releaseCompletion c).2.journal =
      s.journal ++ [JournalEntry.releaseCompletion c] := by
    unfold releaseCompletion
    dsimp only
    split <;> rfl
  have hidle : Idle (listed? (always (.releaseCompletion c)) (s.releaseCompletion c).1) :=
    .of_entry rfl rfl (by rintro _ ⟨⟩) _
  obtain ⟨journal, loads, hstate | hstate⟩ := releaseCompletion_state s c
  all_goals
    rw [hstate] at hjournal ⊢
    exact ⟨hidle.accounts_of_same (Nat.le_refl _) rfl rfl rfl rfl rfl, hjournal⟩

end Calls

/-! ## What all calls keep -/

section Chronicle

variable {P : Chronicled Simulator → Prop}
  (hP : ∀ s c? t, s.inner.Sound → Recorded s.inner c? t → P s → P ⟨t, s.calls ++ c?.toList⟩)
include hP

theorem pass_only {call : Simulator → Reply Simulator α}
    {note : Except CallError α → Option JournalEntry} (hcalled : ∀ s, Called s (call s).2)
    (hrecorded : ∀ s, s.Sound → Recorded s (Chronicled.listed? note (call s).1) (call s).2) :
    CallsAlike (Only fun s => s.inner.Sound ∧ P s) (Chronicled.pass call note)
      (Chronicled.pass call note) :=
  .only fun s ⟨hsound, hs⟩ =>
    ⟨hsound.called (hcalled s.inner), hP s _ _ hsound (hrecorded s.inner hsound) hs⟩

/-- What every recorded call keeps, a loader keeps. -/
theorem chronicle_only :
    accelerator.chronicle.Alike (Only fun s => s.inner.Sound ∧ P s) accelerator.chronicle where
  createExecutable := pass_only hP (fun _ => .createExecutable) fun _ => createExecutable_recorded
  loadReader e g r :=
    pass_only hP (fun _ => .loadReader e g r) fun s _ => loadReader_recorded s e g r
  loadCodeObject e g c :=
    pass_only hP (fun _ => .loadCodeObject e g c) fun s _ => loadCodeObject_recorded s e g c
  freeze e := pass_only hP (fun _ => .freeze e) fun s _ => freeze_recorded s e
  destroyExecutable e :=
    pass_only hP (fun _ => .destroyExecutable e) fun s _ => destroyExecutable_recorded s e
  getSymbol e g n := pass_only hP (fun _ => .getSymbol e g n) fun s _ => getSymbol_recorded s e g n
  defineGlobal e n x :=
    pass_only hP (fun _ => .defineGlobal e n x) fun s _ => defineGlobal_recorded s e n x
  createReader fs p :=
    pass_only hP (fun _ => .createReader fs p) fun s _ => createReader_recorded s fs p
  destroyReader r := pass_only hP (fun _ => .destroyReader r) fun s _ => destroyReader_recorded s r
  deserialize x n := pass_only hP (fun _ => .deserialize x n) fun s _ => deserialize_recorded s x n
  destroyCodeObject c :=
    pass_only hP (fun _ => .destroyCodeObject c) fun s _ => destroyCodeObject_recorded s c
  lockMemory g x n :=
    pass_only hP (fun _ => .lockMemory g x n) fun s _ => lockMemory_recorded s g x n
  unlockMemory x := pass_only hP (fun _ => .unlockMemory x) fun s _ => unlockMemory_recorded s x
  findRegion g := pass_only hP (fun _ => .findRegion g) fun s _ => findRegion_recorded s g
  allocate r n := pass_only hP (fun _ => .allocate r n) fun s _ => allocate_recorded s r n
  free x := pass_only hP (fun _ => .free x) fun s _ => free_recorded s x
  writeMemory x bs :=
    pass_only hP (fun _ => .writeMemory x bs) fun s _ => writeMemory_recorded s x bs
  dispatch g q p bs w :=
    pass_only hP (fun _ => .dispatch g q p bs w) fun s _ => dispatch_recorded s g q p bs w
  synchronize g := pass_only hP (fun _ => .synchronize g) fun s _ => synchronize_recorded s g
  releaseCompletion c :=
    pass_only hP (fun _ => .releaseCompletion c) fun s _ => releaseCompletion_recorded s c

/-- Setting and clearing faults are recorded as calls that are not written down. -/
theorem rig_only (settings : LoaderSettings) (hooks : LaunchHooks) :
    Rig.Alike (Only fun s => s.inner.Sound ∧ P s) (rig settings hooks).chronicle
      (rig settings hooks).chronicle where
  accelerator := chronicle_only hP
  settings := rfl
  hooks := rfl
  inject point s t h := by
    obtain ⟨rfl, hsound, hs⟩ := h
    have hidle : Recorded s.inner none (s.inner.inject point) := by
      unfold inject
      split
      all_goals exact ⟨Idle.none.accounts_of_same (Nat.le_refl _) rfl rfl rfl rfl rfl,
        (List.append_nil _).symm⟩
    have hkept := hP s none _ hsound hidle hs
    rw [Option.toList_none, List.append_nil] at hkept
    refine ⟨rfl, ?_, hkept⟩
    show (s.inner.inject point).Sound
    unfold inject
    split
    · exact hsound
    · exact { hsound with }
  clearFaults s t h := by
    obtain ⟨rfl, hsound, hs⟩ := h
    have hkept := hP s none s.inner.clearFaults hsound
      ⟨Idle.none.accounts_of_same (Nat.le_refl _) rfl rfl rfl rfl rfl, (List.append_nil _).symm⟩ hs
    rw [Option.toList_none, List.append_nil] at hkept
    exact ⟨rfl, { hsound with }, hkept⟩

end Chronicle

end Simulator

namespace Session

/-- **What every recorded call keeps, every run keeps.** -/
theorem run_recorded {P : Chronicled Simulator → Prop}
    (hP : ∀ s c? t, s.inner.Sound → s.inner.Recorded c? t → P s → P ⟨t, s.calls ++ c?.toList⟩)
    (settings : LoaderSettings) (hooks : LaunchHooks) {s : Session (Chronicled Simulator)}
    (hsound : s.world.accelerator.inner.Sound) (hs : P s.world.accelerator) (rs : List Request) :
    P (s.run (Simulator.rig settings hooks).chronicle rs).world.accelerator :=
  (run_alike (Simulator.rig_only hP settings hooks) ⟨.only ⟨hsound, hs⟩, rfl⟩
    rs).world.accelerator.2.2

end Session

end DeviceCode

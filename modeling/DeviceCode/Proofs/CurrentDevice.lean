import DeviceCode.Device.Table
import DeviceCode.Proofs.Maps
import Mathlib.Data.List.Basic
import Mathlib.Data.List.Induction

/-!
# Which device is current

Threads bind devices in tables that come and go. `DeviceUse.run` serves such requests in any order,
for any number of threads and tables, and notes which devices each table was given and which bindings
were made and undone. A thread that drops a table leaves the bindings of the other threads behind,
under a number that no other table gets.

Everything is read off the notes (`DeviceUse.run_isolated`): which tables are there, which device
each of them has under a number (what it was given last under that number), and the current device
of a thread in a table: what the thread bound last, unless it has cleared its binding since, as the
table has it now. The step lemma is `Kept.step`.
-/

namespace DeviceCode

/-! ## Requests and notes -/

/-- What the threads of a program do with its device tables. -/
inductive DeviceRequest where
  | create (devices : List Device)
  | add (table : TableId) (d : Device)
  | setCurrent (thread : ThreadId) (table : TableId) (id : Nat)
  | clearCurrent (thread : ThreadId) (table : TableId)
  | drop (thread : ThreadId) (table : TableId)

namespace DeviceRequest

/-- The table that a request uses. A new one has no number yet. -/
def table? : DeviceRequest → Option TableId
  | create _ => none
  | add table _ => some table
  | setCurrent _ table _ => some table
  | clearCurrent _ table => some table
  | drop _ table => some table

/-- A request for this table by this thread, or one that changes the table for all threads. -/
def Concerns (thread : ThreadId) (table : TableId) : DeviceRequest → Prop
  | create _ => False
  | add t _ => t = table
  | setCurrent h t _ => h = thread ∧ t = table
  | clearCurrent h t => h = thread ∧ t = table
  | drop _ t => t = table

end DeviceRequest

/-- What became of a table or a binding. -/
inductive DeviceNote where
  /-- A table was made with these devices, or one was added to it. -/
  | given (table : TableId) (devices : List Device)
  | dropped (table : TableId)
  | bound (thread : ThreadId) (table : TableId) (id : Nat)
  | cleared (thread : ThreadId) (table : TableId)
  deriving DecidableEq, Repr

namespace DeviceNote

def table : DeviceNote → TableId
  | given table _ => table
  | dropped table => table
  | bound _ table _ => table
  | cleared _ table => table

/-- The note is about the binding of this thread in this table. -/
def About (thread : ThreadId) (table : TableId) : DeviceNote → Prop
  | given _ _ => False
  | dropped _ => False
  | bound h t _ => h = thread ∧ t = table
  | cleared h t => h = thread ∧ t = table

@[simp] theorem not_about_given {thread : ThreadId} {t table : TableId} {devices : List Device} :
    ¬ (given t devices).About thread table := id

@[simp] theorem not_about_dropped {thread : ThreadId} {t table : TableId} :
    ¬ (dropped t).About thread table := id

@[simp] theorem about_bound {h thread : ThreadId} {t table : TableId} {id : Nat} :
    (bound h t id).About thread table ↔ h = thread ∧ t = table := .rfl

@[simp] theorem about_cleared {h thread : ThreadId} {t table : TableId} :
    (cleared h t).About thread table ↔ h = thread ∧ t = table := .rfl

end DeviceNote

variable {thread : ThreadId} {table : TableId} {id : Nat} {d : Device} {notes : List DeviceNote}
  {note : DeviceNote}

/-- The first device of this number. -/
def Device.first? (id : Nat) (devices : List Device) : Option Device := devices.find? (·.id == id)

/-- The table was made and has not been dropped. -/
def There (table : TableId) (notes : List DeviceNote) : Prop :=
  (∃ devices, .given table devices ∈ notes) ∧ .dropped table ∉ notes

/-- The table was given the device, and none of that number after it. -/
def Held (table : TableId) (id : Nat) (d : Device) (notes : List DeviceNote) : Prop :=
  ∃ before devices after, notes = before ++ .given table devices :: after ∧
    Device.first? id devices = some d ∧
    ∀ later, .given table later ∈ after → Device.first? id later = none

/-- The thread bound the device in the table, and has not changed its binding there since. -/
def Standing (thread : ThreadId) (table : TableId) (id : Nat) (notes : List DeviceNote) : Prop :=
  ∃ before after, notes = before ++ .bound thread table id :: after ∧
    ∀ note ∈ after, ¬ note.About thread table

/-- The thread has bound nothing in the table since it cleared its binding there. -/
def Unbound (thread : ThreadId) (table : TableId) (notes : List DeviceNote) : Prop :=
  ∀ id before after, notes = before ++ .bound thread table id :: after →
    .cleared thread table ∈ after

/-- The last note decides, if it is about the thread and the table. -/
theorem standing_concat :
    Standing thread table id (notes ++ [note]) ↔
      note = .bound thread table id ∨ Standing thread table id notes ∧ ¬ note.About thread table := by
  constructor
  · intro h
    obtain ⟨before, after, heq, hafter⟩ := h
    obtain ⟨-, hnote, -⟩ | ⟨rest, rfl, hrest⟩ := split_of_concat heq
    · exact .inl hnote
    · refine .inr ⟨⟨before, rest, hrest, fun n hn => hafter n (List.mem_append_left _ hn)⟩, ?_⟩
      exact hafter note (List.mem_append_right _ (List.mem_singleton_self note))
  · intro h
    rcases h with rfl | ⟨⟨before, after, rfl, hafter⟩, hnote⟩
    · exact ⟨notes, [], rfl, nofun⟩
    · refine ⟨before, after ++ [note], by simp, fun n hn => ?_⟩
      rcases List.mem_append.mp hn with hn | hn
      · exact hafter n hn
      · rwa [List.mem_singleton.mp hn]

/-- The last note decides, if it gives the table a device of this number. -/
theorem held_concat :
    Held table id d (notes ++ [note]) ↔
      (∃ devices, note = .given table devices ∧ Device.first? id devices = some d) ∨
        Held table id d notes ∧
          ∀ devices, note = .given table devices → Device.first? id devices = none := by
  constructor
  · intro h
    obtain ⟨before, devices, after, heq, hfirst, hafter⟩ := h
    obtain ⟨-, hnote, -⟩ | ⟨rest, rfl, hrest⟩ := split_of_concat heq
    · exact .inl ⟨devices, hnote, hfirst⟩
    · refine .inr ⟨⟨before, devices, rest, hrest, hfirst, fun later hlater => ?_⟩,
        fun later hlater => ?_⟩
      · exact hafter later (List.mem_append_left _ hlater)
      · exact hafter later (List.mem_append_right _ (hlater ▸ List.mem_singleton_self note))
  · intro h
    rcases h with ⟨devices, rfl, hfirst⟩ | ⟨⟨before, devices, after, rfl, hfirst, hafter⟩, hnote⟩
    · exact ⟨notes, devices, [], rfl, hfirst, nofun⟩
    · refine ⟨before, devices, after ++ [note], by simp, hfirst, fun later hlater => ?_⟩
      rcases List.mem_append.mp hlater with hlater | hlater
      · exact hafter later hlater
      · exact hnote later (List.mem_singleton.mp hlater).symm

/-- A note that gives the table nothing says nothing about its devices. -/
theorem held_concat_of_ne (h : ∀ devices, note ≠ .given table devices) :
    Held table id d (notes ++ [note]) ↔ Held table id d notes := by
  rw [held_concat]
  constructor
  · intro hheld
    rcases hheld with ⟨devices, hnote, -⟩ | ⟨hheld, -⟩
    · exact absurd hnote (h devices)
    · exact hheld
  · intro hheld
    exact .inr ⟨hheld, fun devices hnote => absurd hnote (h devices)⟩

/-- A table has a device of a number once it was given one: devices are replaced and never taken
away. -/
theorem exists_held_iff : (∃ d, Held table id d notes) ↔
    ∃ devices, .given table devices ∈ notes ∧ ∃ d ∈ devices, d.id = id := by
  constructor
  · intro h
    obtain ⟨d, before, devices, after, rfl, hfirst, -⟩ := h
    exact ⟨devices, by simp, d, List.mem_of_find?_eq_some hfirst,
      by simpa using List.find?_some hfirst⟩
  · intro h
    induction notes using List.reverseRecOn with
    | nil =>
      obtain ⟨devices, hgiven, -⟩ := h
      cases hgiven
    | append_singleton notes note ih =>
      by_cases hnote : ∃ devices d, note = .given table devices ∧ Device.first? id devices = some d
      · obtain ⟨devices, d, hgiven, hfirst⟩ := hnote
        exact ⟨d, held_concat.mpr (.inl ⟨devices, hgiven, hfirst⟩)⟩
      · -- the last note gives no device of this number, so an earlier one does
        have hnone : ∀ devices, note = .given table devices → Device.first? id devices = none :=
          fun devices hgiven => Option.eq_none_iff_forall_ne_some.mpr fun d hfirst =>
            hnote ⟨devices, d, hgiven, hfirst⟩
        obtain ⟨devices, hgiven, d, hd, hid⟩ := h
        rcases List.mem_append.mp hgiven with hgiven | hgiven
        · obtain ⟨d, hheld⟩ := ih ⟨devices, hgiven, d, hd, hid⟩
          exact ⟨d, held_concat.mpr (.inr ⟨hheld, hnone⟩)⟩
        · have hdevices := hnone devices (List.mem_singleton.mp hgiven).symm
          have hothers := List.find?_eq_none.mp hdevices d hd
          simp [hid] at hothers

theorem Held.given (h : Held table id d notes) : ∃ devices, .given table devices ∈ notes := by
  obtain ⟨before, devices, after, rfl, -⟩ := h
  exact ⟨devices, by simp⟩

theorem Unbound.not_standing (h : Unbound thread table notes) :
    ¬ Standing thread table id notes := by
  intro hstanding
  obtain ⟨before, after, heq, hafter⟩ := hstanding
  exact hafter _ (h id before after heq) ⟨rfl, rfl⟩

/-! ## Devices of a table -/

namespace Devices

variable {ds : Devices}

theorem device?_of_not_contains (h : ds.tables.contains table = false) :
    ds.device? table id = none := by
  have hnone : ds.tables.get? table = none := Option.isNone_iff_eq_none.mp (by
    rw [← Option.not_isSome, show (ds.tables.get? table).isSome = false from h]
    rfl)
  unfold device? devices
  rw [hnone]
  rfl

theorem current?_of_not_contains (h : ds.tables.contains table = false) :
    ds.current? thread table = none := by
  unfold current?
  cases ds.bindings.get? (thread, table) with
  | none => rfl
  | some id => exact device?_of_not_contains h

theorem device?_congr {ds' : Devices} (h : ds'.tables.get? table = ds.tables.get? table) :
    ds'.device? table id = ds.device? table id := by
  unfold device? devices
  rw [h]

/-- Nothing else counts than the table and the binding of the thread there. -/
theorem current?_congr {ds' : Devices} (htable : ds'.tables.get? table = ds.tables.get? table)
    (hbinding : ds'.bindings.get? (thread, table) = ds.bindings.get? (thread, table)) :
    ds'.current? thread table = ds.current? thread table := by
  unfold current? device? devices
  rw [htable, hbinding]

theorem device?_eq_none_iff :
    ds.device? table id = none ↔ ∀ d ∈ ds.devices table, d.id ≠ id := by
  unfold device?
  simp [List.find?_eq_none]

/-- A new table has the devices that it was made with. -/
theorem devices_create (devices : List Device) :
    (ds.create devices).2.devices (ds.create devices).1 = devices := by
  show ((ds.tables.put ds.nextTable devices).get? ds.nextTable).getD [] = devices
  rw [Assoc.get?_put, if_pos rfl]
  rfl

theorem devices_add (d : Device) :
    (ds.add table d).devices table = (ds.devices table).filter (·.id != d.id) ++ [d] := by
  show ((ds.tables.put table _).get? table).getD [] = _
  rw [Assoc.get?_put, if_pos rfl]
  rfl

theorem device?_add (d : Device) : (ds.add table d).device? table d.id = some d := by
  have hothers : ((ds.devices table).filter (·.id != d.id)).find? (·.id == d.id) = none := by
    simp [List.find?_eq_none]
  unfold device?
  rw [devices_add, List.find?_append, hothers]
  simp

/-- The other numbers are answered as before. -/
theorem device?_add_of_ne {d : Device} (h : id ≠ d.id) :
    (ds.add table d).device? table id = ds.device? table id := by
  have hothers : ((ds.devices table).filter (·.id != d.id)).find? (·.id == id) =
      (ds.devices table).find? (·.id == id) := by
    rw [List.find?_filter]
    congr 1
    funext other
    by_cases hid : other.id = id
    · simp [hid, h]
    · simp [hid]
  have hadded : [d].find? (·.id == id) = none := by
    simp [h.symm]
  unfold device?
  rw [devices_add, List.find?_append, hothers, hadded, Option.or_none]

/-- Binding a device succeeds if the table knows it. -/
theorem setCurrent_of_some {d : Device} (h : ds.device? table id = some d) :
    ds.setCurrent thread table id =
      .ok { ds with bindings := ds.bindings.put (thread, table) id } := by
  unfold setCurrent
  rw [h]
  rfl

theorem setCurrent_of_none (h : ds.device? table id = none) :
    ds.setCurrent thread table id = .error (.unknownDevice id) := by
  unfold setCurrent
  rw [h]
  rfl

/-- A device is refused exactly if the table has none with its number. -/
theorem setCurrent_error_iff {e : InvalidValue} :
    ds.setCurrent thread table id = .error e ↔
      e = .unknownDevice id ∧ ∀ d ∈ ds.devices table, d.id ≠ id := by
  rw [← device?_eq_none_iff]
  constructor
  · intro h
    cases hd : ds.device? table id with
    | none =>
      rw [setCurrent_of_none hd] at h
      cases h
      exact ⟨rfl, rfl⟩
    | some d =>
      rw [setCurrent_of_some hd] at h
      cases h
  · intro h
    rw [h.1, setCurrent_of_none h.2]

end Devices

/-! ## Serving requests -/

/-- The tables and bindings of a program, with notes that nothing reads. -/
structure DeviceUse where
  devices : Devices := {}
  notes : List DeviceNote := []

namespace DeviceUse

variable {u : DeviceUse}

def perform (u : DeviceUse) : DeviceRequest → DeviceUse
  | .create devices =>
    let (table, created) := u.devices.create devices
    { devices := created, notes := u.notes ++ [.given table devices] }
  | .add table d =>
    { devices := u.devices.add table d, notes := u.notes ++ [.given table [d]] }
  | .setCurrent thread table id =>
    match u.devices.setCurrent thread table id with
    | .ok devices => { devices, notes := u.notes ++ [.bound thread table id] }
    | .error _ => u
  | .clearCurrent thread table =>
    { devices := u.devices.clearCurrent thread table
      notes := u.notes ++ [.cleared thread table] }
  | .drop thread table =>
    { devices := u.devices.drop thread table, notes := u.notes ++ [.dropped table] }

/-- One request. A table that is not there cannot be used. -/
def step (u : DeviceUse) (r : DeviceRequest) : DeviceUse :=
  if r.table?.all u.devices.tables.contains then u.perform r else u

/-- Requests one after the other, from the beginning of a program. -/
def run (requests : List DeviceRequest) : DeviceUse := requests.foldl step {}

/-- What holds after any requests: the tables that are there are those that were made and not
dropped, with the devices that they were given; the bindings in them are those that stand; and no
binding and no note is about a table that is still to come. -/
structure Kept (u : DeviceUse) : Prop where
  there : ∀ table, u.devices.tables.contains table = true ↔ There table u.notes
  held : ∀ table id d, u.devices.tables.contains table = true →
    (u.devices.device? table id = some d ↔ Held table id d u.notes)
  bindings : ∀ thread table id, u.devices.tables.contains table = true →
    (u.devices.bindings.get? (thread, table) = some id ↔ Standing thread table id u.notes)
  unbound : ∀ thread table, u.devices.nextTable ≤ table →
    u.devices.bindings.get? (thread, table) = none
  noted : ∀ note ∈ u.notes, note.table < u.devices.nextTable

/-- What a program can rely on when it asks for the current device of a thread in a table. -/
structure Isolated (u : DeviceUse) (thread : ThreadId) (table : TableId) : Prop where
  there : u.devices.tables.contains table = true ↔ There table u.notes
  /-- Under each number a table has the device that it was given last. -/
  held : There table u.notes → ∀ id d,
    u.devices.device? table id = some d ↔ Held table id d u.notes
  /-- A device can be bound exactly if the table was ever given one of its number. -/
  ungiven : There table u.notes → ∀ id,
    (∃ e, u.devices.setCurrent thread table id = .error e) ↔
      ∀ devices, .given table devices ∈ u.notes → ∀ d ∈ devices, d.id ≠ id
  created : ∀ devices, (u.step (.create devices)).devices.devices u.devices.nextTable = devices
  added : There table u.notes → ∀ d,
    (u.step (.add table d)).devices.device? table d.id = some d ∧
      ∀ id, id ≠ d.id → (u.step (.add table d)).devices.device? table id =
        u.devices.device? table id
  unbound : Unbound thread table u.notes → u.devices.current? thread table = none
  standing : ∀ id, Standing thread table id u.notes →
    u.devices.current? thread table = u.devices.device? table id
  /-- Requests for other tables, and what other threads bind, make no difference. -/
  frame : ∀ r : DeviceRequest, ¬ r.Concerns thread table →
    (u.step r).devices.current? thread table = u.devices.current? thread table
  /-- Nothing that was left behind shows in a new table. -/
  fresh : ∀ devices,
    (u.step (.create devices)).devices.current? thread u.devices.nextTable = none
  /-- A device that is added shows through where its number is bound already. -/
  shown : ∀ d, u.devices.tables.contains table = true → Standing thread table d.id u.notes →
    (u.step (.add table d)).devices.current? thread table = some d
  accepted : ∀ id devices, u.devices.setCurrent thread table id = .ok devices →
    u.step (.setCurrent thread table id) = ⟨devices, u.notes ++ [.bound thread table id]⟩
  refused : ∀ id e, u.devices.setCurrent thread table id = .error e ↔
    e = .unknownDevice id ∧ ∀ d ∈ u.devices.devices table, d.id ≠ id
  unchanged : ∀ id e, u.devices.setCurrent thread table id = .error e →
    u.step (.setCurrent thread table id) = u

namespace Kept

theorem start : Kept {} where
  there _ := by simp [There, Assoc.contains]
  held _ _ _ h := absurd h Bool.false_ne_true
  bindings _ _ _ h := absurd h Bool.false_ne_true
  unbound _ _ _ := rfl
  noted := nofun

theorem not_standing (hu : Kept u) (hle : u.devices.nextTable ≤ table) :
    ¬ Standing thread table id u.notes := by
  intro h
  obtain ⟨before, after, heq, -⟩ := h
  have hnote := hu.noted (.bound thread table id) (by simp [heq])
  exact absurd hnote (Nat.not_lt.mpr hle)

theorem not_held (hu : Kept u) (hle : u.devices.nextTable ≤ table) :
    ¬ Held table id d u.notes := by
  intro h
  obtain ⟨devices, hgiven⟩ := h.given
  exact absurd (hu.noted _ hgiven) (Nat.not_lt.mpr hle)

/-- A table that is there is none of those to come. -/
theorem lt_nextTable (hu : Kept u) (h : u.devices.tables.contains table = true) :
    table < u.devices.nextTable := by
  obtain ⟨⟨devices, hgiven⟩, -⟩ := (hu.there table).mp h
  exact hu.noted _ hgiven

/-- A note about such a table, too, is about none of those to come. -/
theorem noted_concat (hu : Kept u) (h : u.devices.tables.contains table = true)
    (hnote : note.table = table) :
    ∀ note' ∈ u.notes ++ [note], note'.table < u.devices.nextTable := by
  intro note' hmem
  rcases List.mem_append.mp hmem with hmem | hmem
  · exact hu.noted note' hmem
  · rw [List.mem_singleton.mp hmem, hnote]
    exact hu.lt_nextTable h

theorem absent (hu : Kept u) (hle : u.devices.nextTable ≤ table) :
    u.devices.tables.contains table = false := by
  by_contra h
  rw [Bool.not_eq_false] at h
  exact absurd (hu.lt_nextTable h) (Nat.not_lt.mpr hle)

theorem create (hu : Kept u) (devices : List Device) : Kept (u.perform (.create devices)) where
  there t := by
    show (u.devices.tables.put _ _).contains t = true ↔ There t (u.notes ++ [.given _ devices])
    rw [Assoc.contains_put, Bool.or_eq_true, decide_eq_true_eq, hu.there t]
    by_cases hself : u.devices.nextTable = t
    · -- a number that is still to come was never dropped
      have hdropped : .dropped t ∉ u.notes := fun h =>
        absurd (hu.noted _ h) (Nat.not_lt.mpr (Nat.le_of_eq hself))
      simp [There, hself, hdropped]
    · simp [There, hself, Ne.symm hself]
  held t i d hthere := by
    show (u.devices.create devices).2.device? t i = some d ↔
      Held t i d (u.notes ++ [.given u.devices.nextTable devices])
    rw [held_concat]
    rcases Assoc.of_contains_put hthere with rfl | hthere
    · have hfirst : (u.devices.create devices).2.device? u.devices.nextTable i =
          Device.first? i devices := congrArg (Device.first? i) (Devices.devices_create devices)
      have hnone : ¬ Held u.devices.nextTable i d u.notes := hu.not_held (Nat.le_refl _)
      simp [hfirst, hnone]
    · have hne : u.devices.nextTable ≠ t := Nat.ne_of_gt (hu.lt_nextTable hthere)
      rw [Devices.device?_congr ((Assoc.get?_put _ _ _ _).trans (if_neg hne)), hu.held t i d hthere]
      simp [hne]
  bindings h t i hthere := by
    show u.devices.bindings.get? (h, t) = some i ↔ Standing h t i (u.notes ++ [.given _ devices])
    rw [standing_concat]
    rcases Assoc.of_contains_put hthere with rfl | hthere
    · -- the new table has a number that was never bound
      have hnone := hu.unbound h u.devices.nextTable (Nat.le_refl _)
      have hsilent : ¬ Standing h u.devices.nextTable i u.notes :=
        hu.not_standing (Nat.le_refl _)
      simp [hnone, hsilent]
    · simp [hu.bindings h t i hthere]
  unbound h t hle := hu.unbound h t (Nat.le_of_succ_le hle)
  noted note hnote := by
    rcases List.mem_append.mp hnote with hnote | hnote
    · exact Nat.lt_succ_of_lt (hu.noted note hnote)
    · rw [List.mem_singleton.mp hnote]
      exact Nat.lt_succ_self _

theorem add (hu : Kept u) (hthere : u.devices.tables.contains table = true) (d : Device) :
    Kept (u.perform (.add table d)) where
  there t := by
    show (u.devices.tables.put _ _).contains t = true ↔ There t (u.notes ++ [.given table [d]])
    rw [Assoc.contains_put, Bool.or_eq_true, decide_eq_true_eq, hu.there t]
    by_cases hself : table = t
    · have hdropped := ((hu.there table).mp hthere).2
      subst hself
      simp [There, hdropped]
    · simp [There, hself, Ne.symm hself]
  held t i d' ht := by
    show (u.devices.add table d).device? t i = some d' ↔
      Held t i d' (u.notes ++ [.given table [d]])
    rw [held_concat]
    by_cases hself : table = t
    · subst hself
      by_cases hid : d.id = i
      · subst hid
        simp [Devices.device?_add, Device.first?]
      · rw [Devices.device?_add_of_ne (Ne.symm hid), hu.held table i d' hthere]
        simp [Device.first?, hid]
    · have ht := (Assoc.of_contains_put ht).resolve_left hself
      rw [Devices.device?_congr ((Assoc.get?_put _ _ _ _).trans (if_neg hself)), hu.held t i d' ht]
      simp [hself]
  bindings h t i ht := by
    show u.devices.bindings.get? (h, t) = some i ↔ Standing h t i (u.notes ++ [.given table [d]])
    rw [standing_concat]
    rcases Assoc.of_contains_put ht with rfl | ht
    · simp [hu.bindings h table i hthere]
    · simp [hu.bindings h t i ht]
  unbound := hu.unbound
  noted := hu.noted_concat hthere rfl

theorem bind (hu : Kept u) (hthere : u.devices.tables.contains table = true)
    (thread : ThreadId) (id : Nat) :
    Kept {
      devices := { u.devices with bindings := u.devices.bindings.put (thread, table) id }
      notes := u.notes ++ [.bound thread table id] } where
  there t := by simpa [There] using hu.there t
  held t i d ht := (hu.held t i d ht).trans (held_concat_of_ne (by simp)).symm
  bindings h t i ht := by
    show (u.devices.bindings.put _ _).get? (h, t) = some i ↔ _
    rw [Assoc.get?_put, standing_concat]
    by_cases hself : thread = h ∧ table = t
    · obtain ⟨rfl, rfl⟩ := hself
      simp
    · have hkey : (thread, table) ≠ (h, t) := fun heq => hself (Prod.mk.inj heq)
      rw [if_neg hkey, hu.bindings h t i ht]
      constructor
      · intro hstanding
        exact .inr ⟨hstanding, hself⟩
      · intro hstanding
        rcases hstanding with heq | ⟨hstanding, -⟩
        · obtain ⟨hthread, htable, -⟩ := DeviceNote.bound.inj heq
          exact absurd ⟨hthread, htable⟩ hself
        · exact hstanding
  unbound h t hle := by
    have hne : table ≠ t := Nat.ne_of_lt (Nat.lt_of_lt_of_le (hu.lt_nextTable hthere) hle)
    show (u.devices.bindings.put _ _).get? (h, t) = none
    rw [Assoc.get?_put, if_neg fun heq => hne (Prod.mk.inj heq).2]
    exact hu.unbound h t hle
  noted := hu.noted_concat hthere rfl

theorem setCurrent (hu : Kept u) (hthere : u.devices.tables.contains table = true)
    (thread : ThreadId) (id : Nat) : Kept (u.perform (.setCurrent thread table id)) := by
  unfold perform
  dsimp only
  cases hd : u.devices.device? table id with
  | none =>
    rw [Devices.setCurrent_of_none hd]
    exact hu
  | some d =>
    rw [Devices.setCurrent_of_some hd]
    exact hu.bind hthere thread id

theorem clearCurrent (hu : Kept u) (hthere : u.devices.tables.contains table = true)
    (thread : ThreadId) :
    Kept (u.perform (.clearCurrent thread table)) where
  there t := by
    show u.devices.tables.contains t = true ↔ There t (u.notes ++ [.cleared thread table])
    simpa [There] using hu.there t
  held t i d ht := (hu.held t i d ht).trans (held_concat_of_ne (by simp)).symm
  bindings h t i ht := by
    show (u.devices.bindings.erase _).get? (h, t) = some i ↔ _
    rw [Assoc.get?_erase]
    show _ ↔ Standing h t i (u.notes ++ [.cleared thread table])
    rw [standing_concat]
    by_cases hself : thread = h ∧ table = t
    · obtain ⟨rfl, rfl⟩ := hself
      simp
    · have hkey : (thread, table) ≠ (h, t) := fun heq => hself (Prod.mk.inj heq)
      rw [if_neg hkey, hu.bindings h t i ht]
      simp [hself]
  unbound h t hle := by
    show (u.devices.bindings.erase _).get? (h, t) = none
    rw [Assoc.get?_erase, hu.unbound h t hle, ite_self]
  noted := hu.noted_concat hthere rfl

theorem drop (hu : Kept u) (hthere : u.devices.tables.contains table = true)
    (thread : ThreadId) : Kept (u.perform (.drop thread table)) where
  there t := by
    show (u.devices.tables.erase table).contains t = true ↔ There t (u.notes ++ [.dropped table])
    rw [Assoc.contains_erase, Bool.and_eq_true, Bool.not_eq_true', decide_eq_false_iff_not,
      hu.there t]
    by_cases hself : table = t
    · simp [There, hself]
    · simp [There, hself, Ne.symm hself]
  held t i d ht := by
    change (u.devices.tables.erase table).contains t = true at ht
    rw [Assoc.contains_erase, Bool.and_eq_true, Bool.not_eq_true', decide_eq_false_iff_not] at ht
    have htable : (u.devices.drop thread table).device? t i = u.devices.device? t i :=
      Devices.device?_congr ((Assoc.get?_erase _ _ _).trans (if_neg ht.1))
    show (u.devices.drop thread table).device? t i = some d ↔ _
    rw [htable, hu.held t i d ht.2]
    exact (held_concat_of_ne (by simp)).symm
  bindings h t i ht := by
    change (u.devices.tables.erase table).contains t = true at ht
    rw [Assoc.contains_erase, Bool.and_eq_true, Bool.not_eq_true', decide_eq_false_iff_not] at ht
    show (u.devices.bindings.erase _).get? (h, t) = some i ↔ Standing h t i (u.notes ++ [.dropped _])
    rw [Assoc.get?_erase, if_neg fun heq => ht.1 (Prod.mk.inj heq).2, standing_concat]
    simp [hu.bindings h t i ht.2]
  unbound h t hle := by
    show (u.devices.bindings.erase _).get? (h, t) = none
    rw [Assoc.get?_erase, hu.unbound h t hle, ite_self]
  noted := hu.noted_concat hthere rfl

/-- **A request keeps the bindings and the notes together.** -/
theorem step (hu : Kept u) (r : DeviceRequest) : Kept (u.step r) := by
  unfold DeviceUse.step
  split
  · next hthere =>
    cases r with
    | create devices => exact hu.create devices
    | add table d => exact hu.add hthere d
    | setCurrent thread table id => exact hu.setCurrent hthere thread id
    | clearCurrent thread table => exact hu.clearCurrent hthere thread
    | drop thread table => exact hu.drop hthere thread
  · exact hu

end Kept

theorem run_kept (requests : List DeviceRequest) : Kept (run requests) := by
  induction requests using List.reverseRecOn with
  | nil => exact .start
  | append_singleton requests r ih =>
    show Kept (List.foldl _ _ _)
    rw [List.foldl_append]
    exact ih.step r

/-! ## What is answered -/

namespace Kept

theorem current?_standing (hu : Kept u) (h : Standing thread table id u.notes) :
    u.devices.current? thread table = u.devices.device? table id := by
  cases hthere : u.devices.tables.contains table with
  | true =>
    unfold Devices.current?
    rw [(hu.bindings thread table id hthere).mpr h]
    rfl
  | false =>
    -- a table that was dropped answers nothing at all
    rw [Devices.device?_of_not_contains hthere]
    exact Devices.current?_of_not_contains hthere

theorem current?_unbound (hu : Kept u) (h : Unbound thread table u.notes) :
    u.devices.current? thread table = none := by
  cases hthere : u.devices.tables.contains table with
  | false => exact Devices.current?_of_not_contains hthere
  | true =>
    unfold Devices.current?
    cases hbinding : u.devices.bindings.get? (thread, table) with
    | none => rfl
    | some id => exact absurd ((hu.bindings thread table id hthere).mp hbinding) h.not_standing

theorem current?_unused {devices : List Device} (hu : Kept u) (hle : u.devices.nextTable ≤ table) :
    (u.perform (.create devices)).devices.current? thread table = none := by
  have hnone := hu.unbound thread table hle
  show (u.devices.bindings.get? (thread, table)).bind _ = none
  rw [hnone]
  rfl

/-- A request that does not concern a thread and a table leaves their binding and the table. -/
theorem step_frame (hu : Kept u) {r : DeviceRequest} (h : ¬ r.Concerns thread table) :
    (u.step r).devices.current? thread table = u.devices.current? thread table := by
  unfold DeviceUse.step
  split
  · cases r with
    | create devices =>
      by_cases hle : u.devices.nextTable ≤ table
      · rw [hu.current?_unused hle, Devices.current?_of_not_contains (hu.absent hle)]
      · have hne : u.devices.nextTable ≠ table := fun heq => hle (Nat.le_of_eq heq)
        exact Devices.current?_congr ((Assoc.get?_put _ _ _ _).trans (if_neg hne)) rfl
    | add t d => exact Devices.current?_congr ((Assoc.get?_put _ _ _ _).trans (if_neg h)) rfl
    | setCurrent other t id =>
      have hkey : (other, t) ≠ (thread, table) := fun heq => h (Prod.mk.inj heq)
      unfold perform
      dsimp only
      cases hd : u.devices.device? t id with
      | none => rw [Devices.setCurrent_of_none hd]
      | some d =>
        rw [Devices.setCurrent_of_some hd]
        exact Devices.current?_congr rfl ((Assoc.get?_put _ _ _ _).trans (if_neg hkey))
    | clearCurrent other t =>
      have hkey : (other, t) ≠ (thread, table) := fun heq => h (Prod.mk.inj heq)
      exact Devices.current?_congr rfl ((Assoc.get?_erase _ _ _).trans (if_neg hkey))
    | drop other t =>
      have hkey : (other, t) ≠ (thread, table) := fun heq => h (Prod.mk.inj heq).2
      exact Devices.current?_congr ((Assoc.get?_erase _ _ _).trans (if_neg h))
        ((Assoc.get?_erase _ _ _).trans (if_neg hkey))
  · rfl

theorem current?_add (hu : Kept u) {d : Device}
    (hthere : u.devices.tables.contains table = true)
    (h : Standing thread table d.id u.notes) :
    (u.step (.add table d)).devices.current? thread table = some d := by
  have hstep : u.step (.add table d) = u.perform (.add table d) := if_pos hthere
  have hstill : Standing thread table d.id (u.notes ++ [.given table [d]]) :=
    standing_concat.mpr (.inr ⟨h, DeviceNote.not_about_given⟩)
  rw [hstep, (hu.add hthere d).current?_standing hstill]
  exact Devices.device?_add d

theorem step_created (u : DeviceUse) (devices : List Device) :
    (u.step (.create devices)).devices.devices u.devices.nextTable = devices :=
  Devices.devices_create devices

theorem step_added (hthere : u.devices.tables.contains table = true) (d : Device) :
    (u.step (.add table d)).devices.device? table d.id = some d ∧
      ∀ id, id ≠ d.id → (u.step (.add table d)).devices.device? table id =
        u.devices.device? table id := by
  have hstep : u.step (.add table d) = u.perform (.add table d) := if_pos hthere
  rw [hstep]
  exact ⟨Devices.device?_add d, fun id hid => Devices.device?_add_of_ne hid⟩

/-- A device is refused exactly if the table was given none of its number. -/
theorem setCurrent_refused_iff (hu : Kept u) (hthere : u.devices.tables.contains table = true) :
    (∃ e, u.devices.setCurrent thread table id = .error e) ↔
      ∀ devices, .given table devices ∈ u.notes → ∀ d ∈ devices, d.id ≠ id := by
  have hgiven : u.devices.device? table id = none ↔ ¬ ∃ d, Held table id d u.notes := by
    rw [Option.eq_none_iff_forall_ne_some, not_exists]
    exact forall_congr' fun d => not_congr (hu.held table id d hthere)
  rw [exists_held_iff] at hgiven
  constructor
  · intro h
    obtain ⟨e, he⟩ := h
    have hnone := Devices.device?_eq_none_iff.mpr (Devices.setCurrent_error_iff.mp he).2
    intro devices hmem d hd hid
    exact hgiven.mp hnone ⟨devices, hmem, d, hd, hid⟩
  · intro h
    refine ⟨_, Devices.setCurrent_of_none (hgiven.mpr ?_)⟩
    rintro ⟨devices, hmem, d, hd, hid⟩
    exact h devices hmem d hd hid

theorem step_accepted {devices : Devices}
    (h : u.devices.setCurrent thread table id = .ok devices) :
    u.step (.setCurrent thread table id) = ⟨devices, u.notes ++ [.bound thread table id]⟩ := by
  have hthere : u.devices.tables.contains table = true := by
    by_contra hgone
    rw [Bool.not_eq_true] at hgone
    rw [Devices.setCurrent_of_none (Devices.device?_of_not_contains hgone)] at h
    cases h
  have hstep : u.step (.setCurrent thread table id) =
      u.perform (.setCurrent thread table id) := if_pos hthere
  rw [hstep]
  unfold perform
  dsimp only
  rw [h]

/-- A refused device leaves everything as it is. -/
theorem step_refused {e : InvalidValue} (h : u.devices.setCurrent thread table id = .error e) :
    u.step (.setCurrent thread table id) = u := by
  unfold DeviceUse.step perform
  dsimp only
  rw [h]
  exact ite_self _

end Kept

/-- **Bindings are isolated.** After any requests, the current device of a thread in a table is read
off what this thread did with this table: what it bound last, as the table has it now, or none if it
has bound nothing since it cleared its binding. What the table has is read off what it was made with
and what was added to it. Other tables and other threads cannot change the current device, and
neither can a binding that was left behind in a table which another thread dropped. A device is
refused exactly if the table has none with its number, and then nothing changes. -/
theorem run_isolated (requests : List DeviceRequest) (thread : ThreadId) (table : TableId) :
    Isolated (run requests) thread table := by
  have hkept := run_kept requests
  exact
    { there := hkept.there table
      held := fun hthere id d => hkept.held table id d ((hkept.there table).mpr hthere)
      ungiven := fun hthere id => hkept.setCurrent_refused_iff ((hkept.there table).mpr hthere)
      created := fun devices => Kept.step_created _ devices
      added := fun hthere d => Kept.step_added ((hkept.there table).mpr hthere) d
      unbound := hkept.current?_unbound
      standing := fun id => hkept.current?_standing
      frame := fun r => hkept.step_frame
      fresh := fun devices => hkept.current?_unused (Nat.le_refl _)
      shown := fun d => hkept.current?_add
      accepted := fun id devices => Kept.step_accepted
      refused := fun id e => Devices.setCurrent_error_iff
      unchanged := fun id e => Kept.step_refused }

/-- Two tables and two threads: the device that the first thread binds in both is replaced in one of
them, and the second thread asks for an unknown device after it has bound another one. -/
def replacing : List DeviceRequest :=
  [.create [⟨0, ⟨7⟩, ⟨8⟩⟩, ⟨1, ⟨9⟩, ⟨10⟩⟩], .create [⟨0, ⟨7⟩, ⟨8⟩⟩], .setCurrent 1 1 0,
    .setCurrent 1 2 0, .setCurrent 2 1 1, .add 1 ⟨0, ⟨11⟩, ⟨12⟩⟩, .setCurrent 2 1 5]

/-- The new device shows through in the one table only, and the second thread keeps what it bound. -/
theorem run_isolated_replacing :
    let u := run replacing
    u.devices.current? 1 1 = some ⟨0, ⟨11⟩, ⟨12⟩⟩ ∧ u.devices.current? 1 2 = some ⟨0, ⟨7⟩, ⟨8⟩⟩ ∧
      u.devices.current? 2 1 = some ⟨1, ⟨9⟩, ⟨10⟩⟩ ∧ u.devices.current? 2 2 = none := by
  intro u
  have hnotes : u.notes = [.given 1 [⟨0, ⟨7⟩, ⟨8⟩⟩, ⟨1, ⟨9⟩, ⟨10⟩⟩], .given 2 [⟨0, ⟨7⟩, ⟨8⟩⟩],
      .bound 1 1 0, .bound 1 2 0, .bound 2 1 1, .given 1 [⟨0, ⟨11⟩, ⟨12⟩⟩]] := by
    decide +kernel
  have hcurrent {thread table id : Nat} {d : Device} (hthere : There table u.notes)
      (hstanding : Standing thread table id u.notes) (hheld : Held table id d u.notes) :
      u.devices.current? thread table = some d := by
    have hisolated := run_isolated replacing thread table
    exact (hisolated.standing id hstanding).trans ((hisolated.held hthere id d).mpr hheld)
  have hfirst : There 1 u.notes := by simp [hnotes, There]
  have hsecond : There 2 u.notes := by simp [hnotes, There]
  refine ⟨?_, ?_, ?_, ?_⟩
  · exact hcurrent hfirst ⟨[_, _], _, hnotes, by simp⟩
      ⟨[_, _, _, _, _], _, [], hnotes, rfl, nofun⟩
  · exact hcurrent hsecond ⟨[_, _, _], _, hnotes, by simp⟩ ⟨[_], _, _, hnotes, rfl, by simp⟩
  · exact hcurrent hfirst ⟨[_, _, _, _], _, hnotes, by simp⟩
      ⟨[], _, _, hnotes, rfl, by simp [Device.first?]⟩
  · refine (run_isolated replacing 2 2).unbound fun id before after heq => ?_
    have hbound : DeviceNote.bound 2 2 id ∈ u.notes := by simp [u, heq]
    rw [hnotes] at hbound
    simp at hbound

end DeviceUse

end DeviceCode

import DeviceCode.Elf.Draft
import DeviceCode.Proofs.Elf.Records
import DeviceCode.Proofs.Elf.Names

/-!
# What stands where in an encoded draft

A byte string `Carries` a part at an offset when it is some bytes of that many, then the part, then
anything. An encoded draft carries its section header table where the file header says and the bytes
of every section where its section header says, with the table before or after the data.

No two sections overlap because `Draft.place` only ever moves forward: `Draft.layOut` then writes
the sections one behind the other, and the induction over them keeps the bytes already written as
the front of what follows.
-/

namespace DeviceCode

namespace Bytes

/-- `part` stands in `bs` at `start`. -/
def Carries (bs : Bytes) (start : Nat) (part : Bytes) : Prop :=
  ∃ front back, bs = front ++ (part ++ back) ∧ front.length = start

variable {bs part : Bytes} {start : Nat}

theorem carries_append (front part back : Bytes) :
    Carries (front ++ part ++ back) front.length part :=
  ⟨front, back, List.append_assoc _ _ _, rfl⟩

theorem Carries.append (h : Carries bs start part) (back : Bytes) :
    Carries (bs ++ back) start part := by
  obtain ⟨front, rest, rfl, rfl⟩ := h
  exact ⟨front, rest ++ back, by simp only [List.append_assoc], rfl⟩

theorem Carries.slice (h : Carries bs start part) : slice bs start part.length = part := by
  obtain ⟨front, back, rfl, rfl⟩ := h
  rw [Bytes.slice, List.drop_left, List.take_left]

theorem Carries.holds (h : Carries bs start part) : Holds bs start part.length := by
  obtain ⟨front, back, rfl, rfl⟩ := h
  simp only [Holds, List.length_append]
  omega

/-- What is read off the part is read where the part stands. -/
theorem Carries.read {α : Type} {r : Reader α} {a : α} (h : Carries bs start part)
    (hr : r.Takes part a) : ∃ rest, r.run (bs.drop start) = some (a, rest) := by
  obtain ⟨front, back, rfl, rfl⟩ := h
  exact ⟨back, by rw [List.drop_left]; exact hr back⟩

end Bytes

namespace Elf.Draft

theorem le_alignUp (n : Nat) : n ≤ alignUp n 8 := by
  rw [alignUp]
  omega

/-! ## Placing sections -/

/-- The bytes that a section takes up in the file. -/
def Planned.stored (p : Planned) : Bytes := if p.kind = SectionHeader.nobits then [] else p.bytes

theorem place_cons (cursor : Nat) (p : Planned) (rest : List Planned) :
    place cursor (p :: rest) =
      (alignUp cursor 8 :: (place (alignUp cursor 8 + p.stored.length) rest).1,
        (place (alignUp cursor 8 + p.stored.length) rest).2) := by
  have hstop : (if p.kind = SectionHeader.nobits then alignUp cursor 8
      else alignUp cursor 8 + p.bytes.length) = alignUp cursor 8 + p.stored.length := by
    rw [Planned.stored]
    split <;> rfl
  simp only [place, hstop]

theorem layOut_cons (cursor : Nat) (p : Planned) (start : Nat) (rest : List (Planned × Nat)) :
    layOut cursor ((p, start) :: rest) =
      Bytes.zeros (start - cursor) ++ p.stored ++ layOut (start + p.stored.length) rest :=
  rfl

@[simp] theorem length_place (cursor : Nat) (ps : List Planned) :
    (place cursor ps).1.length = ps.length := by
  induction ps generalizing cursor with
  | nil => rfl
  | cons p rest ih => rw [place_cons, List.length_cons, ih, List.length_cons]

/-- The first free byte after the sections is the one after their data. -/
theorem length_layOut (cursor : Nat) (ps : List Planned) :
    cursor + (layOut cursor (ps.zip (place cursor ps).1)).length = (place cursor ps).2 := by
  induction ps generalizing cursor with
  | nil => rfl
  | cons p rest ih =>
    have hle := le_alignUp cursor
    have hrest := ih (alignUp cursor 8 + p.stored.length)
    rw [place_cons, List.zip_cons_cons, layOut_cons]
    simp only [List.length_append, Bytes.zeros, List.length_replicate]
    omega

/-- Every section stands where it was placed. -/
theorem layOut_carries (ps : List Planned) (front : Bytes) :
    ∀ x ∈ ps.zip (place front.length ps).1,
      Bytes.Carries (front ++ layOut front.length (ps.zip (place front.length ps).1)) x.2
        x.1.stored := by
  induction ps generalizing front with
  | nil => intro x h; nomatch h
  | cons p rest ih =>
    intro x h
    have hle := le_alignUp front.length
    -- what is written by the time this section starts; with it, the front of the others
    let padded := front ++ Bytes.zeros (alignUp front.length 8 - front.length)
    have hpadded : padded.length = alignUp front.length 8 := by
      simp only [padded, List.length_append, Bytes.zeros, List.length_replicate]
      omega
    have hfull : (padded ++ p.stored).length = alignUp front.length 8 + p.stored.length := by
      rw [List.length_append, hpadded]
    have hrest := ih (padded ++ p.stored)
    rw [hfull] at hrest
    rw [place_cons, List.zip_cons_cons] at h ⊢
    rw [layOut_cons, ← List.append_assoc, ← List.append_assoc]
    rcases List.mem_cons.mp h with rfl | h
    · have := Bytes.carries_append padded p.stored
        (layOut (alignUp front.length 8 + p.stored.length)
          (rest.zip (place (alignUp front.length 8 + p.stored.length) rest).1))
      rwa [hpadded] at this
    · exact hrest x h

/-! ## The whole file -/

variable (d : Draft)

/-- Where the data starts. -/
def dataStart : Nat :=
  format.headerSize + if d.headersFirst then format.sectionEntrySize * d.plan.length else 0

/-- Where each section starts. -/
def starts : List Nat := 0 :: (place d.dataStart d.plan.tail).1

/-- Where the section header table starts. -/
def tableStart : Nat :=
  if d.headersFirst then format.headerSize else alignUp (place d.dataStart d.plan.tail).2 8

/-- The section headers, in order. -/
def headers : List SectionHeader :=
  ((d.plan.zip (nameOffsets d.sectionNames)).zip d.starts).zipIdx.map
    fun (((p, name), start), index) => sectionHeaderOf p name start (if index = 0 then 0 else 8)

/-- The file header. -/
def header : Header := d.headerOf d.tableStart d.plan.length d.planLeading.length

def data : Bytes := layOut d.dataStart (d.plan.tail.zip (place d.dataStart d.plan.tail).1)

def table : Bytes := d.headers.flatMap (·.encode format)

theorem encode_eq (hs : d.withSections = true) :
    d.encode =
      if d.headersFirst then d.header.encode ++ d.table ++ d.data
      else d.header.encode ++ d.data
        ++ Bytes.zeros (d.tableStart - (place d.dataStart d.plan.tail).2) ++ d.table := by
  simp only [encode, hs, Bool.not_true, Bool.false_eq_true, if_false, table, headers,
    List.flatMap_map]
  rfl

/-- The section names take part in the layout, not in the number of sections. -/
theorem length_sectionNames : d.sectionNames.length = d.plan.length := by
  simp only [sectionNames, plan, List.length_append, List.length_cons, List.length_map]

theorem plan_eq_cons : d.plan = plain "" 0 0 [] :: d.plan.tail := rfl

@[simp] theorem length_starts : d.starts.length = d.plan.length := by
  rw [starts, List.length_cons, length_place, plan_eq_cons, List.length_cons, List.tail_cons]

theorem length_headers : d.headers.length = d.plan.length := by
  simp only [headers, List.length_map, List.length_zipIdx, List.length_zip, length_nameOffsets,
    length_sectionNames, length_starts, Nat.min_self]

theorem length_header : d.header.encode.length = format.headerSize :=
  Header.length_encode rfl

theorem length_table : d.table.length = format.sectionEntrySize * d.plan.length := by
  rw [table, Bytes.length_flatMap (SectionHeader.length_encode rfl), length_headers]

variable {d}

theorem encode_front (hs : d.withSections = true) :
    ∃ rest, d.encode = d.header.encode ++ rest := by
  rw [encode_eq d hs]
  split
  · exact ⟨d.table ++ d.data, List.append_assoc _ _ _⟩
  · exact ⟨_, by rw [List.append_assoc, List.append_assoc]⟩

/-- The table follows the file header, or the data and what fills them up to a multiple of eight. -/
theorem encode_carries_table (hs : d.withSections = true) :
    Bytes.Carries d.encode d.tableStart d.table := by
  rw [encode_eq d hs, tableStart]
  split
  · have := Bytes.carries_append d.header.encode d.table d.data
    rwa [length_header] at this
  · next hfirst =>
    -- the data end where `place` says, and the filling ends where the table starts
    let front := d.header.encode ++ d.data
      ++ Bytes.zeros (d.tableStart - (place d.dataStart d.plan.tail).2)
    have hstart : d.tableStart = alignUp (place d.dataStart d.plan.tail).2 8 := by
      rw [tableStart, if_neg hfirst]
    have hle := le_alignUp (place d.dataStart d.plan.tail).2
    have hdata : d.dataStart + d.data.length = (place d.dataStart d.plan.tail).2 :=
      length_layOut d.dataStart d.plan.tail
    have hlength : front.length = d.tableStart := by
      have hheader : d.dataStart = format.headerSize := by
        rw [dataStart, if_neg hfirst, Nat.add_zero]
      simp only [front, List.length_append, length_header, Bytes.zeros, List.length_replicate]
      omega
    rw [← hstart]
    exact ⟨front, [], by rw [List.append_nil], hlength⟩

/-- The data follow the file header and, if it comes first, the table. -/
theorem encode_around_data (hs : d.withSections = true) :
    ∃ front back, d.encode = front ++ d.data ++ back ∧ front.length = d.dataStart := by
  rw [encode_eq d hs, dataStart]
  split
  · refine ⟨d.header.encode ++ d.table, [], by rw [List.append_nil], ?_⟩
    rw [List.length_append, length_header, length_table]
  · exact ⟨d.header.encode, _, by rw [List.append_assoc], length_header d⟩

/-- Every section's bytes stand where its header says. -/
theorem encode_carries_stored (hs : d.withSections = true) :
    ∀ x ∈ d.plan.zip d.starts, Bytes.Carries d.encode x.2 x.1.stored := by
  intro x h
  rw [plan_eq_cons, starts, List.zip_cons_cons] at h
  rcases List.mem_cons.mp h with rfl | h
  · exact ⟨[], d.encode, rfl, rfl⟩
  · obtain ⟨front, back, hencode, hfront⟩ := encode_around_data hs
    have hlaid := layOut_carries d.plan.tail front
    rw [hfront] at hlaid
    rw [hencode]
    exact (hlaid x h).append back

end Elf.Draft

end DeviceCode

import DeviceCode.Loader.Load
import DeviceCode.Proofs.Elf.Extension
import DeviceCode.Proofs.Elf.RoundTrip

/-!
# What the extent covers

An object takes up stretches of its file: the section header table, and a stretch for every section.
`Object.extent` looks at one of them only, the one that starts last and, of several that start
there, the first, the table counting before all sections. It is the end of that stretch
(`Object.extent_eq`), so it covers the object exactly when no other stretch reaches further
(`Object.extent_covers_iff`).

Nothing reaches further in an object whose stretches lie apart, except where several start last: a
section that takes no room in the file and one with data after it start at the same offset, and the
data are then left out (`Draft.roomThenData_short`).
-/

namespace DeviceCode.Elf

/-- A stretch of a file. -/
structure Stretch where
  start : Nat
  stop : Nat
  deriving DecidableEq, Repr

/-- The stretch of the file that a section takes up; an empty one when it has no file data. -/
def SectionHeader.stretch (s : SectionHeader) : Stretch where
  start := s.offset.toNat
  stop := if s.hasFileData then saturatingAdd s.offset.toNat s.size.toNat else s.offset.toNat

/-- `p` starts last in a list of stretches, and before all others that do. -/
def Stretch.StartsLast (p : Stretch) (ss : List Stretch) : Prop :=
  ∃ front back, ss = front ++ p :: back ∧ (∀ q ∈ front, q.start < p.start) ∧
    ∀ q ∈ back, q.start ≤ p.start

namespace Stretch

variable {p q : Stretch} {ss : List Stretch}

theorem StartsLast.mem (h : p.StartsLast ss) : p ∈ ss := by
  obtain ⟨front, back, rfl, -, -⟩ := h
  exact List.mem_append_right _ List.mem_cons_self

theorem StartsLast.le (h : p.StartsLast ss) (hq : q ∈ ss) : q.start ≤ p.start := by
  obtain ⟨front, back, rfl, hfront, hback⟩ := h
  rcases List.mem_append.mp hq with hq | hq
  · exact Nat.le_of_lt (hfront q hq)
  · rcases List.mem_cons.mp hq with rfl | hq
    · exact Nat.le_refl _
    · exact hback q hq

/-- Only one stretch starts last and stands before the others that do. -/
theorem StartsLast.unique (hp : p.StartsLast ss) (hq : q.StartsLast ss) : p = q := by
  have hpq := hp.le hq.mem
  have hqp := hq.le hp.mem
  obtain ⟨front, back, rfl, hfront, -⟩ := hp
  obtain ⟨front', back', heq, hfront', -⟩ := hq
  -- both start at the same offset, so neither can stand in front of the other
  induction front generalizing front' with
  | nil =>
    cases front' with
    | nil => exact (List.cons.inj heq).1
    | cons x front' =>
      obtain ⟨rfl, -⟩ := List.cons.inj heq
      have hlt := hfront' p List.mem_cons_self
      omega
  | cons x front ih =>
    cases front' with
    | nil =>
      obtain ⟨rfl, -⟩ := List.cons.inj heq
      have hlt := hfront x List.mem_cons_self
      omega
    | cons y front' =>
      obtain ⟨-, htail⟩ := List.cons.inj heq
      exact ih (fun a ha => hfront a (List.mem_cons_of_mem _ ha)) front' htail
        fun a ha => hfront' a (List.mem_cons_of_mem _ ha)

end Stretch

namespace Object

variable (o : Object)

/-- The stretch of the section header table. -/
def tableStretch : Stretch where
  start := o.header.sectionOffset.toNat
  stop := saturatingAdd o.header.sectionOffset.toNat
    (o.header.sectionEntrySize.toNat * o.header.sectionCount.toNat)

/-- All that an object takes up: the section header table, then the sections in order. -/
def stretches : List Stretch := o.tableStretch :: o.sections.map SectionHeader.stretch

/-- The extent reaches the end of the section header table and of all sections with file data. -/
structure Covered : Prop where
  table : saturatingAdd o.header.sectionOffset.toNat
    (o.header.sectionEntrySize.toNat * o.header.sectionCount.toNat) ≤ o.extent
  sections : ∀ s ∈ o.sections, s.hasFileData = true →
    saturatingAdd s.offset.toNat s.size.toNat ≤ o.extent

instance : Decidable o.Covered :=
  decidable_of_iff (saturatingAdd o.header.sectionOffset.toNat
      (o.header.sectionEntrySize.toNat * o.header.sectionCount.toNat) ≤ o.extent ∧
    ∀ s ∈ o.sections, s.hasFileData = true →
      saturatingAdd s.offset.toNat s.size.toNat ≤ o.extent)
    ⟨fun h => ⟨h.1, h.2⟩, fun h => ⟨h.table, h.sections⟩⟩

/-- Going over the sections keeps the stretch that starts last so far. -/
theorem foldl_extendOver (p : Stretch) (ss : List SectionHeader) :
    ∃ q : Stretch, q.StartsLast (p :: ss.map SectionHeader.stretch) ∧
      ss.foldl extendOver (p.start, p.stop) = (q.start, q.stop) := by
  induction ss generalizing p with
  | nil =>
    exact ⟨p, ⟨[], [], rfl, fun q hq => absurd hq List.not_mem_nil,
      fun q hq => absurd hq List.not_mem_nil⟩, rfl⟩
  | cons s ss ih =>
    by_cases hlater : s.stretch.start > p.start
    · -- the section takes over
      have hstep : extendOver (p.start, p.stop) s = (s.stretch.start, s.stretch.stop) :=
        if_pos hlater
      obtain ⟨q, hq, hfold⟩ := ih s.stretch
      have hle := hq.le List.mem_cons_self
      obtain ⟨front, back, heq, hfront, hback⟩ := hq
      refine ⟨q, ⟨p :: front, back, ?_, ?_, hback⟩, ?_⟩
      · rw [List.map_cons, heq, List.cons_append]
      · intro x hx
        rcases List.mem_cons.mp hx with rfl | hx
        · omega
        · exact hfront x hx
      · rw [List.foldl_cons, hstep, hfold]
    · have hstep : extendOver (p.start, p.stop) s = (p.start, p.stop) := if_neg hlater
      obtain ⟨q, ⟨front, back, heq, hfront, hback⟩, hfold⟩ := ih p
      have hrun : (s :: ss).foldl extendOver (p.start, p.stop) = (q.start, q.stop) := by
        rw [List.foldl_cons, hstep, hfold]
      cases front with
      | nil =>
        -- `p` still starts last
        obtain ⟨rfl, rfl⟩ := List.cons.inj heq
        refine ⟨p, ⟨[], s.stretch :: ss.map SectionHeader.stretch, rfl, hfront, ?_⟩, hrun⟩
        intro x hx
        rcases List.mem_cons.mp hx with rfl | hx
        · omega
        · exact hback x hx
      | cons x front =>
        obtain ⟨rfl, htail⟩ := List.cons.inj heq
        refine ⟨q, ⟨p :: s.stretch :: front, back, ?_, ?_, hback⟩, hrun⟩
        · rw [List.map_cons, htail]
          rfl
        · intro x hx
          have hp := hfront p List.mem_cons_self
          rcases List.mem_cons.mp hx with rfl | hx
          · exact hp
          · rcases List.mem_cons.mp hx with rfl | hx
            · omega
            · exact hfront x (List.mem_cons_of_mem _ hx)

/-- **The extent is the end of the stretch that starts last.** -/
theorem extent_eq : ∃ p : Stretch, p.StartsLast o.stretches ∧ o.extent = p.stop := by
  obtain ⟨p, hp, hfold⟩ := foldl_extendOver o.tableStretch o.sections
  exact ⟨p, hp, congrArg Prod.snd hfold⟩

theorem parse_bytes {bs : Bytes} {o : Object} (h : parse bs = .ok o) : o.bytes = bs := by
  obtain ⟨header, sections, -, -, -, -, rfl⟩ := parse_ok_iff.mp h
  rfl

/-- The part of an image that a load copies is all of it up to the extent. -/
theorem objectBytes_ok_iff {image : Bytes} : Loader.objectBytes o = .ok image ↔
    o.extent ≤ o.bytes.length ∧ o.extent ≠ 0 ∧ image = o.bytes.take o.extent := by
  unfold Loader.objectBytes
  split
  · next hshort => exact ⟨fun h => (nomatch h), fun h => absurd h.1 (Nat.not_le.mpr hshort)⟩
  next hlong =>
  split
  · next hzero => exact ⟨fun h => (nomatch h), fun h => absurd hzero h.2.1⟩
  next hpos =>
  constructor
  · intro h
    cases h
    exact ⟨Nat.not_lt.mp hlong, hpos, rfl⟩
  · rintro ⟨-, -, rfl⟩
    rfl

/-- No stretch of an object ends before it starts, nor past the largest 64-bit number. -/
theorem bounds_of_mem {q : Stretch} (h : q ∈ o.stretches) :
    q.start ≤ q.stop ∧ q.stop ≤ maxWord := by
  have hword (n : UInt64) : n.toNat ≤ maxWord := Nat.le_pred_of_lt n.toNat_lt
  have hsum (n : UInt64) (size : Nat) :
      n.toNat ≤ saturatingAdd n.toNat size ∧ saturatingAdd n.toNat size ≤ maxWord := by
    have hn := hword n
    unfold saturatingAdd
    omega
  rcases List.mem_cons.mp h with rfl | h
  · exact hsum _ _
  · obtain ⟨s, -, rfl⟩ := List.mem_map.mp h
    unfold SectionHeader.stretch
    split
    · exact hsum _ _
    · exact ⟨Nat.le_refl _, hword _⟩

/-- Covering the object is reaching the end of all its stretches. -/
theorem covered_iff_stop_le : o.Covered ↔ ∀ q ∈ o.stretches, q.stop ≤ o.extent := by
  constructor
  · intro h q hq
    rcases List.mem_cons.mp hq with rfl | hq'
    · exact h.table
    · obtain ⟨s, hs, rfl⟩ := List.mem_map.mp hq'
      by_cases hdata : s.hasFileData = true
      · have hstop : s.stretch.stop = saturatingAdd s.offset.toNat s.size.toNat := if_pos hdata
        rw [hstop]
        exact h.sections s hs hdata
      · -- a section without file data ends where it starts, which is not after the last start
        have hstop : s.stretch.stop = s.stretch.start := if_neg hdata
        obtain ⟨p, hp, hextent⟩ := o.extent_eq
        have hle := hp.le hq
        have hbounds := o.bounds_of_mem hp.mem
        omega
  · intro h
    refine ⟨h _ List.mem_cons_self, fun s hs hdata => ?_⟩
    have hstop : s.stretch.stop = saturatingAdd s.offset.toNat s.size.toNat := if_pos hdata
    rw [← hstop]
    exact h _ (List.mem_cons_of_mem _ (List.mem_map_of_mem hs))

/-- **When the extent covers the object.** It does exactly when the stretch that starts last, of
several the first, reaches as far as all others. The part of an image that a load copies then holds
the bytes of every section that the image holds. -/
theorem extent_covers_iff (bytes : Bytes) (o : Object) (h : parse bytes = .ok o) :
    (o.Covered ↔ ∀ p : Stretch, p.StartsLast o.stretches →
      ∀ q ∈ o.stretches, q.stop ≤ p.stop) ∧
    (o.Covered → bytes.length ≤ maxWord → ∀ image, Loader.objectBytes o = .ok image →
      ∀ s ∈ o.sections, s.hasFileData = true →
        Bytes.Holds bytes s.offset.toNat s.size.toNat →
        Bytes.slice image s.offset.toNat s.size.toNat =
          Bytes.slice bytes s.offset.toNat s.size.toNat) := by
  obtain ⟨last, hlast, hextent⟩ := o.extent_eq
  refine ⟨?_, ?_⟩
  · rw [covered_iff_stop_le, hextent]
    constructor
    · intro hall p hp q hq
      rw [hp.unique hlast]
      exact hall q hq
    · intro hall
      exact hall last hlast
  · intro hcovered hlength image himage s hs hdata hholds
    have hend : s.offset.toNat + s.size.toNat ≤ o.extent := by
      have hsection := hcovered.sections s hs hdata
      unfold saturatingAdd at hsection
      unfold Bytes.Holds at hholds
      omega
    have hcopy : image = bytes.take o.extent := by
      rw [← parse_bytes h]
      exact (o.objectBytes_ok_iff.mp himage).2.2
    rw [hcopy]
    unfold Bytes.slice
    rw [List.drop_take, List.take_take]
    congr 1
    omega

/-- A section header table in front, a section without file data, and an empty one right after it
that starts last as well. -/
theorem extent_covers_iff_crowded :
    let d := Draft.crowded
    Object.parse d.encode = .ok d.object ∧ d.object.Covered ∧ d.encode.length ≤ maxWord ∧
      ∀ image, Loader.objectBytes d.object = .ok image →
        ∀ s ∈ d.object.sections, s.hasFileData = true →
          Bytes.Holds d.encode s.offset.toNat s.size.toNat →
          Bytes.slice image s.offset.toNat s.size.toNat =
            Bytes.slice d.encode s.offset.toNat s.size.toNat := by
  intro d
  have hparse : parse d.encode = .ok d.object := by decide +kernel
  have hcovered : d.object.Covered := by decide +kernel
  have hlength : d.encode.length ≤ maxWord := by decide +kernel
  exact ⟨hparse, hcovered, hlength, (extent_covers_iff d.encode d.object hparse).2 hcovered hlength⟩

end Object

/-- Room and data right after it, with the section header table in front. -/
def Draft.roomThenData : Draft where
  headersFirst := true
  text := [0x90]
  extras := [.room ".bss" 4096, .data ".data" [1, 2, 3, 4, 5, 6, 7, 8]]

/-- Both extra sections start last and the room stands first, so the extent stops short of the
data. -/
theorem Draft.roomThenData_short :
    Object.parse roomThenData.encode = .ok roomThenData.object ∧
      roomThenData.object.extent + 8 = roomThenData.encode.length ∧
      ¬ roomThenData.object.Covered := by
  decide +kernel

end DeviceCode.Elf

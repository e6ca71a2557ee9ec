import Mathlib
import DeviceCode.Kernel.Packet
import DeviceCode.Proofs.Elf.Records
import DeviceCode.Proofs.Submission

/-!
# Where the fields of a packet lie

A packet is laid out without gaps: reading one number after the other from the offset where the last
one ended gives its fields back, and a byte string in which these reads give the fields of a packet
is the packet's own. Both directions are one induction over the list of fields, each with its width
(`Bytes.spells_iff`).

Inside the header the fields are ranges of bits. Ranges that have no bit in common can be filled
independently of each other: what is taken out of one of them is what was put there, whatever the
others hold (`BitField.extract_compose`).
-/

namespace DeviceCode

/-! ## Numbers one after the other -/

namespace Bytes

/-- The number of `width` bytes at `offset`, least significant first. -/
def littleAt (bs : Bytes) (offset width : Nat) : Nat := toNat .little (slice bs offset width)

/-- From `offset` to their end, the bytes spell these numbers, each given with its width. -/
def Spells (bs : Bytes) (offset : Nat) : List (Nat × Nat) → Prop
  | [] => bs.length = offset
  | (width, n) :: fields => littleAt bs offset width = n ∧ Spells bs (offset + width) fields

theorem ofNatLE_toNatLE (bs : Bytes) : ofNatLE bs.length (toNatLE bs) = bs := by
  induction bs with
  | nil => rfl
  | cons b bs ih =>
    have hb : b.toNat < 256 := b.toNat_lt
    have hlow : (b.toNat + 256 * toNatLE bs) % 256 = b.toNat := by omega
    have hhigh : (b.toNat + 256 * toNatLE bs) / 256 = toNatLE bs := by omega
    rw [List.length_cons, toNatLE, ofNatLE, hlow, hhigh, ih, UInt8.ofNat_toNat]

/-- Bytes that spell numbers do not end before the last of them. -/
theorem Spells.length {bs : Bytes} {fields : List (Nat × Nat)} {offset : Nat}
    (h : Spells bs offset fields) : bs.length = offset + (fields.map Prod.fst).sum := by
  induction fields generalizing offset with
  | nil => exact h
  | cons field fields ih =>
    have := ih h.2
    simp only [List.map_cons, List.sum_cons]
    omega

theorem drop_eq_slice_append (bs : Bytes) (offset width : Nat) :
    bs.drop offset = slice bs offset width ++ bs.drop (offset + width) := by
  rw [slice, ← List.drop_drop, List.take_append_drop]

/-- **Bytes that spell numbers are made of them**: the reads at these places give the numbers
exactly when the bytes from there on are the numbers written one after the other. -/
theorem spells_iff {bs : Bytes} {fields : List (Nat × Nat)} {offset : Nat}
    (hfits : ∀ field ∈ fields, field.2 < 256 ^ field.1) (hoffset : offset ≤ bs.length) :
    Spells bs offset fields ↔
      bs.drop offset = fields.flatMap fun field => ofNat .little field.1 field.2 := by
  induction fields generalizing offset with
  | nil =>
    simp only [Spells, List.flatMap_nil, List.drop_eq_nil_iff]
    omega
  | cons field fields ih =>
    obtain ⟨width, n⟩ := field
    have hn : n < 256 ^ width := hfits _ List.mem_cons_self
    have hrest : ∀ field ∈ fields, field.2 < 256 ^ field.1 :=
      fun field hmem => hfits field (List.mem_cons_of_mem _ hmem)
    rw [List.flatMap_cons, drop_eq_slice_append bs offset width]
    constructor
    · intro h
      have hlength := Spells.length h
      simp only [List.map_cons, List.sum_cons] at hlength
      have hin : offset + width ≤ bs.length := by omega
      have hslice : slice bs offset width = ofNat .little width n := by
        have hread : toNatLE (slice bs offset width) = n := h.1
        have hback := ofNatLE_toNatLE (slice bs offset width)
        rw [length_slice hin, hread] at hback
        exact hback.symm
      rw [hslice, (ih hrest hin).mp h.2]
    · intro h
      have hwidth : (slice bs offset width).length = width := by
        have htake : bs.drop offset = _ := (drop_eq_slice_append bs offset width).trans h
        have hlong : width ≤ (bs.drop offset).length := by
          rw [htake, List.length_append, length_ofNat]
          omega
        rw [slice, List.length_take]
        omega
      obtain ⟨hslice, hdrop⟩ := List.append_inj h (hwidth.trans (length_ofNat .little width n).symm)
      have hin : offset + width ≤ bs.length := by
        rw [slice, List.length_take, List.length_drop] at hwidth
        omega
      refine ⟨?_, (ih hrest hin).mpr hdrop⟩
      rw [littleAt, hslice, toNat_ofNat, Nat.mod_eq_of_lt hn]

end Bytes

/-! ## Fields inside a number -/

/-- A range of the bits of a number. -/
structure BitField where
  shift : Nat
  width : Nat
  deriving DecidableEq, Repr

namespace BitField

/-- The bits of a field, in place. -/
def mask (f : BitField) : Nat := (2 ^ f.width - 1) <<< f.shift

/-- Take a field out of a number. -/
def extract (f : BitField) (n : Nat) : Nat := (n >>> f.shift) &&& (2 ^ f.width - 1)

/-- Two fields that share no bit. -/
def Apart (f g : BitField) : Prop :=
  f.shift + f.width ≤ g.shift ∨ g.shift + g.width ≤ f.shift

instance (f g : BitField) : Decidable (f.Apart g) :=
  inferInstanceAs (Decidable (_ ∨ _))

/-- The number in which each of these fields has the given value. -/
def compose : List (BitField × Nat) → Nat
  | [] => 0
  | (f, v) :: parts => v <<< f.shift ||| compose parts

theorem testBit_mask (f : BitField) (i : Nat) :
    f.mask.testBit i = (decide (f.shift ≤ i) && decide (i < f.shift + f.width)) := by
  rw [mask, Nat.testBit_shiftLeft, Nat.testBit_two_pow_sub_one, Bool.eq_iff_iff]
  simp only [Bool.and_eq_true, decide_eq_true_eq]
  omega

theorem testBit_extract (f : BitField) (n i : Nat) :
    (f.extract n).testBit i = (n.testBit (f.shift + i) && decide (i < f.width)) := by
  rw [extract, Nat.testBit_and, Nat.testBit_shiftRight, Nat.testBit_two_pow_sub_one]

theorem Apart.mask_disjoint {f g : BitField} (h : f.Apart g) : f.mask &&& g.mask = 0 := by
  apply Nat.eq_of_testBit_eq
  intro i
  rw [Nat.testBit_and, testBit_mask, testBit_mask, Nat.zero_testBit, Bool.eq_false_iff]
  unfold Apart at h
  simp only [Bool.and_eq_true, decide_eq_true_eq, ne_eq]
  omega

theorem extract_or (f : BitField) (m n : Nat) :
    f.extract (m ||| n) = f.extract m ||| f.extract n := by
  apply Nat.eq_of_testBit_eq
  intro i
  simp only [Nat.testBit_or, testBit_extract, Bool.and_or_distrib_right]

/-- A field holds what was put into it. -/
theorem extract_place (f : BitField) {v : Nat} (hv : v < 2 ^ f.width) :
    f.extract (v <<< f.shift) = v := by
  rw [extract, Nat.shiftLeft_shiftRight, Nat.and_two_pow_sub_one_eq_mod, Nat.mod_eq_of_lt hv]

/-- Nothing of it shows in a field that is apart. -/
theorem extract_place_apart {f g : BitField} (h : f.Apart g) {v : Nat} (hv : v < 2 ^ g.width) :
    f.extract (v <<< g.shift) = 0 := by
  apply Nat.eq_of_testBit_eq
  intro i
  unfold Apart at h
  rw [testBit_extract, Nat.testBit_shiftLeft, Nat.zero_testBit, Bool.eq_false_iff]
  intro hbit
  simp only [Bool.and_eq_true, decide_eq_true_eq] at hbit
  have hhigh : v.testBit (f.shift + i - g.shift) = false :=
    Nat.testBit_lt_two_pow (hv.trans_le (Nat.pow_le_pow_right (by omega) (by omega)))
  rw [hhigh] at hbit
  exact absurd hbit.1.2 Bool.false_ne_true

/-- A field that is apart from all that were filled is empty. -/
theorem extract_compose_apart {f : BitField} {parts : List (BitField × Nat)}
    (hfits : ∀ part ∈ parts, part.2 < 2 ^ part.1.width) (h : ∀ part ∈ parts, f.Apart part.1) :
    f.extract (compose parts) = 0 := by
  induction parts with
  | nil => simp [compose, extract]
  | cons part parts ih =>
    obtain ⟨hhead, htail⟩ := List.forall_mem_cons.mp h
    obtain ⟨hhead', htail'⟩ := List.forall_mem_cons.mp hfits
    rw [compose, extract_or, extract_place_apart hhead hhead', ih htail' htail, Nat.or_zero]

/-- **Fields that are apart do not disturb each other**: each of them holds what was put into it,
whatever the others were filled with. -/
theorem extract_compose {parts : List (BitField × Nat)}
    (hfits : ∀ part ∈ parts, part.2 < 2 ^ part.1.width)
    (hapart : parts.Pairwise fun a b => a.1.Apart b.1) :
    ∀ part ∈ parts, part.1.extract (compose parts) = part.2 := by
  induction parts with
  | nil => simp
  | cons first parts ih =>
    obtain ⟨hfirst, hothers⟩ := List.pairwise_cons.mp hapart
    obtain ⟨hfit, hfits'⟩ := List.forall_mem_cons.mp hfits
    intro part hmem
    rw [compose, extract_or]
    cases hmem with
    | head =>
      rw [extract_place _ hfit, extract_compose_apart hfits' hfirst, Nat.or_zero]
    | tail _ hmem =>
      have hsymm : part.1.Apart first.1 := (hfirst part hmem).symm
      rw [extract_place_apart hsymm hfit, ih hfits' hothers part hmem, Nat.zero_or]

end BitField

namespace Packet

/-! ## The fields of a packet -/

/-- The fields in the order in which they are written, each with its width in bytes. -/
def fields (p : Packet) : List (Nat × Nat) :=
  [(2, p.header.toNat), (2, p.setup.toNat), (2, p.workgroupX.toNat), (2, p.workgroupY.toNat),
    (2, p.workgroupZ.toNat), (2, p.reserved0.toNat), (4, p.gridX.toNat), (4, p.gridY.toNat),
    (4, p.gridZ.toNat), (4, p.privateSize.toNat), (4, p.groupSize.toNat),
    (8, p.kernelObject.toNat), (8, p.argumentAddress.toNat), (8, p.reserved2.toNat),
    (8, p.completionSignal.toNat)]

theorem bytes_eq_fields (p : Packet) :
    p.bytes = p.fields.flatMap fun field => Bytes.ofNat .little field.1 field.2 := by
  simp only [bytes, fields, Bytes.ofHalf, Bytes.ofFull, Bytes.ofLong, List.flatMap_cons,
    List.flatMap_nil, List.append_assoc, List.append_nil]

theorem fields_fit (p : Packet) : ∀ field ∈ p.fields, field.2 < 256 ^ field.1 := by
  simp only [fields, List.forall_mem_cons, List.not_mem_nil, false_imp_iff, implies_true, and_true]
  exact ⟨p.header.toNat_lt, p.setup.toNat_lt, p.workgroupX.toNat_lt, p.workgroupY.toNat_lt,
    p.workgroupZ.toNat_lt, p.reserved0.toNat_lt, p.gridX.toNat_lt, p.gridY.toNat_lt,
    p.gridZ.toNat_lt, p.privateSize.toNat_lt, p.groupSize.toNat_lt, p.kernelObject.toNat_lt,
    p.argumentAddress.toNat_lt, p.reserved2.toNat_lt, p.completionSignal.toNat_lt⟩

/-- 64 bytes in which the reads at the hardware's offsets give the fields of the packet. -/
structure LaidOut (p : Packet) (bs : Bytes) : Prop where
  length : bs.length = 64
  header : bs.littleAt 0 2 = p.header.toNat
  setup : bs.littleAt 2 2 = p.setup.toNat
  workgroupX : bs.littleAt 4 2 = p.workgroupX.toNat
  workgroupY : bs.littleAt 6 2 = p.workgroupY.toNat
  workgroupZ : bs.littleAt 8 2 = p.workgroupZ.toNat
  reserved0 : bs.littleAt 10 2 = p.reserved0.toNat
  gridX : bs.littleAt 12 4 = p.gridX.toNat
  gridY : bs.littleAt 16 4 = p.gridY.toNat
  gridZ : bs.littleAt 20 4 = p.gridZ.toNat
  privateSize : bs.littleAt 24 4 = p.privateSize.toNat
  groupSize : bs.littleAt 28 4 = p.groupSize.toNat
  kernelObject : bs.littleAt 32 8 = p.kernelObject.toNat
  argumentAddress : bs.littleAt 40 8 = p.argumentAddress.toNat
  reserved2 : bs.littleAt 48 8 = p.reserved2.toNat
  completionSignal : bs.littleAt 56 8 = p.completionSignal.toNat

theorem laidOut_iff_spells {p : Packet} {bs : Bytes} : p.LaidOut bs ↔ bs.Spells 0 p.fields := by
  constructor
  · intro h
    exact ⟨h.header, h.setup, h.workgroupX, h.workgroupY, h.workgroupZ, h.reserved0, h.gridX,
      h.gridY, h.gridZ, h.privateSize, h.groupSize, h.kernelObject, h.argumentAddress, h.reserved2,
      h.completionSignal, h.length⟩
  · intro h
    obtain ⟨h1, h2, h3, h4, h5, h6, h7, h8, h9, h10, h11, h12, h13, h14, h15, hlength⟩ := h
    exact ⟨hlength, h1, h2, h3, h4, h5, h6, h7, h8, h9, h10, h11, h12, h13, h14, h15⟩

/-- The bytes of a packet, and no others, are laid out as it is. -/
theorem laidOut_iff {p : Packet} {bs : Bytes} : p.LaidOut bs ↔ bs = p.bytes := by
  rw [laidOut_iff_spells, Bytes.spells_iff p.fields_fit (Nat.zero_le _), List.drop_zero,
    bytes_eq_fields]

open Reader in
/-- Decoding takes a packet off its bytes. -/
theorem read_takes (p : Packet) : read.Takes p.bytes p := by
  have half := half_takes .little
  have full := full_takes .little
  have long := long_takes .little
  simp only [bytes, List.flatMap_cons, List.flatMap_nil, List.append_assoc, List.append_nil]
  exact (half p.header).bind <| (half p.setup).bind <| (half p.workgroupX).bind <|
    (half p.workgroupY).bind <| (half p.workgroupZ).bind <| (half p.reserved0).bind <|
    (full p.gridX).bind <| (full p.gridY).bind <| (full p.gridZ).bind <|
    (full p.privateSize).bind <| (full p.groupSize).bind <| (long p.kernelObject).bind <|
    (long p.argumentAddress).bind <| (long p.reserved2).bind <| (long p.completionSignal).last _

theorem read_bytes (p : Packet) : read.run p.bytes = some (p, []) := by
  have h := p.read_takes []
  rwa [List.append_nil] at h

theorem bytes_injective : Function.Injective bytes := by
  intro p q h
  have hread := p.read_bytes
  rw [h, read_bytes] at hread
  cases hread
  rfl

/-! ## The fields of a header -/

def typeField : BitField := ⟨0, 8⟩

def barrierField : BitField := ⟨8, 1⟩

def acquireField : BitField := ⟨9, 2⟩

def releaseField : BitField := ⟨11, 2⟩

/-- Where the number of dimensions stands in the setup. -/
def dimensionsField : BitField := ⟨0, 2⟩

/-- What the accessors of a packet answer is what its bytes hold at these fields. -/
structure Accessed (p : Packet) (bs : Bytes) : Prop where
  type : typeField.extract (bs.littleAt 0 2) = p.type.toNat
  barrier : barrierField.extract (bs.littleAt 0 2) = p.hasBarrier.toNat
  acquire : acquireField.extract (bs.littleAt 0 2) = p.acquireScope.toNat
  release : releaseField.extract (bs.littleAt 0 2) = p.releaseScope.toNat
  dimensions : dimensionsField.extract (bs.littleAt 2 2) = p.dimensions.toNat

theorem LaidOut.accessed {p : Packet} {bs : Bytes} (h : p.LaidOut bs) : p.Accessed bs where
  type := by
    rw [h.header, type, UInt16.toNat_and]
    rfl
  barrier := by
    have hbit : barrierField.extract p.header.toNat = ((p.header >>> 8) &&& 1).toNat := by
      rw [UInt16.toNat_and, UInt16.toNat_shiftRight]
      rfl
    have htwo : ((p.header >>> 8) &&& 1).toNat < 2 := by
      rw [UInt16.toNat_and]
      exact Nat.and_lt_two_pow _ (n := 1) (by decide)
    rw [h.header, hbit, hasBarrier]
    by_cases hone : (p.header >>> 8) &&& 1 = 1
    · rw [hone]
      rfl
    · have hne : ((p.header >>> 8) &&& 1).toNat ≠ 1 := fun h1 => hone (UInt16.toNat_inj.mp h1)
      rw [beq_eq_false_iff_ne.mpr hone, Bool.toNat_false]
      omega
  acquire := by
    rw [h.header, acquireScope, UInt16.toNat_and, UInt16.toNat_shiftRight]
    rfl
  release := by
    rw [h.header, releaseScope, UInt16.toNat_and, UInt16.toNat_shiftRight]
    rfl
  dimensions := by
    rw [h.setup, dimensions, UInt16.toNat_and]
    rfl

/-- What the header of a launch is filled with. -/
def headerParts (mode : FlushMode) : List (BitField × Nat) :=
  [(typeField, kernelDispatch.toNat), (barrierField, 1), (acquireField, mode.scope.toNat),
    (releaseField, mode.scope.toNat)]

theorem headerFor_eq_compose (mode : FlushMode) :
    (headerFor mode).toNat = BitField.compose (headerParts mode) := by
  cases mode <;> rfl

theorem headerParts_fit (mode : FlushMode) :
    ∀ part ∈ headerParts mode, part.2 < 2 ^ part.1.width := by
  cases mode <;> decide

theorem headerParts_apart (mode : FlushMode) :
    (headerParts mode).Pairwise fun a b => a.1.Apart b.1 := by
  cases mode <;> decide

/-- The bytes of a launch as a consumer takes them apart by shift and mask: in each field is what
was put there, no two of them share a bit, and there is nothing else in the header. -/
structure Marked (bs : Bytes) (mode : FlushMode) : Prop where
  type : typeField.extract (bs.littleAt 0 2) = kernelDispatch.toNat
  barrier : barrierField.extract (bs.littleAt 0 2) = 1
  acquire : acquireField.extract (bs.littleAt 0 2) = mode.scope.toNat
  release : releaseField.extract (bs.littleAt 0 2) = mode.scope.toNat
  dimensions : dimensionsField.extract (bs.littleAt 2 2) = 3
  apart : (headerParts mode).Pairwise fun a b => a.1.mask &&& b.1.mask = 0
  header : bs.littleAt 0 2 = BitField.compose (headerParts mode)

theorem LaidOut.marked {p : Packet} {bs : Bytes} {f : KernelFunction} {grid block : Dim3}
    {dynamicShared : Nat} {mode : FlushMode} (h : p.LaidOut bs)
    (hp : forKernel f grid block dynamicShared mode = .ok p) : Marked bs mode := by
  obtain ⟨_, _, _, _, -, -, -, -, rfl⟩ := forKernel_ok_iff (g := ⟨grid, block, dynamicShared⟩).mp hp
  have hheader : bs.littleAt 0 2 = BitField.compose (headerParts mode) :=
    h.header.trans (headerFor_eq_compose mode)
  have hextract := BitField.extract_compose (headerParts_fit mode) (headerParts_apart mode)
  rw [← hheader] at hextract
  exact {
    type := hextract (typeField, _) (by simp [headerParts])
    barrier := hextract (barrierField, _) (by simp [headerParts])
    acquire := hextract (acquireField, _) (by simp [headerParts])
    release := hextract (releaseField, _) (by simp [headerParts])
    dimensions := by
      rw [h.setup]
      show dimensionsField.extract (3 : UInt16).toNat = 3
      decide
    apart := (headerParts_apart mode).imp BitField.Apart.mask_disjoint
    header := hheader }

/-- **The bytes of a packet follow the layout and lose nothing.** The 64 bytes in which the reads at
the hardware's offsets give the fields of a packet are its own, decoding them gives the packet back,
and no other packet has the same. What a consumer takes out of them by shift and mask is what the
accessors answer, and for a launch it is what the launch put in. -/
theorem bytes_follow_layout (p : Packet) :
    (∀ bs, p.LaidOut bs ↔ bs = p.bytes) ∧ read.run p.bytes = some (p, []) ∧
      (∀ q : Packet, q.bytes = p.bytes → q = p) ∧ p.Accessed p.bytes ∧
      ∀ (f : KernelFunction) (grid block : Dim3) (dynamicShared : Nat) (mode : FlushMode),
        forKernel f grid block dynamicShared mode = .ok p → Marked p.bytes mode := by
  have hlaid : p.LaidOut p.bytes := laidOut_iff.mpr rfl
  refine ⟨fun bs => laidOut_iff, p.read_bytes, fun q h => bytes_injective h, hlaid.accessed, ?_⟩
  intro f grid block dynamicShared mode hp
  exact hlaid.marked hp

/-- A launch whose fences reach one accelerator. -/
theorem bytes_follow_layout_agent :
    let p : Packet := {
      header := 0xb02, setup := 3, workgroupX := 64, workgroupY := 1, workgroupZ := 1
      gridX := 256, gridY := 1, gridZ := 1, privateSize := 8, groupSize := 48
      kernelObject := 0x4000 }
    forKernel ⟨"scale", 0x4000, 16, 8, 16⟩ ⟨256, 1, 1⟩ ⟨64, 1, 1⟩ 32 .agent = .ok p ∧
      Marked p.bytes .agent := by
  intro p
  have hp : forKernel ⟨"scale", 0x4000, 16, 8, 16⟩ ⟨256, 1, 1⟩ ⟨64, 1, 1⟩ 32 .agent = .ok p := rfl
  exact ⟨hp, (bytes_follow_layout p).2.2.2.2 _ _ _ _ _ hp⟩

end Packet

end DeviceCode

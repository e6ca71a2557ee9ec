import Mathlib
import DeviceCode.Proofs.Kernel.Packing

/-!
# Layouts are computed exactly

In the natural layout of parameters each one lies at the first multiple of its alignment from the end
of the one before it, and the buffer ends at the first multiple of the largest alignment from the end
of the last one. `ArgLayout.Natural` says so parameter by parameter, in unbounded numbers, and
`ArgLayout.Lies` says the same along the list, in the shape of the recursion that computes it.

The computation has 64 bits for the search and adds `align - 1` before it rounds down, so it could
stop too early at the top of the range. It does not: alignments are powers of two, they divide
`2 ^ 64`, and a multiple below `2 ^ 64` leaves room for a whole alignment
(`alignUp_le_maxWord_iff`).
-/

namespace DeviceCode

/-! ## The first multiple -/

theorem isLeast_alignUp (n : Nat) {align : Nat} (h : 0 < align) :
    IsLeast {x | align ∣ x ∧ n ≤ x} (alignUp n align) := by
  refine ⟨⟨Nat.dvd_mul_left _ _, ?_⟩, ?_⟩
  · have hdiv := Nat.div_add_mod (n + align - 1) align
    have hmod := Nat.mod_lt (n + align - 1) h
    rw [Nat.mul_comm] at hdiv
    rw [alignUp]
    omega
  · intro x hx
    obtain ⟨⟨c, rfl⟩, hn⟩ := hx
    rw [alignUp, Nat.mul_comm align c]
    refine Nat.mul_le_mul_right align (Nat.le_of_lt_succ ?_)
    rw [Nat.div_lt_iff_lt_mul h, Nat.succ_mul, Nat.mul_comm c]
    omega

/-- **The search for a multiple overflows only when the multiple itself does.** -/
theorem alignUp_le_maxWord_iff (n : Nat) {align : Nat} (hpos : 0 < align)
    (hdvd : align ∣ UInt64.size) : alignUp n align ≤ maxWord ↔ n + (align - 1) ≤ maxWord := by
  obtain ⟨⟨hmultiple, hn⟩, -⟩ := isLeast_alignUp n hpos
  have hword : maxWord + 1 = UInt64.size := rfl
  constructor
  · intro h
    -- the multiple and 2 ^ 64 are a whole number of alignments apart
    have hgap : align ∣ UInt64.size - alignUp n align := Nat.dvd_sub hdvd hmultiple
    have hroom : align ≤ UInt64.size - alignUp n align := Nat.le_of_dvd (by omega) hgap
    omega
  · intro h
    have hbelow : alignUp n align ≤ n + align - 1 := Nat.div_mul_le_self _ _
    omega

theorem dvd_size_of_two_pow {k : Nat} (h : 2 ^ k < UInt64.size) : 2 ^ k ∣ UInt64.size := by
  have hk : k < 64 := (Nat.pow_lt_pow_iff_right (Nat.lt_succ_self 1)).mp h
  exact Nat.pow_dvd_pow 2 (Nat.le_of_lt hk)

namespace ArgLayout

theorem isPowerOfTwo_iff (n : Nat) : isPowerOfTwo n = true ↔ ∃ k, n = 2 ^ k := by
  rw [isPowerOfTwo, beq_iff_eq, Nat.one_shiftLeft]
  constructor
  · intro h
    exact ⟨n.log2, h.symm⟩
  · intro h
    obtain ⟨k, rfl⟩ := h
    rw [Nat.log2_two_pow]

/-- In 64 bits a power of two is searched for exactly. -/
theorem alignUp?_ok_iff {n align m k : Nat} (hk : align = 2 ^ k) (halign : align < UInt64.size) :
    alignUp? n align = .ok m ↔ IsLeast {x | align ∣ x ∧ n ≤ x} m ∧ m ≤ maxWord := by
  subst hk
  have hpos : 0 < 2 ^ k := Nat.two_pow_pos k
  have hleast := isLeast_alignUp n hpos
  have hexact := alignUp_le_maxWord_iff n hpos (dvd_size_of_two_pow halign)
  rw [alignUp?]
  constructor
  · intro h
    split at h
    · next hroom =>
      cases h
      exact ⟨hleast, hexact.mpr hroom⟩
    · cases h
  · intro h
    obtain rfl := h.1.unique hleast
    rw [if_pos (hexact.mp h.2)]

/-! ## The natural layout -/

/-- From the byte `free` on, these parameters lie at these offsets in turn, each at the first
multiple of its alignment, and the last one ends at `stop`. -/
inductive Lies : Nat → List Parameter → List Nat → Nat → Prop
  | nil (free : Nat) : Lies free [] [] free
  | cons {free offset stop : Nat} {p : Parameter} {ps : List Parameter} {offsets : List Nat}
    (hoffset : IsLeast {x | p.align ∣ x ∧ free ≤ x} offset)
    (hrest : Lies (offset + p.size) ps offsets stop) : Lies free (p :: ps) (offset :: offsets) stop

/-- The largest alignment among these parameters, one if there is none. -/
def largestAlign (ps : List Parameter) : Nat := (ps.map (·.align)).max?.getD 1

/-- Where each of these parameters ends when they lie at these offsets. -/
def endings (offsets : List Nat) (ps : List Parameter) : List Nat :=
  List.zipWith (fun offset p => offset + p.size) offsets ps

variable {l : ArgLayout}

/-- The layout of its parameters over unbounded numbers. -/
structure Natural (l : ArgLayout) : Prop where
  /-- There is an offset for every parameter. -/
  count : l.offsets.length = l.parameters.length
  /-- Each offset is the least multiple of its parameter's alignment that is not below the end of
  the parameter before, or not below zero for the first one. -/
  offset : ∀ (i offset free : Nat) (p : Parameter), l.parameters[i]? = some p →
    l.offsets[i]? = some offset → (0 :: endings l.offsets l.parameters)[i]? = some free →
      IsLeast {x | p.align ∣ x ∧ free ≤ x} offset
  /-- The total size is the least multiple of the largest alignment that is not below the end of
  the last parameter. -/
  total : ∀ stop, (0 :: endings l.offsets l.parameters).getLast? = some stop →
    IsLeast {x | largestAlign l.parameters ∣ x ∧ stop ≤ x} l.totalSize

namespace Lies

variable {free stop : Nat} {ps : List Parameter} {offsets : List Nat}

theorem count (h : Lies free ps offsets stop) : offsets.length = ps.length := by
  induction h with
  | nil => rfl
  | cons _ _ ih => exact congrArg (· + 1) ih

theorem le_stop (h : Lies free ps offsets stop) : free ≤ stop := by
  induction h with
  | nil => exact Nat.le_refl _
  | cons hoffset _ ih =>
    have hfree := hoffset.1.2
    omega

/-- The last ending is where the parameters stop. -/
theorem getLast?_endings (h : Lies free ps offsets stop) :
    (free :: endings offsets ps).getLast? = some stop := by
  induction h with
  | nil => rfl
  | cons _ _ ih => exact (List.getLast?_cons_cons).trans ih

theorem isLeast (h : Lies free ps offsets stop) {i offset before : Nat} {p : Parameter}
    (hp : ps[i]? = some p) (hoffset : offsets[i]? = some offset)
    (hbefore : (free :: endings offsets ps)[i]? = some before) :
    IsLeast {x | p.align ∣ x ∧ before ≤ x} offset := by
  induction h generalizing i with
  | nil => cases hp
  | cons hleast _ ih =>
    cases i with
    | zero =>
      cases hp
      cases hoffset
      cases hbefore
      exact hleast
    | succ i => exact ih hp hoffset hbefore

/-- Offsets that are right parameter by parameter are right along the list. -/
theorem of_isLeast (hcount : offsets.length = ps.length)
    (h : ∀ (i offset before : Nat) (p : Parameter), ps[i]? = some p → offsets[i]? = some offset →
      (free :: endings offsets ps)[i]? = some before →
        IsLeast {x | p.align ∣ x ∧ before ≤ x} offset) :
    ∃ stop, Lies free ps offsets stop := by
  induction ps generalizing free offsets with
  | nil =>
    obtain rfl := List.length_eq_zero_iff.mp hcount
    exact ⟨free, .nil free⟩
  | cons p ps ih =>
    cases offsets with
    | nil => cases hcount
    | cons offset offsets =>
      obtain ⟨stop, hrest⟩ := ih (Nat.succ.inj hcount) fun i => h (i + 1)
      exact ⟨stop, .cons (h 0 offset free p rfl rfl rfl) hrest⟩

/-- Parameters lie one behind the other, from the first free byte to the end of the last. -/
theorem bounds (h : Lies free ps offsets stop) {i offset : Nat} {p : Parameter}
    (hp : ps[i]? = some p) (hoffset : offsets[i]? = some offset) :
    free ≤ offset ∧ offset + p.size ≤ stop := by
  induction h generalizing i with
  | nil => cases hp
  | cons hleast hrest ih =>
    cases i with
    | zero =>
      cases hp
      cases hoffset
      exact ⟨hleast.1.2, hrest.le_stop⟩
    | succ i =>
      have hfirst := hleast.1.2
      obtain ⟨hfree, hstop⟩ := ih hp hoffset
      exact ⟨by omega, hstop⟩

theorem before (h : Lies free ps offsets stop) {i j offset offset' : Nat} {p : Parameter}
    (hij : i < j) (hp : ps[i]? = some p) (hoffset : offsets[i]? = some offset)
    (hoffset' : offsets[j]? = some offset') : offset + p.size ≤ offset' := by
  induction h generalizing i j with
  | nil => cases hp
  | cons _ hrest ih =>
    cases j with
    | zero => exact absurd hij (Nat.not_lt_zero i)
    | succ j =>
      cases i with
      | zero =>
        cases hp
        cases hoffset
        -- the later parameter is one of those that follow
        obtain ⟨hj, -⟩ := List.getElem?_eq_some_iff.mp hoffset'
        have hj := hrest.count ▸ Nat.lt_of_succ_lt_succ hj
        exact (hrest.bounds (List.getElem?_eq_getElem hj) hoffset').1
      | succ i => exact ih (Nat.lt_of_succ_lt_succ hij) hp hoffset hoffset'

end Lies

theorem natural_iff : l.Natural ↔ ∃ stop, Lies 0 l.parameters l.offsets stop ∧
    IsLeast {x | largestAlign l.parameters ∣ x ∧ stop ≤ x} l.totalSize := by
  constructor
  · intro h
    obtain ⟨stop, hlies⟩ := Lies.of_isLeast h.count h.offset
    exact ⟨stop, hlies, h.total stop hlies.getLast?_endings⟩
  · intro h
    obtain ⟨stop, hlies, htotal⟩ := h
    refine ⟨hlies.count, fun _ _ _ _ => hlies.isLeast, fun stop' hstop' => ?_⟩
    obtain rfl := Option.some.inj (hlies.getLast?_endings.symm.trans hstop')
    exact htotal

theorem largestAlign_eq_one_or_mem (ps : List Parameter) :
    largestAlign ps = 1 ∨ ∃ p ∈ ps, p.align = largestAlign ps := by
  rw [largestAlign]
  cases hmax : (ps.map (·.align)).max? with
  | none => exact .inl rfl
  | some align => exact .inr (List.mem_map.mp (List.max?_mem hmax))

theorem maxAlign_eq {ps : List Parameter} (hpos : ∀ p ∈ ps, 0 < p.align) :
    maxAlign ps = largestAlign ps := by
  have hmap : maxAlign ps = (ps.map (·.align)).foldl max 1 := List.foldl_map.symm
  rw [hmap, largestAlign]
  cases ps with
  | nil => rfl
  | cons p ps =>
    have hp : max 1 p.align = p.align := Nat.max_eq_right (hpos p List.mem_cons_self)
    rw [List.map_cons, List.foldl_cons, hp, List.max?_cons', Option.getD_some]

/-! ## Strides -/

theorem eq_zero_of_isLeast {align m : Nat} (h : IsLeast {x | align ∣ x ∧ 0 ≤ x} m) : m = 0 :=
  Nat.le_zero.mp (h.2 ⟨Nat.dvd_zero align, Nat.le_refl 0⟩)

/-- The distances between these offsets, the last one to the end. -/
def gaps (offsets : List Nat) (total : Nat) : List Nat :=
  List.zipWith (fun next start => next - start) (offsets.tail ++ [total]) offsets

theorem strides_eq (l : ArgLayout) : l.strides = gaps l.offsets l.totalSize := rfl

theorem gaps_cons (offset total : Nat) (offsets : List Nat) :
    gaps (offset :: offsets) total = (offsets.headD total - offset) :: gaps offsets total := by
  cases offsets <;> rfl

namespace Lies

variable {free stop total : Nat} {ps : List Parameter} {offsets : List Nat}

theorem le_headD (h : Lies free ps offsets stop) (htotal : stop ≤ total) :
    free ≤ offsets.headD total := by
  cases h with
  | nil => exact htotal
  | cons hoffset _ => exact hoffset.1.2

/-- Each distance leads from its offset to the next one. -/
theorem getElem?_gaps (h : Lies free ps offsets stop) (htotal : stop ≤ total) {i offset : Nat}
    (hoffset : offsets[i]? = some offset) : ∃ gap, (gaps offsets total)[i]? = some gap ∧
      offset + gap = offsets[i + 1]?.getD total := by
  induction h generalizing i with
  | nil => cases hoffset
  | @cons _ offset₀ _ p _ offsets _ hrest ih =>
    rw [gaps_cons]
    cases i with
    | zero =>
      cases hoffset
      have hnext := hrest.le_headD htotal
      have hhead : offsets[0]?.getD total = offsets.headD total := by cases offsets <;> rfl
      refine ⟨_, rfl, ?_⟩
      rw [List.getElem?_cons_succ, hhead]
      omega
    | succ i => exact ih htotal hoffset

/-- **The distances add up** to what lies between the first offset and the end. -/
theorem sum_gaps (h : Lies free ps offsets stop) (htotal : stop ≤ total) :
    offsets.headD total + (gaps offsets total).sum = total := by
  induction h with
  | nil => rfl
  | cons _ hrest ih =>
    have hnext := hrest.le_headD htotal
    have hsum := ih htotal
    rw [gaps_cons, List.sum_cons, List.headD_cons]
    omega

/-- The first parameter lies at zero, and a buffer without parameters ends there. -/
theorem headD_eq_zero (h : Lies 0 ps offsets stop) {align : Nat}
    (htotal : IsLeast {x | align ∣ x ∧ stop ≤ x} total) : offsets.headD total = 0 := by
  cases h with
  | nil => exact eq_zero_of_isLeast htotal
  | cons hoffset _ => exact eq_zero_of_isLeast hoffset

end Lies

/-- The parameters of the layout have ranges of their own in the buffer, in order, and the strides
are the distances between them. -/
structure Tiled (l : ArgLayout) : Prop where
  /-- A parameter ends before every later one begins. -/
  ordered : ∀ (i j offset offset' : Nat) (p : Parameter), i < j → l.parameters[i]? = some p →
    l.offsets[i]? = some offset → l.offsets[j]? = some offset' → offset + p.size ≤ offset'
  /-- Every parameter ends within the buffer. -/
  within : ∀ (i offset : Nat) (p : Parameter), l.parameters[i]? = some p →
    l.offsets[i]? = some offset → offset + p.size ≤ l.totalSize
  /-- There is a stride for every parameter and no more. -/
  count : l.strides.length = l.parameters.length
  /-- A stride leads from an offset to the next one, or to the end. -/
  stride : ∀ i offset : Nat, l.offsets[i]? = some offset → ∃ stride, l.strides[i]? = some stride ∧
    offset + stride = l.offsets[i + 1]?.getD l.totalSize
  /-- The strides sum to the total size. -/
  sum : l.strides.sum = l.totalSize

/-- **A natural layout tiles its buffer.** -/
theorem Natural.tiled (h : l.Natural) : l.Tiled := by
  obtain ⟨stop, hlies, htotal⟩ := natural_iff.mp h
  have hstop : stop ≤ l.totalSize := htotal.1.2
  refine ⟨fun i j offset offset' p => hlies.before, ?_, ?_, fun i offset => ?_, ?_⟩
  · intro i offset p hp hoffset
    have hend := (hlies.bounds hp hoffset).2
    omega
  · have hcount := hlies.count
    rw [strides_eq, gaps, List.length_zipWith, List.length_append, List.length_tail,
      List.length_singleton]
    omega
  · exact hlies.getElem?_gaps hstop
  · have hfirst := hlies.headD_eq_zero htotal
    have hsum := hlies.sum_gaps hstop
    rw [strides_eq]
    omega

/-! ## The computation -/

theorem place_ok_iff {index free stop : Nat} {ps : List Parameter} {offsets : List Nat}
    (hword : ∀ p ∈ ps, p.align < UInt64.size) (hfree : free ≤ maxWord) :
    place index free ps = .ok (offsets, stop) ↔
      (∀ p ∈ ps, ∃ k, p.align = 2 ^ k) ∧ Lies free ps offsets stop ∧ stop ≤ maxWord := by
  induction ps generalizing index free offsets with
  | nil =>
    constructor
    · intro h
      cases h
      exact ⟨fun p hp => absurd hp List.not_mem_nil, .nil _, hfree⟩
    · intro h
      cases h.2.1
      rfl
  | cons p ps ih =>
    obtain ⟨hp, hps⟩ := List.forall_mem_cons.mp hword
    rw [place, List.forall_mem_cons]
    by_cases hpower : isPowerOfTwo p.align
    · obtain ⟨k, hk⟩ := (isPowerOfTwo_iff p.align).mp hpower
      rw [if_pos hpower, except_bind_eq_ok]
      constructor
      · intro h
        obtain ⟨offset, hoffset, h⟩ := h
        obtain ⟨hleast, -⟩ := (alignUp?_ok_iff hk hp).mp hoffset
        split at h
        · next hroom =>
          obtain ⟨⟨offsets', stop'⟩, hrest, h⟩ := except_bind_eq_ok.mp h
          cases h
          obtain ⟨hpowers, hlies, hstop⟩ := (ih hps hroom).mp hrest
          exact ⟨⟨⟨k, hk⟩, hpowers⟩, .cons hleast hlies, hstop⟩
        · cases h
      · intro h
        obtain ⟨⟨-, hpowers⟩, hlies, hstop⟩ := h
        cases hlies with
        | @cons _ offset _ _ _ offsets hleast hrest =>
          -- what comes before the end of the last parameter is in range as well
          have hroom : offset + p.size ≤ maxWord := Nat.le_trans hrest.le_stop hstop
          refine ⟨offset, (alignUp?_ok_iff hk hp).mpr ⟨hleast, by omega⟩, ?_⟩
          rw [if_pos hroom, except_bind_eq_ok]
          exact ⟨_, (ih hps hroom).mpr ⟨hpowers, hrest, hstop⟩, rfl⟩
    · rw [if_neg hpower]
      constructor
      · intro h
        cases h
      · intro h
        exact absurd ((isPowerOfTwo_iff p.align).mpr h.1.1) hpower

/-- **What is computed is the natural layout**, whenever it fits in 64 bits. -/
theorem ofParameters_ok_iff {ps : List Parameter} (hword : ∀ p ∈ ps, p.align < UInt64.size) :
    ofParameters ps = .ok l ↔ (∀ p ∈ ps, ∃ k, p.align = 2 ^ k) ∧
      l.parameters = ps ∧ l.Natural ∧ l.totalSize < UInt64.size := by
  have hlast : ∀ n : Nat, n < UInt64.size ↔ n ≤ maxWord := fun n => Nat.lt_succ_iff
  rw [ofParameters, except_bind_eq_ok, hlast]
  -- the largest alignment is a 64-bit power of two like all of them
  have hmax : (∀ p ∈ ps, ∃ k, p.align = 2 ^ k) →
      maxAlign ps = largestAlign ps ∧ ∃ k, largestAlign ps = 2 ^ k ∧ 2 ^ k < UInt64.size := by
    intro hpowers
    refine ⟨maxAlign_eq fun p hp => ?_, ?_⟩
    · obtain ⟨k, hk⟩ := hpowers p hp
      exact hk ▸ Nat.two_pow_pos k
    · obtain h | ⟨p, hp, h⟩ := largestAlign_eq_one_or_mem ps
      · exact ⟨0, h, by decide⟩
      · obtain ⟨k, hk⟩ := hpowers p hp
        exact ⟨k, h.symm.trans hk, hk ▸ hword p hp⟩
  constructor
  · intro h
    obtain ⟨⟨offsets, stop⟩, hplace, h⟩ := h
    obtain ⟨totalSize, htotal, h⟩ := except_bind_eq_ok.mp h
    cases h
    obtain ⟨hpowers, hlies, -⟩ := (place_ok_iff hword (Nat.zero_le _)).mp hplace
    obtain ⟨heq, k, hk, hsize⟩ := hmax hpowers
    rw [heq, alignUp?_ok_iff hk (hk ▸ hsize)] at htotal
    exact ⟨hpowers, rfl, natural_iff.mpr ⟨stop, hlies, htotal.1⟩, htotal.2⟩
  · intro h
    obtain ⟨hpowers, rfl, hnatural, hsize⟩ := h
    obtain ⟨heq, k, hk, hk'⟩ := hmax hpowers
    obtain ⟨stop, hlies, htotal⟩ := natural_iff.mp hnatural
    have hstop : stop ≤ l.totalSize := htotal.1.2
    refine ⟨(l.offsets, stop), ?_, except_bind_eq_ok.mpr ⟨l.totalSize, ?_, rfl⟩⟩
    · exact (place_ok_iff hword (Nat.zero_le _)).mpr ⟨hpowers, hlies, by omega⟩
    · rw [heq]
      exact (alignUp?_ok_iff hk (hk ▸ hk')).mpr ⟨htotal, hsize⟩

/-- **Layouts are exact.** Parameters are laid out just when all alignments are powers of two and
their natural layout is smaller than `2 ^ 64`, and the layout is the natural one. -/
theorem ofParameters_exact {ps : List Parameter} (hword : ∀ p ∈ ps, p.align < UInt64.size) :
    ((∃ l, ofParameters ps = .ok l) ↔ (∀ p ∈ ps, ∃ k, p.align = 2 ^ k) ∧
      ∃ l : ArgLayout, l.parameters = ps ∧ l.Natural ∧ l.totalSize < 2 ^ 64) ∧
    ∀ l, ofParameters ps = .ok l → l.parameters = ps ∧ l.Natural ∧ l.Tiled := by
  refine ⟨⟨?_, ?_⟩, ?_⟩
  · intro h
    obtain ⟨l, h⟩ := h
    obtain ⟨hpowers, hl⟩ := (ofParameters_ok_iff hword).mp h
    exact ⟨hpowers, l, hl⟩
  · intro h
    obtain ⟨hpowers, l, hl⟩ := h
    exact ⟨l, (ofParameters_ok_iff hword).mpr ⟨hpowers, hl⟩⟩
  · intro l h
    obtain ⟨-, hparameters, hnatural, -⟩ := (ofParameters_ok_iff hword).mp h
    exact ⟨hparameters, hnatural, hnatural.tiled⟩

/-- A parameter that ends just where the last multiple of its alignment begins. -/
def topmost : List Parameter :=
  [{ size := 1, align := 1 }, { size := 0, align := 8 }, { size := 2 ^ 64 - 64, align := 32 }]

/-- The largest layout with this alignment is found, although nothing is left to search in. -/
theorem topmost_exact : (∀ p ∈ topmost, p.align < UInt64.size) ∧
    ∃ l, ofParameters topmost = .ok l ∧ l.offsets = [0, 8, 32] ∧ l.totalSize = 2 ^ 64 - 32 ∧
      l.Natural ∧ l.Tiled := by
  have hword : ∀ p ∈ topmost, p.align < UInt64.size := by decide
  have hlayout : ofParameters topmost = .ok ⟨topmost, [0, 8, 32], 2 ^ 64 - 32⟩ := by decide
  obtain ⟨-, hnatural, htiled⟩ := (ofParameters_exact hword).2 _ hlayout
  exact ⟨hword, _, hlayout, rfl, rfl, hnatural, htiled⟩

end ArgLayout

end DeviceCode

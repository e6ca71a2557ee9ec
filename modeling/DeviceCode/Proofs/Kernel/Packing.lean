import DeviceCode.Loader.Layouts
import DeviceCode.Proofs.Follows

/-!
# Which arguments a launch accepts

The arguments of a launch are well formed when they come in exactly one of the two forms and that
one is right: one byte string per parameter of a known layout, each as long as its parameter, or the
five words of a descriptor whose buffer is there. `LaunchArgs.WellFormed` says so without packing
anything, and `LaunchArgs.Packs` says which bytes are submitted.

Well-formed arguments have such bytes unless their layout is larger than any buffer
(`LaunchArgs.exists_packs_iff`). Such a layout makes packing panic, as soon as the number of
arguments is right: `LaunchArgs.Overflows`.

What is said about sizes holds of layouts that were laid out from their parameters
(`LayoutCache.Sound`). There are no others in any cache that a program can come to have
(`LayoutCache.Reachable.sound`).
-/

namespace DeviceCode

/-- A sequence of two checks gives a result when both do. -/
theorem except_bind_eq_ok {ε α β : Type} {x : Except ε α} {f : α → Except ε β} {b : β} :
    (x >>= f) = .ok b ↔ ∃ a, x = .ok a ∧ f a = .ok b := by
  cases x with
  | error cause =>
    refine ⟨nofun, ?_⟩
    rintro ⟨_, h, -⟩
    cases h
  | ok a =>
    refine ⟨fun h => ⟨a, rfl, h⟩, ?_⟩
    rintro ⟨_, h, hf⟩
    cases h
    exact hf

/-- A check gives the same result when its error is worded otherwise. -/
theorem except_mapError_eq_ok {ε ε' α : Type} {x : Except ε α} {g : ε → ε'} {a : α} :
    x.mapError g = .ok a ↔ x = .ok a := by
  cases x with
  | error cause => exact ⟨nofun, nofun⟩
  | ok b => exact ⟨fun h => by cases h; rfl, fun h => by cases h; rfl⟩

/-- What is refused as an invalid value is answered. -/
theorem mapError_ne_overflow {α : Type} (r : Except InvalidValue α) :
    r.mapError LoadError.invalidValue ≠ .error .capacityOverflow := by
  cases r with
  | error cause => exact nofun
  | ok a => exact nofun

namespace ArgLayout

/-- As many arguments as parameters, each as long as its parameter. -/
def Fits (l : ArgLayout) (arguments : List Bytes) : Prop :=
  arguments.map (·.length) = l.parameters.map (·.size)

instance (l : ArgLayout) (arguments : List Bytes) : Decidable (l.Fits arguments) :=
  inferInstanceAs (Decidable (_ = _))

theorem length_of_place {index free stop : Nat} {ps : List Parameter} {offsets : List Nat}
    (h : place index free ps = .ok (offsets, stop)) : offsets.length = ps.length := by
  induction ps generalizing index free offsets with
  | nil =>
    cases h
    rfl
  | cons p ps ih =>
    unfold place at h
    split at h
    · obtain ⟨offset, -, h⟩ := except_bind_eq_ok.mp h
      split at h
      · obtain ⟨rest, hrest, h⟩ := except_bind_eq_ok.mp h
        cases h
        exact congrArg (· + 1) (ih hrest)
      · cases h
    · cases h

theorem parameters_eq {ps : List Parameter} {l : ArgLayout} (h : ofParameters ps = .ok l) :
    l.parameters = ps := by
  unfold ofParameters at h
  obtain ⟨placed, -, h⟩ := except_bind_eq_ok.mp h
  obtain ⟨totalSize, -, h⟩ := except_bind_eq_ok.mp h
  cases h
  rfl

/-- A layout has an offset for each of its parameters. -/
theorem length_offsets {ps : List Parameter} {l : ArgLayout} (h : ofParameters ps = .ok l) :
    l.offsets.length = l.parameters.length := by
  unfold ofParameters at h
  obtain ⟨placed, hplaced, h⟩ := except_bind_eq_ok.mp h
  obtain ⟨totalSize, -, h⟩ := except_bind_eq_ok.mp h
  cases h
  exact length_of_place hplaced

/-- Filling stops at the first argument of another size than its parameter, and at nothing else. -/
theorem fill_ok_iff (buffer : Bytes) (index : Nat) (fields : List (Bytes × Parameter × Nat)) :
    (∃ filled, fill buffer index fields = .ok filled) ↔ ∀ x ∈ fields, x.1.length = x.2.1.size := by
  induction fields generalizing buffer index with
  | nil => exact ⟨fun _ x hx => absurd hx List.not_mem_nil, fun _ => ⟨buffer, rfl⟩⟩
  | cons x fields ih =>
    obtain ⟨argument, p, offset⟩ := x
    unfold fill
    rw [List.forall_mem_cons]
    by_cases hsize : argument.length = p.size
    · rw [if_pos hsize, ih]
      exact (and_iff_right hsize).symm
    · rw [if_neg hsize]
      refine ⟨?_, fun h => absurd h.1 hsize⟩
      rintro ⟨_, h⟩
      cases h

/-- What is paired up for filling is each argument with its parameter. -/
theorem fill_fits_iff {l : ArgLayout} (hoffsets : l.offsets.length = l.parameters.length)
    {arguments : List Bytes} (hlength : arguments.length = l.parameters.length) (buffer : Bytes) :
    (∃ filled, fill buffer 0 (arguments.zip (l.parameters.zip l.offsets)) = .ok filled) ↔
      l.Fits arguments := by
  have hzip : (l.parameters.zip l.offsets).length = l.parameters.length := by
    rw [List.length_zip, hoffsets, Nat.min_self]
  have harguments : (arguments.zip (l.parameters.zip l.offsets)).map (·.1.length) =
      arguments.map (·.length) := calc
    _ = ((arguments.zip (l.parameters.zip l.offsets)).map (·.1)).map (·.length) := by
      rw [List.map_map, Function.comp_def]
    _ = _ := by rw [List.map_fst_zip (Nat.le_of_eq (hlength.trans hzip.symm))]
  have hparameters : (arguments.zip (l.parameters.zip l.offsets)).map (·.2.1.size) =
      l.parameters.map (·.size) := calc
    _ = (((arguments.zip (l.parameters.zip l.offsets)).map (·.2)).map (·.1)).map (·.size) := by
      rw [List.map_map, List.map_map, Function.comp_def, Function.comp_def]
    _ = _ := by
      rw [List.map_snd_zip (Nat.le_of_eq (hzip.trans hlength.symm)),
        List.map_fst_zip (Nat.le_of_eq hoffsets.symm)]
  rw [fill_ok_iff, ← List.map_inj_left, harguments, hparameters]
  rfl

variable {l : ArgLayout} {arguments : List Bytes} {bytes : Bytes}

theorem Fits.count (h : l.Fits arguments) : arguments.length = l.parameters.length := by
  have hlengths := congrArg List.length (show _ = _ from h)
  rwa [List.length_map, List.length_map] at hlengths

/-- Packed arguments are a filled buffer, and the buffer is one that can be made. -/
theorem pack_eq_ok_iff : l.pack arguments = .ok bytes ↔
    arguments.length = l.parameters.length ∧ l.totalSize ≤ maxCapacity ∧
      fill (Bytes.zeros l.totalSize) 0 (arguments.zip (l.parameters.zip l.offsets)) =
        .ok bytes := by
  unfold pack
  by_cases hlength : arguments.length = l.parameters.length
  · by_cases hroom : l.totalSize ≤ maxCapacity
    · rw [if_pos hlength, if_pos hroom]
      refine Iff.trans ?_ (and_iff_right hlength).symm
      refine Iff.trans ?_ (and_iff_right hroom).symm
      exact except_mapError_eq_ok
    · rw [if_pos hlength, if_neg hroom]
      exact ⟨nofun, fun h => absurd h.2.1 hroom⟩
  · rw [if_neg hlength]
    exact ⟨nofun, fun h => absurd h.1 hlength⟩

/-- **Arguments that fit can be packed** if there can be a buffer for them, and no others. -/
theorem pack_ok_iff (hoffsets : l.offsets.length = l.parameters.length) (arguments : List Bytes) :
    (∃ bytes, l.pack arguments = .ok bytes) ↔ l.Fits arguments ∧ l.totalSize ≤ maxCapacity := by
  constructor
  · intro h
    obtain ⟨bytes, h⟩ := h
    obtain ⟨hlength, hroom, hfill⟩ := pack_eq_ok_iff.mp h
    exact ⟨(fill_fits_iff hoffsets hlength _).mp ⟨bytes, hfill⟩, hroom⟩
  · intro h
    obtain ⟨hfits, hroom⟩ := h
    obtain ⟨bytes, hfill⟩ := (fill_fits_iff hoffsets hfits.count _).mpr hfits
    exact ⟨bytes, pack_eq_ok_iff.mpr ⟨hfits.count, hroom, hfill⟩⟩

/-- **Packing panics** for a layout that no buffer can hold, be the sizes right or wrong: only the
number of arguments is looked at before. -/
theorem pack_overflow_iff : l.pack arguments = .error .capacityOverflow ↔
    arguments.length = l.parameters.length ∧ maxCapacity < l.totalSize := by
  unfold pack
  by_cases hlength : arguments.length = l.parameters.length
  · by_cases hroom : l.totalSize ≤ maxCapacity
    · rw [if_pos hlength, if_pos hroom]
      exact ⟨fun h => absurd h (mapError_ne_overflow _),
        fun h => absurd h.2 (Nat.not_lt.mpr hroom)⟩
    · rw [if_pos hlength, if_neg hroom]
      exact ⟨fun _ => ⟨hlength, Nat.lt_of_not_le hroom⟩, fun _ => rfl⟩
  · rw [if_neg hlength]
    exact ⟨nofun, fun h => absurd h.1 hlength⟩

end ArgLayout

namespace LayoutCache

variable {c c' : LayoutCache} {kernel : String} {layout : ArgLayout}

/-- The layout of a kernel is known: it was registered or computed before, or it follows from the
declared parameters. -/
def Knows (c : LayoutCache) (kernel : String) (layout : ArgLayout) : Prop :=
  c.layouts.get? kernel = some layout ∨ c.layouts.get? kernel = none ∧
    ∃ ps, c.declared.get? kernel = some ps ∧ ArgLayout.ofParameters ps = .ok layout

/-- Every layout was laid out from its parameters. -/
def Sound (c : LayoutCache) : Prop :=
  ∀ kernel layout, c.layouts.get? kernel = some layout →
    ArgLayout.ofParameters layout.parameters = .ok layout

theorem Sound.length_offsets (hc : c.Sound) (h : c.Knows kernel layout) :
    layout.offsets.length = layout.parameters.length := by
  rcases h with h | ⟨-, ps, -, h⟩
  · exact ArgLayout.length_offsets (hc kernel layout h)
  · exact ArgLayout.length_offsets h

theorem compute_ok_iff :
    c.compute kernel = .ok layout ↔
      ∃ ps, c.declared.get? kernel = some ps ∧ ArgLayout.ofParameters ps = .ok layout := by
  unfold compute
  cases c.declared.get? kernel with
  | none =>
    refine ⟨nofun, ?_⟩
    rintro ⟨_, h, -⟩
    cases h
  | some ps =>
    dsimp only
    cases hps : ArgLayout.ofParameters ps with
    | error cause =>
      refine ⟨nofun, ?_⟩
      rintro ⟨_, h, h'⟩
      cases h
      rw [hps] at h'
      cases h'
    | ok l =>
      constructor
      · intro h
        cases h
        exact ⟨ps, rfl, hps⟩
      · rintro ⟨_, h, h'⟩
        cases h
        rw [hps] at h'
        cases h'
        rfl

theorem Sound.declare (hc : c.Sound) (kernel : String) (ps : List Parameter) :
    (c.declare kernel ps).Sound := by
  intro k l h
  unfold LayoutCache.declare at h
  rw [Assoc.get?_erase] at h
  split at h
  · cases h
  · exact hc k l h

theorem Sound.register (hc : c.Sound) (kernel : String) {ps : List Parameter}
    (hlayout : ArgLayout.ofParameters ps = .ok layout) : (c.register kernel layout).Sound := by
  intro k l h
  unfold LayoutCache.register at h
  rw [Assoc.get?_put] at h
  split at h
  · cases h
    rw [ArgLayout.parameters_eq hlayout]
    exact hlayout
  · exact hc k l h

theorem Sound.getOrCompute (hc : c.Sound) (h : c.getOrCompute kernel = .ok (layout, c')) :
    c'.Sound := by
  unfold LayoutCache.getOrCompute at h
  split at h
  · cases h
    exact hc
  · cases hl : c.compute kernel with
    | error cause =>
      rw [hl] at h
      cases h
    | ok l =>
      rw [hl] at h
      cases h
      obtain ⟨ps, -, hps⟩ := compute_ok_iff.mp hl
      exact hc.register kernel hps

theorem Sound.declareAll (hc : c.Sound) (m : Metadata) : (c.declareAll m).Sound := by
  unfold LayoutCache.declareAll
  induction m.kernels generalizing c with
  | nil => exact hc
  | cons k kernels ih => exact ih (hc.declare k.name k.parameters)

/-- Caches that a program can come to have. The layouts that it registers were laid out from
parameters, too. -/
inductive Reachable : LayoutCache → Prop
  | empty : Reachable {}
  | declare {c : LayoutCache} (h : Reachable c) (kernel : String) (ps : List Parameter) :
    Reachable (c.declare kernel ps)
  | declareAll {c : LayoutCache} (h : Reachable c) (m : Metadata) : Reachable (c.declareAll m)
  | register {c : LayoutCache} (h : Reachable c) (kernel : String) {ps : List Parameter}
    {layout : ArgLayout} (hlayout : ArgLayout.ofParameters ps = .ok layout) :
    Reachable (c.register kernel layout)
  | getOrCompute {c c' : LayoutCache} (h : Reachable c) {kernel : String} {layout : ArgLayout}
    (hlayout : c.getOrCompute kernel = .ok (layout, c')) : Reachable c'

/-- **Every layout that is ever known was laid out from its parameters.** -/
theorem Reachable.sound (h : c.Reachable) : c.Sound := by
  induction h with
  | empty => exact fun _ _ h => nomatch h
  | declare _ kernel ps ih => exact ih.declare kernel ps
  | declareAll _ m ih => exact ih.declareAll m
  | register _ kernel hlayout ih => exact ih.register kernel hlayout
  | getOrCompute _ hlayout ih => exact ih.getOrCompute hlayout

theorem getOrCompute_ok_iff : (∃ c', c.getOrCompute kernel = .ok (layout, c')) ↔
    c.Knows kernel layout := by
  unfold getOrCompute Knows get?
  cases c.layouts.get? kernel with
  | some l =>
    constructor
    · rintro ⟨_, h⟩
      cases h
      exact .inl rfl
    · rintro (h | ⟨h, -⟩)
      · cases h
        exact ⟨c, rfl⟩
      · cases h
  | none =>
    rw [← compute_ok_iff]
    dsimp only
    cases c.compute kernel with
    | error cause =>
      refine ⟨nofun, ?_⟩
      rintro (h | ⟨-, h⟩) <;> cases h
    | ok l =>
      constructor
      · rintro ⟨_, h⟩
        cases h
        exact .inr ⟨rfl, rfl⟩
      · rintro (h | ⟨-, h⟩)
        · cases h
        · cases h
          exact ⟨_, rfl⟩

/-- No buffer is made for a layout itself. -/
theorem getOrCompute_ne_overflow : c.getOrCompute kernel ≠ .error .capacityOverflow := by
  intro h
  unfold getOrCompute at h
  split at h
  · cases h
  · unfold compute at h
    split at h
    · cases h
    · split at h
      · cases h
      · cases h

theorem Knows.unique {layout' : ArgLayout} (h : c.Knows kernel layout)
    (h' : c.Knows kernel layout') : layout = layout' := by
  obtain ⟨_, hget⟩ := getOrCompute_ok_iff.mpr h
  obtain ⟨_, hget'⟩ := getOrCompute_ok_iff.mpr h'
  exact (Prod.mk.inj (Except.ok.inj (hget.symm.trans hget'))).1

end LayoutCache

namespace LaunchArgs

variable {c : LayoutCache} {kernel : String} {args : LaunchArgs} {bytes : Bytes}

/-- The arguments come in exactly one form, and that is well formed. -/
def WellFormed (args : LaunchArgs) (c : LayoutCache) (kernel : String) : Prop :=
  (∃ arguments layout, args.parameters = some arguments ∧ args.descriptor = none ∧
      c.Knows kernel layout ∧ layout.Fits arguments) ∨
    ∃ pointer size, args.parameters = none ∧ args.descriptor = some [1, pointer, 2, size, 3] ∧
      (size = 0 ∨ pointer ≠ 0)

/-- The arguments come one by one, as many as the kernel has parameters, and no buffer can hold
them. -/
def Overflows (args : LaunchArgs) (c : LayoutCache) (kernel : String) : Prop :=
  ∃ arguments layout, args.parameters = some arguments ∧ args.descriptor = none ∧
    c.Knows kernel layout ∧ arguments.length = layout.parameters.length ∧
    maxCapacity < layout.totalSize

/-- The bytes that are submitted for accepted arguments. -/
def Packs (args : LaunchArgs) (c : LayoutCache) (kernel : String) (bytes : Bytes) : Prop :=
  (∃ arguments layout, args.parameters = some arguments ∧ args.descriptor = none ∧
      c.Knows kernel layout ∧ layout.pack arguments = .ok bytes) ∨
    ∃ pointer size, args.parameters = none ∧ args.descriptor = some [1, pointer, 2, size, 3] ∧
      (size = 0 ∧ bytes = [] ∨ size ≠ 0 ∧ pointer ≠ 0 ∧ bytes = args.memory pointer size)

/-- A descriptor's buffer is there already. -/
theorem Overflows.parameters (h : args.Overflows c kernel) : args.parameters.isSome := by
  obtain ⟨arguments, layout, hp, -⟩ := h
  rw [hp]
  rfl

/-- **There are bytes to submit** for arguments that are well formed and that a buffer can hold, and
for no others. -/
theorem exists_packs_iff (hc : c.Sound) : (∃ bytes, args.Packs c kernel bytes) ↔
    args.WellFormed c kernel ∧ ¬ args.Overflows c kernel := by
  constructor
  · rintro ⟨bytes, ⟨arguments, layout, hp, hd, hlayout, hpack⟩ | ⟨pointer, size, hp, hd, hsize⟩⟩
    · obtain ⟨hfits, hholds⟩ :=
        (ArgLayout.pack_ok_iff (hc.length_offsets hlayout) _).mp ⟨bytes, hpack⟩
      refine ⟨.inl ⟨arguments, layout, hp, hd, hlayout, hfits⟩, fun hoverflows => ?_⟩
      obtain ⟨_, layout', -, -, hlayout', -, hlt⟩ := hoverflows
      rw [hlayout'.unique hlayout] at hlt
      exact absurd hholds (Nat.not_le.mpr hlt)
    · refine ⟨.inr ⟨pointer, size, hp, hd, hsize.imp (·.1) (·.2.1)⟩, fun hoverflows => ?_⟩
      have hsome := hoverflows.parameters
      rw [hp] at hsome
      cases hsome
  · intro h
    obtain ⟨⟨arguments, layout, hp, hd, hlayout, hfits⟩ | ⟨pointer, size, hp, hd, hsize⟩, hroom⟩ := h
    · have hholds : layout.totalSize ≤ maxCapacity := Nat.le_of_not_lt fun hlt =>
        hroom ⟨arguments, layout, hp, hd, hlayout, hfits.count, hlt⟩
      obtain ⟨bytes, hpack⟩ :=
        (ArgLayout.pack_ok_iff (hc.length_offsets hlayout) _).mpr ⟨hfits, hholds⟩
      exact ⟨bytes, .inl ⟨arguments, layout, hp, hd, hlayout, hpack⟩⟩
    · by_cases hzero : size = 0
      · exact ⟨[], .inr ⟨pointer, size, hp, hd, .inl ⟨hzero, rfl⟩⟩⟩
      · exact ⟨_, .inr ⟨pointer, size, hp, hd, .inr ⟨hzero, hsize.resolve_left hzero, rfl⟩⟩⟩

theorem parseDescriptor_ok_iff {words : List Nat} {pointer size : Nat} :
    parseDescriptor words = .ok (pointer, size) ↔ words = [1, pointer, 2, size, 3] := by
  constructor
  · intro h
    unfold parseDescriptor at h
    split at h
    · cases h
      rfl
    · cases h
  · rintro rfl
    rfl

theorem readDescriptor_ok_iff {words : List Nat} :
    args.readDescriptor words = .ok bytes ↔ ∃ pointer size, words = [1, pointer, 2, size, 3] ∧
      (size = 0 ∧ bytes = [] ∨ size ≠ 0 ∧ pointer ≠ 0 ∧ bytes = args.memory pointer size) := by
  unfold readDescriptor
  rw [except_bind_eq_ok]
  constructor
  · rintro ⟨⟨pointer, size⟩, hwords, h⟩
    refine ⟨pointer, size, parseDescriptor_ok_iff.mp hwords, ?_⟩
    dsimp only at h
    split at h
    · next hzero =>
      cases h
      exact .inl ⟨hzero, rfl⟩
    · next hsome =>
      split at h
      · cases h
      · next hpointer =>
        cases h
        exact .inr ⟨hsome, hpointer, rfl⟩
  · rintro ⟨pointer, size, hwords, ⟨rfl, rfl⟩ | ⟨hsome, hpointer, rfl⟩⟩
    · exact ⟨(pointer, 0), parseDescriptor_ok_iff.mpr hwords, rfl⟩
    · refine ⟨(pointer, size), parseDescriptor_ok_iff.mpr hwords, ?_⟩
      dsimp only
      rw [if_neg hsome, if_neg hpointer]
      rfl

end LaunchArgs

/-! ## Packing in a world -/

/-- A sequence of two steps answers what the second does, once the first has answered. -/
theorem answer_bind_eq_ok {ρ α β ε : Type} {x : ExceptT ε (StateM ρ) α}
    {f : α → ExceptT ε (StateM ρ) β} {s : ρ} {b : β} :
    ((x >>= f) s).1 = .ok b ↔ ∃ a, (x s).1 = .ok a ∧ (f a (x s).2).1 = .ok b := by
  rcases hx : x s with ⟨e | a, mid⟩
  · rw [run_bind_of_error hx]
    refine ⟨nofun, ?_⟩
    rintro ⟨_, h, -⟩
    cases h
  · rw [run_bind_of_ok hx]
    refine ⟨fun h => ⟨a, rfl, h⟩, ?_⟩
    rintro ⟨_, h, hf⟩
    cases h
    exact hf

/-- A sequence of two steps fails where one of them does. -/
theorem answer_bind_eq_error {ρ α β ε : Type} {x : ExceptT ε (StateM ρ) α}
    {f : α → ExceptT ε (StateM ρ) β} {s : ρ} {e : ε} :
    ((x >>= f) s).1 = .error e ↔
      (x s).1 = .error e ∨ ∃ a, (x s).1 = .ok a ∧ (f a (x s).2).1 = .error e := by
  rcases hx : x s with ⟨cause | a, mid⟩
  · rw [run_bind_of_error hx]
    constructor
    · intro h
      cases h
      exact .inl rfl
    · rintro (h | ⟨_, h, -⟩)
      · cases h
        rfl
      · cases h
  · rw [run_bind_of_ok hx]
    constructor
    · intro h
      exact .inr ⟨a, rfl, h⟩
    · rintro (h | ⟨_, h, hf⟩)
      · cases h
      · cases h
        exact hf

namespace World

variable {σ : Type} {w : World σ} {kernel : String} {args : LaunchArgs} {bytes : Bytes}

/-- A computed layout is kept and logged, and answered all the same. -/
theorem layoutOf_answer :
    (layoutOf kernel w).1 = (w.loader.layouts.getOrCompute kernel).map (·.1) := by
  rw [Loader.layoutOf_run]
  cases w.loader.layouts.getOrCompute kernel with
  | error e => rfl
  | ok found =>
    dsimp only
    split <;> rfl

theorem layoutOf_ok_iff {layout : ArgLayout} :
    (layoutOf kernel w).1 = .ok layout ↔ w.loader.layouts.Knows kernel layout := by
  rw [layoutOf_answer, ← LayoutCache.getOrCompute_ok_iff]
  cases w.loader.layouts.getOrCompute kernel with
  | error e =>
    refine ⟨nofun, ?_⟩
    rintro ⟨_, h⟩
    cases h
  | ok found =>
    constructor
    · intro h
      cases h
      exact ⟨found.2, rfl⟩
    · rintro ⟨_, h⟩
      cases h
      rfl

theorem layoutOf_ne_overflow : (layoutOf kernel w).1 ≠ .error .capacityOverflow := by
  intro h
  rw [layoutOf_answer] at h
  cases hget : w.loader.layouts.getOrCompute kernel with
  | error e =>
    rw [hget] at h
    cases h
    exact LayoutCache.getOrCompute_ne_overflow hget
  | ok found =>
    rw [hget] at h
    cases h

/-- A checked value is answered in another form, and an error as it is. -/
theorem checked_answer {α β : Type} (r : Except LoadError α) (g : α → β) :
    (Attempt.ofExcept r >>= fun a => pure (g a) : Attempt σ β) w = (r.map g, w) := by
  cases r <;> rfl

theorem checked_answer_error_iff {α β : Type} {r : Except LoadError α} {g : α → β}
    {e : LoadError} :
    ((Attempt.ofExcept r >>= fun a => pure (g a) : Attempt σ β) w).1 = .error e ↔
      r = .error e := by
  rw [checked_answer]
  cases r with
  | error cause => exact ⟨fun h => by cases h; rfl, fun h => by cases h; rfl⟩
  | ok a => exact ⟨nofun, nofun⟩

theorem checked_answer_ok_iff {α β : Type} {r : Except LoadError α} {g : α → β} {b : β} :
    ((Attempt.ofExcept r >>= fun a => pure (g a) : Attempt σ β) w).1 = .ok b ↔
      ∃ a, r = .ok a ∧ g a = b := by
  rw [checked_answer]
  cases r with
  | error cause =>
    refine ⟨nofun, ?_⟩
    rintro ⟨_, h, -⟩
    cases h
  | ok a =>
    constructor
    · intro h
      cases h
      exact ⟨a, rfl, rfl⟩
    · rintro ⟨_, h, rfl⟩
      cases h
      rfl

theorem packStructured_ok_iff {arguments : List Bytes} :
    (∃ packed, ((do
        let layout ← layoutOf kernel
        return .owned (← Attempt.ofExcept (layout.pack arguments)) : Attempt σ PackedArgs) w).1 =
          .ok packed ∧ packed.bytes = bytes) ↔
      ∃ layout, w.loader.layouts.Knows kernel layout ∧ layout.pack arguments = .ok bytes := by
  constructor
  · rintro ⟨packed, h, rfl⟩
    obtain ⟨layout, hlayout, h⟩ := answer_bind_eq_ok.mp h
    obtain ⟨bs, hbs, rfl⟩ := checked_answer_ok_iff.mp h
    exact ⟨layout, layoutOf_ok_iff.mp hlayout, hbs⟩
  · rintro ⟨layout, hlayout, hbs⟩
    exact ⟨.owned bytes, answer_bind_eq_ok.mpr ⟨layout, layoutOf_ok_iff.mpr hlayout,
      checked_answer_ok_iff.mpr ⟨bytes, hbs, rfl⟩⟩, rfl⟩

theorem packDescribed_ok_iff {words : List Nat} :
    (∃ packed,
      ((do return .borrowed (← Attempt.valid (args.readDescriptor words)) :
        Attempt σ PackedArgs) w).1 = .ok packed ∧ packed.bytes = bytes) ↔
      args.readDescriptor words = .ok bytes := by
  constructor
  · rintro ⟨packed, h, rfl⟩
    obtain ⟨bs, hbs, rfl⟩ := checked_answer_ok_iff.mp h
    exact except_mapError_eq_ok.mp hbs
  · intro hbs
    exact ⟨.borrowed bytes,
      checked_answer_ok_iff.mpr ⟨bytes, except_mapError_eq_ok.mpr hbs, rfl⟩, rfl⟩

/-- **What a launch packs**: the arguments in the layout, or the bytes that the descriptor points
to. -/
theorem packArguments_ok_iff :
    (∃ packed, (packArguments kernel args w).1 = .ok packed ∧ packed.bytes = bytes) ↔
      args.Packs w.loader.layouts kernel bytes := by
  unfold packArguments LaunchArgs.Packs LaunchArgs.form
  -- both forms and neither are refused, and no bytes are packed for them
  cases args.parameters with
  | none =>
    cases args.descriptor with
    | none =>
      constructor
      · rintro ⟨_, h, -⟩
        cases h
      · rintro (⟨_, _, h, -⟩ | ⟨_, _, -, h, -⟩) <;> cases h
    | some words =>
      refine packDescribed_ok_iff.trans (LaunchArgs.readDescriptor_ok_iff.trans ?_)
      simp
  | some arguments =>
    cases args.descriptor with
    | none =>
      refine packStructured_ok_iff.trans ?_
      simp
    | some words =>
      constructor
      · rintro ⟨_, h, -⟩
        cases h
      · rintro (⟨_, _, -, h, -⟩ | ⟨_, _, h, -⟩) <;> cases h

theorem packStructured_overflow_iff {arguments : List Bytes} :
    ((do
        let layout ← layoutOf kernel
        return .owned (← Attempt.ofExcept (layout.pack arguments)) : Attempt σ PackedArgs) w).1 =
          .error .capacityOverflow ↔
      ∃ layout, w.loader.layouts.Knows kernel layout ∧
        arguments.length = layout.parameters.length ∧ maxCapacity < layout.totalSize := by
  rw [answer_bind_eq_error, or_iff_right layoutOf_ne_overflow]
  constructor
  · intro h
    obtain ⟨layout, hlayout, h⟩ := h
    rw [checked_answer_error_iff, ArgLayout.pack_overflow_iff] at h
    exact ⟨layout, layoutOf_ok_iff.mp hlayout, h⟩
  · intro h
    obtain ⟨layout, hlayout, h⟩ := h
    refine ⟨layout, layoutOf_ok_iff.mpr hlayout, ?_⟩
    rw [checked_answer_error_iff, ArgLayout.pack_overflow_iff]
    exact h

theorem packDescribed_ne_overflow {words : List Nat} :
    ((do return .borrowed (← Attempt.valid (args.readDescriptor words)) :
      Attempt σ PackedArgs) w).1 ≠ .error .capacityOverflow := by
  intro h
  exact mapError_ne_overflow _ (checked_answer_error_iff.mp h)

/-- **Packing for a launch panics** exactly where no buffer can hold the layout. -/
theorem packArguments_overflow_iff :
    (packArguments kernel args w).1 = .error .capacityOverflow ↔
      args.Overflows w.loader.layouts kernel := by
  unfold packArguments LaunchArgs.Overflows LaunchArgs.form
  cases args.parameters with
  | none =>
    cases args.descriptor with
    | none =>
      constructor
      · rintro ⟨⟩
      · rintro ⟨_, _, h, -⟩
        cases h
    | some words =>
      constructor
      · intro h
        exact absurd h packDescribed_ne_overflow
      · rintro ⟨_, _, h, -⟩
        cases h
  | some arguments =>
    cases args.descriptor with
    | none =>
      refine packStructured_overflow_iff.trans ?_
      simp
    | some words =>
      constructor
      · rintro ⟨⟩
      · rintro ⟨_, _, -, h, -⟩
        cases h

end World

end DeviceCode

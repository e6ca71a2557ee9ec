import DeviceCode.Kernel.LayoutCache

/-!
# What a layout cache answers

A cache has two maps and forgets entries of both; what it answers is simpler than that. All that
counts is what was said about a kernel, and of that the last word only: `told` reads the answer off
a list of notes, in which nothing is ever dropped or cached.

`LayoutCache.Tells notes c` is the relation between the two. Each operation keeps it when its notes
are added, and computing a layout keeps it without a note: that a layout is cached now does not
show in any answer.
-/

namespace DeviceCode

/-- Something that was said about a kernel. -/
inductive LayoutNote where
  | declared (kernel : String) (ps : List Parameter)
  | registered (kernel : String) (layout : ArgLayout)

namespace LayoutNote

/-- The kernel that a note is about. -/
def kernel : LayoutNote → String
  | declared kernel _ => kernel
  | registered kernel _ => kernel

/-- The layout that a note stands for. Declared parameters may have none. -/
def answer : LayoutNote → Except LoadError ArgLayout
  | declared _ ps => (ArgLayout.ofParameters ps).mapError .invalidValue
  | registered _ layout => .ok layout

end LayoutNote

/-- The declarations of a document, in their order. -/
def Metadata.notes (m : Metadata) : List LayoutNote :=
  m.kernels.map fun k => .declared k.name k.parameters

/-- The layout of a kernel, by the last note about it. -/
def told (notes : List LayoutNote) (kernel : String) : Except LoadError ArgLayout :=
  match (notes.filter (·.kernel = kernel)).getLast? with
  | some note => note.answer
  | none => .error (.noLayout kernel)

theorem told_concat (notes : List LayoutNote) (note : LayoutNote) (kernel : String) :
    told (notes ++ [note]) kernel =
      if note.kernel = kernel then note.answer else told notes kernel := by
  unfold told
  rw [List.filter_append]
  by_cases h : note.kernel = kernel
  · rw [List.filter_cons_of_pos (by simpa using h), List.filter_nil, List.getLast?_concat, if_pos h]
  · rw [List.filter_cons_of_neg (by simpa using h), List.filter_nil, List.append_nil, if_neg h]

namespace LayoutCache

variable {c c' : LayoutCache} {kernel : String} {notes : List LayoutNote}

/-- The layout that the cache has or computes. -/
def answer (c : LayoutCache) (kernel : String) : Except LoadError ArgLayout :=
  (c.getOrCompute kernel).map (·.1)

theorem answer_eq (c : LayoutCache) (kernel : String) :
    c.answer kernel = match c.layouts.get? kernel with
      | some layout => .ok layout
      | none => c.compute kernel := by
  unfold answer getOrCompute get?
  cases c.layouts.get? kernel with
  | some layout => rfl
  | none =>
    dsimp only
    cases c.compute kernel <;> rfl

theorem compute_eq (c : LayoutCache) (kernel : String) :
    c.compute kernel = match c.declared.get? kernel with
      | some ps => (ArgLayout.ofParameters ps).mapError .invalidValue
      | none => .error (.noLayout kernel) := by
  unfold compute
  cases c.declared.get? kernel with
  | none => rfl
  | some ps =>
    dsimp only
    cases ArgLayout.ofParameters ps <;> rfl

/-- A layout that is cached is the one that would be computed now. -/
theorem answer_of_get? {layout : ArgLayout} (h : c.get? kernel = some layout) :
    c.answer kernel = .ok layout := by
  rw [answer_eq, show c.layouts.get? kernel = some layout from h]

/-- A cache that cannot answer has nothing cached. -/
theorem get?_of_answer {e : LoadError} (h : c.answer kernel = .error e) :
    c.get? kernel = none := by
  cases hget : c.get? kernel with
  | none => rfl
  | some layout =>
    rw [answer_of_get? hget] at h
    cases h

theorem getOrCompute_of_answer {e : LoadError} (h : c.answer kernel = .error e) :
    c.getOrCompute kernel = .error e := by
  unfold answer at h
  cases hget : c.getOrCompute kernel with
  | error e' =>
    rw [hget] at h
    cases h
    rfl
  | ok found =>
    rw [hget] at h
    cases h

/-! ## What each operation does to the answers -/

theorem answer_declare (c : LayoutCache) (k : String) (ps : List Parameter) (kernel : String) :
    (c.declare k ps).answer kernel =
      if k = kernel then (LayoutNote.declared k ps).answer else c.answer kernel := by
  rw [answer_eq, answer_eq, compute_eq, compute_eq]
  unfold declare
  rw [Assoc.get?_erase, Assoc.get?_put]
  by_cases h : k = kernel
  · rw [if_pos h, if_pos h, if_pos h]
    rfl
  · rw [if_neg h, if_neg h, if_neg h]

theorem answer_register (c : LayoutCache) (k : String) (layout : ArgLayout) (kernel : String) :
    (c.register k layout).answer kernel = if k = kernel then .ok layout else c.answer kernel := by
  rw [answer_eq, answer_eq, compute_eq, compute_eq]
  unfold register
  rw [Assoc.get?_put]
  by_cases h : k = kernel
  · rw [if_pos h, if_pos h]
  · rw [if_neg h, if_neg h]

/-- **Computing a layout changes no answer.** -/
theorem answer_getOrCompute {layout : ArgLayout} (h : c.getOrCompute kernel = .ok (layout, c'))
    (k : String) : c'.answer k = c.answer k := by
  have hself : c.answer kernel = .ok layout := by
    unfold answer
    rw [h]
    rfl
  unfold getOrCompute at h
  split at h
  · cases h
    rfl
  · cases hl : c.compute kernel with
    | error e =>
      rw [hl] at h
      cases h
    | ok l =>
      rw [hl] at h
      cases h
      -- the layout that is cached now is the one that was answered before
      rw [answer_register]
      split
      · next hk => rw [← hk, hself]
      · rfl

/-! ## A cache and the notes about it -/

/-- The cache answers what the last notes say, for every kernel. -/
def Tells (notes : List LayoutNote) (c : LayoutCache) : Prop :=
  ∀ kernel, c.answer kernel = told notes kernel

namespace Tells

theorem empty : Tells [] {} := fun _ => rfl

theorem declare (h : Tells notes c) (kernel : String) (ps : List Parameter) :
    Tells (notes ++ [.declared kernel ps]) (c.declare kernel ps) := by
  intro k
  rw [answer_declare, told_concat, h k]
  rfl

theorem register (h : Tells notes c) (kernel : String) (layout : ArgLayout) :
    Tells (notes ++ [.registered kernel layout]) (c.register kernel layout) := by
  intro k
  rw [answer_register, told_concat, h k]
  rfl

/-- A document acts as its declarations one after the other. -/
theorem declareAll (h : Tells notes c) (m : Metadata) :
    Tells (notes ++ m.notes) (c.declareAll m) := by
  unfold LayoutCache.declareAll Metadata.notes
  induction m.kernels generalizing c notes with
  | nil => rwa [List.map_nil, List.append_nil]
  | cons k ks ih =>
    -- the notes so far are any, so they may end with the note of the first declaration
    have hrest := ih (h.declare k.name k.parameters)
    rwa [List.append_assoc] at hrest

theorem getOrCompute {layout : ArgLayout} (h : Tells notes c)
    (hget : c.getOrCompute kernel = .ok (layout, c')) : Tells notes c' :=
  fun k => (answer_getOrCompute hget k).trans (h k)

end Tells

end LayoutCache

end DeviceCode

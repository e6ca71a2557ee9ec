import DeviceCode.Host.LoadBias
import DeviceCode.Proofs.Text.Blanks
import DeviceCode.Proofs.Text.Splitting

/-!
# The parts of a path

A place with proper names is told by its path: the parts of the path are the names
(`pathParts_path`), so two such places with the same parts are one (`eq_of_samePath`). A blank in a
path is a blank in one of its parts (`solid_iff_pathParts`).
-/

namespace DeviceCode.Host

open Text

theorem splitOn_slash (path : String) :
    path.splitOn "/" = (path.toList.splitOn '/').map .ofList :=
  splitOn_singleton path '/'

/-- Blanks in a path are blanks in one of its parts. -/
theorem solid_iff_pathParts (path : String) :
    Solid path.toList ↔ ∀ part ∈ pathParts path, Solid part.toList := by
  have hjoin : ['/'].intercalate (path.toList.splitOn '/') = path.toList :=
    List.intercalate_splitOn '/'
  rw [← hjoin, solid_intercalate (by decide)]
  unfold pathParts
  rw [splitOn_slash]
  constructor
  · intro h part hpart
    obtain ⟨piece, hpiece, rfl⟩ := List.mem_map.mp (List.mem_of_mem_filter hpart)
    rw [String.toList_ofList]
    exact h piece hpiece
  · intro h piece hpiece
    rw [← String.toList_ofList (l := piece)]
    by_cases hpart : String.ofList piece = "" ∨ String.ofList piece = "."
    · rcases hpart with hpart | hpart <;> rw [hpart] <;> decide
    · refine h _ (List.mem_filter.mpr ⟨List.mem_map_of_mem hpiece, ?_⟩)
      rw [not_or] at hpart
      simp only [bne_iff_ne, Bool.and_eq_true]
      exact hpart

theorem samePath_root {a b : String} (h : samePath a b = true) : a.startsWith "/" = true := by
  simp only [samePath, Bool.and_eq_true] at h
  exact h.1.1

theorem samePath_solid {a b : String} (h : samePath a b = true) (ha : Solid a.toList) :
    Solid b.toList := by
  simp only [samePath, Bool.and_eq_true, beq_iff_eq] at h
  rw [solid_iff_pathParts] at ha ⊢
  rwa [← h.2]

/-- Names as they can stand in a path. -/
def Place.Proper (place : Place) : Prop :=
  ∀ name ∈ place, name ≠ "" ∧ name ≠ "." ∧ '/' ∉ name.toList

theorem toList_path (place : Place) :
    place.path.toList = '/' :: ['/'].intercalate (place.map String.toList) := by
  simp [Place.path, String.toList_intercalate]

theorem pathParts_path {place : Place} (h : place.Proper) : pathParts place.path = place := by
  have hnames : ∀ piece ∈ place.map String.toList, '/' ∉ piece := by
    intro piece hpiece
    obtain ⟨name, hname, rfl⟩ := List.mem_map.mp hpiece
    exact (h name hname).2.2
  have hroot (cs : List Char) : ('/' :: cs).splitOn '/' = [] :: cs.splitOn '/' :=
    List.splitOn_append_cons_self_of_not_mem List.not_mem_nil cs
  unfold pathParts
  rw [splitOn_slash, toList_path, hroot]
  by_cases hne : place = []
  · rw [hne]
    rfl
  · rw [List.splitOn_intercalate '/' hnames (by simpa using hne)]
    have hmap : (place.map String.toList).map String.ofList = place := by simp
    rw [List.map_cons, hmap, List.filter_cons_of_neg (by decide), List.filter_eq_self]
    intro name hname
    obtain ⟨hempty, hdot, -⟩ := h name hname
    simp [hempty, hdot]

theorem samePath_path (place : Place) : samePath place.path place.path = true := by
  have hroot : place.path.startsWith "/" = true := by simp [Place.path]
  simp [samePath, hroot]

theorem eq_of_samePath {a b : Place} (ha : a.Proper) (hb : b.Proper)
    (h : samePath a.path b.path = true) : a = b := by
  simp only [samePath, Bool.and_eq_true, beq_iff_eq] at h
  rw [← pathParts_path ha, ← pathParts_path hb, h.2]

end DeviceCode.Host

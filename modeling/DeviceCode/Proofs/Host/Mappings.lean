import DeviceCode.Proofs.Host.Paths
import DeviceCode.Proofs.Text.Numerals
import Mathlib.Data.List.Nodup

/-!
# The host image among the mappings of its process

A `Mapping` is an entry of a listing of mappings and `Mapping.line` is how the system writes it: five
fields without blanks, and the path as the rest of the line. The path may have blanks in it, or
more words after it, such as the mark of a deleted file.

Reading a line takes its words, so only the first word of the path counts
(`mappingBase?_listing`). `mappingBase?_listing_iff` says for which listings this finds what
`startOf` finds, the first mapping from the beginning of the image's file. These are the `Plain`
ones; a listing without blanks in its paths is plain (`plain_of_usual`).
-/

namespace DeviceCode.Host

open Text

/-- An entry of a listing of mappings. -/
structure Mapping where
  start : UInt64
  stop : UInt64
  readable : Bool
  writable : Bool
  executable : Bool
  shared : Bool
  /-- Where in its file the mapping starts. -/
  offset : UInt64
  major : Nat
  minor : Nat
  inode : Nat
  /-- How many spaces stand before the path, besides the one after the inode. -/
  padding : Nat
  /-- Empty for memory without a name. -/
  path : String
  path_one_line : '\n' ∉ path.toList

namespace Mapping

def permissions (m : Mapping) : List Char :=
  [if m.readable then 'r' else '-', if m.writable then 'w' else '-',
    if m.executable then 'x' else '-', if m.shared then 's' else 'p']

/-- The addresses from the first one on. -/
def range (m : Mapping) : List Char :=
  padded 16 8 m.start.toNat ++ '-' :: padded 16 8 m.stop.toNat

def device (m : Mapping) : List Char := padded 16 2 m.major ++ ':' :: padded 16 2 m.minor

/-- The fields before the path. -/
def fields (m : Mapping) : List (List Char) :=
  [m.range, m.permissions, padded 16 8 m.offset.toNat, m.device, padded 10 0 m.inode]

/-- The line of an entry. -/
def line (m : Mapping) : List Char :=
  m.fields.flatMap (· ++ [' ']) ++ (List.replicate m.padding ' ' ++ m.path.toList)

/-- Whether the entry maps an image from the beginning of its file. -/
def maps (image : String) (m : Mapping) : Bool := m.path == image && m.offset == 0

/-- The first word of the path. -/
def shownPath? (m : Mapping) : Option String := (words m.path.toList).head?.map String.ofList

/-- Whether the line of the entry reads as if it mapped an image from the beginning of its file. -/
def readsAs (image : String) (m : Mapping) : Bool :=
  m.shownPath?.any (samePath · image) && m.offset == 0

end Mapping

/-- The entries, one a line. -/
def listing (entries : List Mapping) : String :=
  String.ofList (entries.flatMap fun m => m.line ++ ['\n'])

/-- Where the first mapping of an image from the beginning of its file starts. -/
def startOf (entries : List Mapping) (image : String) : Option Nat :=
  (entries.find? (·.maps image)).map (·.start.toNat)

variable {m : Mapping} {entries : List Mapping} {image : String}

/-! ## Lines -/

namespace Mapping

theorem maps_iff : m.maps image = true ↔ m.path = image ∧ m.offset = 0 := by
  simp [maps]

theorem readsAs_iff : m.readsAs image = true ↔
    (∃ shown, m.shownPath? = some shown ∧ samePath shown image = true) ∧ m.offset = 0 := by
  simp [readsAs, Option.any_eq_true]

theorem shownPath?_of_solid (h : Solid m.path.toList) (hne : m.path ≠ "") :
    m.shownPath? = some m.path := by
  have hne' : m.path.toList ≠ [] := by simpa using hne
  unfold shownPath?
  rw [words_of_solid h hne']
  simp

theorem solid_fields (m : Mapping) : ∀ field ∈ m.fields, Solid field ∧ field ≠ [] := by
  have hhex : ∀ width n, Solid (padded 16 width n) := by
    intro width n
    exact (denotes_padded (by decide) (by decide) width n).solid
  have hinode : Solid (padded 10 0 m.inode) :=
    (denotes_padded (by decide) (by decide) 0 m.inode).solid
  have hrange : Solid m.range :=
    solid_append.mpr ⟨hhex 8 _, solid_cons.mpr ⟨by decide, hhex 8 _⟩⟩
  have hdevice : Solid m.device :=
    solid_append.mpr ⟨hhex 2 _, solid_cons.mpr ⟨by decide, hhex 2 _⟩⟩
  have hpermissions : Solid m.permissions := by
    unfold permissions
    cases m.readable <;> cases m.writable <;> cases m.executable <;> cases m.shared <;> decide
  intro field hfield
  simp only [fields, List.mem_cons, List.not_mem_nil, or_false] at hfield
  rcases hfield with rfl | rfl | rfl | rfl | rfl
  · exact ⟨hrange, by simp [range]⟩
  · exact ⟨hpermissions, by simp [permissions]⟩
  · exact ⟨hhex 8 _, padded_ne_nil 16 8 _⟩
  · exact ⟨hdevice, by simp [device]⟩
  · exact ⟨hinode, padded_ne_nil 10 0 _⟩

theorem words_line (m : Mapping) : words m.line = m.fields ++ words m.path.toList := by
  have hpadding : Blanks (List.replicate m.padding ' ') := by
    intro c hc
    rw [List.eq_of_mem_replicate hc]
    decide
  unfold line
  rw [words_fields (by decide) m.solid_fields, words_append_blanks hpadding]

theorem newline_notMem_line (m : Mapping) : '\n' ∉ m.line := by
  intro hmem
  rcases List.mem_append.mp hmem with hmem | hmem
  · obtain ⟨field, hfield, hmem⟩ := List.mem_flatMap.mp hmem
    rcases List.mem_append.mp hmem with hmem | hmem
    · exact absurd ((m.solid_fields field hfield).1 '\n' hmem) (by decide)
    · exact absurd (List.mem_singleton.mp hmem) (by decide)
  · rcases List.mem_append.mp hmem with hmem | hmem
    · exact absurd (List.eq_of_mem_replicate hmem) (by decide)
    · exact m.path_one_line hmem

/-- The start of a range is what stands before the dash. -/
theorem takeWhile_range (m : Mapping) :
    m.range.takeWhile (· ≠ '-') = padded 16 8 m.start.toNat := by
  have hdigits : Denotes 16 (padded 16 8 m.start.toNat) m.start.toNat :=
    denotes_padded (by decide) (by decide) 8 m.start.toNat
  have hne : ∀ c ∈ padded 16 8 m.start.toNat, decide (c ≠ '-') = true := by
    intro c hc
    obtain ⟨d, hd⟩ := hdigits.exists_isDigit hc
    have hlow : 0x30 ≤ c.toNat := hd.between.1
    refine decide_eq_true fun hdash => ?_
    rw [hdash] at hlow
    exact absurd hlow (by decide)
  unfold range
  rw [List.takeWhile_append_of_pos hne]
  simp

end Mapping

theorem numeral?_padded (n : UInt64) : numeral? 16 (padded 16 8 n.toNat) = some n.toNat :=
  numeral?_eq_some_iff.mpr (numeral_padded (by decide) (by decide) 8 n.toNat_lt)

/-- What is read off the line of an entry. -/
theorem mappingStart?_line (image : String) (m : Mapping) :
    mappingStart? image (.ofList m.line) =
      if m.readsAs image then some m.start.toNat else none := by
  have hdash : (String.ofList m.range).contains '-' = true := by
    simp [String.contains_char_eq, Mapping.range]
  unfold mappingStart? Mapping.readsAs Mapping.shownPath?
  rw [String.toList_ofList, m.words_line]
  cases words m.path.toList with
  | nil => rfl
  | cons w ws =>
    simp only [Mapping.fields, List.cons_append, List.nil_append, List.map_cons,
      String.toList_ofList, m.takeWhile_range, numeral?_padded, hdash]
    by_cases hw : samePath (.ofList w) image = true
    · simp [hw, ← UInt64.toNat_inj]
    · simp [hw]

/-! ## Listings -/

theorem splitOn_listing (entries : List Mapping) :
    (listing entries).splitOn "\n" = entries.map (.ofList ·.line) ++ [""] := by
  show (listing entries).splitOn (.ofList ['\n']) = _
  unfold listing
  rw [splitOn_singleton, String.toList_ofList]
  induction entries with
  | nil => rfl
  | cons m entries ih =>
    rw [List.flatMap_cons, List.append_assoc, List.singleton_append,
      List.splitOn_append_cons_self_of_not_mem m.newline_notMem_line, List.map_cons, ih]
    rfl

example :
    listing [⟨0x1000, 0x2000, true, false, true, false, 0, 8, 1, 99, 26, "/bin/a b", by simp⟩] =
      "00001000-00002000 r-xp 00000000 08:01 99                           /bin/a b\n" := by
  decide

/-- **What is found in a listing.** It is the first entry from the beginning of a file for which the
first word of the path has the parts of the image. -/
theorem mappingBase?_listing (entries : List Mapping) (image : String) :
    mappingBase? (listing entries) image =
      (entries.find? (·.readsAs image)).map (·.start.toNat) := by
  unfold mappingBase?
  rw [splitOn_listing]
  induction entries with
  | nil => rfl
  | cons m entries ih =>
    rw [List.map_cons, List.cons_append, List.findSome?_cons, mappingStart?_line, List.find?_cons]
    cases m.readsAs image with
    | true => rfl
    | false => exact ih

/-! ## Reading the path -/

namespace Mapping

/-- **An image with a blank in its path is never found.** -/
theorem solid_of_readsAs (h : m.readsAs image = true) : Solid image.toList := by
  obtain ⟨⟨shown, hshown, hsame⟩, -⟩ := readsAs_iff.mp h
  obtain ⟨w, hw, rfl⟩ := Option.map_eq_some_iff.mp hshown
  refine samePath_solid hsame ?_
  rw [String.toList_ofList]
  exact solid_of_mem_words (List.mem_of_mem_head? hw)

/-- A mapping of an image is read as one, if the path of the image has no blank in it. -/
theorem readsAs_iff_solid {place : Place} (h : m.maps place.path = true) :
    m.readsAs place.path = true ↔ Solid place.path.toList := by
  refine ⟨solid_of_readsAs, fun hsolid => ?_⟩
  obtain ⟨hpath, hoffset⟩ := maps_iff.mp h
  rw [← hpath] at hsolid
  have hne : m.path ≠ "" := by simp [hpath, Place.path]
  refine readsAs_iff.mpr ⟨⟨m.path, shownPath?_of_solid hsolid hne, ?_⟩, hoffset⟩
  rw [hpath]
  exact samePath_path place

end Mapping

/-! ## Two searches in one list -/

section Searches

variable {α β : Type} {p q : α → Bool} {f : α → β} {xs : List α} {x : α}

theorem find?_eq_find? (h : ∀ x ∈ xs.find? (fun x => p x || q x), p x = true ∧ q x = true) :
    xs.find? p = xs.find? q := by
  induction xs with
  | nil => rfl
  | cons x xs ih =>
    simp only [List.find?_cons] at h ⊢
    cases hp : p x <;> cases hq : q x <;> simp_all

/-- The first of many, where it is one of a few, is the first of the few. -/
theorem find?_eq_of_imp (h : xs.find? q = some x) (hpq : ∀ y, p y = true → q y = true)
    (hp : p x = true) : xs.find? p = some x := by
  obtain ⟨-, before, after, rfl, hbefore⟩ := List.find?_eq_some_iff_append.mp h
  refine List.find?_eq_some_iff_append.mpr ⟨hp, before, after, rfl, fun y hy => ?_⟩
  have hq := hbefore y hy
  cases hpy : p y with
  | false => rfl
  | true => simp [hpq y hpy] at hq

/-- Where all values differ, two searches that find the same value find the same. -/
theorem find?_of_map_eq (hf : (xs.map f).Nodup) (hx : xs.find? p = some x)
    (h : (xs.find? p).map f = (xs.find? q).map f) : xs.find? q = some x := by
  rw [hx] at h
  obtain ⟨y, hy, heq⟩ := Option.map_eq_some_iff.mp h.symm
  rw [hy, List.inj_on_of_nodup_map hf (List.mem_of_find?_eq_some hy)
    (List.mem_of_find?_eq_some hx) heq]

end Searches

/-! ## The mapping of the image -/

/-- The first entry that maps the image from the beginning of its file, or reads as if it did, maps
it, and there is no blank in the path of the image. -/
def Plain (entries : List Mapping) (image : String) : Prop :=
  ∀ m ∈ entries.find? (fun m => m.maps image || m.readsAs image),
    m.maps image = true ∧ Solid image.toList

/-- A path without blanks which is the path of a place, if it is absolute. -/
structure Usual (path : String) : Prop where
  solid : Solid path.toList
  place : path.startsWith "/" = true → ∃ place : Place, place.Proper ∧ path = place.path

/-- A listing is plain if there are no blanks in its paths. -/
theorem plain_of_usual {place : Place} (hplace : place.Proper)
    (h : ∀ m ∈ entries, m.offset = 0 → Usual m.path) : Plain entries place.path := by
  intro m hm
  have husual := h m (List.mem_of_find?_eq_some hm)
  have hone := List.find?_some hm
  rcases Bool.or_eq_true_iff.mp hone with hmaps | hreads
  · obtain ⟨hpath, hoffset⟩ := Mapping.maps_iff.mp hmaps
    exact ⟨hmaps, hpath ▸ (husual hoffset).solid⟩
  · refine ⟨?_, Mapping.solid_of_readsAs hreads⟩
    obtain ⟨⟨shown, hshown, hsame⟩, hoffset⟩ := Mapping.readsAs_iff.mp hreads
    -- the only word of the path is the path
    have hne : m.path ≠ "" := by
      intro hempty
      simp [Mapping.shownPath?, hempty, words] at hshown
    rw [Mapping.shownPath?_of_solid (husual hoffset).solid hne] at hshown
    rw [← Option.some.inj hshown] at hsame
    obtain ⟨other, hother, hpath⟩ := (husual hoffset).place (samePath_root hsame)
    rw [hpath] at hsame
    rw [eq_of_samePath hother hplace hsame] at hpath
    exact Mapping.maps_iff.mpr ⟨hpath, hoffset⟩

/-- **When the mapping of the image is found.** In plain listings the answer is where the first
mapping of the image from the beginning of its file starts, and that there is none if there is none.
In all others it is not, as mappings of one process do not start at the same address. -/
theorem mappingBase?_listing_iff (entries : List Mapping) (place : Place) :
    (Plain entries place.path →
        mappingBase? (listing entries) place.path = startOf entries place.path) ∧
      ((entries.map (·.start.toNat)).Nodup →
        mappingBase? (listing entries) place.path = startOf entries place.path →
          Plain entries place.path) := by
  rw [mappingBase?_listing]
  unfold startOf
  constructor
  · intro hplain
    refine congrArg (Option.map _) (find?_eq_find? fun m hm => ?_).symm
    obtain ⟨hmaps, hsolid⟩ := hplain m hm
    exact ⟨hmaps, (Mapping.readsAs_iff_solid hmaps).mpr hsolid⟩
  · intro hstarts heq m hm
    have hreads : m.maps place.path = true → m.readsAs place.path = true := by
      intro hmaps
      have hfirst := find?_eq_of_imp hm (fun y hy => by simp [hy]) hmaps
      exact List.find?_some (find?_of_map_eq hstarts hfirst heq.symm)
    have hmaps : m.readsAs place.path = true → m.maps place.path = true := by
      intro hreads
      have hfirst := find?_eq_of_imp hm (fun y hy => by simp [hy]) hreads
      exact List.find?_some (find?_of_map_eq hstarts hfirst heq)
    have hone := List.find?_some hm
    rcases Bool.or_eq_true_iff.mp hone with h | h
    · exact ⟨h, Mapping.solid_of_readsAs (hreads h)⟩
    · exact ⟨hmaps h, Mapping.solid_of_readsAs h⟩

/-- The mappings of a program and of another one from the same folder, and a stack. -/
def usualEntries : List Mapping :=
  [⟨0x5581a0000000, 0x5581a0001000, true, false, false, false, 0, 8, 1, 1234, 24,
      "/usr/bin/other", by simp⟩,
    ⟨0x5581b0000000, 0x5581b0002000, true, false, true, false, 0x1000, 8, 1, 99, 26,
      "/usr/bin/app", by simp⟩,
    ⟨0x5581b0002000, 0x5581b0004000, true, false, false, false, 0, 8, 1, 99, 26,
      "/usr/bin/app", by simp⟩,
    ⟨0x7ffd00000000, 0x7ffd00021000, true, true, false, false, 0, 0, 0, 0, 28, "[stack]", by simp⟩]

theorem mappingBase?_usualEntries :
    let app : Place := ["usr", "bin", "app"]
    Plain usualEntries app.path ∧
      mappingBase? (listing usualEntries) app.path = some 0x5581b0002000 := by
  intro app
  have hproper : app.Proper := by
    unfold Place.Proper
    decide
  have hother : Place.Proper ["usr", "bin", "other"] := by
    unfold Place.Proper
    decide
  have hplain : Plain usualEntries app.path := by
    refine plain_of_usual hproper fun m hm _ => ?_
    simp only [usualEntries, List.mem_cons, List.not_mem_nil, or_false] at hm
    rcases hm with rfl | rfl | rfl | rfl
    · exact ⟨by decide, fun _ => ⟨_, hother, by simp [Place.path]⟩⟩
    · exact ⟨by decide, fun _ => ⟨_, hproper, by simp [app, Place.path]⟩⟩
    · exact ⟨by decide, fun _ => ⟨_, hproper, by simp [app, Place.path]⟩⟩
    · exact ⟨by decide, fun hroot => by simp at hroot⟩
  refine ⟨hplain, ?_⟩
  rw [(mappingBase?_listing_iff usualEntries app).1 hplain]
  simp [startOf, usualEntries, Mapping.maps, app, Place.path]

/-- Memory that is mapped from the beginning of a file. -/
def fromBeginning (start stop : UInt64) (path : String) (h : '\n' ∉ path.toList) : Mapping :=
  ⟨start, stop, true, false, true, false, 0, 8, 1, 99, 26, path, h⟩

/-- A program with a blank in its path is not found, and one that has taken the place of a deleted
program is taken for that. -/
theorem blankInPath_misread :
    let spaced := [fromBeginning 0x5581b0000000 0x5581b0002000 "/opt/my app/host" (by simp)]
    let replaced := [fromBeginning 0x1000 0x2000 "/opt/app (deleted)" (by simp),
      fromBeginning 0x3000 0x4000 "/opt/app" (by simp)]
    (mappingBase? (listing spaced) "/opt/my app/host" = none ∧
        startOf spaced "/opt/my app/host" = some 0x5581b0000000) ∧
      (mappingBase? (listing replaced) "/opt/app" = some 0x1000 ∧
        startOf replaced "/opt/app" = some 0x3000) := by
  intro spaced replaced
  have hspaced : ∀ m ∈ spaced, ¬ m.readsAs "/opt/my app/host" = true := by
    intro m _ hreads
    exact absurd (Mapping.solid_of_readsAs hreads ' ' (by decide)) (by decide)
  have happ : samePath "/opt/app" "/opt/app" = true := samePath_path ["opt", "app"]
  have hreplaced : (fromBeginning 0x1000 0x2000 "/opt/app (deleted)" (by simp)).readsAs
      "/opt/app" = true := Mapping.readsAs_iff.mpr ⟨⟨"/opt/app", by decide, happ⟩, rfl⟩
  rw [mappingBase?_listing, mappingBase?_listing, List.find?_eq_none.mpr hspaced,
    List.find?_cons_of_pos hreplaced]
  refine ⟨⟨rfl, ?_⟩, rfl, ?_⟩
  · simp [startOf, spaced, Mapping.maps, fromBeginning]
  · simp [startOf, replaced, Mapping.maps, fromBeginning]

end DeviceCode.Host

import DeviceCode.Elf.Draft
import DeviceCode.Host.Image
import DeviceCode.Proofs.Elf.FirstTables
import DeviceCode.Proofs.Maps
import Mathlib.Data.Finset.Card

/-!
# What the host index answers

The index of a host image is filled name by name. What it answers is a search that needs no index:
the first definition of the name in the static table, and the first in the dynamic table when there
is none (`Image.ofBytes_indexes`). The load bias only moves the addresses.
-/

namespace DeviceCode

/-- The keys of a map that differ can be counted. -/
theorem Assoc.size_eq_card {κ α : Type} [DecidableEq κ] {m : Assoc κ α} (h : m.keys.Nodup)
    {keys : Finset κ} (hkeys : ∀ k, (m.get? k).isSome = true ↔ k ∈ keys) : m.size = keys.card := by
  have hsame : m.keys.toFinset = keys := by
    ext k
    rw [List.mem_toFinset, mem_keys, hkeys]
  rw [← hsame, List.toFinset_card_of_nodup h]
  exact (List.length_map _).symm

namespace Elf.Symbol

/-- The symbol defines a name. -/
def Defines (d : Symbol) (name : String) : Prop := d.name = name ∧ d.sectionIndex ≠ 0

instance (d : Symbol) (name : String) : Decidable (d.Defines name) :=
  inferInstanceAs (Decidable (_ ∧ _))

theorem isDefinition_iff {d : Symbol} :
    d.isDefinition = true ↔ d.name ≠ "" ∧ d.sectionIndex ≠ 0 := by
  unfold isDefinition isUndefined isNamed
  simp [and_comm]

/-- Among definitions, the first of a name is the first that defines the name. -/
theorem find?_isDefinition {name : String} (hname : name ≠ "") (ds : List Symbol) :
    (ds.filter isDefinition).find? (fun d => decide (d.name = name)) =
      ds.find? fun d => decide (d.Defines name) := by
  rw [List.find?_filter]
  congr 1
  funext d
  rw [Bool.eq_iff_iff, decide_eq_true_eq, decide_eq_true_eq, decide_eq_true_eq, isDefinition_iff]
  unfold Defines
  constructor
  · intro h
    exact ⟨h.2, h.1.2⟩
  · intro h
    exact ⟨⟨h.1 ▸ hname, h.2⟩, h.1⟩

end Elf.Symbol

namespace Host.Image

open Elf (Object SectionHeader)

variable {path : String} {bytes : Bytes} {bias : UInt64} {image : Image}

/-- Where a definition of the host program is, and how large. -/
def relocate (bias : UInt64) (d : Elf.Symbol) : Symbol := ⟨bias + d.value, d.size⟩

/-- The index of some definitions. -/
def ofDefinitions (path : String) (bias : UInt64) (ds : List Elf.Symbol) : Image where
  path
  loadBias := bias
  symbols := ds.foldl (fun known d => known.putNew d.name (relocate bias d)) {}

theorem index_eq (path : String) (o : Object) (bias : UInt64) :
    index path o bias = o.definitions.map (ofDefinitions path bias) := by
  unfold index Object.definitions
  cases o.symbolTable with
  | error e => rfl
  | ok static =>
    cases o.dynamicSymbolTable with
    | error e => rfl
    | ok dynamic =>
      refine congrArg Except.ok ?_
      unfold ofDefinitions
      rw [List.foldl_flatMap]
      rfl

theorem ofBytes_of_definitions {o : Object} {ds : List Elf.Symbol}
    (hparse : Object.parse bytes = .ok o) (hds : o.definitions = .ok ds) (path : String)
    (bias : UInt64) : ofBytes path bytes bias = .ok (ofDefinitions path bias ds) := by
  unfold ofBytes parse indexed
  rw [hparse]
  simp only [bind, Except.bind, index_eq, hds, Except.map]

theorem definitions_of_ofBytes (h : ofBytes path bytes bias = .ok image) :
    ∃ o ds, Object.parse bytes = .ok o ∧ o.definitions = .ok ds ∧
      image = ofDefinitions path bias ds := by
  unfold ofBytes parse indexed at h
  cases hparse : Object.parse bytes with
  | error e =>
    rw [hparse] at h
    cases h
  | ok o =>
    simp only [hparse, bind, Except.bind, index_eq] at h
    cases hds : o.definitions with
    | error e =>
      rw [hds] at h
      cases h
    | ok ds =>
      rw [hds] at h
      cases h
      exact ⟨o, ds, rfl, hds, rfl⟩

section Definitions

variable (path bias)

/-- Looking a name up is a search through the definitions. -/
theorem lookup?_ofDefinitions (ds : List Elf.Symbol) (name : String) :
    (ofDefinitions path bias ds).lookup? name =
      (ds.find? fun d => decide (d.name = name)).map (relocate bias) :=
  Assoc.get?_foldl_putNew _ _ _ _ _

theorem lookup?_isSome_iff (ds : List Elf.Symbol) (name : String) :
    ((ofDefinitions path bias ds).lookup? name).isSome = true ↔ name ∈ ds.map (·.name) := by
  rw [lookup?_ofDefinitions, Option.isSome_map, List.find?_isSome, List.mem_map]
  simp only [decide_eq_true_eq]

end Definitions

/-- The names of an index are those of its definitions, each counted once. -/
theorem size_ofDefinitions (ds : List Elf.Symbol) :
    (ofDefinitions path bias ds).symbols.size = (ds.map (·.name)).toFinset.card := by
  have hnodup : (ofDefinitions path bias ds).symbols.keys.Nodup :=
    Assoc.keys_foldl_putNew_nodup _ _ ds (m := {}) List.nodup_nil
  refine Assoc.size_eq_card hnodup fun name => ?_
  rw [List.mem_toFinset]
  exact lookup?_isSome_iff path bias ds name

/-- Another load bias moves all addresses by the same distance. -/
theorem lookup?_shifted (ds : List Elf.Symbol) (path' : String) (bias' : UInt64) (name : String) :
    Option.Rel (fun x y : Symbol => y.address - x.address = bias' - bias ∧ y.size = x.size)
      ((ofDefinitions path bias ds).lookup? name)
      ((ofDefinitions path' bias' ds).lookup? name) := by
  rw [lookup?_ofDefinitions, lookup?_ofDefinitions]
  cases ds.find? fun d => decide (d.name = name) with
  | none => exact .none
  | some d =>
    refine .some ⟨?_, rfl⟩
    show bias' + d.value - (bias + d.value) = bias' - bias
    rw [← UInt64.toBitVec_inj]
    simp only [UInt64.toBitVec_sub, UInt64.toBitVec_add]
    bv_omega

/-- **The index answers a search by precedence.** A name is known if it is not empty and an entry of
the first static or the first dynamic symbol table defines it. The first such entry of the static
table counts, and the first of the dynamic one if there is none; its value is taken relative to the
load bias, modulo `2 ^ 64`. Indices of the same bytes know the same names, and all their addresses
are as far apart as the load biases. -/
theorem ofBytes_indexes (h : ofBytes path bytes bias = .ok image) :
    ∃ o static dynamic, Object.parse bytes = .ok o ∧
      o.FirstEntries SectionHeader.symtab static ∧ o.FirstEntries SectionHeader.dynsym dynamic ∧
      (∀ name, (image.lookup? name).isSome = true ↔
        name ≠ "" ∧ ∃ d ∈ static ++ dynamic, d.Defines name) ∧
      (∀ name, name ≠ "" → image.lookup? name =
        ((static.find? fun d => decide (d.Defines name)).or
          (dynamic.find? fun d => decide (d.Defines name))).map (relocate bias)) ∧
      image.symbols.size =
        (((static ++ dynamic).filter fun d => decide (d.name ≠ "" ∧ d.sectionIndex ≠ 0)).map
          (·.name)).toFinset.card ∧
      ∀ path' bias', ∃ image', ofBytes path' bytes bias' = .ok image' ∧ ∀ name,
        Option.Rel (fun x y : Symbol => y.address - x.address = bias' - bias ∧ y.size = x.size)
          (image.lookup? name) (image'.lookup? name) := by
  obtain ⟨o, ds, hparse, hds, rfl⟩ := definitions_of_ofBytes h
  obtain ⟨static, dynamic, hstatic, hdynamic, hfilter⟩ := Object.definitions_first hds
  refine ⟨o, static, dynamic, hparse, hstatic, hdynamic, fun name => ?_, fun name hname => ?_, ?_,
    fun path' bias' => ?_⟩
  · rw [lookup?_isSome_iff, hfilter]
    simp only [List.mem_map, List.mem_filter, Elf.Symbol.isDefinition_iff, Elf.Symbol.Defines]
    constructor
    · intro hmem
      obtain ⟨d, ⟨hd, hnamed, hdefined⟩, rfl⟩ := hmem
      exact ⟨hnamed, d, hd, rfl, hdefined⟩
    · intro hknown
      obtain ⟨hnamed, d, hd, rfl, hdefined⟩ := hknown
      exact ⟨d, ⟨hd, hnamed, hdefined⟩, rfl⟩
  · rw [lookup?_ofDefinitions, hfilter, Elf.Symbol.find?_isDefinition hname, List.find?_append]
  · have hsame : ∀ d ∈ static ++ dynamic,
        d.isDefinition = decide (d.name ≠ "" ∧ d.sectionIndex ≠ 0) := fun d _ => by
      rw [Bool.eq_iff_iff, Elf.Symbol.isDefinition_iff, decide_eq_true_eq]
    rw [size_ofDefinitions, hfilter, List.filter_congr hsame]
  · exact ⟨_, ofBytes_of_definitions hparse hds path' bias', lookup?_shifted ds path' bias'⟩

/-- A host program with `table` in both tables, and `late` undefined in the static one. -/
def sharedNames : Elf.Draft where
  symbols := [.undefined "late", .object "table" 8 4, .object "table" 16 2]
  dynamic := [.object "table" 32 1, .function "late" 0 7]

/-- Its index when it runs four bytes below the end of the address space. -/
def sharedIndex : Image where
  path := "host"
  loadBias := 0xfffffffffffffffc
  symbols := ⟨[("late", ⟨0xfffffffffffffffc, 7⟩), ("table", ⟨4, 4⟩)]⟩

theorem sharedNames_indexed :
    ofBytes "host" sharedNames.encode 0xfffffffffffffffc = .ok sharedIndex ∧
      ∃ o static dynamic, Object.parse sharedNames.encode = .ok o ∧
        o.FirstEntries SectionHeader.symtab static ∧
        o.FirstEntries SectionHeader.dynsym dynamic ∧
        ((static.find? fun d => decide (d.Defines "table")).or
          (dynamic.find? fun d => decide (d.Defines "table"))).map
            (relocate 0xfffffffffffffffc) = some ⟨4, 4⟩ ∧
        ∃ image', ofBytes "host" sharedNames.encode 0 = .ok image' ∧
          ∃ x, image'.lookup? "table" = some x ∧ x.address - 4 = 4 := by
  have hindex : ofBytes "host" sharedNames.encode 0xfffffffffffffffc = .ok sharedIndex := by
    decide +kernel
  have htable : sharedIndex.lookup? "table" = some ⟨4, 4⟩ := by decide
  obtain ⟨o, static, dynamic, hparse, hstatic, hdynamic, -, hlookup, -, hbiased⟩ :=
    ofBytes_indexes hindex
  obtain ⟨image', himage', hshifted⟩ := hbiased "host" 0
  have hrel := hshifted "table"
  rw [htable] at hrel
  cases hfound : image'.lookup? "table" with
  | none =>
    rw [hfound] at hrel
    cases hrel
  | some x =>
    rw [hfound] at hrel
    obtain ⟨⟨hdistance, -⟩⟩ := hrel
    exact ⟨hindex, o, static, dynamic, hparse, hstatic, hdynamic,
      (hlookup "table" (by decide)).symm.trans htable, image', himage', x, hfound, hdistance⟩

end Host.Image

end DeviceCode

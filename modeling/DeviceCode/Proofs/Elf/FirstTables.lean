import DeviceCode.Elf.Object

/-!
# The tables in which names are looked up

Where a symbol is looked up by its name, two tables count: the one in the first static symbol
section and the one in the first dynamic symbol section. `FirstEntries` says what is in such a table
without reading it the way the reader does, and `definitions_first` that the definitions are looked
at in the order of the static entries and then the dynamic ones.
-/

namespace DeviceCode.Elf.Object

variable (o : Object)

/-- What the first section of a kind lists, in table order. -/
inductive FirstEntries (kind : UInt32) : List Symbol → Prop
  /-- No section is of this kind. -/
  | absent (h : ∀ s ∈ o.sections, s.kind ≠ kind) : FirstEntries kind []
  | read {index : Nat} {s : SectionHeader} {table : SymbolTable}
      (hat : o.sections[index]? = some s) (hkind : s.kind = kind)
      (hfirst : ∀ s' ∈ o.sections.take index, s'.kind ≠ kind)
      (hread : o.readSymbols index s = .ok table) : FirstEntries kind table.symbols

/-- The definitions that are looked at for a name, in the order in which they count. -/
def definitions : Except Error (List Symbol) := do
  let static ← o.symbolTable
  let dynamic ← o.dynamicSymbolTable
  return (static.toList ++ dynamic.toList).flatMap SymbolTable.definitions

variable {o} {kind : UInt32}

theorem firstTable_first {table : Option SymbolTable} (h : o.firstTable kind = .ok table) :
    o.FirstEntries kind (table.elim [] (·.symbols)) := by
  unfold firstTable findKind? at h
  cases hfind : o.sections.findIdx? (·.kind == kind) with
  | none =>
    rw [hfind] at h
    cases h
    refine .absent fun s hs => ?_
    simpa using List.findIdx?_eq_none_iff.mp hfind s hs
  | some index =>
    obtain ⟨hindex, hkind, hbefore⟩ := List.findIdx?_eq_some_iff_getElem.mp hfind
    have hat : o.sections[index]? = some o.sections[index] := List.getElem?_eq_getElem hindex
    have hfirst : ∀ s' ∈ o.sections.take index, s'.kind ≠ kind := by
      intro s' hs'
      obtain ⟨j, hj, rfl⟩ := List.mem_take_iff_getElem.mp hs'
      simpa using hbefore j (by omega)
    rw [hfind, Option.bind_some, symbolTableAt, hat, Option.map_some] at h
    cases hread : o.readSymbols index o.sections[index] with
    | error e =>
      rw [hread] at h
      cases h
    | ok t =>
      rw [hread] at h
      cases h
      exact .read hat (beq_iff_eq.mp hkind) hfirst hread

theorem definitions_ok {ds : List Symbol} (h : o.definitions = .ok ds) :
    ∃ static dynamic, o.symbolTable = .ok static ∧ o.dynamicSymbolTable = .ok dynamic ∧
      ds = (static.toList ++ dynamic.toList).flatMap SymbolTable.definitions := by
  unfold definitions at h
  cases hstatic : o.symbolTable with
  | error e =>
    rw [hstatic] at h
    cases h
  | ok static =>
    cases hdynamic : o.dynamicSymbolTable with
    | error e =>
      rw [hstatic, hdynamic] at h
      cases h
    | ok dynamic =>
      rw [hstatic, hdynamic] at h
      cases h
      exact ⟨static, dynamic, rfl, rfl, rfl⟩

/-- **The order of definitions**: those of the static table, then those of the dynamic one. -/
theorem definitions_first {ds : List Symbol} (h : o.definitions = .ok ds) :
    ∃ static dynamic, o.FirstEntries SectionHeader.symtab static ∧
      o.FirstEntries SectionHeader.dynsym dynamic ∧
      ds = (static ++ dynamic).filter Symbol.isDefinition := by
  obtain ⟨static, dynamic, hstatic, hdynamic, rfl⟩ := definitions_ok h
  refine ⟨_, _, firstTable_first hstatic, firstTable_first hdynamic, ?_⟩
  rw [List.flatMap_append, List.filter_append]
  cases static <;> cases dynamic <;> simp [SymbolTable.definitions]

end DeviceCode.Elf.Object

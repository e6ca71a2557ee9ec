import DeviceCode.Proofs.Elf.ReadBack

/-!
# What a reader gets back of a draft

`Object.Recovers` collects it: the type and the machine, the sections in order with their names,
kinds, sizes and plain data, and each symbol table with the null symbol in front of the drafted
ones. `Draft.encode_recovered` holds for every encodable draft.
-/

namespace DeviceCode.Elf

/-- What the reader reports of a section. -/
structure SectionView where
  name : Option String
  kind : UInt32
  size : Nat
  /-- The bytes in the range of a section of plain data. -/
  data : Option Bytes
  deriving DecidableEq, Repr

def Object.view (o : Object) (s : SectionHeader) : SectionView where
  name := o.sectionName? s
  kind := s.kind
  size := s.size.toNat
  data :=
    if s.kind = SectionHeader.progbits then
      some (Bytes.slice o.bytes s.offset.toNat s.size.toNat)
    else none

/-- The symbol that a table starts with. -/
def Symbol.null : Symbol := ⟨"", 0, 0, 0, .untyped, 0⟩

/-- A drafted symbol as the reader resolves it; binding is global. -/
def DraftSymbol.resolved (s : DraftSymbol) : Symbol where
  name := s.name
  value := s.value
  size := s.size
  sectionIndex := if s.isDefined then 1 else 0
  kind := .ofCode s.kind
  binding := 1

namespace Draft

/-- The two sections that a list of symbols asks for. -/
def viewSymbols (name : String) (kind : UInt32) (namesName : String)
    (symbols : List DraftSymbol) : List SectionView :=
  if symbols = [] then []
  else
    [⟨some name, kind, 24 * (symbols.length + 1), none⟩,
     ⟨some namesName, SectionHeader.strtab, nameRoom (symbols.map (·.name)), none⟩]

def viewExtra : DraftSection → SectionView
  | .data name bytes => ⟨some name, SectionHeader.progbits, bytes.length, some bytes⟩
  | .room name size => ⟨some name, SectionHeader.nobits, size.toNat, none⟩

variable (d : Draft)

/-- The sections that a draft asks for, in order. -/
def views : List SectionView :=
  [⟨some "", 0, 0, none⟩, ⟨some ".text", SectionHeader.progbits, d.text.length, some d.text⟩]
    ++ viewSymbols ".dynsym" SectionHeader.dynsym ".dynstr" d.dynamic
    ++ viewSymbols ".symtab" SectionHeader.symtab ".strtab" d.symbols
    ++ [⟨some ".shstrtab", SectionHeader.strtab, nameRoom d.sectionNames, none⟩]
    ++ d.extras.map viewExtra

/-- The table of these symbols in section `index`; none when there are none. -/
def tableOf (index : Nat) (symbols : List DraftSymbol) : Option SymbolTable :=
  if symbols = [] then none
  else some ⟨index, Symbol.null :: symbols.map DraftSymbol.resolved⟩

end Draft

/-- The object says what the draft asked for. -/
structure Object.Recovers (o : Object) (d : Draft) : Prop where
  bytes : o.bytes = d.encode
  kind : o.header.kind = d.kind
  machine : o.header.machine = d.machine
  sections : o.sections.map o.view = d.views
  dynamic : o.dynamicSymbolTable = .ok (Draft.tableOf 2 d.dynamic)
  static : o.symbolTable = .ok (Draft.tableOf (if d.dynamic = [] then 2 else 4) d.symbols)

namespace Draft

variable {d : Draft}

/-! ## Sections -/

/-- The view of a section, from its plan. -/
def Planned.view (p : Planned) : SectionView where
  name := some p.name
  kind := p.kind
  size := if p.kind = SectionHeader.nobits then p.room.toNat else p.bytes.length
  data := if p.kind = SectionHeader.progbits then some p.bytes else none

theorem Describes.view {s : SectionHeader} {p : Planned} (h : d.Describes s p)
    (hd : d.Encodable) : d.object.view s = p.view := by
  have hname : d.object.sectionName? s = some p.name := h.name
  have hsize : s.size.toNat =
      if p.kind = SectionHeader.nobits then p.room.toNat else p.bytes.length := by
    split
    · next hp => rw [h.size, Planned.size, if_pos hp]
    · next hp => exact h.size_bytes hd hp
  have hdata : (if s.kind = SectionHeader.progbits then
      some (Bytes.slice d.encode s.offset.toNat s.size.toNat) else none) =
        if p.kind = SectionHeader.progbits then some p.bytes else none := by
    rw [h.kind]
    split
    · next hp => rw [h.slice hd (by rw [hp]; decide)]
    · rfl
  exact (SectionView.mk.injEq ..).mpr ⟨hname, h.kind, hsize, hdata⟩

theorem map_view (hd : d.Encodable) :
    d.object.sections.map d.object.view = d.plan.map Planned.view := by
  apply List.ext_getElem?
  intro i
  rw [List.getElem?_map, List.getElem?_map]
  cases hp : d.plan[i]? with
  | none =>
    have hlen : d.object.sections.length = d.plan.length := length_headers d
    have : d.object.sections[i]? = none := by
      rw [List.getElem?_eq_none_iff] at hp ⊢
      omega
    rw [this]
    rfl
  | some p =>
    obtain ⟨s, hs, hdesc⟩ := describes_of_plan hd hp
    have hs' : d.object.sections[i]? = some s := hs
    rw [hs', Option.map_some, Option.map_some, hdesc.view hd]

/-- The entries of the table of these symbols. -/
def entries (symbols : List DraftSymbol) : List SymbolEntry :=
  nullEntry :: List.zipWith entryOf symbols (nameOffsets (symbols.map (·.name)))

theorem length_entries (symbols : List DraftSymbol) :
    (entries symbols).length = symbols.length + 1 := by
  simp only [entries, List.length_cons, List.length_zipWith, length_nameOffsets, List.length_map,
    Nat.min_self]

def entryBytes (symbols : List DraftSymbol) : Bytes :=
  (entries symbols).flatMap (·.encode format)

theorem length_entryBytes (symbols : List DraftSymbol) :
    (entryBytes symbols).length = 24 * (symbols.length + 1) := by
  rw [entryBytes, Bytes.length_flatMap (SymbolEntry.length_encode rfl), length_entries]
  rfl

/-- The section of these symbols, when it is the `index`-th. -/
def symbolSection (index : Nat) (name : String) (kind : UInt32) (symbols : List DraftSymbol) :
    Planned :=
  { name, kind, flags := 2, bytes := entryBytes symbols, room := 0,
    link := UInt32.ofNat (index + 1), info := 1,
    entrySize := UInt64.ofNat format.symbolEntrySize }

/-- The section of the names of these symbols. -/
def namesSection (name : String) (symbols : List DraftSymbol) : Planned :=
  plain name SectionHeader.strtab 2 (nameTable (symbols.map (·.name)))

theorem planSymbols_of_ne {symbols : List DraftSymbol} (hne : symbols ≠ []) (index : Nat)
    (name : String) (kind : UInt32) (namesName : String) :
    planSymbols index name kind namesName symbols =
      [symbolSection index name kind symbols, namesSection namesName symbols] := by
  rw [planSymbols, if_neg (by rwa [List.isEmpty_iff])]
  rfl

theorem view_planSymbols (index : Nat) (name : String) {kind : UInt32} (namesName : String)
    (symbols : List DraftSymbol) (hkind : kind ≠ SectionHeader.nobits)
    (hplain : kind ≠ SectionHeader.progbits) :
    (planSymbols index name kind namesName symbols).map Planned.view =
      viewSymbols name kind namesName symbols := by
  by_cases hne : symbols = []
  · subst hne
    rfl
  · have hsymbols : (symbolSection index name kind symbols).view =
        ⟨some name, kind, 24 * (symbols.length + 1), none⟩ := by
      rw [Planned.view, symbolSection, if_neg hkind, if_neg hplain, length_entryBytes]
    have hnames : (namesSection namesName symbols).view =
        ⟨some namesName, SectionHeader.strtab, nameRoom (symbols.map (·.name)), none⟩ := by
      rw [← length_nameTable]
      rfl
    rw [planSymbols_of_ne hne, viewSymbols, if_neg hne, List.map_cons, List.map_cons, hsymbols,
      hnames, List.map_nil]

theorem planned_views : d.plan.map Planned.view = d.views := by
  have hextra : ∀ s : DraftSection, (planExtra s).view = viewExtra s := by
    intro s
    cases s <;> rfl
  have hnames : (plain ".shstrtab" SectionHeader.strtab 0 (nameTable d.sectionNames)).view =
      ⟨some ".shstrtab", SectionHeader.strtab, nameRoom d.sectionNames, none⟩ := by
    rw [← length_nameTable]
    rfl
  have hextras : (d.extras.map planExtra).map Planned.view = d.extras.map viewExtra := by
    rw [List.map_map]
    exact List.map_congr_left fun s _ => hextra s
  simp only [plan, planLeading, List.map_append, List.map_cons, hnames, hextras]
  rw [view_planSymbols _ _ _ _ (by decide) (by decide),
    view_planSymbols _ _ _ _ (by decide) (by decide)]
  simp only [views, List.append_assoc]
  rfl

/-! ## Symbols -/

/-- Binding and kind share a byte without touching each other. -/
theorem split_info {kind : UInt8} (hkind : kind < 16) :
    (0x10 ||| kind) &&& 0xf = kind ∧ (0x10 ||| kind) >>> 4 = 1 := by
  have h : ∀ k : Fin 16, (0x10 ||| UInt8.ofNat k) &&& 0xf = UInt8.ofNat k ∧
      (0x10 ||| UInt8.ofNat k) >>> 4 = 1 := by decide
  have := h ⟨kind.toNat, UInt8.lt_iff_toNat_lt.mp hkind⟩
  rwa [UInt8.ofNat_toNat] at this

theorem ofEntry_null (names : List String) :
    Symbol.ofEntry ⟨nameTable names⟩ nullEntry = Symbol.null := by
  have hempty : Nameable "" := by decide
  have hname : StringTable.nameAt? ⟨nameTable names⟩ 0 = some "" :=
    nameAt?_length hempty [] (packNames 1 names).2
  have hname' : (StringTable.nameAt? ⟨nameTable names⟩ nullEntry.name.toNat).getD "" = "" :=
    congrArg (·.getD "") hname
  exact (Symbol.mk.injEq ..).mpr ⟨hname', rfl, rfl, rfl, rfl, rfl⟩

theorem ofEntry_entryOf {names : StringTable} {s : DraftSymbol} {offset : Nat}
    (hname : names.nameAt? offset = some s.name) (hoffset : offset < UInt32.size)
    (hkind : s.kind < 16) : Symbol.ofEntry names (entryOf s offset) = s.resolved := by
  obtain ⟨hlow, hhigh⟩ := split_info hkind
  have hname' : (names.nameAt? (UInt32.ofNat offset).toNat).getD "" = s.name := by
    rw [UInt32.toNat_ofNat_of_lt' hoffset, hname]
    rfl
  exact (Symbol.mk.injEq ..).mpr ⟨hname', rfl, rfl, rfl, congrArg SymbolKind.ofCode hlow, hhigh⟩

theorem map_entryOf {names : StringTable} {symbols : List DraftSymbol} {offsets : List Nat}
    (hfound : offsets.map names.nameAt? = symbols.map fun s => some s.name)
    (hoffsets : ∀ offset ∈ offsets, offset < UInt32.size) (hkinds : ∀ s ∈ symbols, s.kind < 16) :
    (List.zipWith entryOf symbols offsets).map (Symbol.ofEntry names) =
      symbols.map DraftSymbol.resolved := by
  induction symbols generalizing offsets with
  | nil => rfl
  | cons s rest ih =>
    cases offsets with
    | nil => nomatch hfound
    | cons offset offsets =>
      obtain ⟨hname, hfound⟩ := List.cons.inj hfound
      have hrest := ih hfound (fun o h => hoffsets o (List.mem_cons_of_mem _ h))
        (fun s h => hkinds s (List.mem_cons_of_mem _ h))
      rw [List.zipWith_cons_cons, List.map_cons, List.map_cons, hrest,
        ofEntry_entryOf hname (hoffsets offset List.mem_cons_self) (hkinds s List.mem_cons_self)]

theorem map_entries {symbols : List DraftSymbol} (h : Listable symbols) :
    (entries symbols).map (Symbol.ofEntry ⟨nameTable (symbols.map (·.name))⟩) =
      Symbol.null :: symbols.map DraftSymbol.resolved := by
  have hnames : ∀ name ∈ symbols.map (·.name), Nameable name := by
    intro name hname
    obtain ⟨s, hs, rfl⟩ := List.mem_map.mp hname
    exact h.names s hs
  have hfound := nameOffsets_found hnames
  rw [List.map_map] at hfound
  have hoffsets : ∀ offset ∈ nameOffsets (symbols.map (·.name)), offset < UInt32.size :=
    fun offset hoffset => Nat.lt_trans (nameOffsets_lt _ offset hoffset) h.room
  rw [entries, List.map_cons, ofEntry_null, map_entryOf hfound hoffsets h.kinds]

/-- The entries are read where their section says. -/
theorem readEntries?_encode (hd : d.Encodable) {s : SectionHeader} {index : Nat} {name : String}
    {kind : UInt32} {symbols : List DraftSymbol} (hkind : kind ≠ SectionHeader.nobits)
    (hdesc : d.Describes s (symbolSection index name kind symbols)) :
    d.object.readEntries? s = some (entries symbols) := by
  have hsize : s.size.toNat = 24 * (symbols.length + 1) := by
    rw [hdesc.size_bytes hd hkind, symbolSection, length_entryBytes]
  have hcount : s.size.toNat / 24 = (entries symbols).length := by
    rw [hsize, length_entries]
    omega
  have hstored := hdesc.stored
  have hin := hdesc.holds hd hkind
  rw [Planned.stored_of_ne hkind] at hstored
  obtain ⟨rest, hread⟩ :=
    hstored.read (Reader.times_takes (SymbolEntry.decode_takes rfl) (entries symbols))
  -- there is a null entry at least, so the table does not start at the end of the image
  have hstart : s.offset.toNat < d.object.bytes.length := by
    rw [Bytes.Holds, hsize] at hin
    have : d.object.bytes = d.encode := rfl
    rw [this]
    omega
  rw [← hcount] at hread
  have hread' : (Reader.times (s.size.toNat / d.object.header.format.symbolEntrySize)
      (SymbolEntry.decode d.object.header.format)).run (d.object.bytes.drop s.offset.toNat) =
        some (entries symbols, rest) := hread
  simp only [Object.readEntries?]
  rw [if_pos hstart, hread']
  rfl

/-- A symbol section with its name section behind it is read as the table of its symbols. -/
theorem symbolTableAt_encode (hd : d.Encodable) {index : Nat} {name namesName : String}
    {kind : UInt32} {symbols : List DraftSymbol} (hkind : kind ≠ SectionHeader.nobits)
    (hsymbols : Listable symbols)
    (hsection : d.plan[index]? = some (symbolSection index name kind symbols))
    (hnames : d.plan[index + 1]? = some (namesSection namesName symbols)) :
    d.object.symbolTableAt index =
      some (.ok ⟨index, Symbol.null :: symbols.map DraftSymbol.resolved⟩) := by
  obtain ⟨s, hs, hdesc⟩ := describes_of_plan hd hsection
  obtain ⟨linked, hlinked, hlinkedDesc⟩ := describes_of_plan hd hnames
  have hlinkedKind : (namesSection namesName symbols).kind ≠ SectionHeader.nobits := by
    simp only [namesSection, plain]
    decide
  -- the checks of the reader, in its order: entry size, range, link, range of what is linked
  have hentry : ¬ (s.entrySize ≠ 0 ∧
      s.entrySize.toNat ≠ d.object.header.format.symbolEntrySize) := by
    rw [hdesc.entrySize]
    exact fun h => h.2 rfl
  have hlink : s.link.toNat = index + 1 := by
    have hlt : index + 1 < d.plan.length := (List.getElem?_eq_some_iff.mp hnames).1
    have hcount : d.plan.length < UInt32.size := Nat.lt_trans hd.count (by decide)
    rw [hdesc.link, symbolSection, UInt32.toNat_ofNat_of_lt' (Nat.lt_trans hlt hcount)]
  have hfound : d.object.sections[s.link.toNat]?.filter SectionHeader.hasFileData =
      some linked := by
    have hlinked' : d.object.sections[s.link.toNat]? = some linked := by
      rw [hlink]
      exact hlinked
    rw [hlinked', Option.filter_some, if_pos (hlinkedDesc.hasFileData hlinkedKind)]
  have htable : StringTable.ofBytes?
      (Bytes.slice d.object.bytes linked.offset.toNat linked.size.toNat) =
        some ⟨nameTable (symbols.map (·.name))⟩ := by
    have hslice := hlinkedDesc.slice hd hlinkedKind
    have : d.object.bytes = d.encode := rfl
    rw [this, hslice]
    exact ofBytes?_nameTable _
  have hs' : d.object.sections[index]? = some s := hs
  have hin : Bytes.Holds d.object.bytes s.offset.toNat s.size.toNat := hdesc.holds hd hkind
  have hlinkedIn : Bytes.Holds d.object.bytes linked.offset.toNat linked.size.toNat :=
    hlinkedDesc.holds hd hlinkedKind
  rw [Object.symbolTableAt, hs', Option.map_some, Object.readSymbols, if_neg hentry,
    if_neg (not_not_intro hin), hfound]
  dsimp only
  rw [if_neg (not_not_intro hlinkedIn), readEntries?_encode hd hkind hdesc, htable]
  dsimp only
  rw [map_entries hsymbols]

/-! ## The symbol tables -/

theorem findKind?_encode (hd : d.Encodable) (kind : UInt32) :
    d.object.findKind? kind = d.views.findIdx? (·.kind == kind) := by
  rw [← planned_views, ← map_view hd, List.findIdx?_map]
  rfl

/-- The extra sections hold no symbols. -/
theorem findIdx?_extras {kind : UInt32} (hplain : kind ≠ SectionHeader.progbits)
    (hroom : kind ≠ SectionHeader.nobits) (extras : List DraftSection) :
    (extras.map viewExtra).findIdx? (·.kind == kind) = none := by
  rw [List.findIdx?_eq_none_iff]
  intro view h
  obtain ⟨s, -, rfl⟩ := List.mem_map.mp h
  cases s with
  | data name bytes => exact beq_false_of_ne hplain.symm
  | room name size => exact beq_false_of_ne hroom.symm

theorem findKind?_dynsym (hd : d.Encodable) :
    d.object.findKind? SectionHeader.dynsym = if d.dynamic = [] then none else some 2 := by
  have hextras :
      (d.extras.map viewExtra).findIdx? (·.kind == SectionHeader.dynsym) = none :=
    findIdx?_extras (by decide) (by decide) d.extras
  rw [findKind?_encode hd, views]
  by_cases hdynamic : d.dynamic = []
  · rw [if_pos hdynamic, viewSymbols, if_pos hdynamic, viewSymbols]
    split <;> (rw [List.findIdx?_append, hextras]; rfl)
  · rw [if_neg hdynamic, viewSymbols, if_neg hdynamic, viewSymbols]
    split <;> (rw [List.findIdx?_append, hextras]; rfl)

theorem findKind?_symtab (hd : d.Encodable) :
    d.object.findKind? SectionHeader.symtab =
      if d.symbols = [] then none else some (if d.dynamic = [] then 2 else 4) := by
  have hextras :
      (d.extras.map viewExtra).findIdx? (·.kind == SectionHeader.symtab) = none :=
    findIdx?_extras (by decide) (by decide) d.extras
  rw [findKind?_encode hd, views]
  by_cases hsymbols : d.symbols = []
  · rw [if_pos hsymbols, viewSymbols, viewSymbols, if_pos hsymbols]
    split <;> (rw [List.findIdx?_append, hextras]; rfl)
  · rw [if_neg hsymbols, viewSymbols, viewSymbols, if_neg hsymbols]
    split <;> (rw [List.findIdx?_append, hextras]; rfl)

theorem dynamicSymbolTable_encode (hd : d.Encodable) :
    d.object.dynamicSymbolTable = .ok (tableOf 2 d.dynamic) := by
  by_cases hne : d.dynamic = []
  · rw [Object.dynamicSymbolTable, Object.firstTable, findKind?_dynsym hd, tableOf, if_pos hne,
      if_pos hne]
    rfl
  · have hsection : d.plan[2]? =
        some (symbolSection 2 ".dynsym" SectionHeader.dynsym d.dynamic) := by
      rw [plan, planLeading, planSymbols_of_ne hne]
      rfl
    have hnames : d.plan[3]? = some (namesSection ".dynstr" d.dynamic) := by
      rw [plan, planLeading, planSymbols_of_ne hne]
      rfl
    have htable := symbolTableAt_encode hd (by decide) hd.dynamic hsection hnames
    rw [Object.dynamicSymbolTable, Object.firstTable, findKind?_dynsym hd, tableOf, if_neg hne,
      if_neg hne, Option.bind_some, htable]
    rfl

theorem symbolTable_encode (hd : d.Encodable) :
    d.object.symbolTable = .ok (tableOf (if d.dynamic = [] then 2 else 4) d.symbols) := by
  by_cases hne : d.symbols = []
  · rw [Object.symbolTable, Object.firstTable, findKind?_symtab hd, tableOf, if_pos hne,
      if_pos hne]
    rfl
  · -- the dynamic symbols, if there are any, come first and take two sections
    have hplan : ∀ index, index = (if d.dynamic = [] then 2 else 4) →
        d.plan[index]? = some (symbolSection index ".symtab" SectionHeader.symtab d.symbols) ∧
          d.plan[index + 1]? = some (namesSection ".strtab" d.symbols) := by
      intro index hindex
      split at hindex
      · next hdynamic =>
        rw [hindex, plan, planLeading, hdynamic, planSymbols_of_ne hne]
        exact ⟨rfl, rfl⟩
      · next hdynamic =>
        rw [hindex, plan, planLeading, planSymbols_of_ne hdynamic, planSymbols_of_ne hne]
        exact ⟨rfl, rfl⟩
    obtain ⟨hsection, hnames⟩ := hplan _ rfl
    have htable := symbolTableAt_encode hd (by decide) hd.static hsection hnames
    rw [Object.symbolTable, Object.firstTable, findKind?_symtab hd, tableOf, if_neg hne,
      if_neg hne, Option.bind_some, htable]
    rfl

theorem object_recovers (hd : d.Encodable) : d.object.Recovers d where
  bytes := rfl
  kind := rfl
  machine := rfl
  sections := (map_view hd).trans planned_views
  dynamic := dynamicSymbolTable_encode hd
  static := symbolTable_encode hd

/-- Reading the encoding of a draft gives back everything it was to hold. -/
theorem encode_recovered (d : Draft) (hd : d.Encodable) :
    ∃ o, Object.parse d.encode = .ok o ∧ o.Recovers d :=
  ⟨d.object, parse_encode hd, object_recovers hd⟩

/-- A draft with both symbol tables, the section header table in front, and extra sections with
data, without bytes in the file, and empty. -/
def crowded : Draft where
  headersFirst := true
  text := [0x90, 0xc3]
  symbols := [.function "vadd" 0x10 8]
  dynamic := [.undefined "host_flag", .object "é" 0x20 4, .function "" 0 0]
  extras := [.data ".rodata" [1, 2, 3], .room ".bss" 4096, .data "" []]

theorem encode_recovered_crowded :
    crowded.Encodable ∧ ∃ o, Object.parse crowded.encode = .ok o ∧ o.Recovers crowded := by
  have hd : crowded.Encodable :=
    { withSections := rfl
      version := rfl
      count := by decide
      sectionRoom := by decide +kernel
      extraNames := by decide
      dynamic := by decide +kernel
      static := by decide +kernel
      image := by decide +kernel }
  exact ⟨hd, encode_recovered crowded hd⟩

end Draft

end DeviceCode.Elf

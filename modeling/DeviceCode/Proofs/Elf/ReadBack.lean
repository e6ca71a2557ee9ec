import DeviceCode.Elf.Object
import DeviceCode.Proofs.Elf.Layout

/-!
# Reading an encoded draft

A draft is `Encodable` when the format can express it. The reader then accepts its encoding and
finds the section headers that were written, and each of them `Describes` its section: same kind,
size, link and entry size, a name offset that leads to the name, and a range that holds the bytes.
-/

namespace DeviceCode.Elf

/-- What an extra section is called. -/
def DraftSection.name : DraftSection → String
  | .data name _ => name
  | .room name _ => name

namespace Draft

/-- The format can hold a table of these symbols: name offsets and kinds fit their fields, and no
name has the character that ends names. -/
structure Listable (symbols : List DraftSymbol) : Prop where
  room : nameRoom (symbols.map (·.name)) < UInt32.size
  names : ∀ s ∈ symbols, Nameable s.name
  kinds : ∀ s ∈ symbols, s.kind < 16

instance (symbols : List DraftSymbol) : Decidable (Listable symbols) :=
  decidable_of_iff
    (nameRoom (symbols.map (·.name)) < UInt32.size ∧ (∀ s ∈ symbols, Nameable s.name)
      ∧ ∀ s ∈ symbols, s.kind < 16)
    ⟨fun ⟨room, names, kinds⟩ => ⟨room, names, kinds⟩, fun h => ⟨h.room, h.names, h.kinds⟩⟩

/-- The format can hold the draft. That the image is shorter than the address space is what makes
the offsets into it exact. -/
structure Encodable (d : Draft) : Prop where
  withSections : d.withSections = true
  version : d.version = 1
  count : d.plan.length < 65536
  sectionRoom : nameRoom d.sectionNames < UInt32.size
  extraNames : ∀ s ∈ d.extras, Nameable s.name
  dynamic : Listable d.dynamic
  static : Listable d.symbols
  image : d.encode.length < UInt64.size

variable {d : Draft}

/-- `s` is the section header of the planned section `p` in the encoding of `d`. -/
structure Describes (d : Draft) (s : SectionHeader) (p : Planned) : Prop where
  kind : s.kind = p.kind
  size : s.size = p.size
  link : s.link = p.link
  entrySize : s.entrySize = p.entrySize
  name : StringTable.nameAt? ⟨nameTable d.sectionNames⟩ s.name.toNat = some p.name
  stored : Bytes.Carries d.encode s.offset.toNat p.stored

theorem Planned.stored_of_ne {p : Planned} (hp : p.kind ≠ SectionHeader.nobits) :
    p.stored = p.bytes :=
  if_neg hp

/-! ## Sections in the file -/

section Describes

variable {s : SectionHeader} {p : Planned}

theorem Describes.size_bytes (h : d.Describes s p) (hd : d.Encodable)
    (hp : p.kind ≠ SectionHeader.nobits) : s.size.toNat = p.bytes.length := by
  have hin := h.stored.holds
  have himage := hd.image
  rw [Planned.stored_of_ne hp, Bytes.Holds] at hin
  rw [h.size, Planned.size, if_neg hp, UInt64.toNat_ofNat_of_lt']
  exact Nat.lt_of_le_of_lt (Nat.le_trans (Nat.le_add_left _ _) hin) himage

theorem Describes.holds (h : d.Describes s p) (hd : d.Encodable)
    (hp : p.kind ≠ SectionHeader.nobits) :
    Bytes.Holds d.encode s.offset.toNat s.size.toNat := by
  have := h.stored.holds
  rwa [Planned.stored_of_ne hp, ← h.size_bytes hd hp] at this

theorem Describes.slice (h : d.Describes s p) (hd : d.Encodable)
    (hp : p.kind ≠ SectionHeader.nobits) :
    Bytes.slice d.encode s.offset.toNat s.size.toNat = p.bytes := by
  have := h.stored.slice
  rwa [Planned.stored_of_ne hp, ← h.size_bytes hd hp] at this

theorem Describes.hasFileData (h : d.Describes s p) (hp : p.kind ≠ SectionHeader.nobits) :
    s.hasFileData = true := by
  rw [SectionHeader.hasFileData, h.kind]
  exact bne_iff_ne.mpr hp

end Describes

/-! ## Section headers -/

variable (d) in
theorem sectionNames_eq : d.sectionNames = d.plan.map (·.name) := by
  simp only [sectionNames, plan, List.map_append, List.map_cons, List.map_map]
  rfl

theorem planSymbols_names {index : Nat} {name namesName : String} {kind : UInt32}
    {symbols : List DraftSymbol} (hname : Nameable name) (hnames : Nameable namesName) :
    ∀ p ∈ planSymbols index name kind namesName symbols, Nameable p.name := by
  intro p hp
  rw [planSymbols] at hp
  split at hp
  · nomatch hp
  · rcases List.mem_cons.mp hp with rfl | hp
    · exact hname
    · rw [List.mem_singleton.mp hp]
      exact hnames

theorem planExtra_name (s : DraftSection) : (planExtra s).name = s.name := by
  cases s <;> rfl

theorem Encodable.names (hd : d.Encodable) : ∀ name ∈ d.sectionNames, Nameable name := by
  have hfixed : Nameable "" ∧ Nameable ".text" ∧ Nameable ".dynsym" ∧ Nameable ".dynstr" ∧
      Nameable ".symtab" ∧ Nameable ".strtab" ∧ Nameable ".shstrtab" := by
    decide
  obtain ⟨hnull, htext, hdynsym, hdynstr, hsymtab, hstrtab, hshstrtab⟩ := hfixed
  have hleading : ∀ p ∈ d.planLeading, Nameable p.name := by
    intro p hp
    rcases List.mem_append.mp hp with hp | hp
    · rcases List.mem_append.mp hp with hp | hp
      · rcases List.mem_cons.mp hp with rfl | hp
        · exact hnull
        · rw [List.mem_singleton.mp hp]
          exact htext
      · exact planSymbols_names hdynsym hdynstr p hp
    · exact planSymbols_names hsymtab hstrtab p hp
  have hextra : ∀ p ∈ d.extras.map planExtra, Nameable p.name := by
    intro p hp
    obtain ⟨s, hs, rfl⟩ := List.mem_map.mp hp
    rw [planExtra_name]
    exact hd.extraNames s hs
  intro name h
  rw [sectionNames_eq] at h
  obtain ⟨p, hp, rfl⟩ := List.mem_map.mp h
  rcases List.mem_append.mp hp with hp | hp
  · exact hleading p hp
  · rcases List.mem_cons.mp hp with rfl | hp
    · exact hshstrtab
    · exact hextra p hp

/-- Every planned section has its header, under its own index. -/
theorem describes_of_plan (hd : d.Encodable) {i : Nat} {p : Planned} (hp : d.plan[i]? = some p) :
    ∃ s, d.headers[i]? = some s ∧ d.Describes s p := by
  have hi : i < d.plan.length := (List.getElem?_eq_some_iff.mp hp).1
  obtain ⟨name, hname⟩ : ∃ name, (nameOffsets d.sectionNames)[i]? = some name :=
    ⟨_, List.getElem?_eq_getElem (by rwa [length_nameOffsets, length_sectionNames])⟩
  obtain ⟨start, hstart⟩ : ∃ start, d.starts[i]? = some start :=
    ⟨_, List.getElem?_eq_getElem (by rwa [length_starts])⟩
  refine ⟨sectionHeaderOf p name start (if i = 0 then 0 else 8), ?_, rfl, rfl, rfl, rfl, ?_, ?_⟩
  · have hplaced : ((d.plan.zip (nameOffsets d.sectionNames)).zip d.starts)[i]? =
        some ((p, name), start) :=
      List.getElem?_zip_eq_some.mpr ⟨List.getElem?_zip_eq_some.mpr ⟨hp, hname⟩, hstart⟩
    rw [headers, List.getElem?_map, List.getElem?_zipIdx, hplaced]
    simp only [Option.map_some, Nat.zero_add]
  · -- the offset fits its field because the whole table does
    have hlt := nameOffsets_lt d.sectionNames name (List.mem_of_getElem? hname)
    have hpname : d.sectionNames[i]? = some p.name := by
      rw [sectionNames_eq, List.getElem?_map, hp]
      rfl
    have hfound := congrArg (·[i]?) (nameOffsets_found hd.names)
    simp only [List.getElem?_map, hname, hpname, Option.map_some] at hfound
    rw [sectionHeaderOf, UInt32.toNat_ofNat_of_lt' (Nat.lt_trans hlt hd.sectionRoom)]
    exact Option.some.inj hfound
  · have hmem : (p, start) ∈ d.plan.zip d.starts :=
      List.mem_of_getElem? (List.getElem?_zip_eq_some.mpr ⟨hp, hstart⟩)
    have hstored := encode_carries_stored hd.withSections (p, start) hmem
    have hle : start ≤ d.encode.length := Nat.le_trans (Nat.le_add_right _ _) hstored.holds
    rw [sectionHeaderOf, UInt64.toNat_ofNat_of_lt' (Nat.lt_of_le_of_lt hle hd.image)]
    exact hstored

/-! ## The whole object -/

/-- What the reader makes of the encoding. -/
def object (d : Draft) : Object where
  bytes := d.encode
  header := d.header
  sections := d.headers
  names := some ⟨nameTable d.sectionNames⟩

theorem toNat_sectionCount (hd : d.Encodable) :
    d.header.sectionCount.toNat = d.plan.length := by
  rw [header, headerOf, UInt16.toNat_ofNat_of_lt' hd.count]

theorem toNat_sectionOffset (hd : d.Encodable) : d.header.sectionOffset.toNat = d.tableStart := by
  have hin := (encode_carries_table hd.withSections).holds
  have hle : d.tableStart ≤ d.encode.length := Nat.le_trans (Nat.le_add_right _ _) hin
  rw [header, headerOf, UInt64.toNat_ofNat_of_lt' (Nat.lt_of_le_of_lt hle hd.image)]

/-- Neither place of the table is the front of the file. -/
theorem tableStart_pos : 0 < d.tableStart := by
  have hplace := length_layOut d.dataStart d.plan.tail
  have hle := le_alignUp (place d.dataStart d.plan.tail).2
  have hdata : 0 < d.dataStart := Nat.lt_of_lt_of_le (by decide) (Nat.le_add_right _ _)
  rw [tableStart]
  split
  · decide
  · omega

theorem readSections_encode (hd : d.Encodable) :
    Object.readSections d.encode d.header = .ok d.headers := by
  have hcount := toNat_sectionCount hd
  have hoffset := toNat_sectionOffset hd
  have hpos : 0 < d.plan.length := by rw [plan_eq_cons]; exact Nat.succ_pos _
  -- neither field is zero, which would mean an object without sections
  have hcount0 : d.header.sectionCount ≠ 0 := by
    intro h
    rw [h] at hcount
    exact Nat.ne_of_lt hpos hcount
  have hoffset0 : d.header.sectionOffset ≠ 0 := by
    intro h
    rw [h] at hoffset
    exact Nat.ne_of_lt tableStart_pos hoffset
  have hentry : d.header.sectionEntrySize = UInt16.ofNat format.sectionEntrySize := if_neg hcount0
  have hentry64 : d.header.sectionEntrySize.toNat = d.header.format.sectionEntrySize := by
    rw [hentry]
    rfl
  have htable := encode_carries_table hd.withSections
  have hin := htable.holds
  rw [length_table] at hin
  obtain ⟨rest, hread⟩ :=
    htable.read (Reader.times_takes (SectionHeader.decode_takes rfl) d.headers)
  rw [length_headers] at hread
  have hsize : d.header.sectionEntrySize.toNat * d.header.sectionCount.toNat =
      format.sectionEntrySize * d.plan.length := by
    rw [hentry64, hcount]
    rfl
  simp only [Object.readSections]
  rw [if_neg (not_or.mpr ⟨hcount0, hoffset0⟩), if_neg (not_not_intro hentry64), hsize, hoffset,
    if_neg (not_not_intro hin), hcount]
  have hread' : (Reader.times d.plan.length (SectionHeader.decode d.header.format)).run
      (d.encode.drop d.tableStart) = some (d.headers, rest) := hread
  rw [hread']

theorem readNames?_encode (hd : d.Encodable) :
    d.headers[d.header.nameSection.toNat]?.bind (Object.readNames? d.encode) =
      some ⟨nameTable d.sectionNames⟩ := by
  have hlt : d.planLeading.length < d.plan.length := by
    simp only [plan, List.length_append, List.length_cons]
    omega
  have hindex : d.header.nameSection.toNat = d.planLeading.length := by
    rw [header, headerOf, UInt16.toNat_ofNat_of_lt' (Nat.lt_trans hlt hd.count)]
  have hplan : d.plan[d.planLeading.length]? =
      some (plain ".shstrtab" SectionHeader.strtab 0 (nameTable d.sectionNames)) :=
    List.getElem?_append_right (Nat.le_refl _) |>.trans (by rw [Nat.sub_self]; rfl)
  obtain ⟨s, hs, hdesc⟩ := describes_of_plan hd hplan
  have hkind : (plain ".shstrtab" SectionHeader.strtab 0 (nameTable d.sectionNames)).kind ≠
      SectionHeader.nobits := by simp only [plain]; decide
  rw [hindex, hs, Option.bind_some, Object.readNames?,
    if_pos ⟨hdesc.hasFileData hkind, hdesc.holds hd hkind⟩, hdesc.slice hd hkind]
  exact ofBytes?_nameTable d.sectionNames

/-- The encoding of a draft is accepted. -/
theorem parse_encode (hd : d.Encodable) : Object.parse d.encode = .ok d.object := by
  obtain ⟨rest, hencode⟩ := encode_front hd.withSections
  have hheader : Header.decode? d.encode = some d.header := by
    rw [hencode]
    exact Header.decode?_encode rfl rest
  have hversion : d.header.version.toNat = currentVersion := by
    rw [header, headerOf, hd.version]
    rfl
  have hident : d.header.identVersion.toNat = currentVersion := by
    rw [header, headerOf, hd.version]
    rfl
  rw [Object.parse, hheader]
  dsimp only
  rw [if_neg (not_not_intro hversion), if_neg (not_not_intro hident), readSections_encode hd]
  dsimp only
  rw [readNames?_encode hd]
  rfl

end Draft

end DeviceCode.Elf

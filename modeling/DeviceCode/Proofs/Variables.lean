import DeviceCode.Proofs.Elf.FirstTables
import DeviceCode.Proofs.Standing

/-!
# The symbols that variables come from

The address of a variable is that of the first definition of a variable kind, static definitions
before dynamic ones. Its size is that of the first static entry of its name, whatever the entry is:
it may be a label, or a name that the object only refers to. Usually that is one and the same
symbol, but not always, and `Fleet.Ran.variable_symbol_iff` says when it is.
-/

namespace DeviceCode

namespace Elf

/-- Kinds of symbols that are exposed as variables. -/
def SymbolKind.isVariable : SymbolKind → Bool
  | .object | .common | .threadLocal => true
  | _ => false

namespace Object

variable (o : Object)

/-- The entries of a symbol section, if they can be read. -/
def entriesIn (p : SectionHeader × Nat) : List Symbol :=
  (o.readSymbols p.2 p.1).toOption.elim [] (·.symbols)

/-- All entries of the symbol sections of a kind, in order. -/
def entries (kind : UInt32) : List Symbol :=
  (o.sections.zipIdx.filter (·.1.kind == kind)).flatMap o.entriesIn

/-- The definitions of a name in all symbol tables, static or dynamic. -/
def definitionsOf (name : String) : List Symbol :=
  (o.entries SectionHeader.symtab ++ o.entries SectionHeader.dynsym).filter fun d =>
    d.isDefinition && d.name == name

/-- The first static entry of a name, of whatever kind, defined or not. -/
def firstEntry? (name : String) : Option Symbol :=
  (o.entries SectionHeader.symtab).find? (·.name == name)

/-- The symbol that gives a variable its size: the first static entry of the name if that one has a
size, and the definition otherwise. -/
def sizeSymbol (name : String) (d : Symbol) : Symbol :=
  ((o.firstEntry? name).filter (·.size != 0)).getD d

/-- The first definition of a variable of this name. -/
def variableSymbol? (name : String) : Except Error (Option Symbol) :=
  o.definitions.map (·.find? fun d => d.name == name && d.kind.isVariable)

variable {o} {name : String} {kind : UInt32}

/-- The declared size is that of the first entry that knows the name. -/
theorem sizeIn_ok {tables : List (SectionHeader × Nat)} {n : Nat}
    (h : o.sizeIn name tables = .ok n) :
    n = (((tables.flatMap o.entriesIn).find? (·.name == name)).map (·.size.toNat)).getD 0 := by
  induction tables with
  | nil =>
    cases h
    rfl
  | cons p tables ih =>
    obtain ⟨s, index⟩ := p
    unfold sizeIn at h
    rw [List.flatMap_cons, List.find?_append]
    cases hread : o.readSymbols index s with
    | error e =>
      rw [hread] at h
      cases h
    | ok table =>
      have hentries : o.entriesIn (s, index) = table.symbols := by
        unfold entriesIn
        rw [hread]
        rfl
      rw [hread] at h
      rw [hentries, show table.symbols.find? (·.name == name) = table.find? name from rfl]
      cases hfind : table.find? name with
      | none =>
        simp only [hfind] at h
        exact ih h
      | some z =>
        simp only [hfind] at h
        cases h
        rfl

theorem symbolSize_ok {n : Nat} (h : o.symbolSize name = .ok n) :
    n = ((o.firstEntry? name).map (·.size.toNat)).getD 0 :=
  sizeIn_ok h

theorem sizeSymbol_of_sized {z : Symbol} (hz : o.firstEntry? name = some z) (hsized : z.size ≠ 0)
    (d : Symbol) : o.sizeSymbol name d = z := by
  unfold sizeSymbol
  rw [hz]
  simp [hsized, Option.filter]

theorem sizeSymbol_of_unsized (h : ∀ z, o.firstEntry? name = some z → z.size = 0) (d : Symbol) :
    o.sizeSymbol name d = d := by
  have hnone : (o.firstEntry? name).filter (·.size != 0) = none := by
    refine Option.filter_eq_none_iff.mpr fun z hz => ?_
    simp [h z hz]
  unfold sizeSymbol
  rw [hnone]
  rfl

theorem sizeSymbol_self {d : Symbol} (h : o.firstEntry? name = some d) :
    o.sizeSymbol name d = d := by
  by_cases hzero : d.size = 0
  · refine sizeSymbol_of_unsized (fun z hz => ?_) d
    cases h.symm.trans hz
    exact hzero
  · exact sizeSymbol_of_sized h hzero d

/-- The declared size is used when there is one. -/
theorem declared_eq {n : Nat} (h : o.symbolSize name = .ok n) (d : Symbol) :
    (if n = 0 then d.size else UInt64.ofNat n) = (o.sizeSymbol name d).size := by
  rw [symbolSize_ok h]
  by_cases hsized : ∃ z, o.firstEntry? name = some z ∧ z.size ≠ 0
  · obtain ⟨z, hz, hsized⟩ := hsized
    have hnat : z.size.toNat ≠ 0 := fun h => hsized (UInt64.toNat_inj.mp h)
    rw [sizeSymbol_of_sized hz hsized, hz]
    simp [hnat]
  · push Not at hsized
    rw [sizeSymbol_of_unsized hsized]
    cases hz : o.firstEntry? name with
    | none => rfl
    | some z => simp [hsized z hz]

/-- The first table of a kind comes first among the entries. -/
theorem firstTable_ok {table : Option SymbolTable} (h : o.firstTable kind = .ok table) :
    ∃ rest, o.entries kind = table.elim [] (·.symbols) ++ rest := by
  have hindex : o.findKind? kind = (o.sections.zipIdx.find? (·.1.kind == kind)).map (·.2) :=
    List.findIdx?_eq_fst_find?_zipIdx
  unfold firstTable at h
  rw [hindex, ← List.head?_filter] at h
  unfold entries
  cases hsections : o.sections.zipIdx.filter (·.1.kind == kind) with
  | nil =>
    rw [hsections] at h
    cases h
    exact ⟨[], rfl⟩
  | cons p rest =>
    obtain ⟨s, index⟩ := p
    have hmem : (s, index) ∈ o.sections.zipIdx := by
      refine List.mem_of_mem_filter (p := (·.1.kind == kind)) ?_
      rw [hsections]
      exact List.mem_cons_self
    have hthere : o.sections[index]? = some s := List.mem_zipIdx_iff_getElem?.mp hmem
    have hat : o.symbolTableAt index = some (o.readSymbols index s) := by
      unfold symbolTableAt
      rw [hthere]
      rfl
    rw [hsections] at h
    dsimp only [List.head?_cons, Option.map_some, Option.bind_some] at h
    rw [hat] at h
    refine ⟨rest.flatMap o.entriesIn, ?_⟩
    rw [List.flatMap_cons]
    unfold entriesIn
    cases hread : o.readSymbols index s with
    | error e =>
      rw [hread] at h
      cases h
    | ok t =>
      rw [hread] at h
      cases h
      rfl

/-- What is found as a variable is a definition of the name. -/
theorem mem_definitionsOf {d : Symbol} (h : o.variableSymbol? name = .ok (some d)) :
    d ∈ o.definitionsOf name := by
  unfold variableSymbol? at h
  cases hds : o.definitions with
  | error e =>
    rw [hds] at h
    cases h
  | ok ds =>
    rw [hds] at h
    have hfind : ds.find? (fun d => d.name == name && d.kind.isVariable) = some d :=
      Except.ok.inj h
    obtain ⟨static, dynamic, hstatic, hdynamic, rfl⟩ := definitions_ok hds
    have hname := List.find?_some hfind
    rw [Bool.and_eq_true] at hname
    obtain ⟨table, htable, hd⟩ := List.mem_flatMap.mp (List.mem_of_find?_eq_some hfind)
    obtain ⟨hsymbol, hdefinition⟩ := List.mem_filter.mp hd
    -- the table is the first of its kind
    have hentry : ∀ {kind : UInt32} {t : Option SymbolTable}, o.firstTable kind = .ok t →
        table ∈ t.toList → d ∈ o.entries kind := by
      intro kind t ht hmem
      obtain ⟨rest, hentries⟩ := firstTable_ok ht
      rw [Option.mem_toList.mp hmem] at hentries
      rw [hentries]
      exact List.mem_append_left _ hsymbol
    refine List.mem_filter.mpr ⟨?_, ?_⟩
    · rw [List.mem_append] at htable ⊢
      exact htable.imp (hentry hstatic) (hentry hdynamic)
    · rw [hdefinition, hname.1]
      rfl

/-- A name whose first static entry is the definition of a variable has no other definition that
counts. -/
theorem variableSymbol?_of_first {table : SymbolTable} {d z : Symbol}
    (hstatic : o.symbolTable = .ok (some table)) (hz : table.find? name = some z)
    (hdefinition : z.isDefinition = true) (hkind : z.kind.isVariable = true)
    (hd : o.variableSymbol? name = .ok (some d)) : d = z ∧ o.firstEntry? name = some z := by
  obtain ⟨hname, before, after, hsymbols, hbefore⟩ := List.find?_eq_some_iff_append.mp hz
  have hfirst : table.definitions.find? (fun d => d.name == name && d.kind.isVariable) =
      some z := by
    unfold SymbolTable.definitions
    rw [List.find?_filter]
    refine List.find?_eq_some_iff_append.mpr ⟨?_, before, after, hsymbols, fun e he => ?_⟩
    · rw [hdefinition, hname, hkind]
      rfl
    · have hother : (e.name == name) = false := by simpa using hbefore e he
      simp [hother]
  refine ⟨?_, ?_⟩
  · unfold variableSymbol? definitions at hd
    rw [hstatic] at hd
    cases hdynamic : o.dynamicSymbolTable with
    | error e =>
      rw [hdynamic] at hd
      cases hd
    | ok dynamic =>
      rw [hdynamic] at hd
      have hfind : ((table :: dynamic.toList).flatMap SymbolTable.definitions).find?
          (fun d => d.name == name && d.kind.isVariable) = some d := Except.ok.inj hd
      rw [List.flatMap_cons, List.find?_append, hfirst] at hfind
      exact (Option.some.inj hfind).symm
  · obtain ⟨rest, hentries⟩ := firstTable_ok hstatic
    have hfind : table.symbols.find? (·.name == name) = some z := hz
    unfold firstEntry?
    rw [hentries, List.find?_append]
    show (table.symbols.find? (·.name == name)).or _ = some z
    rw [hfind]
    rfl

end Object

end Elf

open Elf (Object Symbol)

/-- A variable that has both its address and its size from one symbol. -/
structure GlobalVariable.IsSymbol (g : GlobalVariable) (base : UInt64) (d : Symbol) : Prop where
  address : g.address = base + d.value
  size : g.size = d.size

namespace Simulator

variable {s : Simulator} {base : UInt64} {d : Symbol} {x : ExecutableSymbol} {o : Object}
  {exe : Executable} {image : Bytes} {name : String} {m : LoadedModule} {g : GlobalVariable}

theorem expose?_variable (h : s.expose? base d = some x) (hx : x.kind = .variable) :
    d.kind.isVariable = true ∧ descriptorOf? d.name = none ∧
      x = { name := d.name, kind := .variable, address := base + d.value, size := d.size } := by
  unfold expose? at h
  dsimp only at h
  split at h
  · cases h
    cases hx
  · cases h
    cases hx
  · cases h
    cases hx
  · next hkind hname =>
    cases h
    exact ⟨by rw [hkind]; rfl, hname, rfl⟩
  · next hkind hname =>
    cases h
    exact ⟨by rw [hkind]; rfl, hname, rfl⟩
  · next hkind hname =>
    cases h
    exact ⟨by rw [hkind]; rfl, hname, rfl⟩
  · cases h

theorem expose?_of_isVariable (hkind : d.kind.isVariable = true)
    (hname : descriptorOf? d.name = none) : s.expose? base d =
      some { name := d.name, kind := .variable, address := base + d.value, size := d.size } := by
  unfold expose?
  rw [hname]
  cases hd : d.kind <;> rw [hd] at hkind <;> first | rfl | cases hkind

/-- The first symbol that is exposed under a name is, if it is a variable, the first definition of a
variable of that name. -/
theorem find?_exposed {ds : List Symbol} (hkind : x.kind = .variable)
    (hx : (ds.filterMap (s.expose? base)).find? (fun x => decide (x.name = name)) = some x) :
    ∃ d, ds.find? (fun d => d.name == name && d.kind.isVariable) = some d ∧
      x = { name, kind := .variable, address := base + d.value, size := d.size } := by
  rw [List.find?_filterMap] at hx
  obtain ⟨d, hfind, hexpose⟩ := Option.bind_eq_some_iff.mp hx
  obtain ⟨hname, before, after, hsplit, hbefore⟩ := List.find?_eq_some_iff_append.mp hfind
  obtain ⟨hvariable, hplain, rfl⟩ := expose?_variable hexpose hkind
  have hsame : d.name = name := by
    rw [hexpose] at hname
    exact of_decide_eq_true hname
  refine ⟨d, ?_, by rw [hsame]⟩
  refine List.find?_eq_some_iff_append.mpr ⟨?_, before, after, hsplit, fun e he => ?_⟩
  · rw [hvariable, hsame]
    exact (Bool.and_true _).trans (beq_self_eq_true name)
  · -- a variable of this name before `d` would be exposed before it
    rw [Bool.not_eq_true', Bool.eq_false_iff]
    intro hvariable'
    rw [Bool.and_eq_true, beq_iff_eq] at hvariable'
    obtain ⟨hname', hkind'⟩ := hvariable'
    have hplain' : descriptorOf? e.name = none := by
      rw [hname', ← hsame]
      exact hplain
    have hnot := hbefore e he
    rw [expose?_of_isVariable hkind' hplain'] at hnot
    simp [hname'] at hnot

/-- What an executable answers is the first of the symbols that the definitions of the image
expose. -/
theorem Shows.get? (h : Shows exe image base) (hparse : Object.parse image = .ok o) :
    ∃ (s : Simulator) (ds : List Symbol), o.definitions = .ok ds ∧ ∀ name,
      exe.symbols.get? name =
        (ds.filterMap (s.expose? base)).find? fun x => decide (x.name = name) := by
  obtain ⟨s, o', symbols, hparse', hexposed, hsymbols⟩ := h
  cases hparse.symm.trans hparse'
  rw [exposed_eq] at hexposed
  cases hds : o.definitions with
  | error e =>
    rw [hds] at hexposed
    cases hexposed
  | ok ds =>
    rw [hds] at hexposed
    have hlist : ds.filterMap (s.expose? base) = symbols := Except.ok.inj hexposed
    refine ⟨s, ds, rfl, fun name => ?_⟩
    rw [hsymbols, hlist]
    exact (Assoc.get?_foldl_putNew (·.name) id symbols name {}).trans (congrFun Option.map_id _)

/-- **The variables of an executable are the first definitions of their names** in the image. -/
theorem Shows.variableSymbol? (h : Shows exe image base) (hparse : Object.parse image = .ok o)
    (hx : exe.symbols.get? name = some x) (hkind : x.kind = .variable) :
    ∃ d, o.variableSymbol? name = .ok (some d) ∧
      x = { name, kind := .variable, address := base + d.value, size := d.size } := by
  obtain ⟨s, ds, hds, hget⟩ := h.get? hparse
  rw [hget] at hx
  obtain ⟨d, hfind, hvariable⟩ := find?_exposed hkind hx
  refine ⟨d, ?_, hvariable⟩
  unfold Object.variableSymbol?
  rw [hds]
  exact congrArg Except.ok hfind

/-- Whether the accelerator reports a name as a variable that the code of a module defines. -/
def reportsVariable (s : Simulator) (m : LoadedModule) (name : String) : Bool :=
  ((s.executables.get? m.executable).bind (·.symbols.get? name)).any (·.kind == .variable)

theorem of_reportsVariable (h : s.reportsVariable m name = true) :
    ∃ exe x, s.executables.get? m.executable = some exe ∧ exe.symbols.get? name = some x ∧
      x.kind = .variable := by
  unfold reportsVariable at h
  obtain ⟨x, hx, hkind⟩ := (Option.any_eq_true _ _).mp h
  obtain ⟨exe, hexe, hsymbol⟩ := Option.bind_eq_some_iff.mp hx
  exact ⟨exe, x, hexe, hsymbol, beq_iff_eq.mp hkind⟩

/-- A variable is found only in an executable that is still there. -/
theorem getGlobal_ok {settings : LoaderSettings} {hooks : LaunchHooks} {current : Option Device}
    {w : World Simulator}
    (h : ((loader settings hooks).getGlobal current m name w).1 = .ok g) :
    ∃ exe, w.accelerator.executables.get? m.executable = some exe ∧
      variableOf exe m.image name = .ok g := by
  cases current with
  | none => cases h
  | some device =>
    cases hlive : m.released.executable with
    | true =>
      rw [Loader.getGlobal_gone _ hlive device name w] at h
      cases h
    | false =>
      unfold Loader.getGlobal at h
      rw [run_bind_of_ok (Attempt.device_ok_iff.mpr ⟨rfl, rfl⟩),
        run_bind_of_ok (liveExecutable_of hlive w)] at h
      have hends := Loader.findSymbol_ends settings hooks device m name (fun _ => true) w
      rcases hfind : (loader settings hooks).findSymbol device m name (fun _ => true) w with
        ⟨e | found, v⟩
      · rw [run_bind_of_error hfind] at h
        cases h
      · rw [run_bind_of_ok hfind] at h
        rw [hfind] at hends
        obtain ⟨exe, hexe, hfitting⟩ := hends
        refine ⟨exe, hexe, ?_⟩
        unfold variableOf
        rw [hfitting]
        cases hdeclared : (Object.parse m.image >>= (·.symbolSize name)) with
        | error e =>
          rw [hdeclared] at h
          cases h
        | ok n =>
          rw [hdeclared] at h
          exact h

/-- **Where a variable comes from.** -/
theorem variableOf_eq (h : Shows exe image base) (hparse : Object.parse image = .ok o)
    (hx : exe.symbols.get? name = some x) (hkind : x.kind = .variable)
    (hg : variableOf exe image name = .ok g) :
    ∃ d, o.variableSymbol? name = .ok (some d) ∧
      g = { address := base + d.value, size := (o.sizeSymbol name d).size } := by
  obtain ⟨d, hd, rfl⟩ := h.variableSymbol? hparse hx hkind
  refine ⟨d, hd, ?_⟩
  have hfitting : fitting exe name (fun _ => true) =
      .ok { name, kind := .variable, address := base + d.value, size := d.size } := by
    unfold fitting lookup
    rw [hx]
    rfl
  have hdeclared : (Object.parse image >>= (·.symbolSize name)) = o.symbolSize name := by
    rw [hparse]
    rfl
  unfold variableOf at hg
  rw [hfitting, hdeclared] at hg
  cases hsize : o.symbolSize name with
  | error e =>
    rw [hsize] at hg
    cases hg
  | ok n =>
    rw [hsize] at hg
    rw [← Object.declared_eq hsize]
    exact (Except.ok.inj hg).symm

end Simulator

namespace Elf.Object

variable {o : Object} {name : String} {base : UInt64} {d : Symbol}

/-- A variable is one symbol if and only if the first static entry of its name has no size of its
own or the size of a definition that lies where the variable does. -/
theorem isSymbol_iff (hd : o.variableSymbol? name = .ok (some d)) {g : GlobalVariable}
    (hg : g = { address := base + d.value, size := (o.sizeSymbol name d).size }) :
    (∃ y ∈ o.definitionsOf name, g.IsSymbol base y) ↔
      ∀ z, o.firstEntry? name = some z → z.size ≠ 0 →
        ∃ y ∈ o.definitionsOf name, y.value = d.value ∧ y.size = z.size := by
  subst hg
  constructor
  · intro h z hz hsized
    obtain ⟨y, hy, haddress, hsize⟩ := h
    rw [sizeSymbol_of_sized hz hsized] at hsize
    exact ⟨y, hy, ((UInt64.add_right_inj base).mp haddress).symm, hsize.symm⟩
  · intro h
    by_cases hsized : ∃ z, o.firstEntry? name = some z ∧ z.size ≠ 0
    · obtain ⟨z, hz, hsized⟩ := hsized
      obtain ⟨y, hy, hvalue, hsize⟩ := h z hz hsized
      rw [sizeSymbol_of_sized hz hsized]
      exact ⟨y, hy, congrArg (base + ·) hvalue.symm, hsize.symm⟩
    · -- without a size in the entries the definition gives both
      push Not at hsized
      rw [sizeSymbol_of_unsized hsized]
      exact ⟨d, mem_definitionsOf hd, rfl, rfl⟩

end Elf.Object

namespace Fleet

open Simulator

variable {settings : LoaderSettings} {hooks : LaunchHooks} {notes : List Lookup}
  {f : Fleet Simulator} {m : LoadedModule}

/-- **When a variable is one symbol.** Its address is the module's code base and the value of the
first definition of a variable of that name. Its size is the one of the first static entry of the
name, if that has a size. So there is a definition of the name with this address and this size if
and only if the entry has no size or the size of a definition with the same value; in particular if
the entry is itself the definition of a variable. -/
theorem Ran.variable_symbol_iff (h : Ran settings hooks notes f) (hm : m ∈ f.session.modules) :
    ∃ o n, Object.parse m.image = .ok o ∧
      ∀ (settings' : LoaderSettings) (hooks' : LaunchHooks) (current : Option Device)
        (w : World Simulator) (name : String) (g : GlobalVariable),
        w.accelerator = f.session.world.accelerator →
        w.accelerator.reportsVariable m name = true →
        ((loader settings' hooks').getGlobal current m name w).1 = .ok g →
        ∃ d, o.variableSymbol? name = .ok (some d) ∧
          g.address = codeBase n + d.value ∧ g.size = (o.sizeSymbol name d).size ∧
          ((∃ y ∈ o.definitionsOf name, g.IsSymbol (codeBase n) y) ↔
            ∀ z, o.firstEntry? name = some z → z.size ≠ 0 →
              ∃ y ∈ o.definitionsOf name, y.value = d.value ∧ y.size = z.size) ∧
          ∀ table z, o.symbolTable = .ok (some table) → table.find? name = some z →
            z.isDefinition = true → z.kind.isVariable = true → g.IsSymbol (codeBase n) z := by
  obtain ⟨book, hstanding⟩ := h.standing
  obtain ⟨n, hshows⟩ := hstanding.shows m hm
  have ⟨_, o, _, hparse, _⟩ := hshows
  refine ⟨o, n, hparse, fun settings' hooks' current w name g hw hreports hok => ?_⟩
  obtain ⟨exe, x, hexe, hx, hkind⟩ := of_reportsVariable hreports
  obtain ⟨exe', hexe', hg⟩ := getGlobal_ok hok
  cases hexe.symm.trans hexe'
  -- the executable is the one that was loaded
  have hloaded : exe = book m.executable := (hstanding.stands m hm).eq (hw ▸ hexe)
  subst hloaded
  obtain ⟨d, hd, hvariable⟩ := variableOf_eq hshows hparse hx hkind hg
  refine ⟨d, hd, congrArg (·.address) hvariable, congrArg (·.size) hvariable,
    Object.isSymbol_iff hd hvariable, fun table z hstatic hz hdefinition hvariableKind => ?_⟩
  obtain ⟨rfl, hfirst⟩ := Object.variableSymbol?_of_first hstatic hz hdefinition hvariableKind hd
  refine ⟨congrArg (·.address) hvariable, ?_⟩
  rw [hvariable, Object.sizeSymbol_self hfirst]

instance decidableEqOk {ε α : Type} [DecidableEq α] (r : Except ε α) (a : α) :
    Decidable (r = .ok a) :=
  match r with
  | .ok b => decidable_of_iff (b = a) ⟨congrArg Except.ok, Except.ok.inj⟩
  | .error _ => isFalse nofun

def firstDevice : Option Device := some ⟨0, ⟨0xa600⟩, ⟨0x9000⟩⟩

/-- The program that has loaded an object from memory. -/
def loaded (d : Elf.Draft) : Fleet Simulator :=
  (start { hasRegion := true } ⟨⟨[], []⟩, ""⟩).run (rig {} .default)
    [.create {} .default none, .through 0 (.load firstDevice (.memory d.encode))]

/-- A table that both symbol tables define. -/
def exportedTable : Elf.Draft where
  text := [0x90]
  symbols := [.object "table" 0x1000 16]
  dynamic := [.object "table" 0x1000 16]

/-- The table is what its definition says. -/
theorem exportedTable_symbol :
    ∃ notes, Ran {} .default notes (loaded exportedTable) ∧
      ∃ m ∈ (loaded exportedTable).session.modules, ∃ o n d, Object.parse m.image = .ok o ∧
        o.variableSymbol? "table" = .ok (some d) ∧ codeBase n + d.value = 0x7e0001001000 ∧
        (o.sizeSymbol "table" d).size = 16 := by
  let w := (loaded exportedTable).session.world
  have hthere : (loaded exportedTable).session.modules ≠ [] := by decide +kernel
  have hanswers : ∀ m ∈ (loaded exportedTable).session.modules,
      w.accelerator.reportsVariable m "table" = true ∧
        ((loader {} .default).getGlobal firstDevice m "table" w).1 =
          .ok ⟨0x7e0001001000, 16⟩ := by
    decide +kernel
  obtain ⟨notes, h⟩ : ∃ notes, Ran {} .default notes (loaded exportedTable) := ran_run true _ _
  obtain ⟨m, hm⟩ := List.exists_mem_of_ne_nil _ hthere
  obtain ⟨hreports, hanswer⟩ := hanswers m hm
  obtain ⟨o, n, hparse, hall⟩ := h.variable_symbol_iff hm
  obtain ⟨d, hd, haddress, hsize, -⟩ :=
    hall {} .default firstDevice w "table" _ rfl hreports hanswer
  exact ⟨notes, h, m, hm, o, n, d, hparse, hd, haddress.symm, hsize.symm⟩

/-- A label, and then a table of the same name. -/
def labelledTable : Elf.Draft where
  text := [0x90]
  symbols := [⟨"table", 0, 4, 0, true⟩, .object "table" 0x1000 16]

/-- The address is the table's and the size is the label's. -/
theorem labelledTable_no_symbol :
    (∃ notes, Ran {} .default notes (loaded labelledTable)) ∧
      ∃ m ∈ (loaded labelledTable).session.modules, ∃ o g, Object.parse m.image = .ok o ∧
        (loaded labelledTable).session.world.accelerator.reportsVariable m "table" = true ∧
        ((loader {} .default).getGlobal firstDevice m "table"
          (loaded labelledTable).session.world).1 = .ok g ∧
        ∀ n, ¬ ∃ y ∈ o.definitionsOf "table", g.IsSymbol (codeBase n) y := by
  let w := (loaded labelledTable).session.world
  have hthere : (loaded labelledTable).session.modules ≠ [] := by decide +kernel
  have hanswers : ∀ m ∈ (loaded labelledTable).session.modules,
      w.accelerator.reportsVariable m "table" = true ∧
        ((loader {} .default).getGlobal firstDevice m "table" w).1 = .ok ⟨0x7e0001001000, 4⟩ ∧
        (Object.parse m.image).map (fun o =>
          (o.definitionsOf "table").map fun y => (y.value, y.size)) =
            .ok [(0, 4), (0x1000, 16)] := by
    decide +kernel
  obtain ⟨m, hm⟩ := List.exists_mem_of_ne_nil _ hthere
  obtain ⟨hreports, hanswer, hdefinitions⟩ := hanswers m hm
  cases hparse : Object.parse m.image with
  | error e =>
    rw [hparse] at hdefinitions
    cases hdefinitions
  | ok o =>
    rw [hparse] at hdefinitions
    refine ⟨ran_run true _ _, m, hm, o, _, hparse, hreports, hanswer, ?_⟩
    rintro n ⟨y, hy, haddress, hsize⟩
    have hpair : (y.value, y.size) ∈ [((0 : UInt64), (4 : UInt64)), (0x1000, 16)] := by
      rw [← Except.ok.inj hdefinitions]
      exact List.mem_map_of_mem (f := fun y => (y.value, y.size)) hy
    simp only [List.mem_cons, List.not_mem_nil, or_false, Prod.mk.injEq] at hpair
    obtain ⟨hvalue, -⟩ | ⟨-, hother⟩ := hpair
    · -- a code base is a multiple of its distance to the next one
      rw [hvalue] at haddress
      have hnat := congrArg UInt64.toNat haddress
      simp only [codeBase, UInt64.add_zero, UInt64.toNat_ofNat'] at hnat
      have hleft : UInt64.toNat 0x7e0001001000 = 0x7e0001001000 := rfl
      omega
    · rw [hother] at hsize
      exact absurd hsize (by decide)

end Fleet

end DeviceCode

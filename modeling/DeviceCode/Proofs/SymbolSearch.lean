import DeviceCode.Proofs.Operations

/-!
# What an executable answers for a name

The simulator keeps the symbols of an executable in a map, which a load fills from both symbol
tables with the `.kd` ends left off. What it answers can be told without the map: the first entry of
the static and then the dynamic table that exposes the name, or a global if there is no such entry
(`Operation.load_exposes`).
-/

namespace DeviceCode

open Simulator

namespace Elf.Symbol

/-- What a symbol stands for under a name. -/
inductive Qualifies (d : Symbol) : SymbolClass → String → Prop
  /-- The code descriptor of a kernel. -/
  | descriptor {kernel : String} (hkind : d.kind = .function ∨ d.kind = .object)
      (hname : d.name = kernel ++ ".kd") : Qualifies d .kernel kernel
  | function (hkind : d.kind = .function) (hname : ∀ kernel, d.name ≠ kernel ++ ".kd") :
      Qualifies d .kernel d.name
  | data (hkind : d.kind = .object ∨ d.kind = .common ∨ d.kind = .threadLocal)
      (hname : ∀ kernel, d.name ≠ kernel ++ ".kd") : Qualifies d .variable d.name

/-- A definition exposes a name. -/
structure Exposes (d : Symbol) (kind : SymbolClass) (name : String) : Prop where
  defined : d.sectionIndex ≠ 0
  named : d.name ≠ ""
  qualifies : d.Qualifies kind name

end Elf.Symbol

namespace Simulator

/-- A descriptor is named for its kernel. -/
theorem descriptorOf?_eq_some_iff {name kernel : String} :
    descriptorOf? name = some kernel ↔ name = kernel ++ ".kd" := by
  have hend : ".kd".toList = [ '.', 'k', 'd'] := rfl
  have hlength : [ '.', 'k', 'd'].length = 3 := rfl
  unfold descriptorOf?
  dsimp only
  constructor
  · intro h
    split at h
    · next hsuffix =>
      obtain ⟨front, hfront⟩ := List.isSuffixOf_iff_suffix.mp hsuffix
      have hkernel := Option.some.inj h
      rw [← hfront, List.length_append, hlength, Nat.add_sub_cancel, List.take_left] at hkernel
      rw [← hkernel]
      refine String.toList_inj.mp ?_
      rw [String.toList_append, String.toList_ofList, hend, hfront]
    · cases h
  · intro h
    subst h
    have hsuffix := List.isSuffixOf_iff_suffix.mpr (List.suffix_append kernel.toList ".kd".toList)
    rw [hend] at hsuffix
    rw [String.toList_append, hend, if_pos hsuffix, List.length_append, hlength,
      Nat.add_sub_cancel, List.take_left, String.ofList_toList]

theorem descriptorOf?_eq_none_iff {name : String} :
    descriptorOf? name = none ↔ ∀ kernel, name ≠ kernel ++ ".kd" := by
  rw [Option.eq_none_iff_forall_ne_some]
  exact forall_congr' fun kernel => not_congr descriptorOf?_eq_some_iff

/-- The first symbol of a name is kept. -/
theorem addSymbols_get? (exe : Executable) (symbols : List ExecutableSymbol) (name : String) :
    (addSymbols exe symbols).symbols.get? name =
      (exe.symbols.get? name).or (symbols.find? fun x => decide (x.name = name)) :=
  (Assoc.get?_foldl_putNew ExecutableSymbol.name id symbols name exe.symbols).trans
    (congrArg (exe.symbols.get? name).or (congrFun Option.map_id _))

end Simulator

namespace Operation

/-- The symbol that is answered for a definition that is loaded after a history. -/
def symbolFor (h : List (Operation × Bool)) (address size : UInt64) :
    SymbolClass → String → ExecutableSymbol
  | .kernel, name =>
    { name, kind := .kernel, address
      argumentSize := (latest (arguments? name) h).getD 0
      groupSize := ((latest (segments? name) h).getD (0, 0)).1
      privateSize := ((latest (segments? name) h).getD (0, 0)).2 }
  | .variable, name => { name, kind := .variable, address, size }

variable {h : List (Operation × Bool)} {s : Simulator} {base : UInt64} {d : Elf.Symbol}
  {x : ExecutableSymbol} {e : ExecutableHandle} {name : String}

theorem symbolFor_name (h : List (Operation × Bool)) (address size : UInt64) (kind : SymbolClass)
    (name : String) : (symbolFor h address size kind name).name = name := by
  cases kind <;> rfl

theorem Tells.kernelSymbol_eq (hs : Tells h s) (address size : UInt64) (name : String) :
    s.kernelSymbol name address = symbolFor h address size .kernel name := by
  unfold kernelSymbol symbolFor
  rw [hs.segments, hs.arguments]

/-- A definition is exposed as what it qualifies for. -/
theorem Tells.expose?_eq_some_iff (hs : Tells h s) :
    s.expose? base d = some x ↔
      ∃ kind, d.Qualifies kind x.name ∧ x = symbolFor h (base + d.value) d.size kind x.name := by
  constructor
  · intro hx
    unfold expose? at hx
    dsimp only at hx
    split at hx
    · next kernel hkind hkernel =>
      rw [hs.kernelSymbol_eq _ d.size] at hx
      cases hx
      exact ⟨.kernel, .descriptor (.inr hkind) (descriptorOf?_eq_some_iff.mp hkernel), rfl⟩
    · next kernel hkind hkernel =>
      rw [hs.kernelSymbol_eq _ d.size] at hx
      cases hx
      exact ⟨.kernel, .descriptor (.inl hkind) (descriptorOf?_eq_some_iff.mp hkernel), rfl⟩
    · next hkind hplain =>
      rw [hs.kernelSymbol_eq _ d.size] at hx
      cases hx
      exact ⟨.kernel, .function hkind (descriptorOf?_eq_none_iff.mp hplain), rfl⟩
    · next hkind hplain =>
      cases hx
      exact ⟨.variable, .data (.inl hkind) (descriptorOf?_eq_none_iff.mp hplain), rfl⟩
    · next hkind hplain =>
      cases hx
      exact ⟨.variable, .data (.inr (.inl hkind)) (descriptorOf?_eq_none_iff.mp hplain), rfl⟩
    · next hkind hplain =>
      cases hx
      exact ⟨.variable, .data (.inr (.inr hkind)) (descriptorOf?_eq_none_iff.mp hplain), rfl⟩
    · cases hx
  · intro hx
    obtain ⟨kind, hqualifies, hx⟩ := hx
    rw [hx]
    generalize x.name = name at hqualifies ⊢
    unfold expose?
    cases hqualifies with
    | descriptor hkind hname =>
      rw [descriptorOf?_eq_some_iff.mpr hname]
      rcases hkind with hkind | hkind
      all_goals
        rw [hkind]
        exact congrArg some (hs.kernelSymbol_eq _ _ _)
    | function hkind hname =>
      rw [descriptorOf?_eq_none_iff.mpr hname, hkind]
      exact congrArg some (hs.kernelSymbol_eq _ _ _)
    | data hkind hname =>
      rw [descriptorOf?_eq_none_iff.mpr hname]
      rcases hkind with hkind | hkind | hkind
      all_goals
        rw [hkind]
        rfl

/-- A definition is found under a name when it exposes the name. -/
theorem Tells.exposes_iff (hs : Tells h s) :
    (d.isDefinition && (s.expose? base d).any fun x => decide (x.name = name)) = true ↔
      ∃ kind, d.Exposes kind name := by
  have hdefinition : d.isDefinition = true ↔ d.sectionIndex ≠ 0 ∧ d.name ≠ "" := by
    unfold Elf.Symbol.isDefinition Elf.Symbol.isUndefined Elf.Symbol.isNamed
    simp
  rw [Bool.and_eq_true, hdefinition, Option.any_eq_true]
  constructor
  · intro hfound
    obtain ⟨⟨hdefined, hnamed⟩, x, hx, hname⟩ := hfound
    obtain ⟨kind, hqualifies, -⟩ := hs.expose?_eq_some_iff.mp hx
    rw [of_decide_eq_true hname] at hqualifies
    exact ⟨kind, hdefined, hnamed, hqualifies⟩
  · intro hexposes
    obtain ⟨kind, hdefined, hnamed, hqualifies⟩ := hexposes
    have hsymbol := symbolFor_name h (base + d.value) d.size kind name
    refine ⟨⟨hdefined, hnamed⟩, symbolFor h (base + d.value) d.size kind name, ?_,
      decide_eq_true hsymbol⟩
    rw [hs.expose?_eq_some_iff, hsymbol]
    exact ⟨kind, hqualifies, rfl⟩

/-- The first symbol of a name comes from the first entry that exposes the name. -/
theorem Tells.find?_exposed (hs : Tells h s) (base : UInt64) (entries : List Elf.Symbol)
    (name : String) :
    (∃ kind earlier d later, entries = earlier ++ d :: later ∧ d.Exposes kind name ∧
        (∀ d' ∈ earlier, ∀ kind', ¬ d'.Exposes kind' name) ∧
        ((entries.filter Elf.Symbol.isDefinition).filterMap (s.expose? base)).find?
          (fun x => decide (x.name = name)) =
            some (symbolFor h (base + d.value) d.size kind name)) ∨
      (∀ d ∈ entries, ∀ kind, ¬ d.Exposes kind name) ∧
        ((entries.filter Elf.Symbol.isDefinition).filterMap (s.expose? base)).find?
          (fun x => decide (x.name = name)) = none := by
  rw [List.find?_filterMap, List.find?_filter]
  simp only [← Bool.and_eq_true, Bool.decide_eq_true]
  cases hfind : entries.find? fun d =>
      d.isDefinition && (s.expose? base d).any fun x => decide (x.name = name) with
  | none =>
    refine .inr ⟨fun d hd kind hexposes => ?_, rfl⟩
    exact List.find?_eq_none.mp hfind d hd (hs.exposes_iff.mpr ⟨kind, hexposes⟩)
  | some d =>
    obtain ⟨hfound, earlier, later, hentries, hearlier⟩ :=
      List.find?_eq_some_iff_append.mp hfind
    obtain ⟨kind, hexposes⟩ := hs.exposes_iff.mp hfound
    obtain ⟨x, hx, hname⟩ := (Option.any_eq_true _ _).mp (Bool.and_eq_true_iff.mp hfound).2
    obtain ⟨kind', hqualifies, hsymbol⟩ := hs.expose?_eq_some_iff.mp hx
    rw [of_decide_eq_true hname] at hqualifies hsymbol
    refine .inl ⟨kind', earlier, d, later, hentries, ⟨hexposes.defined, hexposes.named, hqualifies⟩,
      fun d' hd' kind' hexposes' => ?_, ?_⟩
    · have hnot := hearlier d' hd'
      rw [hs.exposes_iff.mpr ⟨kind', hexposes'⟩] at hnot
      cases hnot
    · rw [Option.bind_some, hx, hsymbol]

/-! ## Loading and what comes after -/

/-- The symbols of an executable change when code is loaded into it, and with nothing else. -/
theorem Turns.symbols_eq {op : Operation} {ok : Bool} {exe : Executable} {exe?' : Option Executable}
    (ht : Turns s e op ok (some exe) exe?')
    (hop : op.loads? = some e ∨ op = .destroyExecutable e → ok = false) :
    ∃ exe', exe?' = some exe' ∧ exe'.symbols = exe.symbols := by
  cases ht with
  | kept _ => exact ⟨exe, rfl, rfl⟩
  | loaded hloads _ _ _ _ => cases hop (.inl hloads)
  | froze _ => exact ⟨_, rfl, rfl⟩
  | defined _ => exact ⟨_, rfl, rfl⟩
  | destroyed => cases hop (.inr rfl)

theorem run_symbols_eq (hs : s.Sound) {exe : Executable}
    (hexe : s.executables.get? e = some exe) (ops : List Operation)
    (hops : ∀ op : Operation, op.loads? = some e ∨ op = .destroyExecutable e →
      (op, true) ∉ history s ops) :
    ∃ exe', (run s ops).executables.get? e = some exe' ∧ exe'.symbols = exe.symbols := by
  induction ops generalizing s exe with
  | nil => exact ⟨exe, hexe, rfl⟩
  | cons op ops ih =>
    have hturns := perform_turns hs op e
    rw [hexe] at hturns
    have hfails : op.loads? = some e ∨ op = .destroyExecutable e → (op.perform s).1 = false := by
      intro hop
      refine eq_false_of_ne_true fun hok => hops op hop ?_
      unfold history
      rw [hok]
      exact List.mem_cons_self
    obtain ⟨exe', hexe', hsame⟩ := hturns.symbols_eq hfails
    obtain ⟨exe'', hexe'', hsame'⟩ := ih (perform_sound hs op) hexe' fun op' hop' hmem =>
      hops op' hop' (List.mem_cons_of_mem _ hmem)
    exact ⟨exe'', hexe'', hsame'.trans hsame⟩

/-- A load that succeeds adds the symbols that the image exposes. -/
theorem Turns.of_loaded {op : Operation} {exe? exe?' : Option Executable}
    (ht : Turns s e op true exe? exe?') (hop : op.loads? = some e) :
    ∃ exe image o symbols, exe? = some exe ∧ op.image? s = some image ∧
      Elf.Object.parse image = .ok o ∧ s.exposed (codeBase (s.loads + 1)) o = .ok symbols ∧
      exe?' = some (addSymbols exe symbols) := by
  cases ht with
  | kept h => exact absurd (changes?_of_loads? hop) (h rfl)
  | created _ => cases hop
  | @loaded _ exe image o symbols _ himage hparse hexposed _ =>
    exact ⟨exe, image, o, symbols, rfl, himage, hparse, hexposed, rfl⟩
  | froze _ => cases hop
  | defined _ => cases hop
  | destroyed => cases hop

theorem executables_of_failed {op : Operation} (hop : op.loads? = some e)
    (hfailed : (op.perform s).1 = false) : (op.perform s).2.executables = s.executables := by
  cases op with
  | loadReader e' g r =>
    rcases loadReader_cases s e' g r with h | ⟨_, _, _, _, _, journal, loads, hok⟩
    · exact h.same Simulator.executables fun _ _ _ => rfl
    · have hfailed : (s.loadReader e' g r).1.isOk = false := hfailed
      rw [hok] at hfailed
      cases hfailed
  | loadCodeObject e' g c =>
    rcases loadCodeObject_cases s e' g c with h | ⟨_, _, _, _, _, journal, loads, hok⟩
    · exact h.same Simulator.executables fun _ _ _ => rfl
    · have hfailed : (s.loadCodeObject e' g c).1.isOk = false := hfailed
      rw [hok] at hfailed
      cases hfailed
  | _ => cases hop

/-- The first code that is loaded into an executable brings all its symbols. -/
theorem Tells.load_ok (hs : Tells h s) {load : Operation} (hload : load.loads? = some e)
    (hok : (load.perform s).1 = true)
    (hfresh : ∀ op : Operation, op.loads? = some e → (op, true) ∉ h) :
    ∃ image o static dynamic exe, load.image? s = some image ∧ Elf.Object.parse image = .ok o ∧
      o.FirstEntries Elf.SectionHeader.symtab static ∧
      o.FirstEntries Elf.SectionHeader.dynsym dynamic ∧
      (load.perform s).2.executables.get? e = some exe ∧
      ∀ name, exe.symbols.get? name =
        (((static ++ dynamic).filter Elf.Symbol.isDefinition).filterMap
          (s.expose? (codeBase (s.loads + 1)))).find? fun x => decide (x.name = name) := by
  have hturns := perform_turns hs.sound load e
  rw [hok] at hturns
  obtain ⟨exe, image, o, symbols, hexe, himage, hparse, hexposed, hloaded⟩ :=
    hturns.of_loaded hload
  have hempty : exe.symbols = {} := hs.symbols e exe hexe hfresh
  rw [exposed_eq] at hexposed
  cases hds : o.definitions with
  | error err =>
    rw [hds] at hexposed
    cases hexposed
  | ok ds =>
    rw [hds] at hexposed
    cases hexposed
    obtain ⟨static, dynamic, hstatic, hdynamic, rfl⟩ := Elf.Object.definitions_first hds
    refine ⟨image, o, static, dynamic, _, himage, hparse, hstatic, hdynamic, hloaded,
      fun name => ?_⟩
    rw [addSymbols_get?, hempty]
    rfl

/-- **What an executable answers.** A load that fails changes no executable. Suppose that a load
succeeds, and that no other code is loaded into the executable, before or after. Then the first
entry of the static and the dynamic table that exposes a name tells what is answered for it: with
its value relative to the code base, the declared size of a variable, and the sizes that were set
for a kernel when it was loaded, or zero. If no entry exposes the name, it is the global that was
bound to the name last, and nothing if there is none. -/
theorem load_exposes (before : List Operation) {load : Operation} {e : ExecutableHandle}
    (hload : load.loads? = some e) :
    let s := run {} before
    let u := (load.perform s).2
    ((load.perform s).1 = false → u.executables = s.executables) ∧
    ((load.perform s).1 = true →
      (∀ op : Operation, op.loads? = some e → (op, true) ∉ history {} before) →
      ∃ image o static dynamic, load.image? s = some image ∧ Elf.Object.parse image = .ok o ∧
        o.FirstEntries Elf.SectionHeader.symtab static ∧
        o.FirstEntries Elf.SectionHeader.dynsym dynamic ∧
        ∀ after, (∀ op : Operation, op.loads? = some e ∨ op = .destroyExecutable e →
            (op, true) ∉ history u after) →
          ∀ g name, (run u after).faulty .getSymbol = false →
            (∃ kind earlier d later, static ++ dynamic = earlier ++ d :: later ∧
              d.Exposes kind name ∧ (∀ d' ∈ earlier, ∀ kind', ¬ d'.Exposes kind' name) ∧
              ((run u after).getSymbol e g name).1 =
                .ok (some (symbolFor (history {} before) (codeBase (s.loads + 1) + d.value) d.size
                  kind name))) ∨
            (∀ d ∈ static ++ dynamic, ∀ kind, ¬ d.Exposes kind name) ∧
              ((run u after).getSymbol e g name).1 =
                .ok ((latest (global? e name) (history {} (before ++ load :: after))).map
                  fun address => { name, kind := .variable, address })) := by
  intro s u
  refine ⟨executables_of_failed hload, fun hok hfresh => ?_⟩
  have htells : Tells (history {} before) s := run_tells before
  obtain ⟨image, o, static, dynamic, exe, himage, hparse, hstatic, hdynamic, hexe, hsymbols⟩ :=
    htells.load_ok hload hok hfresh
  refine ⟨image, o, static, dynamic, himage, hparse, hstatic, hdynamic, ?_⟩
  intro after hafter g name hask
  have hsound : u.Sound := perform_sound htells.sound load
  obtain ⟨exe', hexe', hsame⟩ := run_symbols_eq hsound hexe after hafter
  have hglobals : exe'.globals.get? name =
      latest (global? e name) (history {} (before ++ load :: after)) := by
    refine (run_tells (before ++ load :: after)).globals e exe' ?_ name
    rw [run_append]
    exact hexe'
  rw [getSymbol_eq hask hexe']
  unfold lookup
  rw [hglobals, hsame, hsymbols]
  rcases htells.find?_exposed (codeBase (s.loads + 1)) (static ++ dynamic) name with
    ⟨kind, earlier, d, later, hsplit, hexposes, hearlier, hfind⟩ | ⟨hnone, hfind⟩
  · refine .inl ⟨kind, earlier, d, later, hsplit, hexposes, hearlier, ?_⟩
    rw [hfind]
    rfl
  · refine .inr ⟨hnone, ?_⟩
    rw [hfind]
    rfl

/-- A kernel and its descriptor. -/
def describedKernel : Elf.Draft where
  text := [0x90]
  symbols := [.function "vadd" 0x100 64, .object "vadd.kd" 0x800 64]

/-- The kernel is answered with its entry, which comes before the descriptor, and with the sizes of
the time of the load. -/
theorem describedKernel_exposes :
    let image := describedKernel.encode
    let before := [createExecutable, setSegmentSizes "vadd" 128 16,
      allocate fineGrainedRegion image.length, writeMemory allocationBase image,
      deserialize allocationBase image.length]
    let load := loadCodeObject ⟨1⟩ ⟨7⟩ ⟨2⟩
    let after := [setSegmentSizes "vadd" 1 1, freeze ⟨1⟩]
    let s := run {} before
    let t := run (load.perform s).2 after
    ∃ o static dynamic, Elf.Object.parse image = .ok o ∧
      o.FirstEntries Elf.SectionHeader.symtab static ∧
      o.FirstEntries Elf.SectionHeader.dynsym dynamic ∧
      (∃ earlier d later, static ++ dynamic = earlier ++ d :: later ∧ d.Exposes .kernel "vadd" ∧
        (∀ d' ∈ earlier, ∀ kind, ¬ d'.Exposes kind "vadd") ∧
        codeBase 1 + d.value = 0x7e0001000100) ∧
      (t.getSymbol ⟨1⟩ ⟨7⟩ "vadd").1 = .ok (some
        { name := "vadd", kind := .kernel, address := 0x7e0001000100, groupSize := 128,
          privateSize := 16 }) ∧
      (∀ d ∈ static ++ dynamic, ∀ kind, ¬ d.Exposes kind "flag") ∧
      (t.getSymbol ⟨1⟩ ⟨7⟩ "flag").1 = .ok none := by
  intro image before load after s t
  have hload : load.loads? = some ⟨1⟩ := rfl
  have hok : (load.perform s).1 = true := by decide +kernel
  have himage : load.image? s = some image := by decide +kernel
  have hbase : s.loads + 1 = 1 := by decide +kernel
  have hbefore : ∀ step ∈ history {} before, step.1.loads? = some ⟨1⟩ → step.2 = false := by
    decide +kernel
  have hafter : ∀ step ∈ history (load.perform s).2 after,
      step.1.loads? = some ⟨1⟩ ∨ step.1 = .destroyExecutable ⟨1⟩ → step.2 = false := by
    decide +kernel
  have hasks : t.faulty .getSymbol = false := by decide +kernel
  have hkernel : (t.getSymbol ⟨1⟩ ⟨7⟩ "vadd").1 = .ok (some
      { name := "vadd", kind := .kernel, address := 0x7e0001000100, groupSize := 128,
        privateSize := 16 }) := by
    decide +kernel
  have hnothing : (t.getSymbol ⟨1⟩ ⟨7⟩ "flag").1 = .ok none := by decide +kernel
  have hunbound : latest (global? ⟨1⟩ "vadd") (history {} (before ++ load :: after)) = none := by
    decide +kernel
  obtain ⟨-, hloaded⟩ := load_exposes before hload
  obtain ⟨image', o, static, dynamic, himage', hparse, hstatic, hdynamic, hanswers⟩ :=
    hloaded hok fun op hop hmem => Bool.noConfusion (hbefore _ hmem hop)
  cases himage.symm.trans himage'
  have hanswers := hanswers after (fun op hop hmem => Bool.noConfusion (hafter _ hmem hop)) ⟨7⟩
  rw [hbase] at hanswers
  refine ⟨o, static, dynamic, hparse, hstatic, hdynamic, ?_, hkernel, ?_, hnothing⟩
  · rcases hanswers "vadd" hasks with
      ⟨kind, earlier, d, later, hsplit, hexposes, hearlier, hanswer⟩ | ⟨-, hanswer⟩
    · have hsymbol := Option.some.inj (Except.ok.inj (hanswer.symm.trans hkernel))
      cases kind with
      | kernel =>
        exact ⟨earlier, d, later, hsplit, hexposes, hearlier,
          congrArg ExecutableSymbol.address hsymbol⟩
      | «variable» => cases congrArg ExecutableSymbol.kind hsymbol
    · rw [hunbound] at hanswer
      cases hanswer.symm.trans hkernel
  · rcases hanswers "flag" hasks with ⟨_, _, _, _, -, -, -, hanswer⟩ | ⟨hnone, -⟩
    · cases hanswer.symm.trans hnothing
    · exact hnone

end Operation

end DeviceCode

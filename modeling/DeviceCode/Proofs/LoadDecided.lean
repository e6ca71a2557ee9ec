import DeviceCode.Proofs.Bindings
import DeviceCode.Proofs.TrailingBytes

/-!
# What decides a load from memory

When no call is made to fail and there is memory for images, a load from memory is decided by the
image and the host alone: it succeeds exactly when the image can be loaded (`Elf.Loadable`) and the
host does not refuse any name that it leaves undefined (`World.refusal?`). The object is read four
times on the way: as a whole, as the copy, when its code is loaded, and for the names that are
bound. All four agree, so the simulator's own check for undefined variables never fails.
-/

namespace DeviceCode

namespace Elf

/-- The first symbol table of either kind can be read, if there is one. -/
def Object.Tabled (o : Object) : Prop :=
  (∃ table, o.symbolTable = .ok table) ∧ ∃ table, o.dynamicSymbolTable = .ok table

instance (o : Object) : Decidable o.Tabled :=
  have hiff : ∀ {α : Type} (r : Except Error α), r.isOk = true ↔ ∃ a, r = .ok a := by
    intro α r
    cases r with
    | error err => exact ⟨nofun, fun ⟨_, h⟩ => nomatch h⟩
    | ok a => exact ⟨fun _ => ⟨a, rfl⟩, fun _ => rfl⟩
  decidable_of_iff (o.symbolTable.isOk = true ∧ o.dynamicSymbolTable.isOk = true)
    (and_congr (hiff _) (hiff _))

/-- An image can be loaded and leaves these names undefined: it is an object with a part to copy,
and that part is an object of its own, with symbol tables that can be read. -/
def Loadable (bytes : Bytes) (names : List String) : Prop :=
  ∃ o part, Object.parse bytes = .ok o ∧ 0 < o.extent ∧ o.extent ≤ bytes.length ∧
    Object.parse (bytes.take o.extent) = .ok part ∧ part.Tabled ∧
    part.undefinedGlobals = .ok names

theorem Loadable.part {bytes : Bytes} {names : List String} {o : Object} (h : Loadable bytes names)
    (hparse : Object.parse bytes = .ok o) : ∃ part,
      Object.parse (bytes.take o.extent) = .ok part ∧ part.Tabled ∧
        part.undefinedGlobals = .ok names := by
  obtain ⟨o', part, hparse', -, -, hpart⟩ := h
  cases hparse.symm.trans hparse'
  exact ⟨part, hpart⟩

/-- An image says in one way what it leaves undefined. -/
theorem Loadable.unique {bytes : Bytes} {names names' : List String} (h : Loadable bytes names)
    (h' : Loadable bytes names') : names = names' := by
  obtain ⟨o, part, hparse, -, -, hpart, -, hnames⟩ := h
  obtain ⟨part', hpart', -, hnames'⟩ := h'.part hparse
  cases hpart.symm.trans hpart'
  exact Except.ok.inj (hnames.symm.trans hnames')

theorem Object.Tabled.undefinedGlobals {o : Object} (h : o.Tabled) :
    ∃ names, o.undefinedGlobals = .ok names := by
  obtain ⟨-, table, htable⟩ := h
  unfold Object.undefinedGlobals
  rw [htable]
  exact ⟨_, rfl⟩

end Elf

namespace Simulator

variable {s t : Simulator} {settings : LoaderSettings} {hooks : LaunchHooks} {agent : AgentHandle}
  {image : Bytes} {e : ExecutableHandle} {exe : Executable}

/-! ## Calls that are not made to fail -/

theorem allocate_of {size : Nat} (hfaults : s.faults = []) (hsize : size ≠ 0) :
    ∃ address t, s.allocate fineGrainedRegion size = (.ok address, t) := by
  have hfits : ¬ (fineGrainedRegion ≠ fineGrainedRegion ∨ size = 0) := by
    rintro (h | h)
    · exact h rfl
    · exact hsize h
  unfold allocate
  rw [if_neg (ne_true_of_eq_false (faulty_of_faults hfaults _)), if_neg hfits]
  exact ⟨_, _, rfl⟩

theorem writeMemory_of {address : Nat} {old bytes : Bytes} (hfaults : s.faults = [])
    (hat : s.allocationAt? address bytes.length = some (address, old)) :
    ∃ t, s.writeMemory address bytes = (.ok (), t) := by
  have hat' : (s.record (.writeMemory address)).allocationAt? address bytes.length =
      some (address, old) := hat
  unfold writeMemory
  dsimp only
  rw [if_neg (ne_true_of_eq_false (faulty_of_faults (s := s.record _) hfaults _)), hat']
  exact ⟨_, rfl⟩

/-- A code object can be read from an allocation that holds an object, and only from such. -/
theorem deserialize_answer {address : Nat} (hfaults : s.faults = [])
    (hat : s.allocationAt? address image.length = some (address, image)) :
    (∀ o, Elf.Object.parse image = .ok o → ∃ c t, s.deserialize address image.length = (.ok c, t)) ∧
      ∀ err, Elf.Object.parse image = .error err → ∃ cause t,
        s.deserialize address image.length = (.error cause, t) ∧
          cause.status = statusInvalidCodeObject := by
  have hslice : Bytes.slice image (address - address) image.length = image := by
    rw [Nat.sub_self]
    exact List.take_length
  unfold deserialize
  rw [if_neg (ne_true_of_eq_false (faulty_of_faults hfaults _)), hat]
  dsimp only
  rw [hslice]
  constructor
  · intro o ho
    rw [ho]
    exact ⟨_, _, rfl⟩
  · intro err herr
    rw [herr]
    exact ⟨_, _, rfl, rfl⟩

theorem exposed_ok_iff {base : UInt64} {o : Elf.Object} :
    (∃ symbols, s.exposed base o = .ok symbols) ↔ o.Tabled := by
  unfold exposed Elf.Object.Tabled
  cases o.symbolTable with
  | error err => exact ⟨fun ⟨_, h⟩ => (nomatch h), fun ⟨⟨_, h⟩, _⟩ => (nomatch h)⟩
  | ok static =>
    cases o.dynamicSymbolTable with
    | error err => exact ⟨fun ⟨_, h⟩ => (nomatch h), fun ⟨_, _, h⟩ => (nomatch h)⟩
    | ok dynamic => exact ⟨fun _ => ⟨⟨_, rfl⟩, _, rfl⟩, fun _ => ⟨_, rfl⟩⟩

theorem loadCodeObject_of {g : AgentHandle} {c : CodeObjectHandle} (hfaults : s.faults = [])
    (hc : s.codeObjects.get? c = some image) :
    s.loadCodeObject e g c =
      (s.record (.loadCodeObject e c)).loadImage "executable_load_code_object" e image := by
  have hfaulty : (s.record (.loadCodeObject e c)).faulty .loadCodeObject = false :=
    faulty_of_faults hfaults _
  have hobject : (s.record (.loadCodeObject e c)).codeObjects.get? c = some image := hc
  unfold loadCodeObject
  dsimp only
  rw [hfaulty, hobject]
  rfl

section LoadImage

variable {operation : String} {o : Elf.Object} (hparse : Elf.Object.parse image = .ok o)
  (hexe : s.executables.get? e = some exe) (hopen : exe.frozen = false)
  (hbound : ∀ names, o.undefinedGlobals = .ok names →
    ∀ name ∈ names, exe.globals.contains name = true)

include hparse hexe hopen hbound

/-- Code whose undefined names are all bound is loaded when its tables can be read. -/
theorem loadImage_of (htabled : o.Tabled) : ∃ symbols,
    s.loadImage operation e image = (.ok (), { s with
      loads := s.loads + 1, executables := s.executables.put e (addSymbols exe symbols) }) := by
  obtain ⟨names, hnames⟩ := htabled.undefinedGlobals
  obtain ⟨symbols, hexposed⟩ := exposed_ok_iff.mpr htabled
  refine ⟨symbols, loadImage_ok_iff.mpr
    ⟨o, names, symbols, exe, hparse, hnames, hexe, hopen, ?_, hexposed, rfl⟩⟩
  rw [List.find?_eq_none]
  intro name hname
  rw [hbound names hnames name hname]
  decide

/-- Otherwise it is the tables that are at fault, and not an undefined variable. -/
theorem loadImage_undecodable (htabled : ¬ o.Tabled) : ∃ cause t,
    s.loadImage operation e image = (.error cause, t) ∧ cause.status = statusInvalidCodeObject := by
  unfold loadImage
  dsimp only
  rw [hparse, hexe]
  dsimp only
  rw [if_neg (ne_true_of_eq_false hopen)]
  cases hnames : o.undefinedGlobals with
  | error err => exact ⟨_, _, rfl, rfl⟩
  | ok names =>
    have hfind : names.find? (!exe.globals.contains ·) = none := by
      rw [List.find?_eq_none]
      intro name hname
      rw [hbound names hnames name hname]
      decide
    dsimp only
    rw [hfind]
    dsimp only
    split
    · exact ⟨_, _, rfl, rfl⟩
    · next symbols hexposed => exact absurd (exposed_ok_iff.mp ⟨symbols, hexposed⟩) htabled

end LoadImage

/-! ## The steps of a load -/

section Copy

variable {p : LoadProgress Simulator} (settings : LoaderSettings) (hooks : LaunchHooks)
  (agent : AgentHandle)

theorem imageRegion_of (hfaults : p.world.accelerator.faults = [])
    (hregion : p.world.accelerator.hasRegion = true) :
    (loader settings hooks).imageRegion agent p = (.ok fineGrainedRegion, p) := by
  have hfind : p.world.accelerator.findRegion agent =
      (.ok (some fineGrainedRegion), p.world.accelerator) := by
    unfold findRegion
    rw [if_neg (ne_true_of_eq_false (faulty_of_faults hfaults _)), if_pos hregion]
  have hcall : LoadStep.call Loader.memoryError
      ((loader settings hooks).accelerator.findRegion agent) p = _ := LoadStep.run_call_ok _ hfind
  exact run_bind_of_ok hcall _

/-- An image is copied when it is an object. -/
theorem copyImage_answer (hfaults : p.world.accelerator.faults = [])
    (hregion : p.world.accelerator.hasRegion = true) (himage : image ≠ []) :
    (∀ o, Elf.Object.parse image = .ok o → ∃ copied q,
        (loader settings hooks).copyImage agent image p = (.ok copied, q)) ∧
      ∀ err, Elf.Object.parse image = .error err → ∃ cause q,
        (loader settings hooks).copyImage agent image p = (.error (.loadFailed cause), q) ∧
          cause.status = statusInvalidCodeObject := by
  obtain ⟨address, t, hallocate⟩ := allocate_of hfaults (mt List.length_eq_zero_iff.mp himage)
  obtain ⟨pages, journal, rfl⟩ := allocate_ok hallocate
  let t₁ : Simulator := { p.world.accelerator with
    pages, journal
    allocations := p.world.accelerator.allocations.put address (Bytes.zeros image.length) }
  -- the allocation is as long as the image, so the write replaces all of it
  have hat : t₁.allocationAt? address image.length = some (address, Bytes.zeros image.length) :=
    allocationAt?_put rfl (Bytes.length_zeros _)
  obtain ⟨t, hwrite⟩ := writeMemory_of (s := t₁) hfaults hat
  obtain ⟨journal', rfl⟩ := writeMemory_ok hat hwrite
  rw [Bytes.overwrite_zeros] at hwrite
  let p₁ : LoadProgress Simulator :=
    { held := { p.held with allocation := some address }
      world := { p.world with accelerator := t₁ } }
  let t₂ : Simulator := { t₁ with
    journal := journal', allocations := t₁.allocations.put address image }
  have hat : t₂.allocationAt? address image.length = some (address, image) :=
    allocationAt?_put rfl rfl
  have hanswer := deserialize_answer (s := t₂) hfaults hat
  have hcopy : (loader settings hooks).copyImage agent image p = (do
      let codeObject ← LoadStep.call .loadFailed
        ((loader settings hooks).accelerator.deserialize address image.length)
      LoadStep.hold ({ · with codeObject := some codeObject })
      return (address, codeObject)) { p₁ with world := { p₁.world with accelerator := t₂ } } := by
    unfold Loader.copyImage
    rw [run_bind_of_ok (imageRegion_of settings hooks agent hfaults hregion),
      run_bind_of_ok (LoadStep.run_call_ok _ hallocate),
      run_bind_of_ok (show LoadStep.hold _ _ = (.ok (), p₁) from rfl),
      run_bind_of_ok (LoadStep.run_call_ok _ hwrite)]
  rw [hcopy]
  constructor
  · intro o ho
    obtain ⟨c, t, hread⟩ := hanswer.1 o ho
    rw [run_bind_of_ok (LoadStep.run_call_ok _ hread)]
    exact ⟨_, _, rfl⟩
  · intro err herr
    obtain ⟨cause, t, hread, hstatus⟩ := hanswer.2 err herr
    rw [run_bind_of_error (LoadStep.run_call_error _ hread)]
    exact ⟨cause, _, rfl, hstatus⟩

/-- Copying leaves alone what later steps of the load look at. -/
theorem copyImage_leaves {copied : Nat × CodeObjectHandle} {q : LoadProgress Simulator}
    (h : (loader settings hooks).copyImage agent image p = (.ok copied, q)) :
    q.world.accelerator.codeObjects.get? copied.2 = some image ∧
      q.world.accelerator.faults = p.world.accelerator.faults ∧
      q.world.accelerator.holders = p.world.accelerator.holders ∧
      q.world.refusal? settings = p.world.refusal? settings ∧
      q.world.hostAddress? settings = p.world.hostAddress? settings := by
  obtain ⟨-, hobject, _, _, _, _, hq⟩ := copyImage_ok h
  refine ⟨hobject, ?_⟩
  rw [hq]
  exact ⟨rfl, rfl, rfl, rfl⟩

end Copy

/-- An executable that is complete: it is frozen, its globals are these names at their addresses and
no others, and each address is pinned once more for each name that it was bound to. -/
structure Completed (address? : String → Option UInt64) (e : ExecutableHandle)
    (names : List String) (s t : Simulator) : Prop where
  executable : ∃ exe, t.executables.get? e = some exe ∧ exe.frozen = true ∧
    ∀ name, exe.globals.get? name = if name ∈ names then address? name else none
  holders : ∀ x, t.holders x = s.holders x + names.countP (address? · == some x)

/-- Names that the host does not refuse are defined once they are bound. -/
theorem contains_of_accepted {w : World Simulator} {names : List String}
    (h : w.refusal? settings names = none)
    (hglobals : ∀ name, exe.globals.get? name =
      if name ∈ names then w.hostAddress? settings name else none) :
    ∀ name ∈ names, exe.globals.contains name = true := by
  intro name hname
  obtain ⟨host, hhost, hbinds⟩ := World.refusal?_eq_none_iff.mp h (List.ne_nil_of_mem hname)
  obtain ⟨x, hx, -⟩ := hbinds name hname
  have hget : exe.globals.get? name = some x.address := by
    rw [hglobals, if_pos hname]
    unfold World.hostAddress? Host.Image.address?
    rw [hhost]
    show Option.map _ (host.lookup? name) = _
    rw [hx]
    rfl
  exact Assoc.contains_of_get? hget

section Finish

variable {p : LoadProgress Simulator} {copied : Nat × CodeObjectHandle} {names : List String}
  {part : Elf.Object} (settings : LoaderSettings) (hooks : LaunchHooks) (agent : AgentHandle)

theorem newExecutable_of (hfaults : p.world.accelerator.faults = []) :
    ∃ e lastHandle journal, (loader settings hooks).newExecutable p =
      (.ok e, { held := { p.held with executable := some e }
                world := { p.world with accelerator := { p.world.accelerator with
                  lastHandle, journal
                  executables := p.world.accelerator.executables.put e {} } } }) := by
  have hcreate := createExecutable_ok_iff.mpr ⟨faulty_of_faults hfaults .createExecutable, rfl, rfl⟩
  have hcall : LoadStep.call .loadFailed (loader settings hooks).accelerator.createExecutable p =
    _ := LoadStep.run_call_ok _ hcreate
  exact ⟨_, _, _, run_bind_of_ok hcall _⟩

variable (hfaults : p.world.accelerator.faults = [])

include hfaults

theorem finishImage_refused {cause : LoadError} (h : p.world.refusal? settings names = some cause) :
    ∃ q, (loader settings hooks).finishImage agent image names copied p = (.error cause, q) := by
  obtain ⟨e, lastHandle, journal, hnew⟩ := newExecutable_of settings hooks hfaults
  let q : LoadProgress Simulator :=
    { held := { p.held with executable := some e }
      world := { p.world with accelerator := { p.world.accelerator with
        lastHandle, journal
        executables := p.world.accelerator.executables.put e {} } } }
  have hexe : q.world.accelerator.executables.get? e = some {} := by rw [Assoc.get?_put, if_pos rfl]
  obtain ⟨q', hbind⟩ := bindUndefined_refused settings hooks agent (p := q) hfaults hexe rfl h
  unfold Loader.finishImage
  rw [run_bind_of_ok hnew, run_bind_of_error hbind]
  exact ⟨_, rfl⟩

variable (hobject : p.world.accelerator.codeObjects.get? copied.2 = some image)
  (hparse : Elf.Object.parse image = .ok part)
  (hnames : ∀ names', part.undefinedGlobals = .ok names' → names' = names)
  (h : p.world.refusal? settings names = none)

include hobject hparse hnames h

/-- Nothing but the tables of the copy can be at fault once all names are bound, and then the
executable is completed. -/
theorem finishImage_of :
    (part.Tabled → ∃ e d q,
        (loader settings hooks).finishImage agent image names copied p = (.ok (e, d), q) ∧
          Completed (p.world.hostAddress? settings) e names p.world.accelerator
            q.world.accelerator) ∧
      (¬ part.Tabled → ∃ cause q,
        (loader settings hooks).finishImage agent image names copied p =
            (.error (.loadFailed cause), q) ∧ cause.status = statusInvalidCodeObject) := by
  obtain ⟨e, lastHandle, journal, hnew⟩ := newExecutable_of settings hooks hfaults
  let q : LoadProgress Simulator :=
    { held := { p.held with executable := some e }
      world := { p.world with accelerator := { p.world.accelerator with
        lastHandle, journal
        executables := p.world.accelerator.executables.put e {} } } }
  have hexe : q.world.accelerator.executables.get? e = some {} := by rw [Assoc.get?_put, if_pos rfl]
  obtain ⟨q', hbind, hbound⟩ := bindUndefined_of settings hooks agent (p := q) hfaults hexe rfl h
  obtain ⟨exe, hexe', hopen, hglobals⟩ := hbound.executable
  have hfaults' : q'.world.accelerator.faults = [] := hbound.faults.trans hfaults
  have hobject' : q'.world.accelerator.codeObjects.get? copied.2 = some image := by
    rw [hbound.codeObjects]
    exact hobject
  have hdefined : ∀ names', part.undefinedGlobals = .ok names' →
      ∀ name ∈ names', exe.globals.contains name = true := by
    intro names' hundefined
    rw [hnames names' hundefined]
    exact contains_of_accepted (w := q.world) h hglobals
  let s : Simulator := q'.world.accelerator.record (.loadCodeObject e copied.2)
  have hload : q'.world.accelerator.loadCodeObject e agent copied.2 = s.loadImage _ e image :=
    loadCodeObject_of hfaults' hobject'
  unfold Loader.finishImage
  rw [run_bind_of_ok hnew, run_bind_of_ok hbind]
  constructor
  · intro htabled
    obtain ⟨symbols, hloaded⟩ := loadImage_of (s := s) hparse hexe' hopen hdefined htabled
    let exe₁ : Executable := addSymbols exe symbols
    let t : Simulator := { s with
      loads := s.loads + 1, executables := s.executables.put e exe₁ }
    have hexe₁ : t.executables.get? e = some exe₁ := by rw [Assoc.get?_put, if_pos rfl]
    have hfreeze := freeze_ok_iff.mpr
      ⟨faulty_of_faults (s := t) hfaults' .freeze, exe₁, hexe₁, hopen, rfl⟩
    rw [run_bind_of_ok (LoadStep.run_call_ok _ (hload.trans hloaded)),
      run_bind_of_ok (LoadStep.run_call_ok _ hfreeze)]
    refine ⟨e, _, _, rfl, ⟨{ exe₁ with frozen := true }, ?_, rfl, hglobals⟩, hbound.holders⟩
    show (t.executables.put e _).get? e = _
    rw [Assoc.get?_put, if_pos rfl]
  · intro htabled
    obtain ⟨cause, t, hfailed, hstatus⟩ :=
      loadImage_undecodable (s := s) hparse hexe' hopen hdefined htabled
    rw [run_bind_of_error (LoadStep.run_call_error _ (hload.trans hfailed))]
    exact ⟨cause, _, rfl, hstatus⟩

end Finish

section Steps

variable {p : LoadProgress Simulator} {names : List String} (settings : LoaderSettings)
  (hooks : LaunchHooks) (agent : AgentHandle) (hfaults : p.world.accelerator.faults = [])
  (hregion : p.world.accelerator.hasRegion = true) (himage : image ≠ [])

include hfaults hregion himage

theorem loadImageSteps_malformed {err : Elf.Error} (hparse : Elf.Object.parse image = .error err) :
    ∃ cause q, (loader settings hooks).loadImageSteps agent image names p =
      (.error (.loadFailed cause), q) ∧ cause.status = statusInvalidCodeObject := by
  obtain ⟨cause, q, hcopy, hstatus⟩ :=
    (copyImage_answer settings hooks agent hfaults hregion himage).2 err hparse
  rw [Loader.loadImageSteps_eq, run_bind_of_error hcopy]
  exact ⟨cause, q, rfl, hstatus⟩

variable {part : Elf.Object} (hparse : Elf.Object.parse image = .ok part)

include hparse

theorem loadImageSteps_refused {cause : LoadError}
    (h : p.world.refusal? settings names = some cause) :
    ∃ q, (loader settings hooks).loadImageSteps agent image names p = (.error cause, q) := by
  obtain ⟨copied, q, hcopy⟩ :=
    (copyImage_answer settings hooks agent hfaults hregion himage).1 part hparse
  obtain ⟨-, hfaults', -, hrefusal, -⟩ := copyImage_leaves settings hooks agent hcopy
  rw [Loader.loadImageSteps_eq, run_bind_of_ok hcopy]
  rw [← hrefusal] at h
  exact finishImage_refused settings hooks agent (hfaults'.trans hfaults) h

theorem loadImageSteps_of
    (hnames : ∀ names', part.undefinedGlobals = .ok names' → names' = names)
    (h : p.world.refusal? settings names = none) :
    (part.Tabled → ∃ e d q,
        (loader settings hooks).loadImageSteps agent image names p = (.ok (e, d), q) ∧
          Completed (p.world.hostAddress? settings) e names p.world.accelerator
            q.world.accelerator) ∧
      (¬ part.Tabled → ∃ cause q,
        (loader settings hooks).loadImageSteps agent image names p =
            (.error (.loadFailed cause), q) ∧ cause.status = statusInvalidCodeObject) := by
  obtain ⟨copied, q, hcopy⟩ :=
    (copyImage_answer settings hooks agent hfaults hregion himage).1 part hparse
  obtain ⟨hobject, hfaults', hholders, hrefusal, haddress⟩ :=
    copyImage_leaves settings hooks agent hcopy
  rw [Loader.loadImageSteps_eq, run_bind_of_ok hcopy]
  rw [← hrefusal] at h
  obtain ⟨hok, herror⟩ :=
    finishImage_of settings hooks agent (hfaults'.trans hfaults) hobject hparse hnames h
  refine ⟨fun htabled => ?_, herror⟩
  obtain ⟨e, d, q', hrun, hexe, hpins⟩ := hok htabled
  rw [haddress] at hexe hpins
  rw [hholders] at hpins
  exact ⟨e, d, q', hrun, hexe, hpins⟩

end Steps

end Simulator

namespace Loader

variable {σ α : Type} {l : Loader σ} {w : World σ}

theorem transaction_error {steps : LoadStep σ α} {cause : LoadError} {p : LoadProgress σ}
    (h : steps { world := w } = (.error cause, p)) :
    (l.transaction steps w).1 = .error cause := by
  unfold transaction
  rw [h]
  rfl

theorem wellFormed_error {r : Except Elf.Error α} {err : Elf.Error} (h : r = .error err) :
    Attempt.wellFormed r w = (.error (.malformedObject err), w) := by
  subst h
  rfl

theorem objectBytes_error {o : Elf.Object} {cause : LoadError} (h : objectBytes o = .error cause) :
    ∀ c, cause ≠ .loadFailed c := by
  unfold objectBytes at h
  rintro c rfl
  split at h
  · cases h
  · split at h <;> cases h

/-- An image that cannot be read is refused before the accelerator is called. -/
theorem loadData_unread {device : Device} {bytes : Bytes}
    (h : ¬ ∃ o image names, Elf.Object.parse bytes = .ok o ∧ objectBytes o = .ok image ∧
      o.undefinedGlobals = .ok names) :
    ∃ cause, (l.loadData (some device) bytes w).1 = .error cause ∧
      ∀ c, cause ≠ .loadFailed c := by
  unfold loadData
  rw [run_bind_of_ok (show Attempt.device (some device) w = (.ok device, w) from rfl),
    run_bind_of_ok (show Attempt.report _ w = (.ok (), _) from rfl)]
  cases hparse : Elf.Object.parse bytes with
  | error err =>
    rw [run_bind_of_error (wellFormed_error rfl)]
    exact ⟨_, rfl, nofun⟩
  | ok o =>
    rw [run_bind_of_ok (Attempt.wellFormed_ok_iff.mpr ⟨rfl, rfl⟩)]
    cases himage : objectBytes o with
    | error cause =>
      rw [run_bind_of_error (show Attempt.ofExcept (.error cause) _ = (.error cause, _) from rfl)]
      exact ⟨_, rfl, objectBytes_error himage⟩
    | ok image =>
      rw [run_bind_of_ok (Attempt.ofExcept_ok_iff.mpr ⟨rfl, rfl⟩)]
      cases hnames : o.undefinedGlobals with
      | error err =>
        rw [run_bind_of_error (wellFormed_error rfl)]
        exact ⟨_, rfl, nofun⟩
      | ok names => exact absurd ⟨o, image, names, hparse, himage, hnames⟩ h

/-- A failure of the steps is the failure of the load. -/
theorem loadData_error {device : Device} {bytes image : Bytes} {o : Elf.Object}
    {names : List String} {cause : LoadError} {p : LoadProgress σ}
    (hparse : Elf.Object.parse bytes = .ok o) (himage : objectBytes o = .ok image)
    (hnames : o.undefinedGlobals = .ok names)
    (hsteps : l.loadImageSteps device.agent image names
      { world := { w with log := w.log ++ [.loadStarted "memory" (some bytes.length)] } } =
        (.error cause, p)) :
    (l.loadData (some device) bytes w).1 = .error cause := by
  unfold loadData
  rw [run_bind_of_ok (show Attempt.device (some device) w = (.ok device, w) from rfl),
    run_bind_of_ok (show Attempt.report _ w = (.ok (), _) from rfl),
    run_bind_of_ok (Attempt.wellFormed_ok_iff.mpr ⟨hparse, rfl⟩),
    run_bind_of_ok (Attempt.ofExcept_ok_iff.mpr ⟨himage, rfl⟩),
    run_bind_of_ok (Attempt.wellFormed_ok_iff.mpr ⟨hnames, rfl⟩),
    run_bind_of_error (Prod.ext (transaction_error hsteps) rfl)]

end Loader

namespace Simulator

variable {settings : LoaderSettings} {hooks : LaunchHooks} {w : World Simulator} {device : Device}
  {bytes : Bytes}

/-! ## Loads from memory -/

/-- The part that is copied leaves undefined what the whole image does. -/
theorem names_of_part {o part : Elf.Object} {names names' : List String}
    (hparse : Elf.Object.parse bytes = .ok o)
    (hpart : Elf.Object.parse (bytes.take o.extent) = .ok part)
    (hnames : o.undefinedGlobals = .ok names) (h : part.undefinedGlobals = .ok names') :
    names' = names := by
  have hwhole := (Elf.Object.extends_of_take hpart hparse).undefinedGlobals h
  rw [hnames] at hwhole
  exact (Except.ok.inj hwhole).symm

/-- The three ways in which a load from memory ends: the image cannot be loaded, the host refuses a
name, or the load is complete. -/
theorem loadData_cases (settings : LoaderSettings) (hooks : LaunchHooks)
    (hfaults : w.accelerator.faults = []) (hregion : w.accelerator.hasRegion = true)
    (device : Device) (bytes : Bytes) :
    let loaded := (loader settings hooks).loadData (some device) bytes w
    (∃ cause, loaded.1 = .error cause ∧ (∀ names, ¬ Elf.Loadable bytes names) ∧
        ∀ c, cause = .loadFailed c → c.status ≠ statusVariableUndefined) ∨
      (∃ names cause, loaded.1 = .error cause ∧ w.refusal? settings names = some cause ∧
        ∀ names', Elf.Loadable bytes names' → names' = names) ∨
      ∃ names m, loaded.1 = .ok m ∧ w.refusal? settings names = none ∧ Elf.Loadable bytes names ∧
        Completed (w.hostAddress? settings) m.executable names w.accelerator
          loaded.2.accelerator := by
  intro loaded
  by_cases hread : ∃ o image names, Elf.Object.parse bytes = .ok o ∧
      Loader.objectBytes o = .ok image ∧ o.undefinedGlobals = .ok names
  · obtain ⟨o, image, names, hparse, himage, hnames⟩ := hread
    obtain ⟨hfits, hsome, rfl⟩ := o.objectBytes_ok_iff.mp himage
    rw [Elf.Object.parse_bytes hparse] at hfits himage
    have hne : bytes.take o.extent ≠ [] := by
      intro hnil
      have hlength := congrArg List.length hnil
      rw [List.length_take_of_le hfits] at hlength
      exact hsome hlength
    let p : LoadProgress Simulator :=
      { world := { w with log := w.log ++ [.loadStarted "memory" (some bytes.length)] } }
    cases hpart : Elf.Object.parse (bytes.take o.extent) with
    | error err =>
      obtain ⟨cause, q, hsteps, hstatus⟩ := loadImageSteps_malformed settings hooks device.agent
        (p := p) hfaults hregion hne hpart
      refine .inl ⟨_, Loader.loadData_error hparse himage hnames hsteps, ?_, ?_⟩
      · intro names' hloadable
        obtain ⟨part, hpart', -⟩ := hloadable.part hparse
        cases hpart.symm.trans hpart'
      · rintro c hc
        cases hc
        rw [hstatus]
        decide
    | ok part =>
      have hsame : ∀ names', part.undefinedGlobals = .ok names' → names' = names :=
        fun names' h => names_of_part hparse hpart hnames h
      have hloadable : ∀ names', Elf.Loadable bytes names' → part.Tabled ∧ names' = names := by
        intro names' h
        obtain ⟨part', hpart', htabled, hnames'⟩ := h.part hparse
        cases hpart.symm.trans hpart'
        exact ⟨htabled, hsame names' hnames'⟩
      cases hrefusal : w.refusal? settings names with
      | some cause =>
        obtain ⟨q, hsteps⟩ := loadImageSteps_refused settings hooks device.agent (p := p) hfaults
          hregion hne hpart hrefusal
        exact .inr (.inl ⟨names, cause, Loader.loadData_error hparse himage hnames hsteps, hrefusal,
          fun names' h => (hloadable names' h).2⟩)
      | none =>
        obtain ⟨hok, herror⟩ := loadImageSteps_of settings hooks device.agent (p := p) hfaults
          hregion hne hpart hsame hrefusal
        by_cases htabled : part.Tabled
        · obtain ⟨e, d, ⟨held, v⟩, hsteps, hcompleted⟩ := hok htabled
          obtain ⟨names', hundefined⟩ := htabled.undefinedGlobals
          rw [hsame names' hundefined] at hundefined
          have hrun : loaded = _ := Loader.loadData_ok_iff.mpr ⟨device, o, _, names, e, d, held, v,
            rfl, hparse, himage, hnames, hsteps, rfl, rfl⟩
          refine .inr (.inr ⟨names, _, congrArg Prod.fst hrun, hrefusal,
            ⟨o, part, hparse, Nat.pos_of_ne_zero hsome, hfits, hpart, htabled, hundefined⟩, ?_⟩)
          rw [hrun]
          exact ⟨hcompleted.executable, hcompleted.holders⟩
        · obtain ⟨cause, q, hsteps, hstatus⟩ := herror htabled
          refine .inl ⟨_, Loader.loadData_error hparse himage hnames hsteps,
            fun names' h => htabled (hloadable names' h).1, ?_⟩
          rintro c hc
          cases hc
          rw [hstatus]
          decide
  · obtain ⟨cause, herror, hcause⟩ := Loader.loadData_unread (w := w) (l := loader settings hooks)
      hread
    refine .inl ⟨cause, herror, ?_, fun c hc => absurd hc (hcause c)⟩
    rintro names ⟨o, part, hparse, hpos, hfits, hpart, -, hnames⟩
    refine hread ⟨o, _, names, hparse, o.objectBytes_ok_iff.mpr ⟨?_, hpos.ne', rfl⟩,
      (Elf.Object.extends_of_take hpart hparse).undefinedGlobals hnames⟩
    rw [Elf.Object.parse_bytes hparse]
    exact hfits

/-- **What decides a load from memory.** It succeeds exactly when the image can be loaded and the
host defines every name that it leaves undefined; then the executable is complete. The first name
that cannot be bound decides the error, and that never is an undefined variable in the simulator. -/
theorem loadData_decided (settings : LoaderSettings) (hooks : LaunchHooks)
    (hfaults : w.accelerator.faults = []) (hregion : w.accelerator.hasRegion = true)
    (device : Device) (bytes : Bytes) :
    let loaded := (loader settings hooks).loadData (some device) bytes w
    ((∃ m, loaded.1 = .ok m) ↔ ∃ names, Elf.Loadable bytes names ∧
        (names ≠ [] → ∃ host, w.hostImage? settings = .ok host ∧
          ∀ name ∈ names, host.Binds name)) ∧
      (∀ m names, loaded.1 = .ok m → Elf.Loadable bytes names →
        Completed (w.hostAddress? settings) m.executable names w.accelerator
          loaded.2.accelerator) ∧
      (∀ cause, loaded.1 = .error (.loadFailed cause) →
        cause.status ≠ statusVariableUndefined) ∧
      ∀ pre name post host, Elf.Loadable bytes (pre ++ name :: post) →
        w.hostImage? settings = .ok host → (∀ n ∈ pre, host.Binds n) → ¬ host.Binds name →
        loaded.1 = .error
          (if host.lookup? name = none then .unresolvedSymbol name
            else .loadFailed
              ⟨"amd_memory_lock", statusInvalidArgument, "null or empty host range"⟩) := by
  intro loaded
  -- a host that defines all names does not refuse any of them
  have hrefused : ∀ pre name post host, w.hostImage? settings = .ok host →
      (∀ n ∈ pre, host.Binds n) → ¬ host.Binds name →
      w.refusal? settings (pre ++ name :: post) = host.refusal? name := by
    intro pre name post host hhost hpre hname
    have hsome : (pre ++ name :: post).isEmpty = false := by simp
    unfold World.refusal?
    rw [if_neg (ne_true_of_eq_false hsome), hhost]
    exact Host.Image.findSome?_refusal hpre hname
  rcases loadData_cases settings hooks hfaults hregion device bytes with
    ⟨cause, herror, hnot, hstatus⟩ | ⟨names, cause, herror, hrefusal, hunique⟩ |
      ⟨names, m, hok, hrefusal, hloadable, hcompleted⟩
  · have herror : loaded.1 = .error cause := herror
    have hfailed : ∀ m, loaded.1 ≠ .ok m := by
      rw [herror]
      rintro m ⟨⟩
    refine ⟨⟨fun ⟨m, hok⟩ => absurd hok (hfailed m), ?_⟩,
      fun m _ hok => absurd hok (hfailed m), ?_, ?_⟩
    · rintro ⟨names, hloadable, -⟩
      exact absurd hloadable (hnot names)
    · intro c hc
      rw [herror] at hc
      exact hstatus c (Except.error.inj hc)
    · intro pre name post host hloadable
      exact absurd hloadable (hnot _)
  · have herror : loaded.1 = .error cause := herror
    have hfailed : ∀ m, loaded.1 ≠ .ok m := by
      rw [herror]
      rintro m ⟨⟩
    refine ⟨⟨fun ⟨m, hok⟩ => absurd hok (hfailed m), ?_⟩,
      fun m _ hok => absurd hok (hfailed m), ?_, ?_⟩
    · rintro ⟨names', hloadable, hbinds⟩
      rw [hunique names' hloadable] at hbinds
      rw [World.refusal?_eq_none_iff.mpr hbinds] at hrefusal
      cases hrefusal
    · intro c hc
      rw [herror] at hc
      cases hc
      exact World.refusal?_status hrefusal
    · intro pre name post host hloadable hhost hpre hname
      rw [← hunique _ hloadable, hrefused pre name post host hhost hpre hname,
        Host.Image.refusal?_of_not_binds hname] at hrefusal
      rw [herror, Option.some.inj hrefusal]
  · have hok : loaded.1 = .ok m := hok
    have hunique : ∀ names', Elf.Loadable bytes names' → names' = names := fun names' h =>
      h.unique hloadable
    refine ⟨⟨fun _ => ⟨names, hloadable, World.refusal?_eq_none_iff.mp hrefusal⟩,
      fun _ => ⟨m, hok⟩⟩, ?_, ?_, ?_⟩
    · intro m' names' hok' hloadable'
      rw [hok] at hok'
      cases hok'
      rw [hunique names' hloadable']
      exact hcompleted
    · intro c hc
      rw [hok] at hc
      cases hc
    · intro pre name post host hloadable' hhost hpre hname
      rw [← hunique _ hloadable', hrefused pre name post host hhost hpre hname,
        Host.Image.refusal?_of_not_binds hname] at hrefusal
      cases hrefusal

/-- The first object of a fresh simulator, which binds one host global. -/
theorem loadData_decided_counting :
    let loaded := (loader {} .default).loadData (some ⟨0, ⟨0xa600⟩, ⟨0x9000⟩⟩) countingBytes
      countingWorld
    ∃ m exe, loaded.1 = .ok m ∧ loaded.2.accelerator.executables.get? m.executable = some exe ∧
      exe.frozen = true ∧ exe.globals.get? "counter" = some 0x5000 ∧
      exe.globals.get? "other" = none ∧ loaded.2.accelerator.holders 0x5000 = 1 := by
  dsimp only
  have hloadable : Elf.Loadable countingBytes ["counter"] :=
    ⟨{ countingDraft.object with bytes := countingBytes }, countingDraft.object, by decide +kernel,
      by decide +kernel, by decide +kernel, by decide +kernel, by decide +kernel,
      by decide +kernel⟩
  obtain ⟨hiff, hok, -⟩ := loadData_decided (w := countingWorld) {} .default rfl rfl
    ⟨0, ⟨0xa600⟩, ⟨0x9000⟩⟩ countingBytes
  obtain ⟨m, hm⟩ := hiff.mpr ⟨["counter"], hloadable, fun _ => ⟨_, rfl, fun name hname =>
    ⟨⟨0x5000, 8⟩, by rw [List.mem_singleton.mp hname]; rfl, by decide⟩⟩⟩
  obtain ⟨⟨exe, hexe, hfrozen, hglobals⟩, hholders⟩ := hok m ["counter"] hm hloadable
  refine ⟨m, exe, hm, hexe, hfrozen, ?_, ?_, ?_⟩
  · rw [hglobals]
    decide +kernel
  · rw [hglobals]
    decide +kernel
  · rw [hholders]
    decide +kernel

end Simulator

end DeviceCode

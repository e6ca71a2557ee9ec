import DeviceCode.Proofs.Orderly

/-!
# Whose code it is

Every executable that has code in it belongs to a module that still has it, and that module, or the
registry on its behalf, answers for what the code was loaded from and for the pins of the globals
that are bound in it (`Session.Attributed`). In orderly sessions the simulator has all of that, so
nothing that loaded code needs is gone.

There is one way out of this state: a load whose code is loaded, cannot be frozen, and cannot be
destroyed either (`Session.Strands`). It leaves an executable behind that no module has. Any other
request keeps the attribution, as `Session.Stepped.attributed` shows.
-/

namespace DeviceCode

/-- As long as the executable is there, so is the rest. -/
def LoadedModule.Whole (m : LoadedModule) : Prop :=
  m.executable? = none ∨
    m.codeObject? = m.deviceImage.map (·.codeObject) ∧ m.allocation? = m.deviceImage.map (·.address)

/-- A module answers for what code was loaded from. -/
def LoadedModule.Backs (m : LoadedModule) (ties : Ties) (residency : Residency) : Backing → Prop
  | .codeObject c => ∃ d, m.deviceImage = some d ∧ d.codeObject = c ∧
      ∀ x, (c, x) ∈ ties.readFrom → x = d.address
  | .reader r => (m.id, r) ∈ residency.readers

/-- The pinned host addresses, each with the module that it is pinned for. -/
def Residency.addresses (residency : Residency) : List (ModuleId × UInt64) :=
  residency.pins.map fun e => (e.1, e.2.hostAddress)

/-- How often a host address is pinned for a module. -/
def Residency.pinsFor (residency : Residency) (id : ModuleId) (x : UInt64) : Nat :=
  residency.addresses.count (id, x)

namespace Session

/-- All loaded code belongs to modules. -/
structure Attributed (s : Session (Watched Simulator)) : Prop where
  whole : ∀ m ∈ s.modules, m.Whole
  code : ∀ e b, s.world.accelerator.inner.executables.contains e = true →
    (e, b) ∈ s.world.accelerator.ties.loaded →
    ∃ m ∈ s.modules, m.executable? = some e ∧
      m.Backs s.world.accelerator.ties s.world.loader.residency b
  pins : ∀ m ∈ s.modules, ∀ e, m.executable? = some e → ∀ x,
    s.world.accelerator.ties.bound.count (e, x) ≤ s.world.loader.residency.pinsFor m.id x

/-- A request has put code into an executable, and neither could that be frozen nor destroyed. -/
def Strands (s t : Session (Watched Simulator)) : Prop :=
  s.world.accelerator.inner.faulty .freeze = true ∧
    s.world.accelerator.inner.faulty .destroyExecutable = true ∧
    t.world.accelerator.ties.loaded ≠ s.world.accelerator.ties.loaded

variable {s t : Session (Watched Simulator)} {r : Request}

/-! ## Requests that keep everything -/

/-- Modules that have learnt functions are the same modules. -/
theorem exists_forgetful {ms ms' : List LoadedModule}
    (h : ms'.map (·.forgetful) = ms.map (·.forgetful)) {m : LoadedModule} (hm : m ∈ ms) :
    ∃ m' ∈ ms', m'.forgetful = m.forgetful := by
  have hmem : m.forgetful ∈ ms'.map (·.forgetful) := by
    rw [h]
    exact List.mem_map_of_mem hm
  exact List.mem_map.mp hmem

theorem Keeps.attributed (h : Session.Keeps s t) (hs : s.Attributed) : t.Attributed where
  whole := by
    intro m hm
    obtain ⟨m', hm', hsame⟩ := exists_forgetful h.modules.symm hm
    have hwhole : m'.forgetful.Whole := hs.whole m' hm'
    rw [hsame] at hwhole
    exact hwhole
  code := by
    intro e b he hb
    rw [h.world.accelerator.executables] at he
    rw [h.world.accelerator.ties] at hb
    obtain ⟨m, hm, hexe, hbacks⟩ := hs.code e b he hb
    -- the same module may have learnt a function since
    obtain ⟨m', hm', hsame⟩ := exists_forgetful h.modules hm
    refine ⟨m', hm', ?_, ?_⟩
    · show m'.forgetful.executable? = some e
      rw [hsame]
      exact hexe
    · rw [h.world.residency, h.world.accelerator.ties]
      have hforget : ∀ m : LoadedModule, ∀ ties residency,
          m.forgetful.Backs ties residency b ↔ m.Backs ties residency b := by
        intro m ties residency
        cases b <;> exact Iff.rfl
      rw [← hforget, hsame, hforget]
      exact hbacks
  pins := by
    intro m hm e he x
    obtain ⟨m', hm', hsame⟩ := exists_forgetful h.modules.symm hm
    have hid : m'.id = m.id := congrArg (·.id) hsame
    have hexe : m'.executable? = some e := by
      show m'.forgetful.executable? = some e
      rw [hsame]
      exact he
    rw [h.world.residency, h.world.accelerator.ties, ← hid]
    exact hs.pins m' hm' e hexe x

/-! ## Loads -/

section Load

variable {held : Holdings} {news : Ties} {n : Nat}

/-- New notes are not about old executables. -/
theorem count_bound_add {ties : Ties} (habout : news.About held) (hfresh : held.Fresh n)
    {e : ExecutableHandle} (he : e.id ≤ n) (x : UInt64) :
    (ties.add news).bound.count (e, x) = ties.bound.count (e, x) := by
  have hnone : news.bound.count (e, x) = 0 := by
    refine List.count_eq_zero.mpr fun hmem => ?_
    have hlt := hfresh.executable e (habout.bound _ hmem)
    omega
  show (ties.bound ++ news.bound).count (e, x) = _
  rw [List.count_append, hnone, Nat.add_zero]

/-- New notes are not about old code objects, so what backs old code still does. -/
theorem backs_add {m : LoadedModule} {ties : Ties} {residency residency' : Residency} {b : Backing}
    (h : m.Backs ties residency b) (habout : news.About held) (hfresh : held.Fresh n)
    (hold : ∀ c, b = .codeObject c → c.id ≤ n)
    (hreaders : ∀ e ∈ residency.readers, e ∈ residency'.readers) :
    m.Backs (ties.add news) residency' b := by
  cases b with
  | codeObject c =>
    obtain ⟨d, hd, hc, hread⟩ := h
    refine ⟨d, hd, hc, fun x hx => ?_⟩
    rcases List.mem_append.mp hx with hx | hx
    · exact hread x hx
    · have hlt := hfresh.codeObject c (habout.readFrom _ hx).1
      have hle := hold c rfl
      omega
  | reader r => exact hreaders _ h

/-- In an orderly session the code objects that back code have been handed out. -/
theorem Orderly.id_le_of_backs (hs : s.Orderly) (ha : s.Attributed) {m : LoadedModule}
    (hm : m ∈ s.modules) {e : ExecutableHandle} (he : m.executable? = some e) {c : CodeObjectHandle}
    (hbacks : m.Backs s.world.accelerator.ties s.world.loader.residency (.codeObject c)) :
    c.id ≤ s.world.accelerator.inner.lastHandle := by
  obtain ⟨d, hd, rfl, -⟩ := hbacks
  have hsome : m.codeObject? = some d.codeObject := by
    rcases ha.whole m hm with hnone | ⟨hcode, -⟩
    · rw [he] at hnone
      cases hnone
    · rw [hcode, hd]
      rfl
  exact hs.sound.inner.codeObjects _ (hs.solvent.contains_codeObject hm hsome)

theorem Orderly.id_le_of_executable (hs : s.Orderly) {m : LoadedModule} (hm : m ∈ s.modules)
    {e : ExecutableHandle} (he : m.executable? = some e) :
    e.id ≤ s.world.accelerator.inner.lastHandle :=
  hs.sound.inner.executables _ (hs.solvent.contains_executable hm he)

theorem pinsFor_retain_le (residency : Residency) (id id' : ModuleId) (pins : List PinnedGlobal)
    (reader : Option ReaderHandle) (x : UInt64) :
    residency.pinsFor id' x ≤ (residency.retain id pins reader).pinsFor id' x := by
  unfold Residency.pinsFor Residency.addresses Residency.retain
  rw [List.map_append, List.count_append]
  exact Nat.le_add_right _ _

theorem le_pinsFor_retain (residency : Residency) (id : ModuleId) (pins : List PinnedGlobal)
    (reader : Option ReaderHandle) (x : UInt64) :
    (pins.map (·.hostAddress)).count x ≤ (residency.retain id pins reader).pinsFor id x := by
  have hmap : (pins.map fun p => (id, p)).map (fun e => (e.1, e.2.hostAddress)) =
      (pins.map (·.hostAddress)).map (Prod.mk id) := by
    rw [List.map_map, List.map_map]
    rfl
  unfold Residency.pinsFor Residency.addresses Residency.retain
  rw [List.map_append, List.count_append, hmap]
  exact Nat.le_trans List.count_le_count_map (Nat.le_add_left _ _)

section Loaded

variable {m : LoadedModule} {w : World (Watched Simulator)}

/-- The executable of a new module is not one that was handed out before. -/
theorem executable_ne_of_loaded (h : Loaded s.world held news m w) {e : ExecutableHandle}
    (hle : e.id ≤ s.world.accelerator.inner.lastHandle) : m.executable ≠ e := by
  intro heq
  have hlt := h.acquired.fresh.executable _ h.ready.executable
  rw [heq] at hlt
  exact absurd hlt (Nat.not_lt.mpr hle)

/-- What new code was loaded from is the new module's. -/
theorem backs_of_loaded (hs : s.Orderly) (h : Loaded s.world held news m w)
    {e : ExecutableHandle} {b : Backing} (hb : (e, b) ∈ news.loaded) :
    m.Backs (s.world.accelerator.ties.add news)
      (s.world.loader.residency.retain m.id held.pins held.reader) b := by
  obtain ⟨-, hback⟩ := h.about.loaded _ hb
  cases b with
  | codeObject c =>
    have hcode := h.ready.codeObject
    rw [show held.codeObject = some c from hback] at hcode
    cases hd : m.deviceImage with
    | none =>
      rw [hd] at hcode
      cases hcode
    | some d =>
      rw [hd] at hcode
      cases hcode
      refine ⟨d, hd, rfl, fun x hx => ?_⟩
      rcases List.mem_append.mp hx with hx | hx
      · -- an old note is about an old code object
        have hle := hs.sound.ties.readFrom _ hx
        have hlt := h.acquired.fresh.codeObject _ hback
        exact absurd hlt (Nat.not_lt.mpr hle)
      · have halloc := (h.about.readFrom _ hx).2
        rw [h.ready.allocation, hd] at halloc
        cases halloc
        rfl
  | reader r =>
    refine List.mem_append_right _ (List.mem_map.mpr ⟨r, ?_, rfl⟩)
    rw [show held.reader = some r from hback]
    exact List.mem_cons_self

/-- The registry keeps a pin for every global that the load has bound. -/
theorem bound_le_of_loaded (hs : s.Orderly) (h : Loaded s.world held news m w) (x : UInt64) :
    (s.world.accelerator.ties.add news).bound.count (m.executable, x) ≤
      (s.world.loader.residency.retain m.id held.pins held.reader).pinsFor m.id x := by
  have hold : s.world.accelerator.ties.bound.count (m.executable, x) = 0 := by
    refine List.count_eq_zero.mpr fun hmem => ?_
    exact executable_ne_of_loaded h (hs.sound.ties.bound _ hmem) rfl
  have hnews : news.bound.count (m.executable, x) ≤ (news.bound.map (·.2)).count x :=
    List.count_le_count_map (f := Prod.snd)
  show (s.world.accelerator.ties.bound ++ news.bound).count (m.executable, x) ≤ _
  rw [List.count_append, hold, Nat.zero_add]
  exact Nat.le_trans hnews (Nat.le_trans (h.ready.covered x) (le_pinsFor_retain _ _ _ _ _))

/-- A new module gets what its load has acquired, and the others keep what they have. -/
theorem attributed_load (hs : s.Orderly) (ha : s.Attributed) (h : Loaded s.world held news m w) :
    Attributed { world := w, modules := s.modules ++ [m] } := by
  have hfresh := h.acquired.fresh
  have hexe := h.executable?_eq.trans h.ready.executable
  have hgained := h.acquired.executables
  rw [h.ready.executable] at hgained
  refine ⟨?_, ?_, ?_⟩
  · intro m' hm'
    rcases List.mem_append.mp hm' with hm' | hm'
    · exact ha.whole m' hm'
    · rw [List.mem_singleton.mp hm']
      exact .inr ⟨h.codeObject?_eq.trans h.ready.codeObject,
        h.allocation?_eq.trans h.ready.allocation⟩
  · intro e b he hb
    dsimp only at he hb ⊢
    rw [h.ties] at hb ⊢
    rw [h.residency_eq]
    rcases List.mem_append.mp hb with hb | hb
    · -- old code: neither its executable nor its code object can be new
      rw [hgained.contains_other (executable_ne_of_loaded h (hs.sound.ties.loaded _ hb))] at he
      obtain ⟨m₀, hm₀, he₀, hbacks⟩ := ha.code e b he hb
      refine ⟨m₀, List.mem_append_left _ hm₀, he₀, ?_⟩
      refine backs_add hbacks h.about hfresh ?_ fun _ hmem => List.mem_append_left _ hmem
      rintro c rfl
      exact hs.id_le_of_backs ha hm₀ he₀ hbacks
    · have hheld := (h.about.loaded _ hb).1
      exact ⟨m, List.mem_append_right _ List.mem_cons_self, h.executable?_eq.trans hheld,
        backs_of_loaded hs h hb⟩
  · intro m' hm' e he x
    dsimp only
    rw [h.ties, h.residency_eq]
    rcases List.mem_append.mp hm' with hm' | hm'
    · rw [count_bound_add h.about hfresh (hs.id_le_of_executable hm' he)]
      exact Nat.le_trans (ha.pins m' hm' e he x) (pinsFor_retain_le _ _ _ _ _ _)
    · rw [List.mem_singleton.mp hm'] at he ⊢
      rw [hexe] at he
      cases he
      exact bound_le_of_loaded hs h x

end Loaded

/-- An executable that was there before a failed load, and is there after it, is not its own. -/
theorem old_of_rolledBack {w : World (Watched Simulator)} {frozen : Bool}
    (hu : Underway s.world (held.left s.world.accelerator.inner) frozen news w)
    {e : ExecutableHandle} (hle : e.id ≤ s.world.accelerator.inner.lastHandle)
    (he : w.accelerator.inner.executables.contains e = true) :
    s.world.accelerator.inner.executables.contains e = true := by
  have hgained := hu.acquired.executables
  cases hleft : (held.left s.world.accelerator.inner).executable with
  | none =>
    rw [hleft] at hgained
    rw [← (hgained : _ = _)]
    exact he
  | some e' =>
    rw [hleft] at hgained
    have hlt := hu.acquired.fresh.executable e' hleft
    have hne : e' ≠ e := by
      intro heq
      rw [heq] at hlt
      exact absurd hlt (Nat.not_lt.mpr hle)
    rw [← hgained.contains_other hne]
    exact he

/-- A failed load leaves no code behind, unless it strands its executable. -/
theorem attributed_rollBack {w : World (Watched Simulator)} (hs : s.Orderly) (ha : s.Attributed)
    (h : RolledBack s.world w) (hkept : ¬ s.Strands { s with world := w }) :
    Attributed { s with world := w } := by
  obtain ⟨held, frozen, news, hfresh, habout, hfreeze, hu⟩ := h
  have hresidency : w.loader.residency = s.world.loader.residency := by rw [hu.loader]
  have hgained := hu.acquired.executables
  refine ⟨ha.whole, ?_, ?_⟩
  · intro e b he hb
    dsimp only at he hb ⊢
    rw [hu.ties] at hb ⊢
    rw [hresidency]
    rcases List.mem_append.mp hb with hb | hb
    · obtain ⟨m, hm, hexe, hbacks⟩ :=
        ha.code e b (old_of_rolledBack hu (hs.sound.ties.loaded _ hb) he) hb
      refine ⟨m, hm, hexe, backs_add hbacks habout hfresh ?_ fun _ hmem => hmem⟩
      rintro c rfl
      exact hs.id_le_of_backs ha hm hexe hbacks
    · -- code was loaded, so freezing was faulty; the executable was destroyed then
      have hloaded : news.loaded ≠ [] := List.ne_nil_of_mem hb
      have hdestroy : s.world.accelerator.inner.faulty .destroyExecutable = false := by
        cases hfault : s.world.accelerator.inner.faulty .destroyExecutable with
        | false => rfl
        | true =>
          refine absurd ⟨hfreeze hloaded, hfault, ?_⟩ hkept
          show w.accelerator.ties.loaded ≠ _
          rw [hu.ties]
          exact fun heq => hloaded (List.append_right_eq_self.mp heq)
      rw [Holdings.left_executable_of_not hdestroy] at hgained
      rw [(hgained : _ = _)] at he
      have hle := hs.sound.inner.executables e he
      have hlt := hfresh.executable e (habout.loaded _ hb).1
      exact absurd hlt (Nat.not_lt.mpr hle)
  · intro m hm e he x
    dsimp only
    rw [hu.ties, hresidency, count_bound_add habout hfresh (hs.id_le_of_executable hm he)]
    exact ha.pins m hm e he x

end Load

/-! ## Unloads -/

section Unload

variable {index : Nat} {m : LoadedModule} {p : UnloadProgress (Watched Simulator)}

/-- The module being unloaded is as whole as before, or its executable is gone. -/
theorem whole_of_unloading (h : Unloading s.world m p) (hm : m.Whole) : p.module.Whole := by
  rcases h.ordered with hnone | ⟨hcode, halloc⟩
  · exact .inl hnone
  · rcases hm with hgone | ⟨hcode', halloc'⟩
    · rcases h.executables with ⟨hsame, _⟩ | ⟨e, hsome, _⟩
      · exact .inl (hsame.trans hgone)
      · rw [hgone] at hsome
        cases hsome
    · refine .inr ⟨?_, ?_⟩
      · rw [hcode, hcode', h.deviceImage_eq]
      · rw [halloc, halloc', h.deviceImage_eq]

/-- An executable that is still there is still its module's. -/
theorem executable?_of_unloading (h : Unloading s.world m p) {e : ExecutableHandle}
    (he : m.executable? = some e)
    (hthere : p.world.accelerator.inner.executables.contains e = true) :
    p.module.executable? = some e := by
  have hdropped := h.executables
  cases hnow : p.module.executable? with
  | none =>
    rw [hnow] at hdropped
    rw [hdropped.not_contains he] at hthere
    cases hthere
  | some e' =>
    rw [hnow] at hdropped
    rw [hdropped.of_some.1] at he
    exact he

theorem attributed_stopped (ha : s.Attributed) (hm : s.modules[index]? = some m)
    (h : Unloading s.world m p) (log : List Trace.Event) :
    Attributed { world := { p.world with log }, modules := s.modules.set index p.module } := by
  have hmem : m ∈ s.modules := List.mem_of_getElem? hm
  have hid : p.module.id = m.id := congrArg (·.id) h.module
  refine ⟨?_, ?_, ?_⟩
  · intro m' hm'
    rcases List.mem_or_eq_of_mem_set hm' with hm' | rfl
    · exact ha.whole m' hm'
    · exact whole_of_unloading h (ha.whole m hmem)
  · intro e b he hb
    dsimp only at he hb ⊢
    rw [h.ties] at hb ⊢
    rw [h.loader]
    obtain ⟨m₀, hm₀, hexe, hbacks⟩ := ha.code e b (h.executables.contains_of_contains he) hb
    rcases mem_set_or_eq hm hm₀ p.module with hm₀ | rfl
    · exact ⟨m₀, hm₀, hexe, hbacks⟩
    · refine ⟨p.module, List.mem_set (by exact (List.getElem?_eq_some_iff.mp hm).1) _,
        executable?_of_unloading h hexe he, ?_⟩
      cases b with
      | codeObject c =>
        obtain ⟨d, hd, hc, hread⟩ := hbacks
        exact ⟨d, h.deviceImage_eq.trans hd, hc, hread⟩
      | reader r =>
        show (p.module.id, r) ∈ _
        rw [hid]
        exact hbacks
  · intro m' hm' e he x
    dsimp only
    rw [h.ties, h.loader]
    rcases List.mem_or_eq_of_mem_set hm' with hm' | rfl
    · exact ha.pins m' hm' e he x
    · have hdropped := h.executables
      rw [he] at hdropped
      rw [hid]
      exact ha.pins m hmem e hdropped.of_some.1 x

theorem attributed_unloaded (ha : s.Attributed) (hm : s.modules[index]? = some m)
    (h : Unloading s.world m p) (hspent : p.module.Spent) (log : List Trace.Event) :
    Attributed
      { world := { p.world with
          log
          loader := { s.world.loader with residency := s.world.loader.residency.release m.id } }
        modules := s.modules.eraseIdx index } := by
  refine ⟨fun m' hm' => ha.whole m' (List.mem_of_mem_eraseIdx hm'), ?_, ?_⟩
  · intro e b he hb
    dsimp only at he hb ⊢
    rw [h.ties] at hb ⊢
    obtain ⟨m₀, hm₀, hexe, hbacks⟩ := ha.code e b (h.executables.contains_of_contains he) hb
    rcases mem_eraseIdx_or_eq hm hm₀ with hm₀ | rfl
    · refine ⟨m₀, hm₀, hexe, ?_⟩
      cases b <;> exact hbacks
    · have hnow := executable?_of_unloading h hexe he
      rw [hspent.executable] at hnow
      cases hnow
  · intro m' hm' e he x
    dsimp only
    rw [h.ties]
    exact ha.pins m' (List.mem_of_mem_eraseIdx hm') e he x

end Unload

/-! ## Teardowns -/

/-- Entries of live modules stay. -/
theorem pinsFor_keepLive {residency : Residency} {id : ModuleId} (h : residency.isLive id = true)
    (tornDown : Bool) (x : UInt64) :
    ({ residency.keepLive with tornDown } : Residency).pinsFor id x = residency.pinsFor id x := by
  unfold Residency.pinsFor Residency.addresses Residency.keepLive
  dsimp only
  have hmap : (residency.pins.filter fun e => residency.isLive e.1).map
        (fun e => (e.1, e.2.hostAddress)) =
      (residency.pins.map fun e => (e.1, e.2.hostAddress)).filter fun e =>
        residency.isLive e.1 := by
    rw [List.filter_map]
    rfl
  rw [hmap]
  exact List.count_filter h

theorem attributed_tornDown {a : Watched Simulator} (hs : s.Orderly) (ha : s.Attributed)
    (tornDown : Bool) (log : List Trace.Event)
    (h : Relinquished s.world.accelerator a s.world.loader.residency.releasablePins
      s.world.loader.residency.releasableReaders) :
    Attributed { s with
      world := { s.world with
        accelerator := a
        loader := { s.world.loader with
          residency := { s.world.loader.residency.keepLive with tornDown } }
        log } } := by
  have hlive : ∀ m ∈ s.modules, s.world.loader.residency.isLive m.id = true := fun m hm =>
    List.contains_iff_mem.mpr ((hs.live _).mpr (List.mem_map_of_mem hm))
  refine ⟨ha.whole, ?_, ?_⟩
  · intro e b he hb
    dsimp only at he hb ⊢
    rw [h.ties] at hb ⊢
    rw [h.executables] at he
    obtain ⟨m, hm, hexe, hbacks⟩ := ha.code e b he hb
    refine ⟨m, hm, hexe, ?_⟩
    cases b with
    | codeObject c => exact hbacks
    | reader r => exact List.mem_filter.mpr ⟨hbacks, hlive m hm⟩
  · intro m hm e he x
    dsimp only
    rw [h.ties, pinsFor_keepLive (hlive m hm)]
    exact ha.pins m hm e he x

/-- **Only stranding ends attribution.** -/
theorem Stepped.attributed (h : Stepped s r t) (hs : s.Orderly) (ha : s.Attributed)
    (hkept : ¬ s.Strands t) : t.Attributed := by
  cases h with
  | quiet h => exact h.attributed ha
  | loaded h => exact attributed_load hs ha h
  | rolledBack h => exact attributed_rollBack hs ha h hkept
  | stopped hm h log => exact attributed_stopped ha hm h log
  | unloaded hm h hspent log => exact attributed_unloaded ha hm h hspent log
  | tornDown tornDown log h => exact attributed_tornDown hs ha tornDown log h

end Session

end DeviceCode

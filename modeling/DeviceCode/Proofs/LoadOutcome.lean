import DeviceCode.Proofs.LoadProgress

/-!
# How a load ends

The steps of a load in their order, each from one stage to the next. A step that fails leaves the
load `Broken`: its holdings are known, and unless freezing is made to fail no code was loaded yet.
Steps that succeed end in a load that is `Ready`.

`Loader.load_ends`, `Loader.loadData_ends` and `Loader.loadDataWith_ends` say the same of the three
entry points: either everything that was acquired has become the new module's (`Loaded`), or it was
given back as far as the injected faults let it (`RolledBack`).
-/

namespace DeviceCode

variable {α : Type}

/-- A stage of a load: what it notes as held is what it holds. -/
structure Stage (w₀ : World (Watched Simulator)) (held : Holdings) (frozen : Bool) (news : Ties)
    (p : LoadProgress (Watched Simulator)) : Prop where
  noted : p.held = held
  underway : Underway w₀ held frozen news p.world
  about : news.About held

/-- A load in which a step has failed. -/
structure Broken (w₀ : World (Watched Simulator)) (p : LoadProgress (Watched Simulator)) :
    Prop where
  holds : ∃ frozen news, Underway w₀ p.held frozen news p.world ∧ news.About p.held ∧
    (news.loaded ≠ [] → w₀.accelerator.inner.faulty .freeze = true)

/-- A load all of whose steps have succeeded, with its executable and, from memory, its image. -/
structure Ready (w₀ : World (Watched Simulator)) (held : Holdings) (news : Ties)
    (e : ExecutableHandle) (image : Option DeviceImage) : Prop where
  executable : held.executable = some e
  codeObject : held.codeObject = image.map (·.codeObject)
  allocation : held.allocation = image.map (·.address)
  covered : news.CoveredBy held.pins
  unfaulty : w₀.accelerator.inner.faulty .freeze = false

/-- A failed load has given back what it held, up to what the injected faults keep. -/
def RolledBack (w₀ w : World (Watched Simulator)) : Prop :=
  ∃ held frozen news, held.Fresh w₀.accelerator.inner.lastHandle ∧ news.About held ∧
    (news.loaded ≠ [] → w₀.accelerator.inner.faulty .freeze = true) ∧
    Underway w₀ (held.left w₀.accelerator.inner) frozen news w

/-- A load that succeeded has made its holdings the new module's. -/
structure Loaded (w₀ : World (Watched Simulator)) (held : Holdings) (news : Ties) (m : LoadedModule)
    (w : World (Watched Simulator)) : Prop where
  acquired : Simulator.Acquired w₀.accelerator.inner w.accelerator.inner held true
  ties : w.accelerator.ties = w₀.accelerator.ties.add news
  about : news.About held
  ready : Ready w₀ held news m.executable m.deviceImage
  released : m.released = {}
  id : m.id = w₀.loader.nextModule
  loader : w.loader = { w₀.loader with
    hostImage := w.loader.hostImage
    nextModule := m.id + 1
    residency := w₀.loader.residency.retain m.id held.pins held.reader }

namespace Stage

variable {w₀ : World (Watched Simulator)} {held : Holdings} {frozen : Bool} {news : Ties}
  {p : LoadProgress (Watched Simulator)}

theorem broken (h : Stage w₀ held frozen news p) (hquiet : news.loaded = []) : Broken w₀ p :=
  ⟨frozen, news, h.noted ▸ h.underway, h.noted ▸ h.about, fun hne => absurd hquiet hne⟩

/-- After a call that failed without a change to the holdings. -/
theorem failed (h : Stage w₀ held frozen news p) (hquiet : news.loaded = [])
    {s : Watched Simulator}
    (hs : Simulator.Acquired w₀.accelerator.inner s.inner held frozen ∧
      s.ties = p.world.accelerator.ties) :
    Broken w₀ { p with world := { p.world with accelerator := s } } :=
  broken ⟨h.noted, h.underway.called hs.1 hs.2, h.about⟩ hquiet

end Stage

namespace Loader

variable {settings : LoaderSettings} {hooks : LaunchHooks}
  {w₀ w : World (Watched Simulator)} {held : Holdings} {frozen : Bool} {news : Ties}

/-! ## Binding host globals -/

/-- A host global is pinned under its own address. -/
theorem pinGlobal_ends (settings : LoaderSettings) (hooks : LaunchHooks) {pins : List PinnedGlobal}
    (h : Underway w₀ { held with pins } frozen news w) (host : Host.Image) (agent : AgentHandle)
    (name : String) :
    Ends (fun pin w => Underway w₀ { held with pins := pins ++ [pin] } frozen news w ∧
        pin.deviceAddress = pin.hostAddress)
      (Underway w₀ { held with pins } frozen news)
      ((Simulator.watchedLoader settings hooks).pinGlobal host agent name w) := by
  unfold pinGlobal
  cases host.lookup? name with
  | none => exact h
  | some s =>
    refine Ends.bind (Q := fun x w => x = s.address ∧ ∀ pin : PinnedGlobal,
      pin.hostAddress = s.address →
        Underway w₀ { held with pins := pins ++ [pin] } frozen news w) (Ends.call ?_) ?_
    · refine (h.acquired.lockMemory agent s.address _).pass.imp ?_ fun t ⟨ha, ht⟩ => h.called ha ht
      rintro x t ⟨⟨hx, ha⟩, ht⟩
      rw [Ties.add_nil] at ht
      exact ⟨hx, fun pin hpin => h.called (ha pin hpin) ht⟩
    · rintro x w ⟨rfl, hw⟩
      exact ⟨hw _ rfl, rfl⟩

theorem defineGlobal_ends (settings : LoaderSettings) (hooks : LaunchHooks)
    (h : Underway w₀ held false news w) {e : ExecutableHandle}
    (he : held.executable = some e) (pin : PinnedGlobal) :
    Ends (fun _ => Underway w₀ held false (news.add { bound := [(e, pin.deviceAddress)] }))
      (Underway w₀ held false news)
      ((Simulator.watchedLoader settings hooks).defineGlobal e pin w) := by
  refine Ends.bind (Q := fun _ => Underway w₀ held false
    (news.add { bound := [(e, pin.deviceAddress)] })) (Ends.call ?_) fun _ w hw => hw.logged _
  exact (h.acquired.defineGlobal he pin.name pin.deviceAddress).pass.imp
    (fun _ t ⟨ha, ht⟩ => h.noted ha ht) fun t ⟨ha, ht⟩ => h.called ha ht

theorem coveredBy_pin {pins : List PinnedGlobal} (h : news.CoveredBy pins) (pin : PinnedGlobal) :
    news.CoveredBy (pins ++ [pin]) := by
  intro x
  rw [List.map_append, List.count_append]
  exact Nat.le_trans (h x) (Nat.le_add_right _ _)

theorem coveredBy_bind {pins : List PinnedGlobal} (h : news.CoveredBy pins) {pin : PinnedGlobal}
    (hpin : pin.deviceAddress = pin.hostAddress) (e : ExecutableHandle) :
    (news.add { bound := [(e, pin.deviceAddress)] }).CoveredBy (pins ++ [pin]) := by
  intro x
  have hx := h x
  show ((news.bound ++ [(e, pin.deviceAddress)]).map (·.2)).count x ≤ _
  rw [List.map_append, List.map_append, List.count_append, List.count_append, hpin]
  exact Nat.add_le_add_right hx _

/-- Binding goes on until a name fails. By then every binding has a pin, and no note is about
another executable. -/
theorem bindUntilFailure_underway (settings : LoaderSettings) (hooks : LaunchHooks)
    {pins : List PinnedGlobal} {e : ExecutableHandle}
    (host : Host.Image) (agent : AgentHandle) (names : List String)
    (h : Underway w₀ { held with pins } false news w) (he : held.executable = some e)
    (hcovered : news.CoveredBy pins) :
    ∃ bound, (∀ x ∈ bound, x.1 = e) ∧ ∃ pins' err w',
      (Simulator.watchedLoader settings hooks).bindUntilFailure host agent e pins names w =
          ((pins', err), w') ∧
        Underway w₀ { held with pins := pins' } false (news.add { bound }) w' ∧
        (news.add { bound }).CoveredBy pins' := by
  -- along the names; pins, notes and world are those of the names before
  induction names generalizing pins news w with
  | nil =>
    refine ⟨[], fun _ hx => absurd hx List.not_mem_nil, pins, none, w, rfl, ?_, ?_⟩
    · rw [Ties.add_nil]
      exact h
    · rw [Ties.add_nil]
      exact hcovered
  | cons name names ih =>
    have hpin := pinGlobal_ends settings hooks h host agent name
    unfold bindUntilFailure
    rcases hrun : (Simulator.watchedLoader settings hooks).pinGlobal host agent name w with
      ⟨err | pin, w₁⟩
    · -- not even pinned
      rw [hrun] at hpin
      refine ⟨[], fun _ hx => absurd hx List.not_mem_nil, pins, some err, w₁, ?_, ?_, ?_⟩
      · exact run_bind_of hrun _
      · rw [Ties.add_nil]
        exact hpin
      · rw [Ties.add_nil]
        exact hcovered
    · rw [hrun] at hpin
      obtain ⟨h₁, hsame⟩ := hpin
      have hdef := defineGlobal_ends settings hooks h₁ he pin
      rcases hrun' : (Simulator.watchedLoader settings hooks).defineGlobal e pin w₁ with
        ⟨err | _, w₂⟩
      · -- pinned but not bound: one pin more than the bindings need
        rw [hrun'] at hdef
        refine ⟨[], fun _ hx => absurd hx List.not_mem_nil, pins ++ [pin], some err, w₂, ?_, ?_, ?_⟩
        · exact (run_bind_of hrun _).trans (run_bind_of hrun' _)
        · rw [Ties.add_nil]
          exact hdef
        · rw [Ties.add_nil]
          exact coveredBy_pin hcovered pin
      · rw [hrun'] at hdef
        obtain ⟨bound, hbound, pins', err, w', hloop, h', hcovered'⟩ :=
          ih hdef (coveredBy_bind hcovered hsame e)
        rw [Ties.add_assoc] at h' hcovered'
        refine ⟨(e, pin.deviceAddress) :: bound, ?_, pins', err, w', ?_, h', hcovered'⟩
        · intro x hx
          rcases List.mem_cons.mp hx with rfl | hx
          · rfl
          · exact hbound x hx
        · exact (run_bind_of hrun _).trans ((run_bind_of hrun' _).trans hloop)

/-- All names are bound, or no pin is left. -/
theorem bindGlobals_ends {e : ExecutableHandle} (host : Host.Image) (agent : AgentHandle)
    (names : List String) (h : Underway w₀ held false news w) (he : held.executable = some e)
    (hpins : held.pins = []) (hcovered : news.CoveredBy []) :
    Ends (fun pins w => ∃ bound, (∀ x ∈ bound, x.1 = e) ∧
        Underway w₀ { held with pins } false (news.add { bound }) w ∧
        (news.add { bound }).CoveredBy pins)
      (fun w => ∃ bound, (∀ x ∈ bound, x.1 = e) ∧
        Underway w₀ held false (news.add { bound }) w)
      ((Simulator.watchedLoader settings hooks).bindGlobals host agent e names w) := by
  have hheld : held = { held with pins := [] } := by rw [← hpins]
  rw [hheld] at h
  obtain ⟨bound, hbound, pins, err, w', hrun, h', hcovered'⟩ :=
    bindUntilFailure_underway settings hooks host agent names h he hcovered
  unfold bindGlobals
  rw [run_lift_bind, hrun]
  cases err with
  | none => exact ⟨bound, hbound, h'.logged _, hcovered'⟩
  | some err =>
    have hback := unpinAll_underway settings hooks pins h'
    rw [← hheld] at hback
    exact ⟨bound, hbound, hback⟩

theorem hostImage_ends (h : Underway w₀ held frozen news w) :
    Ends (fun _ => Underway w₀ held frozen news) (Underway w₀ held frozen news)
      ((Simulator.watchedLoader settings hooks).hostImage w) := by
  unfold hostImage
  refine Ends.get ?_
  cases w.loader.hostImage with
  | some image => exact h
  | none =>
    rcases Host.Image.load w.host (Simulator.watchedLoader settings hooks).settings with _ | image
    · exact h
    · refine { h with loader := ?_ }
      show { w.loader with hostImage := some image } = { w₀.loader with hostImage := some image }
      rw [h.loader]

/-! ## Steps with calls -/

/-- A call and a note of what it acquired. -/
theorem acquire_leads {β : Type} {cause : CallError → LoadError}
    {call : Simulator → Reply Simulator α} (note : α → Ties) (hold : α → Holdings → Holdings)
    (frozen' : Bool) {R : α → Simulator → Prop} {rest : α → LoadStep (Watched Simulator) β}
    {Q : β → LoadProgress (Watched Simulator) → Prop} (hquiet : news.loaded = [])
    (hcall : ∀ s, Simulator.Acquired w₀.accelerator.inner s held frozen →
      Ends (fun a t => Simulator.Acquired w₀.accelerator.inner t (hold a held) frozen' ∧ R a t)
        (fun t => Simulator.Acquired w₀.accelerator.inner t held frozen) (call s))
    (habout : news.About held → ∀ a, (news.add (note a)).About (hold a held))
    (hrest : ∀ a, Leads (fun p => Stage w₀ (hold a held) frozen' (news.add (note a)) p ∧
      R a p.world.accelerator.inner) (rest a) Q (Broken w₀)) :
    Leads (Stage w₀ held frozen news)
      (LoadStep.call cause (Watched.pass call note) >>= fun a =>
        LoadStep.hold (hold a) >>= fun _ => rest a) Q (Broken w₀) := by
  refine Leads.bind (Q := fun a p => p.held = held ∧ (news.add (note a)).About (hold a held) ∧
      Underway w₀ (hold a held) frozen' (news.add (note a)) p.world ∧
      R a p.world.accelerator.inner) (Leads.call fun p hp => ?_) fun a => ?_
  · refine (hcall _ hp.underway.acquired).pass.imp ?_ fun t ht => hp.failed hquiet ht
    rintro a t ⟨⟨ha, hr⟩, ht⟩
    exact ⟨hp.noted, habout hp.about a, hp.underway.noted ha ht, hr⟩
  · refine Leads.bind (Leads.hold fun p hp => ?_) fun _ => hrest a
    obtain ⟨hnoted, ha, hu, hr⟩ := hp
    exact ⟨⟨by rw [← hnoted], hu, ha⟩, hr⟩

/-- A call that acquires nothing. -/
theorem call_leads {cause : CallError → LoadError} {call : Simulator → Reply Simulator α}
    (note : α → Ties) {R : α → Simulator → Prop} (hquiet : news.loaded = [])
    (hcall : ∀ s, Simulator.Acquired w₀.accelerator.inner s held frozen →
      Ends (fun a t => Simulator.Acquired w₀.accelerator.inner t held frozen ∧ R a t)
        (fun t => Simulator.Acquired w₀.accelerator.inner t held frozen) (call s))
    (habout : ∀ a, (note a).About held) :
    Leads (Stage w₀ held frozen news) (LoadStep.call cause (Watched.pass call note))
      (fun a p => Stage w₀ held frozen (news.add (note a)) p ∧ R a p.world.accelerator.inner)
      (Broken w₀) := by
  refine Leads.call fun p hp => ?_
  refine (hcall _ hp.underway.acquired).pass.imp ?_ fun t ht => hp.failed hquiet ht
  rintro a t ⟨⟨ha, hr⟩, ht⟩
  exact ⟨⟨hp.noted, hp.underway.noted ha ht, hp.about.add (habout a)⟩, hr⟩

/-- More is held, and the notes are still about it. -/
theorem about_executable (hnone : held.executable = none) (e : ExecutableHandle)
    (h : news.About held) : news.About { held with executable := some e } :=
  h.mono (fun e' he => by rw [hnone] at he; cases he) (fun _ hc => hc) (fun _ hx => hx)
    fun _ hr => hr

theorem newExecutable_leads (hquiet : news.loaded = []) (hnone : held.executable = none) :
    Leads (Stage w₀ held frozen news) (Simulator.watchedLoader settings hooks).newExecutable
      (fun e => Stage w₀ { held with executable := some e } false news) (Broken w₀) := by
  refine acquire_leads (fun _ => {}) (fun e held => { held with executable := some e }) false
    (R := fun _ _ => True) hquiet
    (fun s hs => (hs.createExecutable hnone).imp (fun _ _ ha => ⟨ha, trivial⟩) fun _ ha => ha)
    (fun h e => ?_) fun e => Leads.pure fun p hp => ?_
  · rw [Ties.add_nil]
    exact about_executable hnone e h
  · have hstage := hp.1
    rw [Ties.add_nil] at hstage
    exact hstage

/-- After binding, pins are held, and every binding has one of its own. -/
def Bound (w₀ : World (Watched Simulator)) (held : Holdings)
    (p : LoadProgress (Watched Simulator)) : Prop :=
  ∃ pins news, news.loaded = [] ∧ news.CoveredBy pins ∧ Stage w₀ { held with pins } false news p

theorem about_bound {e : ExecutableHandle} (he : held.executable = some e)
    {bound : List (ExecutableHandle × UInt64)} (hbound : ∀ x ∈ bound, x.1 = e)
    (h : news.About held) : (news.add { bound }).About held :=
  h.add { Ties.About.nil with bound := fun x hx => by rw [hbound x hx]; exact he }

theorem bindUndefined_leads {e : ExecutableHandle} (agent : AgentHandle) (undefined : List String)
    (he : held.executable = some e) (hpins : held.pins = []) (hquiet : news.loaded = [])
    (hcovered : news.CoveredBy []) :
    Leads (Stage w₀ held false news)
      ((Simulator.watchedLoader settings hooks).bindUndefined agent e undefined)
      (fun _ => Bound w₀ held) (Broken w₀) := by
  have hheld : held = { held with pins := [] } := by rw [← hpins]
  have hloaded : ∀ bound, (news.add { bound }).loaded = [] := fun bound => by
    show news.loaded ++ [] = []
    rw [hquiet, List.append_nil]
  unfold bindUndefined
  split
  · -- nothing to bind, so the host image is not looked at either
    refine Leads.pure fun p hp => ⟨[], news, hquiet, hcovered, ?_⟩
    rw [← hheld]
    exact hp
  · refine Leads.bind (Q := fun _ => Stage w₀ held false news) (Leads.attempt fun p hp => ?_)
      fun host => ?_
    · exact (hostImage_ends hp.underway).imp (fun _ w hw => ⟨hp.noted, hw, hp.about⟩)
        fun w hw => Stage.broken ⟨hp.noted, hw, hp.about⟩ hquiet
    · refine Leads.bind (Q := fun pins p => p.held = held ∧ ∃ bound, (∀ x ∈ bound, x.1 = e) ∧
          Underway w₀ { held with pins } false (news.add { bound }) p.world ∧
          (news.add { bound }).CoveredBy pins ∧ news.About held)
        (Leads.attempt fun p hp => ?_) fun pins => Leads.hold fun p hp => ?_
      · refine (bindGlobals_ends host agent undefined hp.underway he hpins hcovered).imp ?_ ?_
        · rintro pins w ⟨bound, hbound, hw, hc⟩
          exact ⟨hp.noted, bound, hbound, hw, hc, hp.about⟩
        · rintro w ⟨bound, hbound, hw⟩
          exact Stage.broken ⟨hp.noted, hw, about_bound he hbound hp.about⟩ (hloaded bound)
      · obtain ⟨hnoted, bound, hbound, hu, hc, ha⟩ := hp
        refine ⟨pins, news.add { bound }, hloaded bound, hc, by rw [← hnoted], hu, ?_⟩
        exact (about_bound he hbound ha).mono (fun _ h => h) (fun _ h => h) (fun _ h => h)
          fun _ h => h

/-- The last step. Only here may code have been loaded when a load fails. -/
theorem freeze_leads {cause : CallError → LoadError} {e : ExecutableHandle}
    (he : held.executable = some e) :
    Leads (Stage w₀ held false news)
      (LoadStep.call cause ((Simulator.watchedLoader settings hooks).accelerator.freeze e))
      (fun _ p => Stage w₀ held true news p ∧ w₀.accelerator.inner.faulty .freeze = false)
      (Broken w₀) := by
  refine Leads.call fun p hp => ?_
  refine (hp.underway.acquired.freeze he).pass.imp ?_ ?_
  · rintro _ t ⟨⟨ha, hfault⟩, ht⟩
    rw [Ties.add_nil] at ht
    exact ⟨⟨hp.noted, hp.underway.called ha ht, hp.about⟩, hfault⟩
  · rintro t ⟨⟨ha, hfault⟩, ht⟩
    refine ⟨false, news, ?_, ?_, fun _ => hfault⟩
    · exact hp.noted ▸ hp.underway.called ha ht
    · exact hp.noted ▸ hp.about

/-! ## The two paths -/

/-- The steps of a load have succeeded. -/
def Finished (w₀ : World (Watched Simulator)) (e : ExecutableHandle) (image : Option DeviceImage)
    (p : LoadProgress (Watched Simulator)) : Prop :=
  ∃ held news, Stage w₀ held true news p ∧ Ready w₀ held news e image

theorem about_loaded {e : ExecutableHandle} (he : held.executable = some e) {b : Backing}
    (hb : b.HeldBy held) : Ties.About { loaded := [(e, b)] } held :=
  { Ties.About.nil with loaded := fun x hx => by rw [List.mem_singleton.mp hx]; exact ⟨he, hb⟩ }

theorem coveredBy_loaded {pins : List PinnedGlobal} (h : news.CoveredBy pins)
    (loaded : List (ExecutableHandle × Backing)) : (news.add { loaded }).CoveredBy pins := by
  intro x
  show ((news.bound ++ []).map Prod.snd).count x ≤ _
  rw [List.append_nil]
  exact h x

theorem loadFileSteps_leads (agent : AgentHandle) (path : String) (undefined : List String) :
    Leads (Stage w₀ {} frozen {})
      ((Simulator.watchedLoader settings hooks).loadFileSteps agent path undefined)
      (fun e => Finished w₀ e none) (Broken w₀) := by
  refine (newExecutable_leads rfl rfl).bind fun e => ?_
  refine (bindUndefined_leads agent undefined rfl rfl rfl fun _ => Nat.zero_le _).bind fun _ => ?_
  rintro p ⟨pins, news, hquiet, hcovered, hp⟩
  -- the executable is there and its globals are bound: the reader comes next
  refine acquire_leads (fun _ => {}) (fun r held => { held with reader := some r }) false
    (R := fun _ _ => True) hquiet
    (fun s hs => (hs.createReader rfl p.world.host.files path).imp
      (fun _ _ ha => ⟨ha, trivial⟩) fun _ ha => ha)
    (fun h r => ?_) (fun r => ?_) p hp
  · rw [Ties.add_nil]
    exact h.mono (fun _ h => h) (fun _ h => h) (fun _ h => h) fun _ h => nomatch h
  · rintro p ⟨hp, -⟩
    rw [Ties.add_nil] at hp
    refine (call_leads _ (R := fun _ _ => True) hquiet
      (fun s hs => (hs.loadReader rfl agent r).imp (fun _ _ ha => ⟨ha, trivial⟩) fun _ ha => ha)
      fun _ => about_loaded (b := .reader r) rfl (by exact rfl)).bind (fun _ => ?_) p hp
    rintro p ⟨hp, -⟩
    refine (freeze_leads rfl).bind (fun _ => Leads.pure ?_) p hp
    rintro p ⟨hp, hfault⟩
    exact ⟨_, _, hp, rfl, rfl, rfl, coveredBy_loaded hcovered _, hfault⟩

theorem about_readFrom {c : CodeObjectHandle} {x : Nat} (hc : held.codeObject = some c)
    (hx : held.allocation = some x) : Ties.About { readFrom := [(c, x)] } held :=
  { Ties.About.nil with readFrom := fun y hy => by rw [List.mem_singleton.mp hy]; exact ⟨hc, hx⟩ }

theorem imageRegion_leads (agent : AgentHandle) (hquiet : news.loaded = []) :
    Leads (Stage w₀ held frozen news)
      ((Simulator.watchedLoader settings hooks).imageRegion agent)
      (fun _ => Stage w₀ held frozen news) (Broken w₀) := by
  refine (call_leads (fun _ => {}) (R := fun _ _ => True) hquiet (fun s hs => ?_)
    fun _ => .nil).bind fun found => ?_
  · have hstate := Simulator.findRegion_state s agent
    show Ends _ _ (s.findRegion agent)
    rcases hcall : s.findRegion agent with ⟨err | region, t⟩
    · rw [hcall] at hstate
      cases (hstate : t = s)
      exact hs
    · rw [hcall] at hstate
      cases (hstate : t = s)
      exact ⟨hs, trivial⟩
  · cases found with
    | none =>
      refine Leads.throw fun p hp => ?_
      have hstage := hp.1
      rw [Ties.add_nil] at hstage
      exact hstage.broken hquiet
    | some region =>
      refine Leads.pure fun p hp => ?_
      have hstage := hp.1
      rw [Ties.add_nil] at hstage
      exact hstage

theorem loadImageSteps_leads (agent : AgentHandle) (image : Bytes) (undefined : List String) :
    Leads (Stage w₀ {} frozen {})
      ((Simulator.watchedLoader settings hooks).loadImageSteps agent image undefined)
      (fun r => Finished w₀ r.1 (some r.2)) (Broken w₀) := by
  refine (imageRegion_leads agent rfl).bind fun region => ?_
  refine acquire_leads (fun _ => {}) (fun x held => { held with allocation := some x }) frozen
    (R := fun x t => t.allocationAt? x image.length = some (x, Bytes.zeros image.length)) rfl
    (fun s hs => hs.allocate rfl region image.length) (fun _ x => ?_) fun x => ?_
  · rw [Ties.add_nil]
    exact .nil
  rintro p ⟨hp, hat⟩
  rw [Ties.add_nil] at hp
  -- the image is written where it was allocated, and read from there
  have hwrite : Leads (fun q => q = p) (LoadStep.call .loadFailed
      ((Simulator.watchedLoader settings hooks).accelerator.writeMemory x image))
      (fun _ => Stage w₀ { allocation := some x } frozen {}) (Broken w₀) := by
    refine Leads.call fun q hq => ?_
    cases hq
    refine (hp.underway.acquired.writeMemory rfl image hat).pass.imp ?_ fun t ht => hp.failed rfl ht
    rintro _ t ⟨ha, ht⟩
    rw [Ties.add_nil] at ht
    exact ⟨hp.noted, hp.underway.called ha ht, .nil⟩
  refine hwrite.bind (fun _ => ?_) p rfl
  -- only now is there a note: the code object reads from this allocation
  refine acquire_leads (fun c => { readFrom := [(c, x)] })
    (fun c held => { held with codeObject := some c }) frozen (R := fun _ _ => True) rfl
    (fun s hs => (hs.deserialize rfl x image.length).imp (fun _ _ ha => ⟨ha, trivial⟩)
      fun _ ha => ha)
    (fun _ c => about_readFrom rfl rfl) fun c => ?_
  rintro p ⟨hp, -⟩
  -- from here on as with a file, the code object in the reader's place
  refine (newExecutable_leads rfl rfl).bind (fun e => ?_) p hp
  refine (bindUndefined_leads agent undefined rfl rfl rfl fun _ => Nat.zero_le _).bind fun _ => ?_
  rintro p ⟨pins, news, hquiet, hcovered, hp⟩
  refine (call_leads _ (R := fun _ _ => True) hquiet
    (fun s hs => (hs.loadCodeObject rfl agent c).imp (fun _ _ ha => ⟨ha, trivial⟩) fun _ ha => ha)
    fun _ => about_loaded (b := .codeObject c) rfl (by exact rfl)).bind (fun _ => ?_) p hp
  rintro p ⟨hp, -⟩
  refine (freeze_leads rfl).bind (fun _ => Leads.pure ?_) p hp
  rintro p ⟨hp, hfault⟩
  exact ⟨_, _, hp, rfl, rfl, rfl, coveredBy_loaded hcovered _, hfault⟩

/-! ## Whole loads -/

/-- A transaction ends with its steps' last stage or with a roll back. -/
theorem transaction_ends {steps : LoadStep (Watched Simulator) α} (e : α → ExecutableHandle)
    (image : α → Option DeviceImage)
    (hsteps : Leads (Stage w₀ {} true {}) steps (fun a => Finished w₀ (e a) (image a)) (Broken w₀))
    (h : Underway w₀ {} true {} w) :
    Ends (fun r w => ∃ news, Underway w₀ r.2 true news w ∧ news.About r.2 ∧
        Ready w₀ r.2 news (e r.1) (image r.1))
      (RolledBack w₀) ((Simulator.watchedLoader settings hooks).transaction steps w) := by
  have hrun := hsteps { world := w } ⟨rfl, h, .nil⟩
  unfold transaction
  rcases hsteps' : steps { world := w } with ⟨err | a, p⟩
  · -- what was held when the step failed is what the roll back starts from
    rw [hsteps'] at hrun
    obtain ⟨frozen, news, hu, habout, hfreeze⟩ := hrun.holds
    exact ⟨p.held, frozen, news, hu.acquired.fresh, habout, hfreeze, rollBack_underway hu⟩
  · rw [hsteps'] at hrun
    obtain ⟨held, news, hstage, hready⟩ := hrun
    refine ⟨news, ?_, ?_, ?_⟩
    · exact hstage.noted ▸ hstage.underway
    · exact hstage.noted ▸ hstage.about
    · exact hstage.noted ▸ hready

/-- A load that has failed before it acquired anything. -/
theorem rolledBack_of_start (h : Underway w₀ {} true {} w) : RolledBack w₀ w := by
  refine ⟨{}, true, {}, h.acquired.fresh, .nil, fun hne => absurd rfl hne, ?_⟩
  have hleft : Holdings.left {} w₀.accelerator.inner = {} := by
    unfold Holdings.left
    rw [ite_self, ite_self]
  rw [hleft]
  exact h

/-- What a module gets when its load is complete. -/
theorem commit_loaded {news : Ties} {m : LoadedModule} (h : Underway w₀ held true news w)
    (ha : news.About held) (hready : Ready w₀ held news m.executable m.deviceImage)
    (hreleased : m.released = {}) (hid : m.id = w.loader.nextModule) (undefined : Nat) :
    Loaded w₀ held news m (announce m undefined (commit held w).2).2 where
  acquired := h.acquired
  ties := h.ties
  about := ha
  ready := hready
  released := hreleased
  id := by rw [hid, h.loader]
  loader := by
    show { w.loader with
        nextModule := w.loader.nextModule + 1
        residency := w.loader.residency.retain w.loader.nextModule held.pins held.reader } = _
    rw [hid, h.loader]
    rfl

/-- A check before the load acquires anything. -/
theorem check_ends {β : Type} {r : Except LoadError α} {f : α → Attempt (Watched Simulator) β}
    {Q : β → World (Watched Simulator) → Prop} (h : Underway w₀ {} true {} w)
    (hf : ∀ a, Ends Q (RolledBack w₀) (f a w)) :
    Ends Q (RolledBack w₀) ((Attempt.ofExcept r >>= f) w) :=
  .check (rolledBack_of_start h) hf

section Entries

variable (current : Option Device) (h : Underway w₀ {} true {} w)
include h

theorem load_ends (path : String) :
    Ends (fun m w => ∃ held news, Loaded w₀ held news m w) (RolledBack w₀)
      ((Simulator.watchedLoader settings hooks).load current path w) := by
  refine check_ends h fun device => ?_
  refine Ends.bind (Q := fun _ => Underway w₀ {} true {}) (h.logged _) fun _ w hw => ?_
  refine Ends.get ?_
  cases w.host.files.read path with
  | error fault => exact rolledBack_of_start hw
  | ok bytes =>
    refine check_ends hw fun image => ?_
    refine check_ends hw fun undefined => ?_
    refine Ends.bind (transaction_ends (fun e => e) (fun _ => none)
      (loadFileSteps_leads device.agent path undefined) hw) fun r w hr => ?_
    obtain ⟨news, hu, ha, hready⟩ := hr
    exact ⟨r.2, news, commit_loaded hu ha hready rfl rfl undefined.length⟩

theorem loadData_ends (bytes : Bytes) :
    Ends (fun m w => ∃ held news, Loaded w₀ held news m w) (RolledBack w₀)
      ((Simulator.watchedLoader settings hooks).loadData current bytes w) := by
  refine check_ends h fun device => ?_
  refine Ends.bind (Q := fun _ => Underway w₀ {} true {}) (h.logged _) fun _ w hw => ?_
  refine check_ends hw fun o => ?_
  refine check_ends hw fun image => ?_
  refine check_ends hw fun undefined => ?_
  refine Ends.bind (transaction_ends (·.1) (fun r => some r.2)
    (loadImageSteps_leads device.agent image undefined) hw) fun r w hr => ?_
  obtain ⟨news, hu, ha, hready⟩ := hr
  exact ⟨r.2, news, commit_loaded hu ha hready rfl rfl undefined.length⟩

theorem loadDataWith_ends (bytes : Bytes) (options : List LoadOption) :
    Ends (fun m w => ∃ held news, Loaded w₀ held news m w) (RolledBack w₀)
      ((Simulator.watchedLoader settings hooks).loadDataWith current bytes options w) := by
  unfold loadDataWith
  split
  · exact loadData_ends current h bytes
  · refine Ends.bind (Q := fun _ => Underway w₀ {} true {}) (h.logged _) fun _ w hw => ?_
    exact loadData_ends current hw bytes

end Entries

end Loader

/-- What a module is loaded from: the file at a path, an image in memory, or an image with options.
-/
inductive LoadSource where
  | file (path : String)
  | memory (bytes : Bytes)
  | memoryWith (bytes : Bytes) (options : List LoadOption)

namespace Loader

/-- Load a module for the caller's current device. -/
def loadFrom {σ : Type} (l : Loader σ) (current : Option Device) :
    LoadSource → Attempt σ LoadedModule
  | .file path => l.load current path
  | .memory bytes => l.loadData current bytes
  | .memoryWith bytes options => l.loadDataWith current bytes options

/-- **How a load ends**, whatever it loads from. -/
theorem loadFrom_ends (settings : LoaderSettings) (hooks : LaunchHooks)
    {w : World (Watched Simulator)} (hs : w.accelerator.inner.Sound) (current : Option Device)
    (source : LoadSource) :
    Ends (fun m w' => ∃ held news, Loaded w held news m w') (RolledBack w)
      ((Simulator.watchedLoader settings hooks).loadFrom current source w) := by
  cases source with
  | file path => exact load_ends current (.start hs) path
  | memory bytes => exact loadData_ends current (.start hs) bytes
  | memoryWith bytes options => exact loadDataWith_ends current (.start hs) bytes options

theorem loadFrom_alikeOn {σ τ : Type} {R : σ → τ → Prop} {L : LoaderState → Prop} {l : Loader σ}
    {k : Loader τ} (h : l.accelerator.Alike R k.accelerator)
    (hL : ∀ s t : LoaderState, s.layouts = t.layouts → L s → L t) (hs : l.settings = k.settings)
    (current : Option Device) (source : LoadSource) :
    AlikeE (World.MatchOn L R) Eq (l.loadFrom current source) (k.loadFrom current source) := by
  cases source with
  | file path => exact load_alike h hL hs current path
  | memory bytes => exact loadData_alike h hL hs current bytes
  | memoryWith bytes options => exact loadDataWith_alike h hL hs current bytes options

theorem loadFrom_alike {σ τ : Type} {R : σ → τ → Prop} {l : Loader σ} {k : Loader τ}
    (h : l.accelerator.Alike R k.accelerator) (hs : l.settings = k.settings)
    (current : Option Device) (source : LoadSource) :
    AlikeE (World.Match R) Eq (l.loadFrom current source) (k.loadFrom current source) :=
  loadFrom_alikeOn h (fun _ _ _ _ => trivial) hs current source

end Loader

end DeviceCode

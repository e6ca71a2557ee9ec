import DeviceCode.Proofs.Lookups
import DeviceCode.Proofs.Resumption
import DeviceCode.Proofs.Retention
import DeviceCode.Proofs.UnloadSuccess

/-!
# Unloads can be resumed

An unload that stops hands its module back, and the next one goes on from there, whatever the
program does in between and whatever is made to fail. `Session.run_resumes` says all of it for any
module in any two states of a run: what has become of its things (`Session.Released`), and what can
be done with it for as long as it is there (`Session.Resumes`).

The parts are proved elsewhere: the releases follow from the chronicle (`Session.run_followed`), the
answers of lookups from frozen executables (`Session.run_lookups`), what the registry keeps from the
outcomes of requests (`Session.run_keptFor`).
-/

namespace DeviceCode

variable {σ : Type} {calls : List Call} {k : Resource}

/-- Nothing is given back twice. -/
theorem Lawful.count_gone_le_one (h : Lawful calls) (k : Resource) :
    calls.count (k.gone, true) ≤ 1 := by
  induction calls using List.reverseRecOn with
  | nil => exact Nat.zero_le _
  | append_singleton calls c ih =>
    rw [List.count_append]
    by_cases hc : c = (k.gone, true)
    · -- it was there before, so no call had given it back
      subst hc
      have halive := (h calls _ List.prefix_rfl).alive_of_gone
      rw [List.count_eq_zero_of_not_mem halive.2, List.count_singleton_self]
    · rw [List.count_singleton, if_neg (by simpa using hc)]
      exact ih h.of_append

namespace Loader

/-- An unload does the same without a chronicle. -/
theorem unload_unchronicled (l : Loader σ) (m : LoadedModule) (w : World (Chronicled σ)) :
    l.unload m w.unchronicled =
      ((l.chronicle.unload m w).1, (l.chronicle.unload m w).2.unchronicled) := by
  obtain ⟨hanswer, hworld⟩ := Loader.unload_alike (l := l.chronicle) (k := l)
    l.accelerator.chronicle_alike m w w.unchronicled w.match_unchronicled
  exact Prod.ext hanswer.symm hworld.unchronicled_eq.symm

end Loader

namespace Session

/-- What has become of a module's things after some calls. -/
structure Released (s : Simulator) (calls : List Call) (m : LoadedModule) : Prop where
  /-- Each of them is given back at most once, -/
  once : ∀ k ∈ m.resources, calls.count (k.gone, true) ≤ 1
  /-- and once that is done, nobody tries to do it again. -/
  last : ∀ k ∈ m.resources, ∀ past ok, past ++ [(k.gone, ok)] <+: calls → (k.gone, true) ∉ past
  /-- They are given back in their order. -/
  ordered : InOrder m.resources calls
  /-- What is given back stays so, and nothing else goes. -/
  holds : ∀ k ∈ m.resources, s.Holds k ↔ (k.gone, true) ∉ calls

/-- What can be done with a module after some calls. It is `m` when we begin to look at it, and `m'`
now. -/
structure Resumes (l : Loader Simulator) (s₀ s : Session Simulator) (calls : List Call)
    (m m' : LoadedModule) : Prop where
  /-- It knows what was released. -/
  left : ∀ k ∈ m.resources, k ∈ m'.kept ↔ (k.gone, true) ∉ calls
  /-- The registry keeps for it what it kept. -/
  live : m.id ∈ s.world.loader.residency.live
  retained : s.world.loader.residency.keptFor m.id = s₀.world.loader.residency.keptFor m.id
  /-- An unload calls for nothing that was released. -/
  unrepeated : ∃ more, (l.unload m' s.world).2.accelerator.journal =
    s.world.accelerator.journal ++ more ∧ ∀ k ∈ m.resources, (k.gone, true) ∈ calls → k.gone ∉ more
  /-- One that fails hands the module back, and leaves everything else to it. -/
  stops : ∀ e w, l.unload m' s.world = (.error e, w) → e.module.pristine = m.pristine ∧
    w.loader = s.world.loader ∧ ∀ k ∈ m.resources,
      (k ∈ e.module.kept ↔ w.accelerator.Holds k) ∧ (k ∈ e.module.kept → k ∈ m'.kept)
  /-- One that is not hindered does not fail, and releases the rest. -/
  succeeds : s.world.accelerator.Unhindered → ∃ w, l.unload m' s.world = (.ok (), w) ∧
    m.id ∉ w.loader.residency.live ∧ ∀ k ∈ m.resources, ¬ w.accelerator.Holds k
  /-- Until the executable is released, lookups give the same answers, -/
  answers : (.destroyExecutable m.executable, true) ∉ calls →
    s₀.world.accelerator.faulty .getSymbol = false → s.world.accelerator.faulty .getSymbol = false →
    l.LooksUpAlike m m' s₀.world s.world
  /-- and after that none. -/
  silent : (.destroyExecutable m.executable, true) ∈ calls → ∀ device name,
    (l.getFunction (some device) m' name s.world).1 =
      .error (.invalidValue (.executableGone m.id)) ∧
    (l.getGlobal (some device) m' name s.world).1 = .error (.invalidValue (.executableGone m.id))

variable {s : Session (Chronicled Simulator)} {m m' : LoadedModule}

theorem Followed.released (h : Followed m s) (hs : s.Proper) :
    Released s.world.accelerator.inner s.calls m where
  once k _ := hs.lawful.count_gone_le_one k
  last _ _ past _ hpast := ((hs.lawful past _ hpast).alive_of_gone).2
  ordered := h.ordered
  holds k hk := (hs.tracked.holds k).trans (and_iff_right (h.made k hk))

/-- A module has what was not given back. -/
theorem Followed.mem_kept_iff (h : Followed m s) (hs : s.Proper) (hm' : m' ∈ s.modules)
    (hsame : m'.pristine = m.pristine) (hk : k ∈ m.resources) :
    k ∈ m'.kept ↔ (k.gone, true) ∉ s.calls := by
  refine ⟨fun hkept => (hs.alive_kept hm' hkept).2, fun hnot => ?_⟩
  obtain ⟨done, hdone, hgone⟩ := h.progress m' hm' hsame
  rw [hdone] at hk
  exact (List.mem_append.mp hk).resolve_left fun hk => hnot (hgone k hk)

/-- A module says rightly whether its executable was released. -/
theorem released_iff (hs : s.Proper) (hm' : m' ∈ s.modules) (hsame : m'.pristine = m.pristine)
    (h : Followed m s) :
    (.destroyExecutable m.executable, true) ∈ s.calls ↔ m'.released.executable = true := by
  have hexecutable : m'.executable = m.executable :=
    (congrArg LoadedModule.executable hsame : m'.pristine.executable = m.pristine.executable)
  have hkept := h.mem_kept_iff hs hm' hsame (k := .executable m.executable) List.mem_cons_self
  rw [← hexecutable, LoadedModule.executable_mem_kept_iff, hexecutable] at hkept
  rw [← not_iff_not, Bool.not_eq_true]
  exact hkept.symm

/-! ## One more unload -/

theorem unload_of_ok (l : Loader σ) {s : Session σ} {index : Nat} {w : World σ}
    (hindex : s.modules[index]? = some m) (h : l.unload m s.world = (.ok (), w)) :
    s.unload l index = { world := w, modules := s.modules.eraseIdx index } := by
  unfold unload
  rw [hindex]
  dsimp only
  rw [h]

theorem unload_of_error (l : Loader σ) {s : Session σ} {index : Nat} {e : UnloadError}
    {w : World σ} (hindex : s.modules[index]? = some m)
    (h : l.unload m s.world = (.error e, w)) :
    s.unload l index = { world := w, modules := s.modules.set index e.module } := by
  unfold unload
  rw [hindex]
  dsimp only
  rw [h]

theorem unload_world (l : Loader σ) {s : Session σ} {index : Nat}
    (hindex : s.modules[index]? = some m) :
    (s.unload l index).world = (l.unload m s.world).2 := by
  rcases hrun : l.unload m s.world with ⟨e | u, w⟩
  · rw [unload_of_error l hindex hrun]
  · rw [unload_of_ok l hindex hrun]

/-- Calls that go on lawfully do not give anything back again. -/
theorem not_mem_of_gone {more : List Call} (h : Lawful (calls ++ more))
    (hgone : (k.gone, true) ∈ calls) : k.gone ∉ more.map (·.1) := by
  intro hmem
  obtain ⟨c, hc, heq⟩ := List.mem_map.mp hmem
  obtain ⟨before, after, rfl⟩ := List.append_of_mem hc
  have hallowed := h (calls ++ before) c ⟨after, by simp⟩
  rw [heq] at hallowed
  exact hallowed.alive_of_gone.2 (List.mem_append_left _ hgone)

variable (settings : LoaderSettings) (hooks : LaunchHooks) {index : Nat}

section Unload

/- An unload of a module, and the state that it leads to. -/
variable (hs : s.Proper) (hindex : s.modules[index]? = some m')
  (ht : (s.step (Simulator.rig settings hooks).chronicle (.unload index)).Proper)
include hs hindex ht

/-- It calls for nothing that was released. -/
theorem unload_unrepeated : ∃ more,
    ((Simulator.loader settings hooks).unload m' s.world.unchronicled).2.accelerator.journal =
      s.world.accelerator.inner.journal ++ more ∧
        ∀ k, (Resource.gone k, true) ∈ s.calls → k.gone ∉ more := by
  have hworld := unload_world (Simulator.chronicledLoader settings hooks) hindex
  obtain ⟨more, hmore⟩ := (step_wrote settings hooks hs (.unload index)).grown
  refine ⟨more.map (·.1), ?_, fun k hgone => not_mem_of_gone (hmore ▸ ht.lawful) hgone⟩
  rw [Loader.unload_unchronicled, ← hs.tracked.journal, ← List.map_append]
  show ((Simulator.chronicledLoader settings hooks).unload m' s.world).2.accelerator.inner.journal =
    _
  rw [← hworld, hmore]
  exact ht.tracked.journal.symm

variable (hfollowed : Followed m s) (hsame : m'.pristine = m.pristine)
include hfollowed hsame

/-- When it stops, the module has what the simulator holds of its things. -/
theorem unload_stops {e : UnloadError} {w : World Simulator}
    (h : (Simulator.loader settings hooks).unload m' s.world.unchronicled = (.error e, w)) :
    e.module.pristine = m.pristine ∧ w.loader = s.world.loader ∧ ∀ k ∈ m.resources,
      (k ∈ e.module.kept ↔ w.accelerator.Holds k) ∧ (k ∈ e.module.kept → k ∈ m'.kept) := by
  rw [Loader.unload_unchronicled] at h
  rcases Loader.unload_calls (Simulator.loader settings hooks) m' s.world with
    ⟨w', hrun, -⟩ | ⟨e', w', hrun, hloader, hhalted⟩
  · rw [hrun] at h
    cases (Prod.mk.inj h).1
  · rw [hrun] at h
    cases h
    -- after the request, the module that is handed back is one of the session's
    obtain ⟨-, -, -, hcarries⟩ := hhalted.descends
    have hsame' := hcarries.pristine.trans hsame
    have hstep := hfollowed.step (step_wrote settings hooks hs (.unload index))
    have ht' := ht
    rw [show s.step (Simulator.rig settings hooks).chronicle (.unload index) = _ from
      unload_of_error (Simulator.chronicledLoader settings hooks) hindex hrun] at hstep ht'
    have hmem : e.module ∈ s.modules.set index e.module :=
      List.mem_set (List.getElem?_eq_some_iff.mp hindex).1 _
    refine ⟨hsame', hloader, fun k hk => ⟨?_, fun hkept => ?_⟩⟩
    · exact (hstep.mem_kept_iff ht' hmem hsame' hk).trans ((hstep.released ht').holds k hk).symm
    · obtain ⟨done, hdone, -⟩ := hcarries.kept
      rw [hdone]
      exact List.mem_append_right _ hkept

/-- When nothing hinders it, all of the module's things are gone afterwards. -/
theorem unload_complete (hunhindered : s.world.accelerator.inner.Unhindered) :
    ∃ w, (Simulator.loader settings hooks).unload m' s.world.unchronicled = (.ok (), w) ∧
      w.loader.residency = s.world.loader.residency.release m'.id ∧
      ∀ k ∈ m.resources, ¬ w.accelerator.Holds k := by
  have hm' := List.mem_of_getElem? hindex
  obtain ⟨w, hok⟩ := Loader.unload_succeeds settings hooks (m := m') (w := s.world.unchronicled)
    hunhindered fun k hk => hs.solvent.holds_kept hm' hk
  refine ⟨w, hok, ?_⟩
  rw [Loader.unload_unchronicled] at hok
  rcases Loader.unload_calls (Simulator.loader settings hooks) m' s.world with
    ⟨w', hrun, hcalls, hloader⟩ | ⟨e', w', hrun, -⟩
  · rw [hrun] at hok
    cases hok
    have ht' := ht
    rw [show s.step (Simulator.rig settings hooks).chronicle (.unload index) = _ from
      unload_of_ok (Simulator.chronicledLoader settings hooks) hindex hrun] at ht'
    refine ⟨congrArg (·.residency) hloader, fun k hk hholds => ?_⟩
    refine ((ht'.tracked.holds k).mp hholds).2 ?_
    show (k.gone, true) ∈ w'.accelerator.calls
    rw [hcalls]
    -- what was not given back before is given back now
    by_cases hgone : (k.gone, true) ∈ s.calls
    · exact List.mem_append_left _ hgone
    · have hkept := (hfollowed.mem_kept_iff hs hm' hsame hk).mpr hgone
      exact List.mem_append_right _ (mem_returned hkept _)
  · rw [hrun] at hok
    cases (Prod.mk.inj hok).1

end Unload

/-! ## Whole runs -/

variable (hasRegion : Bool) (host : Host.System)

/-- Until a module's unload is complete, the registry calls it live and keeps for it what it
kept. -/
theorem run_retained (before after : List Request) {m m' : LoadedModule}
    (hm : m ∈ (recounted settings hooks hasRegion host before).modules)
    (hm' : m' ∈ (recounted settings hooks hasRegion host (before ++ after)).modules)
    (hid : m'.id = m.id) :
    let s := (recounted settings hooks hasRegion host (before ++ after)).unchronicled
    m.id ∈ s.world.loader.residency.live ∧ s.world.loader.residency.keptFor m.id =
      (recounted settings hooks hasRegion host before).unchronicled.world.loader.residency.keptFor
        m.id := by
  intro s
  let watched := fun rs =>
    (fresh hasRegion host).watched.run (Simulator.watchedRig settings hooks) rs
  -- the registry is the same whether the run is watched or recounted
  have hplain : ∀ rs, (recounted settings hooks hasRegion host rs).unchronicled =
      (watched rs).unwatched := fun rs =>
    (recounted_unchronicled settings hooks hasRegion host rs).trans
      (run_unwatched settings hooks (fresh hasRegion host).watched rs).symm
  have hmodules : ∀ rs, (recounted settings hooks hasRegion host rs).modules =
      (watched rs).modules := fun rs => congrArg (·.modules) (hplain rs)
  have horderly : ∀ rs, (watched rs).Orderly := fun rs =>
    run_orderly settings hooks (fresh_orderly hasRegion host) rs
  have hrun : watched (before ++ after) =
      (watched before).run (Simulator.watchedRig settings hooks) after := List.foldl_append
  rw [hmodules] at hm hm'
  have hmem₀ : m.id ∈ (watched before).modules.map (·.id) := List.mem_map_of_mem hm
  have hmem : m.id ∈ (watched (before ++ after)).modules.map (·.id) :=
    hid ▸ List.mem_map_of_mem hm'
  rw [show s = _ from hplain _, hplain before]
  refine ⟨((horderly _).live m.id).mpr hmem, ?_⟩
  rw [hrun] at hmem ⊢
  exact run_keptFor settings hooks (horderly before) after hmem₀ hmem

/-- Whatever is left of a module can be unloaded. -/
theorem run_resumes_now (before after : List Request) {m m' : LoadedModule}
    (hm : m ∈ (recounted settings hooks hasRegion host before).modules)
    (hm' : m' ∈ (recounted settings hooks hasRegion host (before ++ after)).modules)
    (hsame : m'.pristine = m.pristine) :
    Resumes (Simulator.loader settings hooks)
      (recounted settings hooks hasRegion host before).unchronicled
      (recounted settings hooks hasRegion host (before ++ after)).unchronicled
      (history settings hooks hasRegion host (before ++ after)) m m' := by
  have hs₀ := run_proper settings hooks hasRegion host before
  have hs := run_proper settings hooks hasRegion host (before ++ after)
  have hfollowed := run_followed settings hooks hasRegion host before after hm
  obtain ⟨index, hindex⟩ := List.mem_iff_getElem?.mp hm'
  have ht := run_proper settings hooks hasRegion host (before ++ after ++ [.unload index])
  rw [recounted_append] at ht
  have hid : m'.id = m.id := (congrArg LoadedModule.id hsame : m'.pristine.id = m.pristine.id)
  have hleft := fun k (hk : k ∈ m.resources) => hfollowed.mem_kept_iff hs hm' hsame hk
  obtain ⟨hlive, hretained⟩ :=
    run_retained settings hooks hasRegion host before after hm hm' hid
  have hreleased := released_iff hs hm' hsame hfollowed
  refine
    { left := hleft
      live := hlive
      retained := hretained
      unrepeated := ?_
      stops := fun e w h => unload_stops settings hooks hs hindex ht hfollowed hsame h
      succeeds := fun hunhindered => ?_
      answers := fun hnot hask₀ hask => ?_
      silent := fun hgone device name => ?_ }
  · obtain ⟨more, hjournal, hnot⟩ := unload_unrepeated settings hooks hs hindex ht
    exact ⟨more, hjournal, fun k _ => hnot k⟩
  · obtain ⟨w, hok, hresidency, hnone⟩ :=
      unload_complete settings hooks hs hindex ht hfollowed hsame hunhindered
    refine ⟨w, hok, fun hmem => ?_, hnone⟩
    rw [hresidency, hid] at hmem
    exact absurd rfl (bne_iff_ne.mp (List.mem_filter.mp hmem).2)
  · have hnot₀ := fun hgone =>
      hnot ((history_grows settings hooks hasRegion host before after).subset hgone)
    have hreleased₀ := released_iff hs₀ hm rfl
      (run_followed_now settings hooks hasRegion host before m hm)
    exact run_lookups settings hooks hasRegion host before after hm hm' hsame
      (eq_false_of_ne_true fun h => hnot₀ (hreleased₀.mpr h))
      (eq_false_of_ne_true fun h => hnot (hreleased.mpr h)) hask₀ hask
  · have hreleased' := hreleased.mp hgone
    rw [Loader.getFunction_gone _ hreleased', Loader.getGlobal_gone _ hreleased', hid]
    exact ⟨rfl, rfl⟩

/-- **Unloads can be resumed**, in any order with anything else and under any faults. Consider a
module that a program holds, and anything that the program does afterwards. Then the things of the
module are given back in order and at most once, and the module is there until all of them are. As
long as it is there it can be unloaded: an attempt that fails hands it back and leaves the rest to
it, and one that nothing hinders succeeds. -/
theorem run_resumes (before after : List Request) {m : LoadedModule}
    (hm : m ∈ ((fresh hasRegion host).run (Simulator.rig settings hooks) before).modules) :
    let rig := Simulator.rig settings hooks
    let s₀ := (fresh hasRegion host).run rig before
    let s := (fresh hasRegion host).run rig (before ++ after)
    let calls := history settings hooks hasRegion host (before ++ after)
    Released s.world.accelerator calls m ∧
      ((∃ m' ∈ s.modules, m'.pristine = m.pristine) ∨
        ∀ k ∈ m.resources, (k.gone, true) ∈ calls) ∧
      ∀ m' ∈ s.modules, m'.pristine = m.pristine → Resumes rig.loader s₀ s calls m m' := by
  intro rig s₀ s calls
  have hplain₀ := recounted_unchronicled settings hooks hasRegion host before
  have hplain := recounted_unchronicled settings hooks hasRegion host (before ++ after)
  have haccelerator : (recounted settings hooks hasRegion host
      (before ++ after)).world.accelerator.inner = s.world.accelerator :=
    congrArg (·.world.accelerator) hplain
  have hmodules : (recounted settings hooks hasRegion host (before ++ after)).modules = s.modules :=
    congrArg (·.modules) hplain
  have hm₀ : m ∈ (recounted settings hooks hasRegion host before).modules := by
    rw [show (recounted settings hooks hasRegion host before).modules = s₀.modules from
      congrArg (·.modules) hplain₀]
    exact hm
  have hproper := run_proper settings hooks hasRegion host (before ++ after)
  have hfollowed := run_followed settings hooks hasRegion host before after hm₀
  rw [← haccelerator, ← hmodules]
  refine ⟨hfollowed.released hproper, hfollowed.held, fun m' hm' hsame => ?_⟩
  have hresumes := run_resumes_now settings hooks hasRegion host before after hm₀ hm' hsame
  rw [hplain₀, hplain] at hresumes
  exact hresumes

/-- An unload that has released all but the device image. -/
theorem run_resumes_interrupted :
    let host : Host.System := { files := { nodes := [], workingFolder := [] } }
    let start := fresh true host
    let rig := Simulator.rig {} .default
    let before : List Request :=
      [.load (some ⟨0, ⟨0xa600⟩, ⟨0x9000⟩⟩) (.memory ({ text := [0x90] } : Elf.Draft).encode)]
    let after : List Request := [.inject .free, .unload 0]
    let calls := history {} .default true host (before ++ after)
    ∃ m ∈ (start.run rig before).modules, ∃ m' ∈ (start.run rig (before ++ after)).modules,
      m.kept.length = 3 ∧ m'.kept.length = 1 ∧
        Released (start.run rig (before ++ after)).world.accelerator calls m ∧
        Resumes rig.loader (start.run rig before) (start.run rig (before ++ after)) calls m m' := by
  intro host start rig before after calls
  have hone : (start.run rig before).modules.length = 1 := by decide +kernel
  have hwhole : ∀ m ∈ (start.run rig before).modules, m.kept.length = 3 := by decide +kernel
  have hleft : ∀ m' ∈ (start.run rig (before ++ after)).modules, m'.kept.length = 1 := by
    decide +kernel
  have hsame : (start.run rig (before ++ after)).modules.map (·.pristine) =
      (start.run rig before).modules.map (·.pristine) := by decide +kernel
  obtain ⟨m, hm⟩ := List.exists_mem_of_length_pos (Nat.lt_of_lt_of_eq Nat.one_pos hone.symm)
  have hmem : m.pristine ∈ (start.run rig (before ++ after)).modules.map (·.pristine) := by
    rw [hsame]
    exact List.mem_map_of_mem hm
  obtain ⟨m', hm', hpristine⟩ := List.mem_map.mp hmem
  obtain ⟨hreleased, -, hresumes⟩ := run_resumes {} .default true host before after hm
  refine ⟨m, hm, m', hm', hwhole m hm, hleft m' hm', ?_, ?_⟩
  · dsimp only [start, rig, calls]
    exact hreleased
  · exact hresumes m' hm' hpristine

end Session

end DeviceCode

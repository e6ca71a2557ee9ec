import DeviceCode.Elf.Draft
import DeviceCode.Proofs.Orderly

/-!
# Accounting over whole runs

In a run that starts no load while giving things back is made to fail, everything that the simulator
keeps is accounted for, in every state: executables, code objects and device memory by the modules
that have not released them yet, readers and pins by the registry, each of them once. So a teardown
never fails, and after the last module is gone one teardown leaves nothing.

Unloads may fail at any step and be tried again, or not. Only the roll back of a load has nobody to
take its leftovers.
-/

namespace DeviceCode

open Books

/-- Whether a request is a load. -/
def Request.IsLoad : Request → Prop
  | .load _ _ => True
  | _ => False

instance : DecidablePred Request.IsLoad
  | .load _ _ => isTrue trivial
  | .unload _ | .getFunction _ _ _ | .getGlobal _ _ _ | .launch _ _ _ _
  | .launchBlocks _ _ _ _ _ _ _ | .shutdown | .declareKernel _ _ | .registerLayout _ _
  | .declareDocument _ | .setHost _ | .inject _ | .clearFaults => isFalse id

/-- All executables are frozen. -/
def Simulator.AllFrozen (s : Simulator) : Prop :=
  ∀ e, s.executables.contains e = true → s.isFrozen e = true

/-- Nothing is kept any more. -/
structure Simulator.Empty (s : Simulator) : Prop where
  executables : s.executables = {}
  codeObjects : s.codeObjects = {}
  readers : s.readers = {}
  allocations : s.allocations = {}
  pinned : s.pinned = {}

namespace Session

/-- A run in which no load starts while destroying executables or freeing memory is made to fail. -/
def Calm (rig : Rig Simulator) (s : Session Simulator) : List Request → Prop
  | [] => True
  | r :: rs =>
    (r.IsLoad → s.world.accelerator.faulty .destroyExecutable = false ∧
      s.world.accelerator.faulty .free = false) ∧ Calm rig (s.step rig r) rs

instance (rig : Rig Simulator) : ∀ s rs, Decidable (Calm rig s rs)
  | _, [] => isTrue trivial
  | s, r :: rs =>
    have := instDecidableCalm rig (s.step rig r) rs
    inferInstanceAs (Decidable (_ ∧ _))

/-- Everything that is kept is accounted for. -/
structure Accounted (s : Session Simulator) : Prop where
  executables : ∀ e, s.world.accelerator.executables.contains e = true ↔
    ∃ m ∈ s.modules, m.executable = e ∧ m.released.executable = false
  frozen : s.world.accelerator.AllFrozen
  codeObjects : ∀ c, s.world.accelerator.codeObjects.contains c = true ↔
    ∃ m ∈ s.modules, ∃ d, m.deviceImage = some d ∧ d.codeObject = c ∧
      m.released.codeObject = false
  allocations : ∀ x, s.world.accelerator.allocations.contains x = true ↔
    ∃ m ∈ s.modules, ∃ d, m.deviceImage = some d ∧ d.address = x ∧
      m.released.deviceImage = false
  readers : ∀ r, s.world.accelerator.readers.contains r = true ↔
    ∃ id, (id, r) ∈ s.world.loader.residency.readers
  pins : ∀ x, s.world.accelerator.holders x =
    (s.world.loader.residency.pins.map (·.2.hostAddress)).count x
  /-- And nothing is accounted for twice. -/
  books : s.books.Exact

end Session

/-! ## What exact books say about single things -/

namespace LoadedModule

variable {m : LoadedModule}

theorem executable?_eq_some {e : ExecutableHandle} :
    m.executable? = some e ↔ m.executable = e ∧ m.released.executable = false := by
  unfold executable?
  cases m.released.executable <;> simp

theorem codeObject?_eq_some {c : CodeObjectHandle} :
    m.codeObject? = some c ↔ ∃ d, m.deviceImage = some d ∧ d.codeObject = c ∧
      m.released.codeObject = false := by
  unfold codeObject?
  cases m.released.codeObject <;> simp

theorem allocation?_eq_some {x : Nat} :
    m.allocation? = some x ↔ ∃ d, m.deviceImage = some d ∧ d.address = x ∧
      m.released.deviceImage = false := by
  unfold allocation?
  cases m.released.deviceImage <;> simp

end LoadedModule

/-- A map has a key when as many modules answer for it as the map has of it. -/
theorem contains_iff_of_tally {κ α : Type} [DecidableEq κ] {kept : Assoc κ α} {k : κ}
    {ms : List LoadedModule} {f : LoadedModule → Option κ}
    (h : (ms.filterMap f).count k = kept.tally k) :
    kept.contains k = true ↔ ∃ m ∈ ms, f m = some k := by
  rw [← Assoc.tally_pos, ← h, List.count_pos_iff, List.mem_filterMap]

namespace Session

theorem accounted_of_exact {s : Session Simulator} (h : s.books.Exact)
    (hfrozen : s.world.accelerator.AllFrozen) : s.Accounted where
  executables e := by
    refine (contains_iff_of_tally (h.executables e)).trans ?_
    simp only [LoadedModule.executable?_eq_some]
    exact Iff.rfl
  frozen := hfrozen
  codeObjects c := by
    refine (contains_iff_of_tally (h.codeObjects c)).trans ?_
    simp only [LoadedModule.codeObject?_eq_some]
    exact Iff.rfl
  allocations x := by
    refine (contains_iff_of_tally (h.allocations x)).trans ?_
    simp only [LoadedModule.allocation?_eq_some]
    exact Iff.rfl
  readers r := by
    have howned : (s.world.loader.residency.readers.map (·.2)).count r =
        s.world.accelerator.readers.tally r := h.readers r
    rw [← Assoc.tally_pos, ← howned, List.count_pos_iff, List.mem_map]
    constructor
    · rintro ⟨⟨id, r⟩, hmem, rfl⟩
      exact ⟨id, hmem⟩
    · rintro ⟨id, hmem⟩
      exact ⟨(id, r), hmem, rfl⟩
  pins x := (h.pins x).symm
  books := h

/-! ## Every step keeps the account -/

variable {settings : LoaderSettings} {hooks : LaunchHooks} {s t : Session (Watched Simulator)}
  {r : Request}

theorem Stepped.exact (h : Stepped s r t) (hs : s.unwatched.books.Exact)
    (hcalm : r.IsLoad → s.world.accelerator.inner.faulty .destroyExecutable = false ∧
      s.world.accelerator.inner.faulty .free = false) : t.unwatched.books.Exact := by
  cases h with
  | quiet h => exact h.balanced.exact hs
  | loaded h => exact h.balanced.exact hs
  | rolledBack h => exact (h.balanced (hcalm trivial).1 (hcalm trivial).2).exact hs
  | stopped hm h log => exact (h.balanced hm log).exact hs
  | unloaded hm h hspent log => exact (h.balanced_spent hm hspent log).exact hs
  | tornDown tornDown log h => exact (h.balanced tornDown log).exact hs

/-- Executables that were there before stay as they are. -/
theorem AllFrozen.of_get? {s t : Simulator} (hs : s.AllFrozen)
    (h : ∀ e, t.executables.contains e = true → t.executables.get? e = s.executables.get? e) :
    t.AllFrozen := by
  intro e he
  have hget := h e he
  have hthere : s.executables.contains e = true := by
    unfold Assoc.contains at he ⊢
    rw [← hget]
    exact he
  have hfrozen := hs e hthere
  unfold Simulator.isFrozen at hfrozen ⊢
  rw [hget]
  exact hfrozen

theorem Stepped.allFrozen (h : Stepped s r t) (hs : s.world.accelerator.inner.AllFrozen)
    (hcalm : r.IsLoad → s.world.accelerator.inner.faulty .destroyExecutable = false ∧
      s.world.accelerator.inner.faulty .free = false) : t.world.accelerator.inner.AllFrozen := by
  cases h with
  | quiet h => exact AllFrozen.of_get? hs fun e _ => by rw [h.world.accelerator.executables]
  | @loaded current source held news m w h =>
    intro e he
    have hgained := h.acquired.executables
    rw [h.ready.executable] at hgained
    by_cases heq : m.executable = e
    · exact h.acquired.state e (heq ▸ h.ready.executable)
    · have hget := hgained.get?_other heq
      have hthere : s.world.accelerator.inner.executables.contains e = true := by
        rw [← hgained.contains_other heq]
        exact he
      have hfrozen := hs e hthere
      unfold Simulator.isFrozen at hfrozen ⊢
      rw [hget]
      exact hfrozen
  | @rolledBack current source w h =>
    obtain ⟨held, frozen, news, -, -, -, hu⟩ := h
    rw [Holdings.left_nil (hcalm trivial).1 (hcalm trivial).2] at hu
    have hsame : w.accelerator.inner.executables = s.world.accelerator.inner.executables :=
      hu.acquired.executables
    exact AllFrozen.of_get? hs fun e _ => by rw [hsame]
  | stopped hm h log => exact AllFrozen.of_get? hs fun e he => h.executables.get?_of_contains he
  | unloaded hm h hspent log =>
    exact AllFrozen.of_get? hs fun e he => h.executables.get?_of_contains he
  | tornDown tornDown log h => exact AllFrozen.of_get? hs fun e _ => by rw [h.executables]

theorem step_unwatched (s : Session (Watched Simulator)) (r : Request) :
    (s.step (Simulator.watchedRig settings hooks) r).unwatched =
      s.unwatched.step (Simulator.rig settings hooks) r := run_unwatched settings hooks s [r]

theorem run_exact (hs : s.Orderly) (hexact : s.unwatched.books.Exact)
    (hfrozen : s.world.accelerator.inner.AllFrozen) (rs : List Request)
    (hcalm : Calm (Simulator.rig settings hooks) s.unwatched rs) :
    let t := s.run (Simulator.watchedRig settings hooks) rs
    t.unwatched.books.Exact ∧ t.world.accelerator.inner.AllFrozen := by
  induction rs generalizing s with
  | nil => exact ⟨hexact, hfrozen⟩
  | cons r rs ih =>
    have hstep := step_cases settings hooks hs.sound.inner hs.solvent r
    have hexact' := hstep.exact hexact hcalm.1
    have hfrozen' := hstep.allFrozen hfrozen hcalm.1
    refine ih (step_orderly settings hooks hs r) hexact' hfrozen' ?_
    rw [step_unwatched]
    exact hcalm.2

/-! ## After the last module -/

/-- When nobody answers for anything, exact books are about an empty simulator. -/
theorem empty_of_exact {s : Session Simulator} (h : s.books.Exact)
    (hsound : s.world.accelerator.Sound) (hmodules : s.modules = [])
    (hreaders : s.world.loader.residency.readers = [])
    (hpins : s.world.loader.residency.pins = []) : s.world.accelerator.Empty := by
  have hnone : ∀ {κ α : Type} [DecidableEq κ] {kept : Assoc κ α} {k : κ},
      0 = kept.tally k → kept.contains k = false := by
    intro κ α _ kept k hzero
    cases hc : kept.contains k with
    | false => rfl
    | true =>
      have hpos := Assoc.tally_pos.mpr hc
      omega
  have howned : ∀ {β : Type} [BEq β] (f : LoadedModule → Option β) (y : β),
      (s.modules.filterMap f).count y = 0 := by
    intro β _ f y
    rw [hmodules]
    rfl
  refine
    { executables := Assoc.eq_empty fun e => hnone ((howned _ _).symm.trans (h.executables e))
      codeObjects := Assoc.eq_empty fun c => hnone ((howned _ _).symm.trans (h.codeObjects c))
      allocations := Assoc.eq_empty fun x => hnone ((howned _ _).symm.trans (h.allocations x))
      readers := Assoc.eq_empty fun r => hnone ?_
      pinned := Assoc.eq_empty fun x => ?_ }
  · have hr : (s.world.loader.residency.readers.map (·.2)).count r =
        s.world.accelerator.readers.tally r := h.readers r
    rw [hreaders] at hr
    exact hr
  · have hx : (s.world.loader.residency.pins.map (·.2.hostAddress)).count x =
        s.world.accelerator.holders x := h.pins x
    rw [hpins] at hx
    unfold Simulator.holders at hx
    cases hpin : s.world.accelerator.pinned.get? x with
    | none => exact Assoc.not_contains_of_get? hpin
    | some pin =>
      have hpos := hsound.pins x pin hpin
      rw [hpin] at hx
      have hzero : 0 = pin.holders := hx
      omega

/-- A teardown with no live modules empties the registry. -/
theorem Orderly.keepLive_nil (h : s.Orderly) (hmodules : s.modules = []) :
    s.world.loader.residency.keepLive.pins = [] ∧
      s.world.loader.residency.keepLive.readers = [] := by
  have hdead : ∀ id, s.world.loader.residency.isLive id = false := by
    intro id
    cases hlive : s.world.loader.residency.isLive id with
    | false => rfl
    | true =>
      have hmem := (h.live id).mp (List.contains_iff_mem.mp hlive)
      rw [hmodules] at hmem
      exact absurd hmem List.not_mem_nil
  constructor
  · exact List.filter_eq_nil_iff.mpr fun e _ => by rw [hdead]; exact Bool.false_ne_true
  · exact List.filter_eq_nil_iff.mpr fun e _ => by rw [hdead]; exact Bool.false_ne_true

/-- **Accounting over whole runs.** In every state of a calm run everything that is kept is
accounted for and a teardown would not fail; and once all modules are gone, a teardown leaves the
simulator empty. -/
theorem run_accounted (settings : LoaderSettings) (hooks : LaunchHooks) (hasRegion : Bool)
    (host : Host.System) (requests : List Request)
    (hcalm : (fresh hasRegion host).Calm (Simulator.rig settings hooks) requests) :
    let s := (fresh hasRegion host).run (Simulator.rig settings hooks) requests
    s.Accounted ∧
      ((Simulator.loader settings hooks).shutdown s.world).1.failures = [] ∧
      (s.modules = [] →
        (s.step (Simulator.rig settings hooks) .shutdown).world.accelerator.Empty) := by
  intro s
  have hfresh := fresh_orderly hasRegion host
  -- the invariants speak of the watched run, which ends like the run itself
  let t := (fresh hasRegion host).watched.run (Simulator.watchedRig settings hooks) requests
  have hts : t.unwatched = s := run_unwatched settings hooks _ requests
  have horderly : t.Orderly := run_orderly settings hooks hfresh requests
  have hexact : t.unwatched.books.Exact ∧ t.world.accelerator.inner.AllFrozen :=
    run_exact hfresh ⟨fun _ => rfl, fun _ => rfl, fun _ => rfl, fun _ => rfl, fun _ => rfl⟩
      (fun e he => absurd he Bool.false_ne_true) requests hcalm
  obtain ⟨report, a, tornDown, log, hrun, hclean, hgone⟩ :=
    shutdown_run settings hooks horderly.sound.inner horderly.solvent
  have hplain := (Loader.shutdown_alike (l := Simulator.watchedLoader settings hooks)
    (k := Simulator.loader settings hooks) Simulator.accelerator.watch_alike).unwatched t.world
  rw [← hts]
  refine ⟨accounted_of_exact hexact.1 hexact.2, ?_, fun hmodules => ?_⟩
  · show ((Simulator.loader settings hooks).shutdown t.world.unwatched).1.failures = []
    rw [hplain, hrun]
    exact hclean
  · -- the teardown is one more calm step, and it leaves an empty registry
    rw [← step_unwatched]
    have hstep := step_cases settings hooks horderly.sound.inner
      horderly.solvent .shutdown
    have hexact' := hstep.exact hexact.1 fun hload => hload.elim
    have hsound' := (step_orderly settings hooks horderly .shutdown).sound
    have hend : t.step (Simulator.watchedRig settings hooks) .shutdown = { t with
        world := { t.world with
          accelerator := a
          loader := { t.world.loader with
            residency := { t.world.loader.residency.keepLive with tornDown } }
          log } } := by
      show t.inWorld _ = _
      unfold inWorld
      rw [show (Simulator.watchedRig settings hooks).loader.shutdown t.world = _ from hrun]
    rw [hend] at hexact' hsound' ⊢
    obtain ⟨hpins, hreaders⟩ := horderly.keepLive_nil hmodules
    exact empty_of_exact hexact' hsound'.inner hmodules hreaders hpins

/-- An unload that cannot free the device image, tried again after the fault is gone. -/
theorem run_accounted_unloadedTwice :
    let host : Host.System := { files := { nodes := [], workingFolder := [] } }
    let requests : List Request :=
      [.load (some ⟨0, ⟨0xa600⟩, ⟨0x9000⟩⟩) (.memory ({ text := [0x90] } : Elf.Draft).encode),
        .inject .free, .unload 0, .shutdown, .clearFaults, .unload 0]
    let s := (fresh true host).run (Simulator.rig {} .default) requests
    ((fresh true host).run (Simulator.rig {} .default) (requests.take 3)).modules.length = 1 ∧
      s.modules.length = 0 ∧ s.Accounted ∧
      ((Simulator.loader {} .default).shutdown s.world).1.failures = [] ∧
      (s.step (Simulator.rig {} .default) .shutdown).world.accelerator.Empty := by
  intro host requests
  have hstopped : ((fresh true host).run (Simulator.rig {} .default)
      (requests.take 3)).modules.length = 1 := by decide +kernel
  have hgone : ((fresh true host).run (Simulator.rig {} .default) requests).modules.length = 0 := by
    decide +kernel
  have hrun := run_accounted {} .default true host requests (by decide +kernel)
  generalize (fresh true host).run (Simulator.rig {} .default) requests = s at hgone hrun ⊢
  exact ⟨hstopped, hgone, hrun.1, hrun.2.1, hrun.2.2 (List.eq_nil_of_length_eq_zero hgone)⟩

end Session

end DeviceCode

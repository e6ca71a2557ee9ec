import DeviceCode.Proofs.Quiet
import DeviceCode.Proofs.TeardownOutcome
import DeviceCode.Proofs.UnloadOutcome

/-!
# What a request can do

`Session.Stepped s r t` lists all that a request can lead to: nothing that matters, a module more, a
roll back, a part of a module gone, a module gone, or a teardown. Each case says everything about
the change, so what follows about whole runs opens no operation again.

A teardown is described for sessions whose simulator has what the registry answers for; solvent
books say that it has.
-/

namespace DeviceCode

namespace Session

/-- The outcomes of a request. -/
inductive Stepped (s : Session (Watched Simulator)) :
    Request → Session (Watched Simulator) → Prop
  /-- Nothing is acquired or given back. -/
  | quiet {r : Request} {t : Session (Watched Simulator)} (h : Session.Keeps s t) : Stepped s r t
  /-- A load has succeeded. -/
  | loaded {current : Option Device} {source : LoadSource} {held : Holdings} {news : Ties}
      {m : LoadedModule} {w : World (Watched Simulator)} (h : Loaded s.world held news m w) :
      Stepped s (.load current source) { world := w, modules := s.modules ++ [m] }
  /-- A load has failed. -/
  | rolledBack {current : Option Device} {source : LoadSource} {w : World (Watched Simulator)}
      (h : RolledBack s.world w) : Stepped s (.load current source) { s with world := w }
  /-- An unload has stopped. -/
  | stopped {index : Nat} {m : LoadedModule} {p : UnloadProgress (Watched Simulator)}
      (hm : s.modules[index]? = some m) (h : Unloading s.world m p) (log : List Trace.Event) :
      Stepped s (.unload index)
        { world := { p.world with log }, modules := s.modules.set index p.module }
  /-- An unload is complete. -/
  | unloaded {index : Nat} {m : LoadedModule} {p : UnloadProgress (Watched Simulator)}
      (hm : s.modules[index]? = some m) (h : Unloading s.world m p) (hspent : p.module.Spent)
      (log : List Trace.Event) :
      Stepped s (.unload index)
        { world := { p.world with
            log
            loader := { s.world.loader with
              residency := s.world.loader.residency.release m.id } }
          modules := s.modules.eraseIdx index }
  /-- What no live module needs is gone. -/
  | tornDown {a : Watched Simulator} (tornDown : Bool) (log : List Trace.Event)
      (h : Relinquished s.world.accelerator a s.world.loader.residency.releasablePins
        s.world.loader.residency.releasableReaders) :
      Stepped s .shutdown { s with
        world := { s.world with
          accelerator := a
          loader := { s.world.loader with
            residency := { s.world.loader.residency.keepLive with tornDown } }
          log } }

variable {settings : LoaderSettings} {hooks : LaunchHooks} {s : Session (Watched Simulator)}

theorem load_cases (hs : s.world.accelerator.inner.Sound) (current : Option Device)
    (source : LoadSource) :
    Stepped s (.load current source)
      (s.load (Simulator.watchedLoader settings hooks) current source) := by
  have hends := Loader.loadFrom_ends settings hooks hs current source
  unfold load
  rcases hrun : (Simulator.watchedLoader settings hooks).loadFrom current source s.world with
    ⟨e | m, w⟩
  · rw [hrun] at hends
    exact .rolledBack hends
  · rw [hrun] at hends
    obtain ⟨held, news, h⟩ := hends
    exact .loaded h

theorem unload_cases (index : Nat) :
    Stepped s (.unload index) (s.unload (Simulator.watchedLoader settings hooks) index) := by
  unfold unload
  cases hm : s.modules[index]? with
  | none => exact .quiet ⟨.refl _, rfl⟩
  | some m =>
    dsimp only
    rcases Loader.unload_cases settings hooks m s.world with
      ⟨p, log, hu, hspent, hrun⟩ | ⟨p, cause, log, hu, hrun⟩
    · rw [hrun]
      exact .unloaded hm hu hspent log
    · rw [hrun]
      exact .stopped hm hu log

/-- The entries that a teardown lets go are among the entries. -/
theorem count_filter_le {α β : Type} [BEq β] (f : α → β) (p : α → Bool) (l : List α) (y : β) :
    ((l.filter p).map f).count y ≤ (l.map f).count y :=
  (List.filter_sublist.map f).count_le y

/-- Solvent books have all that a teardown lets go, so it does not fail. -/
theorem shutdown_run (settings : LoaderSettings) (hooks : LaunchHooks)
    (hs : s.world.accelerator.inner.Sound) (hsolvent : s.unwatched.books.Solvent) :
    ∃ report a tornDown log,
      (Simulator.watchedLoader settings hooks).shutdown s.world = (report, { s.world with
        accelerator := a
        loader := { s.world.loader with
          residency := { s.world.loader.residency.keepLive with tornDown } }
        log }) ∧
      report.failures = [] ∧
      Relinquished s.world.accelerator a s.world.loader.residency.releasablePins
        s.world.loader.residency.releasableReaders := by
  refine Loader.shutdown_run settings hooks hs (fun x => ?_) fun r => ?_
  · unfold Residency.releasablePins
    rw [List.map_map]
    exact Nat.le_trans (count_filter_le _ _ _ _) (hsolvent.pins x)
  · exact Nat.le_trans (count_filter_le _ _ _ _) (hsolvent.readers r)

theorem shutdown_cases (hs : s.world.accelerator.inner.Sound)
    (hsolvent : s.unwatched.books.Solvent) :
    Stepped s .shutdown (s.inWorld (Simulator.watchedLoader settings hooks).shutdown) := by
  obtain ⟨report, a, tornDown, log, hrun, -, h⟩ :=
    shutdown_run settings hooks hs hsolvent
  unfold inWorld
  rw [hrun]
  exact .tornDown tornDown log h

/-- **What a request can do.** -/
theorem step_cases (settings : LoaderSettings) (hooks : LaunchHooks)
    (hs : s.world.accelerator.inner.Sound) (hsolvent : s.unwatched.books.Solvent)
    (r : Request) : Stepped s r (s.step (Simulator.watchedRig settings hooks) r) := by
  by_cases hquiet : r.Quiet
  · exact .quiet (step_keeps hquiet)
  · cases r with
    | load current source => exact load_cases hs current source
    | unload index => exact unload_cases index
    | shutdown => exact shutdown_cases hs hsolvent
    | _ => exact absurd trivial hquiet

end Session

end DeviceCode

import DeviceCode.Proofs.Books

/-!
# How a teardown ends

A teardown releases the pins and readers that the registry keeps for modules which are no longer
live. Each release takes one holder from a host range or one reader from the simulator
(`Relinquished`), and none of them fails as long as the simulator still has what the registry
answers for. That is all a teardown needs of the past, and solvent books give it.
-/

namespace DeviceCode

/-- Destroying a reader that is there takes it away. -/
theorem Simulator.destroyReader_ends {s : Simulator} (hs : s.Sound) {r : ReaderHandle}
    (hr : s.readers.contains r = true) :
    Ends (fun _ t => t.Sound ∧ ∃ journal loads,
        t = { s with readers := s.readers.erase r, journal, loads }) (fun _ => False)
      (s.destroyReader r) := by
  have hsound := hs.destroyReader r
  rcases s.destroyReader_cases r with ⟨hgone, _⟩ | ⟨_, journal, loads, hok⟩
  · rw [hr] at hgone
    cases hgone
  · rw [hok] at hsound ⊢
    exact ⟨hsound, journal, loads, rfl⟩

/-- What a list of releases has taken out of a simulator. Nothing else has changed. -/
structure Relinquished (s₀ s : Watched Simulator) (pins : List PinnedGlobal)
    (readers : List ReaderHandle) : Prop where
  sound : s.inner.Sound
  holders : ∀ x, s.inner.holders x + (pins.map (·.hostAddress)).count x = s₀.inner.holders x
  readers : ∀ r, s.inner.readers.tally r + readers.count r = s₀.inner.readers.tally r
  executables : s.inner.executables = s₀.inner.executables
  codeObjects : s.inner.codeObjects = s₀.inner.codeObjects
  allocations : s.inner.allocations = s₀.inner.allocations
  bystanders : s.inner.bystanders = s₀.inner.bystanders
  ties : s.ties = s₀.ties

namespace Relinquished

variable {s₀ s : Watched Simulator} {pins : List PinnedGlobal} {readers : List ReaderHandle}

theorem start (h : s.inner.Sound) : Relinquished s s [] [] where
  sound := h
  holders _ := rfl
  readers _ := rfl
  executables := rfl
  codeObjects := rfl
  allocations := rfl
  bystanders := rfl
  ties := rfl

/-- One more pin is given back. -/
theorem unlockMemory (h : Relinquished s₀ s pins readers) (pin : PinnedGlobal)
    (hpin : 0 < s.inner.holders pin.hostAddress) :
    Ends (fun _ t => Relinquished s₀ t (pins ++ [pin]) readers) (fun _ => False)
      (Watched.pass (·.unlockMemory pin.hostAddress) (fun _ => {}) s) := by
  refine (Simulator.unlockMemory_ends h.sound hpin).pass.imp ?_ fun _ hf => hf.1
  rintro _ t ⟨⟨hsound, hholders, pinned, journal, loads, hinner⟩, hties⟩
  refine
    { sound := hsound
      holders := fun x => ?_
      readers := fun r => by rw [hinner]; exact h.readers r
      executables := by rw [hinner]; exact h.executables
      codeObjects := by rw [hinner]; exact h.codeObjects
      allocations := by rw [hinner]; exact h.allocations
      bystanders := by rw [hinner]; exact h.bystanders
      ties := by rw [hties, Ties.add_nil]; exact h.ties }
  have hnow := hholders x
  have hthen := h.holders x
  rw [List.map_append, List.map_singleton, List.count_append]
  omega

/-- One more reader is destroyed. -/
theorem destroyReader (h : Relinquished s₀ s pins readers) (r : ReaderHandle)
    (hr : 0 < s.inner.readers.tally r) :
    Ends (fun _ t => Relinquished s₀ t pins (readers ++ [r])) (fun _ => False)
      (Watched.pass (·.destroyReader r) (fun _ => {}) s) := by
  have hthere := Assoc.tally_pos.mp hr
  refine (Simulator.destroyReader_ends h.sound hthere).pass.imp ?_ fun _ hf => hf.1
  rintro _ t ⟨⟨hsound, journal, loads, hinner⟩, hties⟩
  refine
    { sound := hsound
      holders := fun x => by rw [hinner]; exact h.holders x
      readers := fun r' => ?_
      executables := by rw [hinner]; exact h.executables
      codeObjects := by rw [hinner]; exact h.codeObjects
      allocations := by rw [hinner]; exact h.allocations
      bystanders := by rw [hinner]; exact h.bystanders
      ties := by rw [hties, Ties.add_nil]; exact h.ties }
  have hnow := Assoc.tally_erase hthere r'
  have hthen := h.readers r'
  rw [List.count_append, hinner]
  show (s.inner.readers.erase r).tally r' + _ = _
  omega

end Relinquished

/-- A release that does not fail is not reported. -/
theorem World.discard_ok {σ : Type} {w : World σ} {f : σ → Reply σ Unit} {Q : σ → Prop}
    (warning : CallError → Trace.Event)
    (h : Ends (fun _ s => Q s) (fun _ => False) (f w.accelerator)) :
    ∃ s, discard f warning w = (none, { w with accelerator := s }) ∧ Q s := by
  rcases hcall : f w.accelerator with ⟨e | a, s⟩
  · rw [hcall] at h
    exact h.elim
  · rw [hcall] at h
    refine ⟨s, ?_, h⟩
    unfold discard
    rw [run_bind_of (World.run_call hcall)]
    rfl

namespace Loader

variable {settings : LoaderSettings} {hooks : LaunchHooks} {s₀ : Watched Simulator}
  {w : World (Watched Simulator)}

/-- All pins are given back when each of them has a holder of its own. -/
theorem unpinReleased_run (settings : LoaderSettings) (hooks : LaunchHooks)
    {done : List PinnedGlobal} {readers : List ReaderHandle}
    (pins : List PinnedGlobal) (report : TeardownReport)
    (h : Relinquished s₀ w.accelerator done readers)
    (hheld : ∀ x, (pins.map (·.hostAddress)).count x ≤ w.accelerator.inner.holders x) :
    ∃ s, (Simulator.watchedLoader settings hooks).unpinReleased report pins w =
        ({ report with unpinned := report.unpinned + pins.length }, { w with accelerator := s }) ∧
      Relinquished s₀ s (done ++ pins) readers := by
  induction pins generalizing done report w with
  | nil =>
    rw [List.append_nil]
    exact ⟨w.accelerator, rfl, h⟩
  | cons pin pins ih =>
    have hpin : 0 < w.accelerator.inner.holders pin.hostAddress := by
      have hcount := hheld pin.hostAddress
      rw [List.map_cons, List.count_cons_self] at hcount
      omega
    obtain ⟨s, hrun, hs⟩ := World.discard_ok
      (.releaseFailed "failed to unpin host global" "symbol" pin.name) (h.unlockMemory pin hpin)
    -- what is still to be given back has lost one pin, and so has the simulator
    have hrest : ∀ x, (pins.map (·.hostAddress)).count x ≤ s.inner.holders x := by
      intro x
      have hbefore := hheld x
      have hthen := h.holders x
      have hnow := hs.holders x
      rw [List.map_append, List.map_singleton, List.count_append, List.count_singleton] at hnow
      rw [List.map_cons, List.count_cons] at hbefore
      omega
    obtain ⟨t, hloop, ht⟩ := ih (w := { w with accelerator := s })
      { report with unpinned := report.unpinned + 1 } hs hrest
    refine ⟨t, ?_, by rw [List.append_assoc] at ht; exact ht⟩
    refine (run_bind_of hrun _).trans (hloop.trans ?_)
    rw [List.length_cons, Nat.add_assoc, Nat.add_comm 1]

/-- All readers are destroyed when the simulator has each of them. -/
theorem destroyReleased_run (settings : LoaderSettings) (hooks : LaunchHooks)
    {done : List ReaderHandle} {pins : List PinnedGlobal}
    (readers : List ReaderHandle) (report : TeardownReport)
    (h : Relinquished s₀ w.accelerator pins done)
    (hheld : ∀ r, readers.count r ≤ w.accelerator.inner.readers.tally r) :
    ∃ s, (Simulator.watchedLoader settings hooks).destroyReleased report readers w =
        ({ report with readersDestroyed := report.readersDestroyed + readers.length },
          { w with accelerator := s }) ∧
      Relinquished s₀ s pins (done ++ readers) := by
  induction readers generalizing done report w with
  | nil =>
    rw [List.append_nil]
    exact ⟨w.accelerator, rfl, h⟩
  | cons r readers ih =>
    have hr : 0 < w.accelerator.inner.readers.tally r := by
      have hcount := hheld r
      rw [List.count_cons_self] at hcount
      omega
    obtain ⟨s, hrun, hs⟩ := World.discard_ok
      (.releaseFailed "failed to destroy code object reader" "reader" r.label) (h.destroyReader r hr)
    -- the simulator has lost this reader only, and it is not asked for again
    have hrest : ∀ r', readers.count r' ≤ s.inner.readers.tally r' := by
      intro r'
      have hbefore := hheld r'
      have hthen := h.readers r'
      have hnow := hs.readers r'
      rw [List.count_append, List.count_singleton] at hnow
      rw [List.count_cons] at hbefore
      omega
    obtain ⟨t, hloop, ht⟩ := ih (w := { w with accelerator := s })
      { report with readersDestroyed := report.readersDestroyed + 1 } hs hrest
    refine ⟨t, ?_, by rw [List.append_assoc] at ht; exact ht⟩
    refine (run_bind_of hrun _).trans (hloop.trans ?_)
    rw [List.length_cons, Nat.add_assoc, Nat.add_comm 1]

/-- **How a teardown ends** when the simulator has what the registry lets go: everything is
released, nothing fails, and the registry keeps what live modules need. -/
theorem shutdown_run (settings : LoaderSettings) (hooks : LaunchHooks)
    (hsound : w.accelerator.inner.Sound)
    (hpins : ∀ x, (w.loader.residency.releasablePins.map (·.hostAddress)).count x ≤
      w.accelerator.inner.holders x)
    (hreaders : ∀ r, w.loader.residency.releasableReaders.count r ≤
      w.accelerator.inner.readers.tally r) :
    ∃ report s tornDown log,
      (Simulator.watchedLoader settings hooks).shutdown w = (report, { w with
        accelerator := s
        loader := { w.loader with
          residency := { w.loader.residency.keepLive with tornDown } }
        log }) ∧
      report.failures = [] ∧
      Relinquished w.accelerator s w.loader.residency.releasablePins
        w.loader.residency.releasableReaders := by
  -- the registry is cut down before anything is released, so the releases run with `kept`
  let kept := w.loader.residency.keepLive
  let w₁ : World (Watched Simulator) := { w with loader := { w.loader with residency := kept } }
  obtain ⟨s₁, hrun₁, hs₁⟩ := unpinReleased_run settings hooks (w := w₁)
    w.loader.residency.releasablePins { inUse := kept.size } (.start hsound) hpins
  have hreaders₁ : ∀ r, w.loader.residency.releasableReaders.count r ≤
      s₁.inner.readers.tally r := by
    intro r
    have hsame := hs₁.readers r
    have hr := hreaders r
    rw [List.count_nil] at hsame
    show _ ≤ s₁.inner.readers.tally r
    have : w₁.accelerator.inner.readers.tally r = w.accelerator.inner.readers.tally r := rfl
    omega
  let report₁ : TeardownReport :=
    { unpinned := 0 + w.loader.residency.releasablePins.length, inUse := kept.size }
  obtain ⟨s₂, hrun₂, hs₂⟩ := destroyReleased_run settings hooks
    (w := { w₁ with accelerator := s₁ }) w.loader.residency.releasableReaders report₁ hs₁ hreaders₁
  rw [List.nil_append, List.nil_append] at hs₂
  let report₂ : TeardownReport :=
    { report₁ with readersDestroyed := 0 + w.loader.residency.releasableReaders.length }
  have hget : (get : Action (Watched Simulator) _) w = (w, w) := rfl
  have hupdate : World.updateLoader (fun s => { s with residency := kept }) w = ((), w₁) := rfl
  -- the last lines only log what was done, one more of them if something is still in use
  by_cases hin : 0 < kept.size
  · refine ⟨report₂, s₂, kept.size == 0,
      w.log ++ [.keptInUse kept.size kept.live.length] ++ [.tornDown report₂], ?_, rfl, hs₂⟩
    refine (run_bind_of hget _).trans ?_
    refine (run_bind_of hupdate _).trans ?_
    refine (run_bind_of hrun₁ _).trans ?_
    refine (run_bind_of hrun₂ _).trans ?_
    rw [if_pos hin]
    rfl
  · refine ⟨report₂, s₂, kept.size == 0, w.log ++ [.tornDown report₂], ?_, rfl, hs₂⟩
    refine (run_bind_of hget _).trans ?_
    refine (run_bind_of hupdate _).trans ?_
    refine (run_bind_of hrun₁ _).trans ?_
    refine (run_bind_of hrun₂ _).trans ?_
    rw [if_neg hin]
    rfl

end Loader

end DeviceCode

import DeviceCode.Proofs.Crossing
import Mathlib.Data.Bool.Count

/-!
# A registry in use

A registry can be asked directly to retain pins and a reader for a module, to release a module, and
to tear down what is kept for modules that are not live. `Custody.run` serves such requests in any
order, with any numbers, over any accelerator, so each call of a teardown may fail or not.

A `Custody` also collects the entries that teardowns have let go. Nothing reads that collection; it
tells how often an entry was handed to the accelerator (`Custody.run_released_once`).
-/

namespace DeviceCode

variable {σ : Type}

/-- What a registry is asked for. -/
inductive CustodyRequest where
  | retain (id : ModuleId) (pins : List PinnedGlobal) (reader : Option ReaderHandle)
  | release (id : ModuleId)
  | teardown

namespace CustodyRequest

def pins : CustodyRequest → List (ModuleId × PinnedGlobal)
  | .retain id pins _ => pins.map fun pin => (id, pin)
  | .release _ => []
  | .teardown => []

def readers : CustodyRequest → List (ModuleId × ReaderHandle)
  | .retain id _ reader => reader.toList.map fun r => (id, r)
  | .release _ => []
  | .teardown => []

/-- Everything that some requests want to be retained, pins first. -/
def entries (requests : List CustodyRequest) : List Entry :=
  Residency.entries { pins := requests.flatMap pins, readers := requests.flatMap readers }

/-- Something was retained for a module, and the module has not been released since. -/
def Lives (id : ModuleId) (requests : List CustodyRequest) : Prop :=
  ∃ before pins reader after, requests = before ++ retain id pins reader :: after ∧
    release id ∉ after

variable {id : ModuleId} {requests : List CustodyRequest} {r : CustodyRequest}

theorem not_lives_nil : ¬ Lives id [] := by
  intro h
  obtain ⟨before, pins, reader, after, heq, -⟩ := h
  simp at heq

/-- The last request decides, if it is about the module. -/
theorem lives_concat :
    Lives id (requests ++ [r]) ↔
      (∃ pins reader, r = retain id pins reader) ∨ Lives id requests ∧ r ≠ release id := by
  constructor
  · intro h
    obtain ⟨before, pins, reader, after, heq, hafter⟩ := h
    obtain ⟨-, hr, -⟩ | ⟨rest, rfl, hrest⟩ := split_of_concat heq
    · exact .inl ⟨pins, reader, hr⟩
    · rw [List.mem_append, not_or] at hafter
      refine .inr ⟨⟨before, pins, reader, rest, hrest, hafter.1⟩, fun hrelease => hafter.2 ?_⟩
      rw [hrelease]
      exact List.mem_singleton_self (release id)
  · intro h
    obtain ⟨pins, reader, rfl⟩ | ⟨⟨before, pins, reader, after, rfl, hafter⟩, hr⟩ := h
    · exact ⟨requests, pins, reader, [], rfl, List.not_mem_nil⟩
    · refine ⟨before, pins, reader, after ++ [r], by simp, fun hmem => ?_⟩
      rcases List.mem_append.mp hmem with hmem | hmem
      · exact hafter hmem
      · exact hr (List.mem_singleton.mp hmem).symm

theorem entries_concat :
    (entries (requests ++ [r])).Perm
      (entries requests ++ Residency.entries { pins := r.pins, readers := r.readers }) := by
  unfold entries Residency.entries
  rw [List.flatMap_append, List.flatMap_append, List.flatMap_singleton, List.flatMap_singleton,
    List.map_append, List.map_append, List.append_assoc, List.append_assoc]
  refine List.Perm.append_left _ ?_
  rw [← List.append_assoc, ← List.append_assoc]
  exact List.perm_append_comm.append_right _

theorem entries_concat_of_none (hpins : r.pins = []) (hreaders : r.readers = []) :
    entries (requests ++ [r]) = entries requests := by
  unfold entries
  rw [List.flatMap_append, List.flatMap_append, List.flatMap_singleton, List.flatMap_singleton,
    hpins, hreaders, List.append_nil, List.append_nil]

end CustodyRequest

/-- A registry over an accelerator, with the entries that teardowns have let go so far. -/
structure Custody (σ : Type) where
  world : World (Chronicled σ)
  handed : List Entry := []

namespace Custody

variable (l : Loader σ) {c : Custody σ} {requests : List CustodyRequest}

def residency (c : Custody σ) : Residency := c.world.loader.residency

/-- All calls so far, with their outcomes. -/
def calls (c : Custody σ) : List Call := c.world.accelerator.calls

/-- A registry that has not been asked for anything. -/
def start (accelerator : σ) (host : Host.System) : Custody σ where
  world := { accelerator := { inner := accelerator }, host }

/-- Change the registry, and nothing else. -/
def update (c : Custody σ) (f : Residency → Residency) : Custody σ :=
  { c with
    world := (World.updateLoader (fun s => { s with residency := f s.residency }) c.world).2 }

def step (c : Custody σ) : CustodyRequest → Custody σ
  | .retain id pins reader => c.update (·.retain id pins reader)
  | .release id => c.update (·.release id)
  | .teardown =>
    { world := (l.chronicle.shutdown c.world).2
      handed := c.handed ++ c.residency.releasable }

def run (c : Custody σ) (requests : List CustodyRequest) : Custody σ := requests.foldl (step l) c

/-- What holds after any requests: which modules are live, that what is kept is in retention order,
that every entry that was retained is either kept or was let go, and not both or twice, and that
there was one call for each that was let go. -/
structure Accounts (requests : List CustodyRequest) (c : Custody σ) : Prop where
  live : ∀ id, c.residency.isLive id = true ↔ CustodyRequest.Lives id requests
  pins : c.residency.pins.Sublist (requests.flatMap CustodyRequest.pins)
  readers : c.residency.readers.Sublist (requests.flatMap CustodyRequest.readers)
  once : (c.handed ++ c.residency.entries).Perm (CustodyRequest.entries requests)
  called : c.calls.map (·.1) = c.handed.map Entry.release
  tornDown : c.residency.tornDown = true → c.residency.pins = [] ∧ c.residency.readers = []

/-- What a teardown does with the entries there are, and what it reports. The lists tell which of
its calls succeed. -/
structure Settles (c c' : Custody σ) (report : TeardownReport) (oks oks' : List Bool) : Prop where
  pins_length : oks.length = c.residency.releasablePins.length
  readers_length : oks'.length = c.residency.releasableReaders.length
  calls : c'.calls = c.calls ++ Loader.unpinning c.residency.releasablePins oks ++
    Loader.destroying c.residency.releasableReaders oks'
  pins : c'.residency.pins = c.residency.pins.filter fun e => c.residency.isLive e.1
  readers : c'.residency.readers = c.residency.readers.filter fun e => c.residency.isLive e.1
  live : c'.residency.live = c.residency.live
  unpinned : report.unpinned = oks.count true
  readersDestroyed : report.readersDestroyed = oks'.count true
  failures : report.failures.length = oks.count false + oks'.count false
  inUse : report.inUse = c'.residency.size
  total : report.unpinned + report.readersDestroyed + report.failures.length + report.inUse =
    c.residency.size
  tornDown : c'.residency.tornDown = true ↔ report.inUse = 0

/-! ## Teardowns -/

theorem countP_isNone (failures : List (Option CallError)) :
    failures.countP (·.isNone) = (failures.map (·.isNone)).count true := by
  rw [List.count, List.countP_map]
  refine List.countP_congr fun failure _ => ?_
  simp

theorem length_filterMap (failures : List (Option CallError)) :
    (failures.filterMap id).length = (failures.map (·.isNone)).count false := by
  induction failures with
  | nil => rfl
  | cons failure failures ih =>
    cases failure with
    | none => exact ih.trans (List.count_cons_of_ne (by decide)).symm
    | some e => exact (congrArg (· + 1) ih).trans List.count_cons_self.symm

/-- What may go and what is kept is all there is. -/
theorem size_eq (r : Residency) :
    r.releasablePins.length + r.releasableReaders.length + r.keepLive.size = r.size := by
  have hpins := List.length_eq_length_filter_add (l := r.pins) fun e => r.isLive e.1
  have hreaders := List.length_eq_length_filter_add (l := r.readers) fun e => r.isLive e.1
  unfold Residency.releasablePins Residency.releasableReaders Residency.size Residency.keepLive
  simp only [List.length_map]
  omega

theorem teardown_settles (c : Custody σ) :
    ∃ oks oks', Settles c (c.step l .teardown) (l.chronicle.shutdown c.world).1 oks oks' := by
  obtain ⟨pins, readers, h⟩ := l.shutdown_discharged c.world
  have hresidency : (c.step l .teardown).residency =
      { c.residency.keepLive with tornDown := c.residency.keepLive.size == 0 } :=
    congrArg (·.residency) h.loader
  have hunpinned : (l.chronicle.shutdown c.world).1.unpinned =
      (pins.map (·.isNone)).count true := by
    rw [h.report, ← countP_isNone]
  have hdestroyed : (l.chronicle.shutdown c.world).1.readersDestroyed =
      (readers.map (·.isNone)).count true := by
    rw [h.report, ← countP_isNone]
  have hfailures : (l.chronicle.shutdown c.world).1.failures.length =
      (pins.map (·.isNone)).count false + (readers.map (·.isNone)).count false := by
    rw [h.report, ← length_filterMap, ← length_filterMap, List.length_append]
  have hinUse : (l.chronicle.shutdown c.world).1.inUse = c.residency.keepLive.size := by
    rw [h.report]
    rfl
  have htotal : (l.chronicle.shutdown c.world).1.unpinned +
      (l.chronicle.shutdown c.world).1.readersDestroyed +
      (l.chronicle.shutdown c.world).1.failures.length +
      (l.chronicle.shutdown c.world).1.inUse = c.residency.size := by
    have hpins := List.count_true_add_count_false (pins.map (·.isNone))
    have hreaders := List.count_true_add_count_false (readers.map (·.isNone))
    have hsize := size_eq c.residency
    rw [List.length_map, h.pins_length] at hpins
    rw [List.length_map, h.readers_length] at hreaders
    rw [hunpinned, hdestroyed, hfailures, hinUse]
    unfold residency at hsize ⊢
    omega
  exact ⟨pins.map Option.isNone, readers.map Option.isNone,
    { pins_length := (List.length_map _).trans h.pins_length
      readers_length := (List.length_map _).trans h.readers_length
      calls := h.calls
      pins := congrArg (·.pins) hresidency
      readers := congrArg (·.readers) hresidency
      live := congrArg (·.live) hresidency
      unpinned := hunpinned
      readersDestroyed := hdestroyed
      failures := hfailures
      inUse := by
        rw [hinUse, hresidency]
        rfl
      total := htotal
      tornDown := by
        rw [hresidency, hinUse]
        exact beq_iff_eq }⟩

/-! ## Runs -/

theorem start_accounts (accelerator : σ) (host : Host.System) :
    Accounts [] (start accelerator host) where
  live _ := ⟨fun h => absurd h Bool.false_ne_true, fun h => absurd h CustodyRequest.not_lives_nil⟩
  pins := .slnil
  readers := .slnil
  once := .refl _
  called := rfl
  tornDown _ := ⟨rfl, rfl⟩

theorem Accounts.retain (h : Accounts requests c) (id : ModuleId) (pins : List PinnedGlobal)
    (reader : Option ReaderHandle) :
    Accounts (requests ++ [.retain id pins reader]) (c.step l (.retain id pins reader)) where
  live id' := by
    show (c.residency.retain id pins reader).isLive id' = true ↔ _
    rw [Residency.isLive_retain, Bool.or_eq_true, beq_iff_eq, h.live, CustodyRequest.lives_concat]
    constructor
    · intro hlive
      rcases hlive with hlive | rfl
      · exact .inr ⟨hlive, nofun⟩
      · exact .inl ⟨pins, reader, rfl⟩
    · intro hlive
      rcases hlive with ⟨pins', reader', heq⟩ | ⟨hlive, -⟩
      · cases heq
        exact .inr rfl
      · exact .inl hlive
  pins := by
    rw [List.flatMap_append, List.flatMap_singleton]
    exact h.pins.append (List.Sublist.refl _)
  readers := by
    rw [List.flatMap_append, List.flatMap_singleton]
    exact h.readers.append (List.Sublist.refl _)
  once := by
    -- the new entries come after the old ones of their kind
    have hnew : (c.residency.retain id pins reader).entries.Perm (c.residency.entries ++
        Residency.entries { pins := (CustodyRequest.retain id pins reader).pins,
                            readers := (CustodyRequest.retain id pins reader).readers }) := by
      unfold Residency.entries Residency.retain
      rw [List.map_append, List.map_append, List.append_assoc, List.append_assoc]
      refine List.Perm.append_left _ ?_
      rw [← List.append_assoc, ← List.append_assoc]
      exact List.perm_append_comm.append_right _
    refine .trans ?_ CustodyRequest.entries_concat.symm
    refine .trans (hnew.append_left _) ?_
    rw [← List.append_assoc]
    exact h.once.append_right _
  called := h.called
  tornDown hdown := absurd hdown Bool.false_ne_true

theorem Accounts.release (h : Accounts requests c) (id : ModuleId) :
    Accounts (requests ++ [.release id]) (c.step l (.release id)) where
  live id' := by
    show (c.residency.release id).isLive id' = true ↔ _
    rw [Residency.isLive_release, Bool.and_eq_true, bne_iff_ne, h.live, CustodyRequest.lives_concat]
    constructor
    · intro hlive
      refine .inr ⟨hlive.1, fun heq => hlive.2 ?_⟩
      cases heq
      rfl
    · intro hlive
      rcases hlive with ⟨pins, reader, heq⟩ | ⟨hlive, hne⟩
      · cases heq
      · exact ⟨hlive, fun heq => hne (congrArg _ heq.symm)⟩
  pins := by
    rw [List.flatMap_append, List.flatMap_singleton, CustodyRequest.pins, List.append_nil]
    exact h.pins
  readers := by
    rw [List.flatMap_append, List.flatMap_singleton, CustodyRequest.readers, List.append_nil]
    exact h.readers
  once := by
    rw [CustodyRequest.entries_concat_of_none rfl rfl]
    exact h.once
  called := h.called
  tornDown := h.tornDown

theorem Accounts.teardown (h : Accounts requests c) :
    Accounts (requests ++ [.teardown]) (c.step l .teardown) := by
  obtain ⟨oks, oks', hsettles⟩ := teardown_settles l c
  exact
    { live := fun id => by
        unfold Residency.isLive
        rw [hsettles.live, CustodyRequest.lives_concat]
        constructor
        · intro hlive
          exact .inr ⟨(h.live id).mp hlive, nofun⟩
        · intro hlive
          rcases hlive with ⟨pins, reader, heq⟩ | ⟨hlive, -⟩
          · cases heq
          · exact (h.live id).mpr hlive
      pins := by
        rw [hsettles.pins]
        simpa [CustodyRequest.pins] using List.filter_sublist.trans h.pins
      readers := by
        rw [hsettles.readers]
        simpa [CustodyRequest.readers] using List.filter_sublist.trans h.readers
      once := by
        -- what was let go and what is left make up what was there
        have hleft : (c.step l .teardown).residency.entries =
            c.residency.entries.filter fun e => c.residency.isLive e.1 := by
          rw [← Residency.entries_keepLive]
          unfold Residency.entries
          rw [hsettles.pins, hsettles.readers]
          rfl
        show (c.handed ++ c.residency.releasable ++ _).Perm _
        rw [hleft, List.append_assoc, CustodyRequest.entries_concat_of_none rfl rfl]
        refine .trans (.append_left _ ?_) h.once
        exact List.perm_append_comm.trans (List.filter_append_perm _ _)
      called := by
        show _ = (c.handed ++ c.residency.releasable).map Entry.release
        rw [List.map_append, ← h.called]
        exact Fleet.calls_of_tornDown (l.shutdown_tornDown c.world)
      tornDown := fun hdown => by
        have hnone := hsettles.inUse.symm.trans (hsettles.tornDown.mp hdown)
        obtain ⟨hpins, hreaders⟩ := Nat.add_eq_zero_iff.mp hnone
        exact ⟨List.length_eq_zero_iff.mp hpins, List.length_eq_zero_iff.mp hreaders⟩ }

theorem Accounts.step (h : Accounts requests c) (r : CustodyRequest) :
    Accounts (requests ++ [r]) (c.step l r) := by
  cases r with
  | retain id pins reader => exact h.retain l id pins reader
  | release id => exact h.release l id
  | teardown => exact h.teardown l

/-- **Each entry is let go once.** After any requests, the entries that were let go and those that
are kept are together the entries that were retained, each as often as it was retained; for each
that was let go there was one call; and a registry that counts as torn down keeps nothing.

The next teardown calls once for each pin and then each reader whose module is not live, in the
order in which they were retained. These are gone afterwards even where the call fails, the others
are left, and the four numbers that are reported add up to what was there. -/
theorem run_released_once (accelerator : σ) (host : Host.System) (requests : List CustodyRequest) :
    let c := run l (start accelerator host) requests
    Accounts requests c ∧ ∃ oks oks',
      Settles c (c.step l .teardown) (l.chronicle.shutdown c.world).1 oks oks' := by
  intro c
  refine ⟨?_, teardown_settles l c⟩
  induction requests using List.reverseRecOn with
  | nil => exact start_accounts accelerator host
  | append_singleton requests r ih =>
    show Accounts _ (List.foldl _ _ _)
    rw [List.foldl_append]
    exact ih.step l r

end Custody

end DeviceCode

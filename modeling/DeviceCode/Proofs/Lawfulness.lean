import DeviceCode.Proofs.RequestCalls
import Mathlib.Data.List.Induction

/-!
# Every run obeys the call protocol

`Session.run_proper` is the run lemma: whatever a program asks for, under whatever faults, all of
its calls were allowed when they were made, and the executables of its modules are frozen. The step
is `Session.step_wrote`; what the step needs of the past is solvency, which says that whatever is to
be given back is there, and the chronicle, which says that it is known to be.

`Session.run_lawful` states the protocol.
-/

namespace DeviceCode

namespace LoadedModule

variable {m : LoadedModule} {e : ExecutableHandle}

/-- The executable is what a module gives back first. -/
theorem executable_first {before rest : List JournalEntry}
    (h : m.kept.map (·.gone) = before ++ .destroyExecutable e :: rest) :
    before = [] ∧ m.executable? = some e := by
  -- what comes after the executable is none
  have hnot : .destroyExecutable e ∉ (m.codeObject?.toList.map Resource.codeObject ++
      m.allocation?.toList.map Resource.allocation).map (·.gone) := by
    cases m.codeObject? <;> cases m.allocation? <;> simp [Resource.gone]
  unfold kept at h
  cases he : m.executable? with
  | none =>
    rw [he] at h
    refine absurd ?_ hnot
    rw [show (m.codeObject?.toList.map Resource.codeObject ++
      m.allocation?.toList.map Resource.allocation).map (·.gone) = _ from h]
    exact List.mem_append_right _ List.mem_cons_self
  | some e' =>
    rw [he] at h
    cases before with
    | nil =>
      cases (List.cons.inj h).1
      exact ⟨rfl, rfl⟩
    | cons entry before =>
      refine absurd ?_ hnot
      rw [show (m.codeObject?.toList.map Resource.codeObject ++
        m.allocation?.toList.map Resource.allocation).map (·.gone) = _ from (List.cons.inj h).2]
      exact List.mem_append_right _ List.mem_cons_self

theorem executable_eq_of_some (h : m.executable? = some e) : m.executable = e := by
  unfold executable? at h
  split at h
  · cases h
  · exact Option.some.inj h

end LoadedModule

namespace Session

variable {s t : Session (Chronicled Simulator)} {r : Request}

/-- When a frozen executable may be destroyed: in an unload of its module, right after the module's
agent has come to rest. -/
def Settles (modules : List LoadedModule) (r : Request) (calls more : List Call) : Prop :=
  ∀ before e ok after, more = before ++ (.destroyExecutable e, ok) :: after →
    (.freeze e, true) ∈ calls ++ before →
    ∃ index m, r = .unload index ∧ modules[index]? = some m ∧ m.executable = e ∧
      before = [(.synchronize m.agent, true)]

theorem Adds.settles {more : List Call} (h : Adds s more t) (modules : List LoadedModule) :
    Settles modules r s.calls more := by
  intro before e ok after hmore hfrozen
  have hmem : (Resource.gone (.executable e), ok) ∈ more := by
    rw [hmore]
    exact List.mem_append_right _ List.mem_cons_self
  rcases h.returned _ ok hmem with ⟨reader, hreader⟩ | ⟨-, hunfrozen⟩
  · cases hreader
  · refine absurd ?_ (hunfrozen e rfl)
    rw [h.calls, hmore, ← List.append_assoc]
    exact List.mem_append_left _ hfrozen

/-- The calls of an unload after the agent has come to rest give back what is kept, in its order. -/
theorem settles_unloading {index : Nat} {m : LoadedModule} (hm : s.modules[index]? = some m)
    (tail : List Call) (rest : List JournalEntry)
    (htail : m.kept.map (·.gone) = tail.map (·.1) ++ rest) :
    Settles s.modules (.unload index) s.calls ((.synchronize m.agent, true) :: tail) := by
  intro before e ok after hmore _
  cases before with
  | nil => cases (List.cons.inj hmore).1
  | cons c before =>
    obtain ⟨rfl, htail'⟩ := List.cons.inj hmore
    replace htail' : tail = before ++ (.destroyExecutable e, ok) :: after := htail'
    rw [htail', List.map_append, List.map_cons, List.append_assoc, List.cons_append] at htail
    obtain ⟨hnil, he⟩ := LoadedModule.executable_first htail
    rw [List.map_eq_nil_iff.mp hnil]
    exact ⟨index, m, rfl, hm, LoadedModule.executable_eq_of_some he, rfl⟩

theorem map_fst_returned (ks : List Resource) :
    (ks.map (·.returned)).map (·.1) = ks.map (·.gone) := by
  rw [List.map_map]
  rfl

/-- **Only calls of unloads destroy frozen executables.** -/
theorem Wrote.settles (h : Wrote s r t) :
    ∃ more, t.calls = s.calls ++ more ∧ Settles s.modules r s.calls more := by
  cases h with
  | kept h => exact ⟨_, h.calls, h.settles _⟩
  | loaded h => exact ⟨_, h.calls, h.settles _⟩
  | @unloaded index m w hm hcalls =>
    refine ⟨_, hcalls, settles_unloading hm _ [] ?_⟩
    rw [map_fst_returned, List.append_nil]
  | @halted index m m' w hm h =>
    show ∃ more, w.accelerator.calls = _ ∧ _
    generalize w.accelerator.calls = calls at h
    cases h with
    | waiting =>
      -- the agent did not come to rest, and nothing was given back
      refine ⟨_, rfl, fun before e ok after hmore => ?_⟩
      rcases List.append_eq_singleton_iff.mp hmore.symm with ⟨-, heq⟩ | ⟨-, heq⟩
      · cases heq
      · cases heq
    | @releasing _ done k rest hpristine hkept hleft =>
      refine ⟨_, List.append_assoc .., settles_unloading hm
        (done.map (·.returned) ++ [(k.gone, false)]) (rest.map (·.gone)) ?_⟩
      rw [hkept, hleft, List.map_append, List.map_append, map_fst_returned, List.append_assoc]
      rfl

/-! ## Whole runs -/

theorem Wrote.grown (h : Wrote s r t) : s.calls <+: t.calls := by
  obtain ⟨more, hcalls, -⟩ := h.settles
  exact ⟨more, hcalls.symm⟩

/-- What a step leaves is still made from frozen executables. -/
theorem Wrote.frozen (hs : s.Proper) (h : Wrote s r t) {m : LoadedModule} (hm : m ∈ t.modules) :
    (.freeze m.executable, true) ∈ t.calls := by
  have hold : ∀ m' ∈ s.modules, m'.executable = m.executable →
      (JournalEntry.freeze m.executable, true) ∈ t.calls := fun m' hm' heq =>
    h.grown.subset (heq ▸ hs.frozen m' hm')
  cases h with
  | kept h hmodules =>
    have hmem : m.forgetful ∈ s.modules.map (·.forgetful) :=
      hmodules ▸ List.mem_map_of_mem hm
    obtain ⟨m', hm', heq⟩ := List.mem_map.mp hmem
    have hsame : m'.forgetful.executable = m.forgetful.executable := by rw [heq]
    exact hold m' hm' hsame
  | loaded h hmade =>
    rcases List.mem_append.mp hm with hm | hm
    · exact hold m hm rfl
    · rw [List.mem_singleton.mp hm]
      exact hmade.frozen
  | unloaded _ _ => exact hold m (List.mem_of_mem_eraseIdx hm) rfl
  | @halted index m₀ m' w hm₀ h =>
    rcases List.mem_or_eq_of_mem_set hm with hm | rfl
    · exact hold m hm rfl
    · refine hold m₀ (List.mem_of_getElem? hm₀) ?_
      have hsame : m.pristine.executable = m₀.pristine.executable := by rw [h.pristine_eq]
      exact hsame.symm

variable (settings : LoaderSettings) (hooks : LaunchHooks) (hasRegion : Bool) (host : Host.System)

theorem recounted_append (rs : List Request) (r : Request) :
    recounted settings hooks hasRegion host (rs ++ [r]) =
      (recounted settings hooks hasRegion host rs).step (Simulator.rig settings hooks).chronicle
        r :=
  run_append _ _ rs r

theorem recounted_unchronicled (rs : List Request) :
    (recounted settings hooks hasRegion host rs).unchronicled =
      (fresh hasRegion host).run (Simulator.rig settings hooks) rs :=
  run_unchronicled _ _ rs

/-- Every run is that of an orderly session. -/
theorem run_orderly_fresh (rs : List Request) : ∃ s : Session (Watched Simulator), s.Orderly ∧
    s.unwatched = (fresh hasRegion host).run (Simulator.rig settings hooks) rs :=
  ⟨_, run_orderly settings hooks (fresh_orderly hasRegion host) rs,
    run_unwatched settings hooks _ rs⟩

/-- **Every run is proper.** -/
theorem run_proper (rs : List Request) : (recounted settings hooks hasRegion host rs).Proper := by
  induction rs using List.reverseRecOn with
  | nil =>
    exact
      { sound := (Simulator.Reachable.fresh hasRegion).sound
        tracked := .fresh hasRegion
        lawful := .nil
        solvent := (fresh_orderly hasRegion host).solvent
        frozen := nofun }
  | append_singleton rs r ih =>
    have hwrote := step_wrote settings hooks ih r
    obtain ⟨s, hs, hplain⟩ := run_orderly_fresh settings hooks hasRegion host (rs ++ [r])
    have hsame := hplain.trans (recounted_unchronicled settings hooks hasRegion host _).symm
    rw [recounted_append] at hsame ⊢
    refine ⟨?_, ?_, hwrote.lawful ih, ?_, fun m hm => hwrote.frozen ih hm⟩
    · have hsound := hs.sound.inner
      rw [show s.world.accelerator.inner = s.unwatched.world.accelerator from rfl, hsame] at hsound
      exact hsound
    · rw [← recounted_append]
      exact run_tracked settings hooks hasRegion host (rs ++ [r])
    · rw [← hsame]
      exact hs.solvent

/-- **The loader obeys the call protocol.** Whatever a program asks for and whatever is made to
fail, its journal, with the outcomes of the calls, is a lawful history. Every attempt to destroy an
executable that was frozen is made by an unload of its module, and what that unload has called
before is to wait, successfully, for the module's agent. -/
theorem run_lawful (rs : List Request) :
    let H := history settings hooks hasRegion host
    let s := (fresh hasRegion host).run (Simulator.rig settings hooks) rs
    (H rs).map (·.1) = s.world.accelerator.journal ∧ Lawful (H rs) ∧
      ∀ r, ∃ more, H (rs ++ [r]) = H rs ++ more ∧
        ∀ before e ok after, more = before ++ (.destroyExecutable e, ok) :: after →
          (.freeze e, true) ∈ H rs ++ before →
          ∃ index m, r = .unload index ∧ s.modules[index]? = some m ∧ m.executable = e ∧
            before = [(.synchronize m.agent, true)] := by
  intro H s
  have hproper := run_proper settings hooks hasRegion host rs
  have hplain := recounted_unchronicled settings hooks hasRegion host rs
  refine ⟨?_, hproper.lawful, fun r => ?_⟩
  · show _ = s.world.accelerator.journal
    rw [show s = _ from hplain.symm]
    exact hproper.tracked.journal
  · have hwrote := step_wrote settings hooks hproper r
    obtain ⟨more, hcalls, hsettles⟩ := hwrote.settles
    refine ⟨more, ?_, ?_⟩
    · show (recounted settings hooks hasRegion host (rs ++ [r])).calls = _
      rw [recounted_append]
      exact hcalls
    · rw [show s.modules = _ from congrArg Session.modules hplain.symm]
      exact hsettles

end Session

end DeviceCode

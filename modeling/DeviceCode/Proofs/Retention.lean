import DeviceCode.Proofs.Orderly
import Mathlib.Data.List.Induction

/-!
# What the registry keeps for a module

From the load of a module until its unload is complete, the registry keeps the pins and the reader
of that load for it, and nothing else under the module's number. Teardowns in between let them be,
since the module is live, and other loads have other numbers.
-/

namespace DeviceCode

/-- The pins and readers that are kept for a module. -/
def Residency.keptFor (r : Residency) (id : ModuleId) :
    List (ModuleId × PinnedGlobal) × List (ModuleId × ReaderHandle) :=
  (r.pins.filter (·.1 == id), r.readers.filter (·.1 == id))

namespace Residency

variable {r : Residency} {id id' : ModuleId}

theorem filter_append_other {α : Type} (l : List (ModuleId × α)) (l' : List α) (h : id ≠ id') :
    (l ++ l'.map fun a => (id', a)).filter (·.1 == id) = l.filter (·.1 == id) := by
  have hother : (l'.map fun a => (id', a)).filter (·.1 == id) = [] := by
    refine List.filter_eq_nil_iff.mpr fun e he => ?_
    obtain ⟨a, -, rfl⟩ := List.mem_map.mp he
    exact fun heq => h (eq_of_beq heq).symm
  rw [List.filter_append, hother, List.append_nil]

/-- What is kept for other modules does not matter. -/
theorem keptFor_retain (h : id ≠ id') (pins : List PinnedGlobal) (reader : Option ReaderHandle) :
    (r.retain id' pins reader).keptFor id = r.keptFor id := by
  unfold keptFor retain
  dsimp only
  rw [filter_append_other _ _ h, filter_append_other _ _ h]

theorem filter_live {α : Type} (l : List (ModuleId × α)) (h : id ∈ r.live) :
    (l.filter fun e => r.isLive e.1).filter (·.1 == id) = l.filter (·.1 == id) := by
  rw [List.filter_filter]
  refine List.filter_congr fun e _ => ?_
  cases heq : e.1 == id with
  | false => rfl
  | true =>
    rw [eq_of_beq heq]
    exact List.contains_iff_mem.mpr h

/-- A teardown lets be what is kept for a live module. -/
theorem keptFor_keepLive (h : id ∈ r.live) : r.keepLive.keptFor id = r.keptFor id := by
  unfold keptFor keepLive
  dsimp only
  rw [filter_live _ h, filter_live _ h]

end Residency

namespace Session

variable {s t : Session (Watched Simulator)} {r : Request} {id : ModuleId}
  {entries : List (ModuleId × PinnedGlobal) × List (ModuleId × ReaderHandle)}

/-- A number that was given out, with what is kept for its module for as long as there is one. -/
structure KeepsFor (id : ModuleId) (entries) (s : Session (Watched Simulator)) : Prop where
  given : id < s.world.loader.nextModule
  kept : id ∈ s.modules.map (·.id) → s.world.loader.residency.keptFor id = entries

theorem KeepsFor.of_same (h : KeepsFor id entries s)
    (hnext : t.world.loader.nextModule = s.world.loader.nextModule)
    (hresidency : t.world.loader.residency = s.world.loader.residency)
    (hids : t.modules.map (·.id) = s.modules.map (·.id)) : KeepsFor id entries t where
  given := by
    rw [hnext]
    exact h.given
  kept hid := by
    rw [hresidency]
    exact h.kept (hids ▸ hid)

theorem KeepsFor.step (h : KeepsFor id entries s) (hs : s.Orderly) (hstep : Stepped s r t) :
    KeepsFor id entries t := by
  cases hstep with
  | quiet hquiet => exact h.of_same hquiet.world.nextModule hquiet.world.residency hquiet.ids_eq
  | @loaded _ _ held news m w hloaded =>
    have hne : id ≠ m.id := by
      rw [hloaded.id]
      exact Nat.ne_of_lt h.given
    refine ⟨?_, fun hid => ?_⟩
    · show id < w.loader.nextModule
      rw [hloaded.loader, hloaded.id]
      exact Nat.lt_succ_of_lt h.given
    · show w.loader.residency.keptFor id = entries
      rw [hloaded.loader, Residency.keptFor_retain hne]
      rw [List.map_append, List.mem_append] at hid
      exact h.kept (hid.resolve_right fun heq => hne (List.mem_singleton.mp heq))
  | rolledBack hback =>
    obtain ⟨held, frozen, news, -, -, -, hu⟩ := hback
    exact h.of_same (congrArg (·.nextModule) hu.loader) (congrArg (·.residency) hu.loader) rfl
  | stopped hm hu log =>
    exact h.of_same (congrArg (·.nextModule) hu.loader) (congrArg (·.residency) hu.loader)
      (map_set_of_eq _ hm (congrArg (·.id) hu.module))
  | unloaded hm hu hspent log =>
    -- the number is no longer live, but nothing is dropped before the next teardown
    exact ⟨h.given, fun hid => h.kept (((List.eraseIdx_sublist _ _).map _).subset hid)⟩
  | tornDown tornDown log hdone =>
    exact ⟨h.given, fun hid =>
      (Residency.keptFor_keepLive ((hs.live id).mpr hid)).trans (h.kept hid)⟩

variable (settings : LoaderSettings) (hooks : LaunchHooks)

/-- **What is kept for a module stays kept** for as long as the module is there. -/
theorem run_keptFor (hs : s.Orderly) (rs : List Request) (hid : id ∈ s.modules.map (·.id))
    (hid' : id ∈ (s.run (Simulator.watchedRig settings hooks) rs).modules.map (·.id)) :
    (s.run (Simulator.watchedRig settings hooks) rs).world.loader.residency.keptFor id =
      s.world.loader.residency.keptFor id := by
  have hkeeps : KeepsFor id (s.world.loader.residency.keptFor id)
      (s.run (Simulator.watchedRig settings hooks) rs) := by
    clear hid'
    induction rs using List.reverseRecOn with
    | nil => exact ⟨hs.numbered id hid, fun _ => rfl⟩
    | append_singleton rs r ih =>
      have ht := run_orderly settings hooks hs rs
      rw [run_append]
      exact ih.step ht (step_cases settings hooks ht.sound.inner ht.solvent r)
  exact hkeeps.kept hid'

end Session

end DeviceCode

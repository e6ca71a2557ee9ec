import DeviceCode.Proofs.Bookkeeping

/-!
# Orderly sessions

`Session.Orderly` is what every run keeps, whatever loads, unloads and faults it is made of: the
simulator is sound, the books are solvent, and the modules are those that the registry calls live,
each under a number of its own that will not be given out again.

`Session.run_orderly` is the run lemma. It needs no assumption about faults: what a roll back leaves
behind is nobody's, but it takes nothing away from anybody.
-/

namespace DeviceCode

open Books

/-- What every run of a loader keeps. -/
structure Session.Orderly (s : Session (Watched Simulator)) : Prop where
  sound : s.world.accelerator.Sound
  solvent : s.unwatched.books.Solvent
  distinct : (s.modules.map (·.id)).Nodup
  live : ∀ id, id ∈ s.world.loader.residency.live ↔ id ∈ s.modules.map (·.id)
  numbered : ∀ id ∈ s.modules.map (·.id), id < s.world.loader.nextModule

namespace Session

variable {settings : LoaderSettings} {hooks : LaunchHooks} {s t : Session (Watched Simulator)}
  {r : Request}

/-! ## Soundness -/

theorem rig_sound : Rig.Alike (Only Watched.Sound) (Simulator.watchedRig settings hooks)
    (Simulator.watchedRig settings hooks) where
  accelerator := Watched.sound_only
  settings := rfl
  hooks := rfl
  inject point s t h := by
    obtain ⟨rfl, hs⟩ := h
    refine ⟨rfl, ?_, ?_⟩
    · show (s.inner.inject point).Sound
      unfold Simulator.inject
      split
      · exact hs.inner
      · exact { hs.inner with }
    · show s.ties.Within (s.inner.inject point).lastHandle
      unfold Simulator.inject
      split <;> exact hs.ties
  clearFaults s t h := by
    obtain ⟨rfl, hs⟩ := h
    exact ⟨rfl, { hs.inner with }, hs.ties⟩

theorem step_sound (h : s.world.accelerator.Sound) (r : Request) :
    (s.step (Simulator.watchedRig settings hooks) r).world.accelerator.Sound :=
  (step_alike rig_sound ⟨.only h, rfl⟩ r).world.accelerator.2

/-! ## Solvency -/

theorem Stepped.solvent (h : Stepped s r t) (hs : s.unwatched.books.Solvent) :
    t.unwatched.books.Solvent := by
  cases h with
  | quiet h => exact h.balanced.solvent hs
  | loaded h => exact h.balanced.solvent hs
  | rolledBack h => exact h.solvent hs
  | stopped hm h log => exact (h.balanced hm log).solvent hs
  | unloaded hm h hspent log => exact (h.balanced_spent hm hspent log).solvent hs
  | tornDown tornDown log h => exact (h.balanced tornDown log).solvent hs

/-! ## Numbers of modules -/

theorem Keeps.ids_eq (h : Session.Keeps s t) : t.modules.map (·.id) = s.modules.map (·.id) := by
  have hids : ∀ ms : List LoadedModule, (ms.map (·.forgetful)).map (·.id) = ms.map (·.id) :=
    fun ms => List.map_map
  rw [← hids t.modules, h.modules, hids]

/-- Of values that are distinct, exactly the one that leaves is gone. -/
theorem mem_map_eraseIdx {α β : Type} {f : α → β} {xs : List α} {i : Nat} {x : α}
    (hx : xs[i]? = some x) (hdistinct : (xs.map f).Nodup) (b : β) :
    b ∈ (xs.eraseIdx i).map f ↔ b ∈ xs.map f ∧ b ≠ f x := by
  induction xs generalizing i with
  | nil => cases hx
  | cons y ys ih =>
    rw [List.map_cons, List.nodup_cons] at hdistinct
    cases i with
    | zero =>
      cases hx
      rw [List.eraseIdx_cons_zero, List.map_cons, List.mem_cons]
      constructor
      · intro hb
        exact ⟨.inr hb, fun heq => hdistinct.1 (heq ▸ hb)⟩
      · rintro ⟨rfl | hb, hne⟩
        · exact absurd rfl hne
        · exact hb
    | succ i =>
      have hmem : f x ∈ ys.map f :=
        List.mem_map_of_mem (List.mem_of_getElem? (i := i) (by simpa using hx))
      rw [List.eraseIdx_cons_succ, List.map_cons, List.map_cons, List.mem_cons, List.mem_cons,
        ih (by simpa using hx) hdistinct.2]
      constructor
      · rintro (rfl | ⟨hb, hne⟩)
        · exact ⟨.inl rfl, fun heq => hdistinct.1 (heq ▸ hmem)⟩
        · exact ⟨.inr hb, hne⟩
      · rintro ⟨rfl | hb, hne⟩
        · exact .inl rfl
        · exact .inr ⟨hb, hne⟩

/-- Order is kept by whatever leaves the numbers alone. -/
theorem Orderly.of_same (hs : s.Orderly) (hsound : t.world.accelerator.Sound)
    (hsolvent : t.unwatched.books.Solvent)
    (hids : t.modules.map (·.id) = s.modules.map (·.id))
    (hlive : t.world.loader.residency.live = s.world.loader.residency.live)
    (hnext : t.world.loader.nextModule = s.world.loader.nextModule) : t.Orderly where
  sound := hsound
  solvent := hsolvent
  distinct := by rw [hids]; exact hs.distinct
  live := by rw [hids, hlive]; exact hs.live
  numbered := by rw [hids, hnext]; exact hs.numbered

/-- A new module gets a number that none had. -/
theorem orderly_loaded {held : Holdings} {news : Ties} {m : LoadedModule}
    {w : World (Watched Simulator)} (hs : s.Orderly) (h : Loaded s.world held news m w)
    (hsound : w.accelerator.Sound)
    (hsolvent : (Session.mk w (s.modules ++ [m])).unwatched.books.Solvent) :
    (Session.mk w (s.modules ++ [m])).Orderly := by
  have hnew : m.id ∉ s.modules.map (·.id) := by
    intro hmem
    have hlt := hs.numbered _ hmem
    rw [h.id] at hlt
    exact Nat.lt_irrefl _ hlt
  have hnotLive : ¬ s.world.loader.residency.isLive m.id = true := by
    intro hlive
    exact hnew ((hs.live _).mp (List.contains_iff_mem.mp hlive))
  have hids : (s.modules ++ [m]).map (·.id) = s.modules.map (·.id) ++ [m.id] := List.map_append
  refine
    { sound := hsound
      solvent := hsolvent
      distinct := ?_
      live := fun id => ?_
      numbered := fun id hid => ?_ }
  · show ((s.modules ++ [m]).map (·.id)).Nodup
    rw [hids, List.nodup_append]
    refine ⟨hs.distinct, List.nodup_cons.mpr ⟨List.not_mem_nil, List.nodup_nil⟩, ?_⟩
    intro a ha b hb heq
    rw [List.mem_singleton.mp hb] at heq
    exact hnew (heq ▸ ha)
  · show id ∈ w.loader.residency.live ↔ id ∈ (s.modules ++ [m]).map (·.id)
    rw [h.residency_eq, hids, List.mem_append, ← hs.live]
    unfold Residency.retain
    rw [if_neg hnotLive, List.mem_append]
  · show id < w.loader.nextModule
    rw [h.loader]
    show id < m.id + 1
    rw [hids, List.mem_append, List.mem_singleton] at hid
    rcases hid with hid | rfl
    · have hlt := hs.numbered _ hid
      rw [← h.id] at hlt
      exact Nat.lt_succ_of_lt hlt
    · exact Nat.lt_succ_self _

theorem Stepped.orderly (h : Stepped s r t) (hs : s.Orderly) (hsound : t.world.accelerator.Sound) :
    t.Orderly := by
  have hsolvent := h.solvent hs.solvent
  cases h with
  | quiet h =>
    exact hs.of_same hsound hsolvent h.ids_eq (congrArg (·.live) h.world.residency)
      h.world.nextModule
  | loaded h => exact orderly_loaded hs h hsound hsolvent
  | rolledBack h =>
    obtain ⟨held, frozen, news, -, -, -, hu⟩ := h
    exact hs.of_same hsound hsolvent rfl (congrArg (·.residency.live) hu.loader)
      (congrArg (·.nextModule) hu.loader)
  | stopped hm h log =>
    exact hs.of_same hsound hsolvent (map_set_of_eq _ hm (congrArg (·.id) h.module))
      (congrArg (·.residency.live) h.loader) (congrArg (·.nextModule) h.loader)
  | @unloaded index m p hm h hspent log =>
    have hids := mem_map_eraseIdx hm hs.distinct
    exact
      { sound := hsound
        solvent := hsolvent
        distinct := hs.distinct.sublist ((List.eraseIdx_sublist _ _).map _)
        live := by
          intro id
          show id ∈ s.world.loader.residency.live.filter (· != m.id) ↔ _
          rw [List.mem_filter, hids, hs.live, bne_iff_ne]
        numbered := fun id hid => hs.numbered id ((hids id).mp hid).1 }
  | tornDown tornDown log h => exact hs.of_same hsound hsolvent rfl rfl rfl

/-- **Every request keeps a session orderly**, under any faults. -/
theorem step_orderly (settings : LoaderSettings) (hooks : LaunchHooks)
    (hs : s.Orderly) (r : Request) :
    (s.step (Simulator.watchedRig settings hooks) r).Orderly :=
  (step_cases settings hooks hs.sound.inner hs.solvent r).orderly hs (step_sound hs.sound r)

/-- The induction over requests; everything about a single one is in `step_orderly`. -/
theorem run_orderly (settings : LoaderSettings) (hooks : LaunchHooks) (hs : s.Orderly)
    (rs : List Request) :
    (s.run (Simulator.watchedRig settings hooks) rs).Orderly := by
  induction rs generalizing s with
  | nil => exact hs
  | cons r rs ih => exact ih (step_orderly settings hooks hs r)

/-- A program begins with an orderly session. -/
theorem fresh_orderly (hasRegion : Bool) (host : Host.System) :
    (fresh hasRegion host).watched.Orderly where
  sound := ⟨(Simulator.Reachable.fresh hasRegion).sound, .nil⟩
  solvent :=
    { executables := fun _ => Nat.zero_le _
      codeObjects := fun _ => Nat.zero_le _
      allocations := fun _ => Nat.zero_le _
      readers := fun _ => Nat.zero_le _
      pins := fun _ => Nat.zero_le _ }
  distinct := List.nodup_nil
  live _ := Iff.rfl
  numbered _ h := absurd h List.not_mem_nil

end Session

end DeviceCode

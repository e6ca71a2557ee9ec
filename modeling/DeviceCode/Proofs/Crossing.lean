import DeviceCode.Elf.Draft
import DeviceCode.Proofs.Fleet
import Mathlib.Data.List.Nodup

/-!
# Unloads through another loader

A registry knows modules by their numbers, and every loader numbers its own modules from one. An
unload through a loader makes its registry forget the module's number, whoever had loaded the
module. As long as that is the loader itself, the number is the module's. If it is another one, the
number may be that of a module of its own (`Fleet.Strips`): the next teardown then lets go what was
kept for this module, although the program still holds it.

`Fleet.run_separate_iff` says that this is the only way in which loaders can harm each other.
-/

namespace DeviceCode

variable {σ α : Type}

namespace Residency

variable {r : Residency} {id : ModuleId}

/-- The entries that a teardown lets go. -/
def releasable (r : Residency) : List Entry := r.entries.filter fun e => !r.isLive e.1

theorem entriesFor_eq (r : Residency) (id : ModuleId) :
    r.entriesFor id = (r.keptFor id).1.map (fun e => (e.1, .pin e.2)) ++
      (r.keptFor id).2.map fun e => (e.1, .reader e.2) := by
  unfold entriesFor entries
  rw [List.filter_append, List.filter_map, List.filter_map]
  rfl

theorem entriesFor_retain {id' : ModuleId} (h : id ≠ id') (pins : List PinnedGlobal)
    (reader : Option ReaderHandle) :
    (r.retain id' pins reader).entriesFor id = r.entriesFor id := by
  rw [entriesFor_eq, keptFor_retain h, ← entriesFor_eq]

/-- What is new is for the new module. -/
theorem mem_entries_retain {e : Entry} {pins : List PinnedGlobal} {reader : Option ReaderHandle}
    (h : e ∈ (r.retain id pins reader).entries) : e ∈ r.entries ∨ e.1 = id := by
  unfold entries retain at h
  rw [List.map_append, List.map_append, List.map_map, List.map_map] at h
  rcases List.mem_append.mp h with h | h
  · rcases List.mem_append.mp h with h | h
    · exact .inl (List.mem_append_left _ h)
    · obtain ⟨pin, -, rfl⟩ := List.mem_map.mp h
      exact .inr rfl
  · rcases List.mem_append.mp h with h | h
    · exact .inl (List.mem_append_right _ h)
    · obtain ⟨reader, -, rfl⟩ := List.mem_map.mp h
      exact .inr rfl

theorem entries_keepLive (r : Residency) :
    r.keepLive.entries = r.entries.filter fun e => r.isLive e.1 := by
  unfold entries keepLive
  rw [List.filter_append, List.filter_map, List.filter_map]
  rfl

/-- What is kept under a number stays if the number is live, or if it is nothing. -/
theorem entriesFor_keepLive (h : r.isLive id = true ∨ r.entriesFor id = []) :
    r.keepLive.entriesFor id = r.entriesFor id := by
  rcases h with hlive | hnone
  · rw [entriesFor_eq, keptFor_keepLive (List.contains_iff_mem.mp hlive), ← entriesFor_eq]
  · have hsub : (r.keepLive.entriesFor id).Sublist (r.entriesFor id) := by
      unfold entriesFor
      rw [entries_keepLive]
      exact List.filter_sublist.filter _
    rw [hnone] at hsub ⊢
    exact List.sublist_nil.mp hsub

theorem isLive_retain {id' : ModuleId} (pins : List PinnedGlobal) (reader : Option ReaderHandle) :
    (r.retain id' pins reader).isLive id = (r.isLive id || id == id') := by
  unfold retain isLive
  by_cases h : r.live.contains id' = true
  · rw [if_pos h]
    cases hid : id == id' with
    | true => rw [eq_of_beq hid, h, Bool.or_true]
    | false => rw [Bool.or_false]
  · rw [if_neg h, Bool.eq_iff_iff, List.contains_iff_mem, List.mem_append, List.mem_singleton,
      Bool.or_eq_true, List.contains_iff_mem, beq_iff_eq]

theorem isLive_release {id' : ModuleId} :
    (r.release id').isLive id = (r.isLive id && id != id') := by
  unfold release isLive
  rw [Bool.eq_iff_iff, List.contains_iff_mem, List.mem_filter, Bool.and_eq_true,
    List.contains_iff_mem]

end Residency

namespace Fleet

/-- Whatever teardowns would let go was kept for modules that the program does not hold any more.
-/
def Spares (f : Fleet σ) : Prop :=
  ∀ i, ∀ e ∈ (f.residency i).releasable,
    ∃ y ∈ f.loads, y.owner = i ∧ e ∈ y.kept ∧ y ∉ f.held

/-- The records say for which module of which loader an entry is kept. -/
structure Owned (f : Fleet σ) : Prop where
  numbered : ∀ y ∈ f.loads, ∀ e ∈ y.kept, e.1 = y.id
  entries : ∀ i, ∀ e ∈ (f.residency i).entries, ∃ y ∈ f.loads, y.owner = i ∧ e ∈ y.kept

/-- Everything that was kept for the modules that the program holds is still kept. -/
def Intact (f : Fleet σ) : Prop :=
  ∀ x ∈ f.held, (f.residency x.owner).entriesFor x.id = x.kept

/-- The modules that something was kept for are live for the loaders that loaded them. -/
def Guarded (f : Fleet σ) : Prop := ∀ x ∈ f.held, f.isLive x.owner x.id = true ∨ x.kept = []

/-- A module has been unloaded. -/
def Unloads (f : Fleet σ) (index : Nat) (x : LoadRecord) (t : Fleet σ) : Prop :=
  f.held[index]? = some x ∧ t.held = f.held.eraseIdx index

/-- A module of another loader has the number of a module of this loader that the program holds and
that something was kept for. -/
def Strips (f : Fleet σ) (i : Nat) (x : LoadRecord) : Prop :=
  x.owner ≠ i ∧ ∃ y ∈ f.held, y.owner = i ∧ y.id = x.id ∧ y.kept ≠ []

/-- Where nothing was lost so far, liveness is all that keeps it. -/
theorem Intact.spares_iff {f : Fleet σ} (h : f.Intact) (hcounted : f.Counted) (howned : f.Owned) :
    f.Spares ↔ f.Guarded := by
  constructor
  · intro hspares x hx
    cases hlive : f.isLive x.owner x.id with
    | true => exact .inl rfl
    | false =>
      refine .inr (List.eq_nil_iff_forall_not_mem.mpr fun e he => ?_)
      have hfor : e ∈ (f.residency x.owner).entriesFor x.id := by
        rw [h x hx]
        exact he
      obtain ⟨hmem, hid⟩ := List.mem_filter.mp hfor
      have hid : e.1 = x.id := eq_of_beq hid
      have hgone : e ∈ (f.residency x.owner).releasable :=
        List.mem_filter.mpr ⟨hmem, by
          rw [hid]
          exact (congrArg not hlive).trans rfl⟩
      -- the module that it was kept for would not be held, but it is this one
      obtain ⟨y, hy, howner, hkept, hnot⟩ := hspares _ e hgone
      have hsame : y = x := by
        refine List.inj_on_of_nodup_map hcounted.distinct hy (hcounted.held.subset hx) ?_
        rw [howner, ← hid, howned.numbered y hy e hkept]
      exact hnot (hsame ▸ hx)
  · intro hguarded i e he
    obtain ⟨hmem, hgone⟩ := List.mem_filter.mp he
    obtain ⟨y, hy, howner, hkept⟩ := howned.entries i e hmem
    refine ⟨y, hy, howner, hkept, fun hheld => ?_⟩
    rcases hguarded y hheld with hlive | hnone
    · rw [howner, ← howned.numbered y hy e hkept] at hlive
      rw [show (f.residency i).isLive e.1 = true from hlive] at hgone
      exact Bool.false_ne_true hgone
    · rw [hnone] at hkept
      exact List.not_mem_nil hkept

/-! ## What a request keeps -/

section Turns

variable {f t : Fleet (Chronicled σ)} {r : FleetRequest}

/-- An entry either was there, or it is of the module that was loaded. -/
theorem Turned.owned (h : Turned f r t) (hf : f.Owned) : t.Owned := by
  -- requests that load nothing add no entry
  have hquiet : t.loads = f.loads →
      (∀ k, ∀ e ∈ (t.state k).residency.entries, e ∈ (f.state k).residency.entries) →
      t.Owned := by
    intro hloads hsub
    refine ⟨hloads ▸ hf.numbered, fun k e he => ?_⟩
    rw [hloads]
    exact hf.entries k e (hsub k e he)
  cases h with
  | still hkeeps hheld hloads =>
    refine hquiet hloads fun k e he => ?_
    rw [(hkeeps k).1] at he
    exact he
  | unloaded hy hstate hother hheld hloads =>
    refine hquiet hloads ?_
    refine states_related (R := fun s s' => ∀ e ∈ s'.residency.entries, e ∈ s.residency.entries)
      (fun _ _ he => he) (fun e he => ?_) hother
    rw [hstate] at he
    exact he
  | @tornDown _ i _ hstate hother hheld hloads =>
    obtain ⟨tornDown, hstate⟩ := hstate
    refine hquiet hloads ?_
    refine states_related (R := fun s s' => ∀ e ∈ s'.residency.entries, e ∈ s.residency.entries)
      (fun _ _ he => he) (fun e he => ?_) hother
    rw [hstate] at he
    have he : e ∈ (f.residency i).keepLive.entries := he
    rw [Residency.entries_keepLive] at he
    exact (List.mem_filter.mp he).1
  | @loaded i current source m y _ hload hother hy hheld hloads =>
    obtain ⟨pins, reader, hresidency⟩ := hload.residency
    have hold : ∀ k, ∀ e ∈ (f.residency k).entries, ∃ y ∈ t.loads, y.owner = k ∧ e ∈ y.kept := by
      intro k e he
      obtain ⟨x, hx, howner, hkept⟩ := hf.entries k e he
      exact ⟨x, hloads ▸ List.mem_append_left _ hx, howner, hkept⟩
    refine ⟨fun x hx e he => ?_, fun k e he => ?_⟩
    · rw [hloads, List.mem_append, List.mem_singleton] at hx
      rcases hx with hx | rfl
      · exact hf.numbered x hx e he
      · rw [hy] at he ⊢
        exact eq_of_beq (List.mem_filter.mp he).2
    · by_cases hk : k = i
      · subst hk
        have hnow := he
        rw [residency, hresidency] at he
        rcases Residency.mem_entries_retain he with he | hid
        · exact hold k e he
        · refine ⟨y, hloads ▸ List.mem_append_right _ List.mem_cons_self, ?_, ?_⟩
          · rw [hy]
          · rw [hy]
            exact List.mem_filter.mpr ⟨hnow, beq_iff_eq.mpr hid⟩
      · rw [residency, hother k hk] at he
        exact hold k e he

theorem Turned.intact (h : Turned f r t) (hf : f.Counted) (hintact : f.Intact)
    (hguarded : f.Guarded) : t.Intact := by
  intro x hx
  cases h with
  | still hkeeps hheld hloads =>
    rw [residency, (hkeeps x.owner).1]
    exact hintact x (hheld ▸ hx)
  | @loaded i current source m y _ hload hother hy hheld hloads =>
    rw [hheld, List.mem_append, List.mem_singleton] at hx
    rcases hx with hx | rfl
    · by_cases howner : x.owner = i
      · -- the new module has a number that this loader has not given out before
        obtain ⟨pins, reader, hresidency⟩ := hload.residency
        have hne : x.id ≠ m.id := by
          have hlt := hf.id_lt (hf.held.subset hx)
          rw [howner, ← hload.id] at hlt
          exact Nat.ne_of_lt hlt
        rw [howner, residency, hresidency, Residency.entriesFor_retain hne]
        exact howner ▸ hintact x hx
      · rw [residency, hother _ howner]
        exact hintact x hx
    · rw [hy]
  | unloaded hy hstate hother hheld hloads =>
    have hx : x ∈ f.held := (List.eraseIdx_sublist _ _).subset (hheld ▸ hx)
    refine Eq.trans ?_ (hintact x hx)
    refine states_related (R := fun s s' => s'.residency.entriesFor x.id =
      s.residency.entriesFor x.id) (fun _ => rfl) ?_ hother x.owner
    rw [hstate]
    rfl
  | @tornDown _ i _ hstate hother hheld hloads =>
    have hx : x ∈ f.held := hheld ▸ hx
    by_cases howner : x.owner = i
    · obtain ⟨tornDown, hstate⟩ := hstate
      rw [howner, residency, hstate]
      show (f.residency i).keepLive.entriesFor x.id = x.kept
      rw [← howner, Residency.entriesFor_keepLive ?_]
      · exact hintact x hx
      · exact (hguarded x hx).imp_right (hintact x hx).trans
    · rw [residency, hother _ howner]
      exact hintact x hx

theorem Turned.guarded (h : Turned f r t) (hf : f.Counted) (hguarded : f.Guarded)
    (hkept : ∀ i index x, r = .through i (.unload index) → f.Unloads index x t → ¬ f.Strips i x) :
    t.Guarded := by
  intro x hx
  cases h with
  | still hkeeps hheld hloads =>
    rw [isLive, residency, (hkeeps x.owner).1]
    exact hguarded x (hheld ▸ hx)
  | @loaded i current source m y _ hload hother hy hheld hloads =>
    obtain ⟨pins, reader, hresidency⟩ := hload.residency
    rw [hheld, List.mem_append, List.mem_singleton] at hx
    rcases hx with hx | rfl
    · refine (hguarded x hx).imp_left ?_
      refine states_related (R := fun s s' => s.residency.isLive x.id = true →
        s'.residency.isLive x.id = true) (fun _ hlive => hlive) (fun hlive => ?_) hother x.owner
      rw [hresidency, Residency.isLive_retain]
      exact Bool.or_eq_true_iff.mpr (.inl hlive)
    · left
      rw [hy, isLive, residency, hresidency, Residency.isLive_retain, beq_self_eq_true,
        Bool.or_true]
  | @unloaded i index y _ hy hstate hother hheld hloads =>
    have hmem : x ∈ f.held.eraseIdx index := hheld ▸ hx
    have hx : x ∈ f.held := (List.eraseIdx_sublist _ _).subset hmem
    by_cases howner : x.owner = i
    · by_cases hid : x.id = y.id
      · -- the number is lost; it was another loader's module that was unloaded
        have hforeign : y.owner ≠ i := by
          intro hsame
          have hpair := (Session.mem_map_eraseIdx hy hf.held_distinct (x.owner, x.id)).mp
            (List.mem_map_of_mem hmem)
          exact hpair.2 (by rw [howner, hid, hsame])
        by_cases hnone : x.kept = []
        · exact .inr hnone
        · exact absurd ⟨hforeign, x, hx, howner, hid, hnone⟩
            (hkept i index y rfl ⟨hy, hheld⟩)
      · refine (hguarded x hx).imp_left fun hlive => ?_
        rw [howner] at hlive ⊢
        rw [isLive, residency, hstate]
        show ((f.residency i).release y.id).isLive x.id = true
        rw [Residency.isLive_release, Bool.and_eq_true, bne_iff_ne]
        exact ⟨hlive, hid⟩
    · rw [isLive, residency, hother _ howner]
      exact hguarded x hx
  | tornDown hstate hother hheld hloads =>
    obtain ⟨tornDown, hstate⟩ := hstate
    refine (hguarded x (hheld ▸ hx)).imp_left ?_
    refine states_related (R := fun s s' => s.residency.isLive x.id = true →
      s'.residency.isLive x.id = true) (fun _ hlive => hlive) (fun hlive => ?_) hother x.owner
    rw [hstate]
    exact hlive

/-- A module that was unloaded has left, and so has its number from the registry of the loader that
unloaded it. -/
theorem Turned.unloads_isLive {i index : Nat} {x : LoadRecord}
    (h : Turned f (.through i (.unload index)) t) (hx : f.Unloads index x t) (k : Nat)
    (id : ModuleId) : t.isLive k id = (f.isLive k id && !(k == i && id == x.id)) := by
  obtain ⟨hx, hgone⟩ := hx
  have hlength := List.length_eraseIdx_add_one (List.getElem?_eq_some_iff.mp hx).1
  rw [← hgone] at hlength
  cases h with
  | still hkeeps hheld hloads =>
    rw [hheld] at hlength
    omega
  | tornDown hstate hother hheld hloads =>
    rw [hheld] at hlength
    omega
  | unloaded hy hstate hother hheld hloads =>
    cases hx.symm.trans hy
    unfold isLive residency
    by_cases hk : k = i
    · subst hk
      rw [hstate, beq_self_eq_true, Bool.true_and]
      exact Residency.isLive_release
    · rw [hother k hk, beq_eq_false_iff_ne.mpr hk, Bool.false_and, Bool.not_false, Bool.and_true]

/-- Only what has the number of the unloaded module can change, and only for the loader that
unloads it. -/
theorem Turned.unloads_frame_iff {i index : Nat} {x : LoadRecord}
    (h : Turned f (.through i (.unload index)) t) (hx : f.Unloads index x t) :
    (∀ k id, (k, id) ≠ (x.owner, x.id) → t.isLive k id = f.isLive k id) ↔
      (f.isLive i x.id = true → i = x.owner) := by
  have heffect := h.unloads_isLive hx
  constructor
  · intro hframe hlive
    by_contra hforeign
    have hsame := hframe i x.id fun heq => hforeign (Prod.mk.inj heq).1
    rw [heffect, hlive, beq_self_eq_true, beq_self_eq_true] at hsame
    exact Bool.false_ne_true hsame
  · intro hown k id hne
    rw [heffect]
    cases hhit : k == i && id == x.id with
    | false => exact Bool.and_true _
    | true =>
      obtain ⟨hk, hid⟩ := Bool.and_eq_true _ _ ▸ hhit
      rw [eq_of_beq hk, eq_of_beq hid] at hne ⊢
      -- the number was not live, or this is the module's own loader
      cases hlive : f.isLive i x.id with
      | false => rfl
      | true => exact absurd (congrArg (·, x.id) (hown hlive)) hne

end Turns

/-! ## Numbers -/

/-- Loaders that count for themselves give out the same numbers. -/
theorem Counted.nodup_iff {f : Fleet σ} (h : f.Counted) :
    (f.loads.map (·.id)).Nodup ↔ ∃ i, ∀ x ∈ f.loads, x.owner = i := by
  constructor
  · intro hdistinct
    by_cases hnil : f.loads = []
    · exact ⟨0, by rw [hnil]; exact nofun⟩
    · obtain ⟨x, hx⟩ := List.exists_mem_of_ne_nil _ hnil
      refine ⟨x.owner, fun y hy => ?_⟩
      -- the first modules of the two loaders have the same number
      obtain ⟨a, ha, hax, hone⟩ := h.first hx
      obtain ⟨b, hb, hby, hone'⟩ := h.first hy
      have hab : a = b := List.inj_on_of_nodup_map hdistinct ha hb (hone.trans hone'.symm)
      rw [← hby, ← hab, hax]
  · rintro ⟨i, hall⟩
    obtain ⟨n, -, hids⟩ := h.counted i
    have hsame : f.loads.filter (·.owner == i) = f.loads :=
      List.filter_eq_self.mpr fun x hx => beq_iff_eq.mpr (hall x hx)
    rw [← hsame, hids]
    exact List.nodup_range'

/-! ## The calls of a teardown -/

theorem calls_of_tornDown {w w' : World (Chronicled σ)} (h : Loader.TornDown w w') :
    w'.accelerator.calls.map (·.1) = w.accelerator.calls.map (·.1) ++
      w.loader.residency.releasable.map Entry.release := by
  obtain ⟨oks, oks', hlength, hlength', hcalls⟩ := h.calls
  have hentries : w.loader.residency.releasable.map Entry.release =
      (w.loader.residency.releasablePins.map fun pin => .unlockMemory pin.hostAddress) ++
        w.loader.residency.releasableReaders.map .destroyReader := by
    unfold Residency.releasable Residency.entries
    rw [List.filter_append, List.map_append, List.filter_map, List.filter_map, List.map_map,
      List.map_map]
    unfold Residency.releasablePins Residency.releasableReaders
    rw [List.map_map, List.map_map]
    rfl
  have hpins : (Loader.unpinning w.loader.residency.releasablePins oks).map (·.1) =
      w.loader.residency.releasablePins.map fun pin => .unlockMemory pin.hostAddress :=
    List.map_fst_zip (by simpa using Nat.le_of_eq hlength.symm)
  have hreaders : (Loader.destroying w.loader.residency.releasableReaders oks').map (·.1) =
      w.loader.residency.releasableReaders.map .destroyReader := by
    unfold Loader.destroying
    rw [List.map_fst_zip (by simpa using Nat.le_of_eq hlength'.symm), List.map_map]
    rfl
  rw [hcalls, List.map_append, List.map_append, hpins, hreaders, hentries, List.append_assoc]

theorem releasable_of_empty {r : Residency} (h : r.size = 0) : r.releasable = [] := by
  obtain ⟨hpins, hreaders⟩ := Nat.add_eq_zero_iff.mp h
  unfold Residency.releasable Residency.entries
  rw [List.eq_nil_of_length_eq_zero hpins, List.eq_nil_of_length_eq_zero hreaders]
  rfl

/-- A loader that is shut down or dropped calls for exactly what its registry lets go. -/
theorem step_releases (rig : Rig σ) {f : Fleet (Chronicled σ)} {i : Nat}
    (hm : (f.member? i).isSome = true) {r : FleetRequest}
    (hr : r = .through i .shutdown ∨ r = .drop i) :
    (f.step rig.chronicle r).session.calls.map (·.1) =
      f.session.calls.map (·.1) ++ (f.residency i).releasable.map Entry.release := by
  obtain ⟨m, hm⟩ := Option.isSome_iff_exists.mp hm
  have hresidency : f.residency i = (f.entered m).world.loader.residency :=
    congrArg (·.residency) (state_eq (getElem?_of_member? hm))
  rcases hr with rfl | rfl
  · rw [step_through _ hm, hresidency]
    exact calls_of_tornDown ((rig.via m.settings m.hooks).shutdown_tornDown (f.entered m).world)
  · rw [step_drop _ hm, hresidency]
    rcases (rig.via m.settings m.hooks).close_cases (f.entered m).world with ⟨hsize, hsame⟩ | htorn
    · rw [releasable_of_empty hsize, List.map_nil, List.append_nil]
      exact congrArg (fun w => w.accelerator.calls.map (·.1)) hsame
    · exact calls_of_tornDown htorn

/-! ## Whole runs -/

section Runs

variable (rig : Rig σ) {f : Fleet (Chronicled σ)}

/-- **Every entry is of a module that the same loader has loaded**, whatever a program does. -/
theorem run_owned (hf : f.Counted) (howned : f.Owned) (rs : List FleetRequest) :
    (f.run rig.chronicle rs).Owned := by
  induction rs using List.reverseRecOn with
  | nil => exact howned
  | append_singleton rs r ih =>
    rw [run_append]
    exact (step_turned rig (run_counted rig hf rs).paired r).1.owned ih

/-- As long as no module is stripped, everything stays kept. -/
theorem run_guarded (hf : f.Counted) (hintact : f.Intact) (hguarded : f.Guarded)
    (rs : List FleetRequest)
    (hkept : ∀ pre i index x, pre ++ [.through i (.unload index)] <+: rs →
      (f.run rig.chronicle pre).Unloads index x
        (f.run rig.chronicle (pre ++ [.through i (.unload index)])) →
      ¬ (f.run rig.chronicle pre).Strips i x) :
    (f.run rig.chronicle rs).Intact ∧ (f.run rig.chronicle rs).Guarded := by
  induction rs using List.reverseRecOn with
  | nil => exact ⟨hintact, hguarded⟩
  | append_singleton rs r ih =>
    obtain ⟨hintact', hguarded'⟩ := ih fun pre i index x hpre =>
      hkept pre i index x (hpre.trans (List.prefix_append rs [r]))
    have hcounted := run_counted rig hf rs
    have hturned := (step_turned rig hcounted.paired r).1
    have hlast := hkept rs
    rw [← run_append] at hturned
    refine ⟨hturned.intact hcounted hintact' hguarded', hturned.guarded hcounted hguarded' ?_⟩
    -- only the last request can strip a module that no earlier one did
    rintro i index x rfl
    exact hlast i index x (List.prefix_refl _)

/-- In a run that spares what is kept, nothing is lost. -/
theorem run_intact (hf : f.Counted) (howned : f.Owned) (hintact : f.Intact)
    (rs : List FleetRequest) (hspares : ∀ pre, pre <+: rs → (f.run rig.chronicle pre).Spares) :
    (f.run rig.chronicle rs).Intact := by
  induction rs using List.reverseRecOn with
  | nil => exact hintact
  | append_singleton rs r ih =>
    have hpre := List.prefix_append rs [r]
    have hintact' := ih fun pre h => hspares pre (h.trans hpre)
    have hcounted := run_counted rig hf rs
    have hturned := (step_turned rig hcounted.paired r).1
    have hguarded : (f.run rig.chronicle rs).Guarded :=
      (hintact'.spares_iff hcounted (run_owned rig hf howned rs)).mp (hspares rs hpre)
    rw [← run_append] at hturned
    exact hturned.intact hcounted hintact' hguarded

/-- A module that was stripped is held, but not live. -/
theorem not_guarded_of_strips {t : Fleet (Chronicled σ)} {i index : Nat} {x : LoadRecord}
    (h : Turned f (.through i (.unload index)) t) (hx : f.Unloads index x t)
    (hstrips : f.Strips i x) : ¬ t.Guarded := by
  intro hguarded
  obtain ⟨hforeign, y, hy, howner, hid, hkept⟩ := hstrips
  -- the stripped module is still held, since it is another one that was unloaded
  have hheld : y ∈ t.held := by
    obtain ⟨k, hk⟩ := List.mem_iff_getElem?.mp hy
    rw [hx.2]
    refine List.mem_eraseIdx_iff_getElem?.mpr ⟨k, fun hsame => hforeign ?_, hk⟩
    rw [hsame, hx.1] at hk
    cases hk
    exact howner
  have hgone : t.isLive y.owner y.id = false := by
    rw [h.unloads_isLive hx, howner, hid, beq_self_eq_true, beq_self_eq_true]
    exact Bool.and_false _
  rcases hguarded y hheld with hlive | hnone
  · rw [hgone] at hlive
    exact Bool.false_ne_true hlive
  · exact hkept hnone

/-- **When loaders are kept apart.** Each loader numbers its own modules, so the modules of a run
have distinct numbers exactly when one loader has loaded all of them.

An unload through a loader changes nothing in any registry but the entry of the module, exactly when
the loader has loaded the module itself or has no live module of the same number.

And no teardown would let go anything that was kept for a module that the program holds, in any
state of the run, exactly when no unload strips a module. What a teardown lets go is what a loader
calls for when it is shut down or dropped. -/
theorem run_separate_iff (rig : Rig σ) (accelerator : σ) (host : Host.System)
    (requests : List FleetRequest) :
    let after := run rig.chronicle (start { inner := accelerator } host)
    (((after requests).loads.map (·.id)).Nodup ↔ ∃ i, ∀ x ∈ (after requests).loads, x.owner = i) ∧
    (∀ rs i index x, rs ++ [.through i (.unload index)] <+: requests →
      let f := after rs
      let t := after (rs ++ [.through i (.unload index)])
      f.Unloads index x t →
        ((∀ k id, (k, id) ≠ (x.owner, x.id) → t.isLive k id = f.isLive k id) ↔
          (f.isLive i x.id = true → i = x.owner))) ∧
    ((∀ rs, rs <+: requests → (after rs).Spares) ↔
      ∀ rs i index x, rs ++ [.through i (.unload index)] <+: requests →
        (after rs).Unloads index x (after (rs ++ [.through i (.unload index)])) →
          ¬ (after rs).Strips i x) ∧
    ∀ rs i r, rs ++ [r] <+: requests → r = .through i .shutdown ∨ r = .drop i →
      ((after rs).member? i).isSome = true →
        (after (rs ++ [r])).session.calls.map (·.1) = (after rs).session.calls.map (·.1) ++
          ((after rs).residency i).releasable.map Entry.release := by
  intro after
  have hstart : (start ({ inner := accelerator } : Chronicled σ) host).Counted :=
    start_counted _ host
  have hnone : (start ({ inner := accelerator } : Chronicled σ) host).Owned := ⟨nofun, nofun⟩
  have hcounted : ∀ rs, (after rs).Counted := run_counted rig hstart
  have howned : ∀ rs, (after rs).Owned := run_owned rig hstart hnone
  have hturned : ∀ rs r, Turned (after rs) r (after (rs ++ [r])) := by
    intro rs r
    have hstep := (step_turned rig (hcounted rs).paired r).1
    rw [← run_append] at hstep
    exact hstep
  refine ⟨(hcounted requests).nodup_iff, ?_, ⟨?_, ?_⟩, ?_⟩
  · intro rs i index x _ f t hx
    exact (hturned rs _).unloads_frame_iff hx
  · intro hspares rs i index x hpre hx hstrips
    have hintact : (after (rs ++ [.through i (.unload index)])).Intact :=
      run_intact rig hstart hnone nofun _ fun pre h => hspares pre (h.trans hpre)
    refine not_guarded_of_strips (hturned rs _) hx hstrips ?_
    exact (hintact.spares_iff (hcounted _) (howned _)).mp (hspares _ hpre)
  · intro hkept rs hrs
    obtain ⟨hintact, hguarded⟩ := run_guarded rig hstart nofun nofun rs
      fun pre i index x hpre => hkept pre i index x (hpre.trans hrs)
    exact (hintact.spares_iff (hcounted rs) (howned rs)).mpr hguarded
  · intro rs i r _ hr hm
    show (run rig.chronicle _ (rs ++ [r])).session.calls.map _ = _
    rw [run_append]
    exact step_releases rig hm hr

end Runs

/-- Two loaders load a module each, the first of them with a host global bound. Then the first one
unloads the other's module. -/
def crossing : List FleetRequest :=
  let host : Host.Image := ⟨"/host", 0, ⟨[("table", ⟨0x1000, 16⟩)]⟩⟩
  let device : Device := ⟨0, ⟨0xa600⟩, ⟨0x9000⟩⟩
  let bound : Elf.Draft := { text := [0x90], dynamic := [.undefined "table"] }
  let plain : Elf.Draft := { text := [0x90] }
  [.create {} .default (some host), .create {} .default none,
    .through 0 (.load (some device) (.memory bound.encode)),
    .through 1 (.load (some device) (.memory plain.encode)),
    .through 0 (.unload 1)]

/-- Both modules have the number 1. So the first loader takes its own for unloaded, and unpins the
global when it is shut down, under an executable that is still there and has it bound. -/
theorem crossing_unpins :
    let after := run (Simulator.rig {} .default).chronicle
      (start { inner := { hasRegion := true } } ⟨⟨[], []⟩, ""⟩)
    let f := after crossing
    let g := after (crossing ++ [.through 0 .shutdown])
    ¬ (f.loads.map (·.id)).Nodup ∧
      (after crossing.dropLast).isLive 0 1 = true ∧ f.isLive 0 1 = false ∧ ¬ f.Spares ∧
      g.held.map (fun x => (x.owner, x.id)) = [(0, 1)] ∧
      g.session.calls.getLast? = some (.unlockMemory 0x1000, true) ∧
      (g.session.world.accelerator.inner.executables.get? ⟨2⟩).map (·.globals) =
        some ⟨[("table", 0x1000)]⟩ := by
  intro after f g
  have hgone : (1, .pin ⟨"table", 0x1000, 0x1000, 16⟩) ∈ (f.residency 0).releasable := by
    decide +kernel
  have hheld : ∀ y ∈ f.loads, y.owner = 0 → y ∈ f.held := by decide +kernel
  refine ⟨by decide +kernel, by decide +kernel, by decide +kernel, fun hspares => ?_,
    by decide +kernel, by decide +kernel, by decide +kernel⟩
  obtain ⟨y, hy, howner, -, hnot⟩ := hspares 0 _ hgone
  exact hnot (hheld y hy howner)

end Fleet

end DeviceCode

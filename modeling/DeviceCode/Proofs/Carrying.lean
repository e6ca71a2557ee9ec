import DeviceCode.Proofs.Leads
import DeviceCode.Proofs.Protocol

/-!
# What a load has called so far

A load makes its calls about resources that it got itself. `Carrying H held` is what holds between
any two of them: the calls go on from the history `H`, all of them lawful, and what is noted as held
is there, was not there in `H`, and nobody has tried to give it back yet.

The executable of a load goes through three stages. It is `Opening` until code is loaded into it,
then `Filled`, and in the end `Sealed`. A step that fails leaves the load `Doomed`: its executable
is not frozen. So a roll back never destroys an executable that is.
-/

namespace DeviceCode

variable {α : Type}

/-- What a load notes as held. -/
def Holdings.Has (held : Holdings) : Resource → Prop
  | .executable e => held.executable = some e
  | .codeObject c => held.codeObject = some c
  | .reader r => held.reader = some r
  | .allocation x => held.allocation = some x

/-- A load that holds `held` and whose calls go on from the history `H`. -/
structure Carrying (H : List Call) (held : Holdings) (s : Chronicled Simulator) : Prop where
  sound : s.inner.Sound
  tracked : s.Tracked
  lawful : Lawful s.calls
  /-- Only what the load got itself is given back, and no frozen executable. -/
  grown : ∃ more, s.calls = H ++ more ∧ ∀ k ok, (Resource.gone k, ok) ∈ more →
    (k.made, true) ∉ H ∧ ∀ e, k = .executable e → (.freeze e, true) ∉ s.calls
  owned : ∀ k, held.Has k →
    (k.made, true) ∈ s.calls ∧ (∀ ok, (k.gone, ok) ∉ s.calls) ∧ (k.made, true) ∉ H

namespace Carrying

variable {H : List Call} {held held' : Holdings} {s : Chronicled Simulator} {t : Simulator}
  {entry : JournalEntry} {ok : Bool}

theorem alive (h : Carrying H held s) {k : Resource} (hk : held.Has k) : Alive s.calls k :=
  ⟨(h.owned k hk).1, (h.owned k hk).2.1 true⟩

/-- What is held may be called something else. -/
theorem of_has (h : Carrying H held s) (hheld : ∀ k, held'.Has k → held.Has k) :
    Carrying H held' s :=
  { h with owned := fun k hk => h.owned k (hheld k hk) }

/-- After a call that is not written down. -/
theorem unwritten (h : Carrying H held s) (hsound : t.Sound) (hrec : s.inner.Recorded none t) :
    Carrying H held ⟨t, s.calls⟩ where
  sound := hsound
  tracked := by
    have htracked := h.tracked.recorded hrec
    rwa [Option.toList_none, List.append_nil] at htracked
  lawful := h.lawful
  grown := h.grown
  owned := h.owned

/-- After an allowed call that gives nothing back. An executable is only frozen while it is held. -/
theorem written (h : Carrying H held s) (hsound : t.Sound)
    (hrec : s.inner.Recorded (some (entry, ok)) t) (hallowed : Allowed s.calls entry)
    (hgone : entry.gone? = none) (hfreeze : ∀ e, entry = .freeze e → held.Has (.executable e)) :
    Carrying H held ⟨t, s.calls ++ [(entry, ok)]⟩ where
  sound := hsound
  tracked := h.tracked.recorded hrec
  lawful := h.lawful.concat hallowed
  grown := by
    obtain ⟨more, hcalls, hmore⟩ := h.grown
    refine ⟨more ++ [(entry, ok)], by rw [← List.append_assoc, ← hcalls], fun k ok' hk => ?_⟩
    rcases List.mem_append.mp hk with hk | hk
    · obtain ⟨hnew, hunfrozen⟩ := hmore k ok' hk
      refine ⟨hnew, fun e he hmem => ?_⟩
      rcases List.mem_append.mp hmem with hmem | hmem
      · exact hunfrozen e he hmem
      · -- the executable that is frozen now was not given back
        have hentry := (Prod.mk.inj (List.mem_singleton.mp hmem)).1
        subst he
        refine (h.owned _ (hfreeze e hentry.symm)).2.1 ok' ?_
        rw [hcalls]
        exact List.mem_append_right _ hk
    · rw [Resource.eq_gone_iff.mp (Prod.mk.inj (List.mem_singleton.mp hk)).1.symm] at hgone
      cases hgone
  owned k hk := by
    obtain ⟨hmade, hnever, hnew⟩ := h.owned k hk
    refine ⟨List.mem_append_left _ hmade, fun ok' hmem => ?_, hnew⟩
    rcases List.mem_append.mp hmem with hmem | hmem
    · exact hnever ok' hmem
    · rw [Resource.eq_gone_iff.mp (Prod.mk.inj (List.mem_singleton.mp hmem)).1.symm] at hgone
      cases hgone

/-- After something was handed out, which is held from then on. -/
theorem acquired (h : Carrying H held s) (hsound : t.Sound) {k : Resource}
    (hrec : s.inner.Recorded (some (k.made, true)) t)
    (hheld : ∀ k', held'.Has k' → k' = k ∨ held.Has k') :
    Carrying H held' ⟨t, s.calls ++ [(k.made, true)]⟩ := by
  -- the counters had not passed it, and they have passed all that was handed out before
  have hnew : ∀ ok, (k.made, ok) ∉ s.calls := fun ok hmem =>
    (hrec.made k true rfl).2.1 (h.tracked.passed k ok hmem)
  have hallowed : Allowed s.calls k.made := by
    cases k with
    | executable e =>
      exact fun c hc => h.tracked.not_mentioned h.lawful (hrec.made _ true rfl).2.1 hc
    | _ => exact trivial
  have hwritten := h.written hsound hrec hallowed Resource.gone?_made (by cases k <;> nofun)
  refine { hwritten with owned := fun k' hk' => ?_ }
  rcases hheld k' hk' with rfl | hk'
  · obtain ⟨more, hcalls, -⟩ := h.grown
    refine ⟨List.mem_append_right _ (List.mem_singleton_self _), fun ok hmem => ?_, fun hmem => ?_⟩
    · rcases List.mem_append.mp hmem with hmem | hmem
      · exact hnew true (h.lawful.made_of_gone hmem)
      · exact Resource.made_ne_gone (Prod.mk.inj (List.mem_singleton.mp hmem)).1.symm
    · refine hnew true ?_
      rw [hcalls]
      exact List.mem_append_left _ hmem
  · exact hwritten.owned k' hk'

/-- After an attempt to give something back that was held. -/
theorem givenBack (h : Carrying H held s) (hsound : t.Sound) {k : Resource}
    (hrec : s.inner.Recorded (some (k.gone, ok)) t) (hk : held.Has k)
    (hunfrozen : ∀ e, k = .executable e → (.freeze e, true) ∉ s.calls)
    (hheld : ∀ k', held'.Has k' → k' ≠ k ∧ held.Has k') :
    Carrying H held' ⟨t, s.calls ++ [(k.gone, ok)]⟩ where
  sound := hsound
  tracked := h.tracked.recorded hrec
  lawful := h.lawful.concat (allowed_gone (h.alive hk))
  grown := by
    obtain ⟨more, hcalls, hmore⟩ := h.grown
    -- nothing is frozen by being given back
    have hstill : ∀ e, (JournalEntry.freeze e, true) ∉ s.calls →
        (JournalEntry.freeze e, true) ∉ s.calls ++ [(k.gone, ok)] := by
      intro e hnot hmem
      rcases List.mem_append.mp hmem with hmem | hmem
      · exact hnot hmem
      · exact Resource.gone_ne rfl (Prod.mk.inj (List.mem_singleton.mp hmem)).1.symm
    refine ⟨more ++ [(k.gone, ok)], by rw [← List.append_assoc, ← hcalls], fun k' ok' hk' => ?_⟩
    rcases List.mem_append.mp hk' with hk' | hk'
    · obtain ⟨hnew, hnot⟩ := hmore k' ok' hk'
      exact ⟨hnew, fun e he => hstill e (hnot e he)⟩
    · cases Resource.gone_inj (Prod.mk.inj (List.mem_singleton.mp hk')).1
      exact ⟨(h.owned k hk).2.2, fun e he => hstill e (hunfrozen e he)⟩
  owned k' hk' := by
    obtain ⟨hne, hbefore⟩ := hheld k' hk'
    obtain ⟨hmade, hnever, hnew⟩ := h.owned k' hbefore
    refine ⟨List.mem_append_left _ hmade, fun ok' hmem => ?_, hnew⟩
    rcases List.mem_append.mp hmem with hmem | hmem
    · exact hnever ok' hmem
    · exact hne (Resource.gone_inj (Prod.mk.inj (List.mem_singleton.mp hmem)).1)

end Carrying

/-- A call of the simulator that is passed on and written down. -/
theorem Ends.written {Q : α → Chronicled Simulator → Prop} {E : Chronicled Simulator → Prop}
    {call : Simulator → Reply Simulator α} {note : Except CallError α → Option JournalEntry}
    {s : Chronicled Simulator} (hsound : (call s.inner).2.Sound)
    (hrec : s.inner.Recorded (Chronicled.listed? note (call s.inner).1) (call s.inner).2)
    (hok : ∀ a t, t.Sound → s.inner.Recorded (Chronicled.listed? note (.ok a)) t →
      Q a ⟨t, s.calls ++ (Chronicled.listed? note (.ok a)).toList⟩)
    (herror : ∀ e t, t.Sound → s.inner.Recorded (Chronicled.listed? note (.error e)) t →
      E ⟨t, s.calls ++ (Chronicled.listed? note (.error e)).toList⟩) :
    Ends Q E (Chronicled.pass call note s) := by
  unfold Chronicled.pass
  rcases hcall : call s.inner with ⟨e | a, t⟩
  · rw [hcall] at hsound hrec
    exact herror e t hsound hrec
  · rw [hcall] at hsound hrec
    exact hok a t hsound hrec

/-! ## The stages of an executable -/

/-- Nothing was called about it but its creation and the binding of globals. -/
def Blank (calls : List Call) (e : ExecutableHandle) : Prop :=
  ∀ c ∈ calls, c.1.executable? = some e →
    c.1 = .createExecutable e ∨ ∃ name, c.1 = .defineGlobal e name

namespace Blank

variable {calls : List Call} {e : ExecutableHandle}

theorem concat (h : Blank calls e) {c : Call} (hc : c.1.executable? = some e →
    c.1 = .createExecutable e ∨ ∃ name, c.1 = .defineGlobal e name) : Blank (calls ++ [c]) e := by
  intro c' hc' he
  rcases List.mem_append.mp hc' with hc' | hc'
  · exact h c' hc' he
  · cases List.mem_singleton.mp hc'
    exact hc he

theorem not_target (h : Blank calls e) : ∀ c ∈ calls, c.1.target? ≠ some e := by
  rintro ⟨entry, ok⟩ hc ht
  have he : entry.executable? = some e := by
    cases entry <;> first | exact ht | cases ht
  rcases h _ hc he with rfl | ⟨name, rfl⟩ <;> cases ht

theorem not_frozen (h : Blank calls e) (ok : Bool) : (JournalEntry.freeze e, ok) ∉ calls := by
  intro hc
  rcases h _ hc rfl with hentry | ⟨name, hentry⟩ <;> cases hentry

end Blank

/-- A load that has loaded no code yet. -/
structure Opening (H : List Call) (held : Holdings) (s : Chronicled Simulator) : Prop
    extends Carrying H held s where
  blank : ∀ e, held.executable = some e → Blank s.calls e

/-- A load that has loaded its code. -/
structure Filled (H : List Call) (held : Holdings) (e : ExecutableHandle)
    (s : Chronicled Simulator) : Prop extends Carrying H held s where
  executable : held.executable = some e
  filled : ∃ c ∈ s.calls, c.1.target? = some e ∧ c.2 = true
  unfrozen : ∀ ok, (.freeze e, ok) ∉ s.calls

/-- A load in which a step has failed. -/
structure Doomed (H : List Call) (held : Holdings) (s : Chronicled Simulator) : Prop
    extends Carrying H held s where
  unfrozen : ∀ e, held.executable = some e → (.freeze e, true) ∉ s.calls

/-- A load that is complete. -/
structure Sealed (H : List Call) (held : Holdings) (e : ExecutableHandle)
    (s : Chronicled Simulator) : Prop extends Carrying H held s where
  executable : held.executable = some e
  frozen : (.freeze e, true) ∈ s.calls

namespace Opening

variable {H : List Call} {held held' : Holdings} {s : Chronicled Simulator} {t : Simulator}
  {entry : JournalEntry} {ok : Bool}

theorem doomed (h : Opening H held s) : Doomed H held s :=
  { h with unfrozen := fun e he => (h.blank e he).not_frozen true }

theorem unwritten (h : Opening H held s) (hsound : t.Sound) (hrec : s.inner.Recorded none t) :
    Opening H held ⟨t, s.calls⟩ :=
  { h.toCarrying.unwritten hsound hrec with blank := h.blank }

/-- After a call that is about no executable and gives nothing back. -/
theorem bystander (h : Opening H held s) (hsound : t.Sound)
    (hrec : s.inner.Recorded (some (entry, ok)) t) (hexecutable : entry.executable? = none)
    (hgone : entry.gone? = none) : Opening H held ⟨t, s.calls ++ [(entry, ok)]⟩ := by
  have hcarrying := h.toCarrying.written hsound hrec (allowed_of_bystander hexecutable hgone) hgone
    fun e he => by rw [he] at hexecutable; cases hexecutable
  refine { hcarrying with blank := fun e he => (h.blank e he).concat fun hentry => ?_ }
  rw [hexecutable] at hentry
  cases hentry

theorem bound (h : Opening H held s) (hsound : t.Sound) {e : ExecutableHandle}
    {name : String} (hrec : s.inner.Recorded (some (.defineGlobal e name, ok)) t)
    (he : held.executable = some e) :
    Opening H held ⟨t, s.calls ++ [(.defineGlobal e name, ok)]⟩ := by
  have hcarrying := h.toCarrying.written hsound hrec
    ⟨h.alive (k := .executable e) he, (h.blank e he).not_target⟩ rfl nofun
  refine { hcarrying with blank := fun e' he' => (h.blank e' he').concat fun hentry => ?_ }
  cases hentry
  exact .inr ⟨name, rfl⟩

/-- After something other than an executable was handed out. -/
theorem acquired (h : Opening H held s) (hsound : t.Sound) {k : Resource}
    (hrec : s.inner.Recorded (some (k.made, true)) t) (hk : k.made.executable? = none)
    (hheld : ∀ k', held'.Has k' → k' = k ∨ held.Has k') :
    Opening H held' ⟨t, s.calls ++ [(k.made, true)]⟩ := by
  refine { h.toCarrying.acquired hsound hrec hheld with blank := fun e he => ?_ }
  have hbefore : held.executable = some e := by
    refine (hheld (.executable e) he).resolve_left fun heq => ?_
    subst heq
    cases hk
  refine (h.blank e hbefore).concat fun hentry => ?_
  rw [hk] at hentry
  cases hentry

/-- After an executable was created. -/
theorem created (h : Opening H held s) (hsound : t.Sound) {e : ExecutableHandle}
    (hrec : s.inner.Recorded (some (.createExecutable e, true)) t) :
    Opening H { held with executable := some e }
      ⟨t, s.calls ++ [(.createExecutable e, true)]⟩ := by
  have hcarrying : Carrying H { held with executable := some e }
      ⟨t, s.calls ++ [(.createExecutable e, true)]⟩ :=
    h.toCarrying.acquired (k := .executable e) hsound hrec fun k hk => by
      cases k with
      | executable e' => exact .inl (congrArg _ (Option.some.inj hk).symm)
      | _ => exact .inr hk
  refine { hcarrying with blank := fun e' he => ?_ }
  cases he
  refine Blank.concat (fun c hc hentry => ?_) fun _ => .inl rfl
  exact absurd hentry (h.tracked.not_mentioned h.lawful (hrec.made _ true rfl).2.1 hc)

/-- After code was to be loaded. -/
theorem loaded (h : Opening H held s) (hsound : t.Sound) {e : ExecutableHandle}
    (he : held.executable = some e) (hentry : entry.target? = some e)
    (hrec : s.inner.Recorded (some (entry, ok)) t) :
    (ok = true → Filled H held e ⟨t, s.calls ++ [(entry, ok)]⟩) ∧
      (ok = false → Doomed H held ⟨t, s.calls ++ [(entry, ok)]⟩) := by
  have hallowed : Allowed s.calls entry := by
    cases entry <;> cases hentry
    all_goals exact ⟨h.alive (k := .executable e) he, (h.blank e he).not_target⟩
  have hgone : entry.gone? = none := by cases entry <;> first | rfl | cases hentry
  have hnot : ∀ e', entry ≠ .freeze e' := by
    rintro e' rfl
    cases hentry
  have hcarrying := h.toCarrying.written hsound hrec hallowed hgone
    fun e' he' => absurd he' (hnot e')
  -- it was blank, and this call is no freeze either
  have hunfrozen : ∀ ok', (JournalEntry.freeze e, ok') ∉ s.calls ++ [(entry, ok)] := by
    intro ok' hmem
    rcases List.mem_append.mp hmem with hmem | hmem
    · exact (h.blank e he).not_frozen ok' hmem
    · exact hnot e (Prod.mk.inj (List.mem_singleton.mp hmem)).1.symm
  refine ⟨fun hok => { hcarrying with executable := he, filled := ?_, unfrozen := hunfrozen },
    fun _ => { hcarrying with unfrozen := fun e' he' => ?_ }⟩
  · exact ⟨(entry, ok), List.mem_append_right _ (List.mem_singleton_self _), hentry, hok⟩
  · rw [he] at he'
    cases he'
    exact hunfrozen true

end Opening

/-- After a freeze. -/
theorem Filled.freeze {H : List Call} {held : Holdings} {s : Chronicled Simulator} {t : Simulator}
    {e : ExecutableHandle} {ok : Bool} (h : Filled H held e s) (hsound : t.Sound)
    (hrec : s.inner.Recorded (some (.freeze e, ok)) t) :
    (ok = true → Sealed H held e ⟨t, s.calls ++ [(.freeze e, ok)]⟩) ∧
      (ok = false → Doomed H held ⟨t, s.calls ++ [(.freeze e, ok)]⟩) := by
  have hcarrying := h.toCarrying.written hsound hrec
    ⟨h.alive (k := .executable e) h.executable, h.filled, h.unfrozen⟩ rfl fun e' he' => by
      cases he'
      exact h.executable
  refine ⟨fun hok => { hcarrying with executable := h.executable, frozen := ?_ },
    fun hok => { hcarrying with unfrozen := fun e' he' hmem => ?_ }⟩
  · rw [hok]
    exact List.mem_append_right _ (List.mem_singleton_self _)
  · rw [h.executable] at he'
    cases he'
    rcases List.mem_append.mp hmem with hmem | hmem
    · exact h.unfrozen true hmem
    · rw [hok] at hmem
      cases (Prod.mk.inj (List.mem_singleton.mp hmem)).2

end DeviceCode

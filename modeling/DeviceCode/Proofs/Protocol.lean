import DeviceCode.Proofs.Ledger

/-!
# The call protocol

An executable is created, host globals are bound into it, code is loaded into it, it is frozen, its
symbols are asked for, and it is destroyed. `Allowed past entry` says when a call may be made after
those before it, for executables and for whatever else the simulator takes back; `Lawful` histories
consist of allowed calls. Attempts that fail are calls like others: an executable into which code
could not be loaded is not loaded again.

Whether something is there can be told from the calls alone (`Alive`), and the simulator agrees
(`Tracked`), since it never hands out the same thing twice.
-/

namespace DeviceCode

/-- The executable that a call is about. -/
def JournalEntry.executable? : JournalEntry → Option ExecutableHandle
  | .createExecutable e | .loadReader e _ | .loadCodeObject e _ | .freeze e | .destroyExecutable e
  | .getSymbol e _ | .defineGlobal e _ => some e
  | _ => none

/-- The executable that a call loads code into. -/
def JournalEntry.target? : JournalEntry → Option ExecutableHandle
  | .loadReader e _ | .loadCodeObject e _ => some e
  | _ => none

/-- It was handed out, and not taken back. -/
def Alive (past : List Call) (k : Resource) : Prop :=
  (k.made, true) ∈ past ∧ (k.gone, true) ∉ past

/-- What may be called after what was called so far. -/
def Allowed (past : List Call) : JournalEntry → Prop
  | .createExecutable e => ∀ c ∈ past, c.1.executable? ≠ some e
  | .defineGlobal e _ | .loadReader e _ | .loadCodeObject e _ =>
    Alive past (.executable e) ∧ ∀ c ∈ past, c.1.target? ≠ some e
  | .freeze e =>
    Alive past (.executable e) ∧ (∃ c ∈ past, c.1.target? = some e ∧ c.2 = true) ∧
      ∀ ok, (.freeze e, ok) ∉ past
  | .getSymbol e _ => Alive past (.executable e) ∧ (.freeze e, true) ∈ past
  | .destroyExecutable e => Alive past (.executable e)
  | .destroyCodeObject c => Alive past (.codeObject c)
  | .destroyReader r => Alive past (.reader r)
  | .free address => Alive past (.allocation address)
  | _ => True

/-- Histories in which every call was allowed when it was made. -/
def Lawful (calls : List Call) : Prop := ∀ past c, past ++ [c] <+: calls → Allowed past c.1

section Allowed

variable {past : List Call} {entry : JournalEntry} {k : Resource} {e : ExecutableHandle}

/-- What is there may be given back. -/
theorem allowed_gone (h : Alive past k) : Allowed past k.gone := by
  cases k <;> exact h

theorem Allowed.alive_of_gone (h : Allowed past k.gone) : Alive past k := by
  cases k <;> exact h

/-- Calls that are about no executable and give nothing back are always allowed. -/
theorem allowed_of_bystander (hexecutable : entry.executable? = none) (hgone : entry.gone? = none) :
    Allowed past entry := by
  cases entry
  case createExecutable | defineGlobal | loadReader | loadCodeObject | freeze | getSymbol
      | destroyExecutable => cases hexecutable
  case destroyCodeObject | destroyReader | free => cases hgone
  all_goals exact trivial

/-- Nothing but its creation may be called about an executable that is not there. -/
theorem Allowed.alive_of_executable (h : Allowed past entry) (hentry : entry.executable? = some e) :
    entry = .createExecutable e ∨ Alive past (.executable e) := by
  cases entry <;> cases hentry
  case createExecutable => exact .inl rfl
  case destroyExecutable => exact .inr h
  all_goals exact .inr h.1

end Allowed

namespace Alive

variable {past more : List Call} {k : Resource}

/-- Things stay there for as long as nobody gives them back. -/
theorem append (h : Alive past k) (hmore : (k.gone, true) ∉ more) : Alive (past ++ more) k :=
  ⟨List.mem_append_left _ h.1, fun hgone => (List.mem_append.mp hgone).elim h.2 hmore⟩

end Alive

namespace Lawful

variable {calls more : List Call} {c : Call} {e : ExecutableHandle} {k : Resource}

theorem nil : Lawful [] := by
  intro past c h
  have hlen := h.length_le
  rw [List.length_append] at hlen
  exact absurd hlen (Nat.not_succ_le_zero _)

theorem of_append (h : Lawful (calls ++ more)) : Lawful calls :=
  fun past c hpast => h past c (hpast.trans (List.prefix_append _ _))

/-- One more call. -/
theorem concat (h : Lawful calls) (hc : Allowed calls c.1) : Lawful (calls ++ [c]) := by
  intro past c' hpast
  rcases List.prefix_concat_iff.mp hpast with heq | hpast
  · obtain ⟨rfl, heq'⟩ := List.append_inj' heq rfl
    cases heq'
    exact hc
  · exact h past c' hpast

/-- Every call was allowed after those before it. -/
theorem allowed_of_mem (h : Lawful calls) (hc : c ∈ calls) :
    ∃ past, past ++ [c] <+: calls ∧ Allowed past c.1 := by
  obtain ⟨past, rest, rfl⟩ := List.append_of_mem hc
  have hpast : past ++ [c] <+: past ++ c :: rest := ⟨rest, by rw [List.append_assoc]; rfl⟩
  exact ⟨past, hpast, h past c hpast⟩

/-- Nobody mentions an executable that was not created. -/
theorem created (h : Lawful calls) (hc : c ∈ calls) (he : c.1.executable? = some e) :
    ∃ ok, (.createExecutable e, ok) ∈ calls := by
  obtain ⟨past, hpast, hallowed⟩ := h.allowed_of_mem hc
  rcases hallowed.alive_of_executable he with hentry | halive
  · exact ⟨c.2, by rw [← hentry]; exact hc⟩
  · exact ⟨true, hpast.subset (List.mem_append_left _ halive.1)⟩

/-- What was to be given back was there. -/
theorem made_of_gone (h : Lawful calls) {ok : Bool} (hk : (k.gone, ok) ∈ calls) :
    (k.made, true) ∈ calls := by
  obtain ⟨past, hpast, hallowed⟩ := h.allowed_of_mem hk
  exact hpast.subset (List.mem_append_left _ hallowed.alive_of_gone.1)

/-- Calls that are always allowed. -/
theorem append_bystanders (h : Lawful calls)
    (hmore : ∀ c ∈ more, c.1.executable? = none ∧ c.1.gone? = none) : Lawful (calls ++ more) := by
  induction more generalizing calls with
  | nil => rwa [List.append_nil]
  | cons c more ih =>
    have hc := hmore c List.mem_cons_self
    rw [List.append_cons]
    exact ih (h.concat (allowed_of_bystander hc.1 hc.2))
      fun c hc => hmore c (List.mem_cons_of_mem _ hc)

/-- Different things that are all there may be given back one after the other. -/
theorem append_gone (h : Lawful calls) {ks : List Resource} {oks : List Bool}
    (hks : ∀ k ∈ ks, Alive calls k) (hdistinct : ks.Nodup) :
    Lawful (calls ++ (ks.map (·.gone)).zip oks) := by
  induction ks generalizing calls oks with
  | nil => rwa [List.map_nil, List.zip_nil_left, List.append_nil]
  | cons k ks ih =>
    cases oks with
    | nil => rwa [List.zip_nil_right, List.append_nil]
    | cons ok oks =>
      rw [List.map_cons, List.zip_cons_cons, List.append_cons]
      rw [List.nodup_cons] at hdistinct
      refine ih (h.concat (allowed_gone (hks k List.mem_cons_self))) (fun k' hk' => ?_) hdistinct.2
      refine (hks k' (List.mem_cons_of_mem _ hk')).append fun hgone => hdistinct.1 ?_
      rwa [Resource.gone_inj (Prod.mk.inj (List.mem_singleton.mp hgone)).1] at hk'

end Lawful

/-! ## Reading what is there off the calls -/

/-- What the simulator holds can be told from its calls. -/
structure Chronicled.Tracked (s : Chronicled Simulator) : Prop where
  journal : s.calls.map (·.1) = s.inner.journal
  holds : ∀ k, s.inner.Holds k ↔ Alive s.calls k
  passed : ∀ (k : Resource) (ok : Bool), (k.made, ok) ∈ s.calls → s.inner.Passed k
  returned : ∀ k : Resource, (k.gone, true) ∈ s.calls → (k.made, true) ∈ s.calls
  frozen : ∀ e, (.freeze e, true) ∈ s.calls → (.createExecutable e, true) ∈ s.calls ∧
    (s.inner.Holds (.executable e) → s.inner.isFrozen e = true)

namespace Chronicled.Tracked

variable {s : Chronicled Simulator} {t : Simulator} {c? : Option Call}

theorem mem_calls {c : Call} : c ∈ s.calls ++ c?.toList ↔ c ∈ s.calls ∨ c? = some c := by
  rw [List.mem_append, Option.mem_toList]

/-- A frozen executable that is still there is still frozen. -/
theorem isFrozen_kept (hrec : s.inner.Recorded c? t) {e : ExecutableHandle}
    (h : s.inner.isFrozen e = true) (hthere : t.Holds (.executable e)) : t.isFrozen e = true := by
  obtain ⟨exe, hexe, hfrozen⟩ := Simulator.isFrozen_iff.mp h
  exact Simulator.isFrozen_iff.mpr ⟨exe, hrec.kept e exe hexe hfrozen hthere, hfrozen⟩

/-- **Every recorded call keeps track.** -/
theorem recorded (h : s.Tracked) (hrec : s.inner.Recorded c? t) :
    Tracked ⟨t, s.calls ++ c?.toList⟩ := by
  have hholds : ∀ k, t.Holds k ↔ Alive (s.calls ++ c?.toList) k := by
    intro k
    unfold Alive
    rw [hrec.holds, mem_calls, mem_calls, h.holds, not_or]
    constructor
    · rintro ⟨⟨hmade, hgone⟩ | hmade, hnot⟩
      · exact ⟨.inl hmade, hgone, hnot⟩
      · -- what is handed out now was never taken back, since it was never handed out
        refine ⟨.inr hmade, fun hgone => ?_, hnot⟩
        exact (hrec.made k true hmade).2.1 (h.passed k true (h.returned k hgone))
    · rintro ⟨hmade | hmade, hgone, hnot⟩
      · exact ⟨.inl ⟨hmade, hgone⟩, hnot⟩
      · exact ⟨.inr hmade, hnot⟩
  refine ⟨?journal, hholds, ?passed, ?returned, ?frozen⟩
  case journal =>
    rw [List.map_append, h.journal, hrec.journal]
    cases c? <;> rfl
  case passed =>
    intro k ok hmem
    rcases mem_calls.mp hmem with hmem | hnow
    · exact hrec.passed k (h.passed k ok hmem)
    · exact (hrec.made k ok hnow).2.2
  case returned =>
    intro k hmem
    refine mem_calls.mpr (.inl ?_)
    rcases mem_calls.mp hmem with hmem | hnow
    · exact h.returned k hmem
    · exact ((h.holds k).mp (hrec.gone k hnow)).1
  case frozen =>
    intro e hmem
    rcases mem_calls.mp hmem with hmem | hnow
    · obtain ⟨hmade, hfrozen⟩ := h.frozen e hmem
      refine ⟨List.mem_append_left _ hmade, fun hthere => ?_⟩
      rcases ((hrec.holds _).mp hthere).1 with hbefore | hnew
      · exact isFrozen_kept hrec (hfrozen hbefore) hthere
      · exact absurd (h.passed (.executable e) true hmade) (hrec.made _ true hnew).2.1
    · have hfrozen := hrec.froze e hnow
      obtain ⟨exe, hexe, -⟩ := Simulator.isFrozen_iff.mp hfrozen
      exact ⟨((hholds (.executable e)).mp (Assoc.contains_of_get? hexe)).1, fun _ => hfrozen⟩

/-- What the counters have not passed was never mentioned. -/
theorem not_mentioned (h : s.Tracked) (hlawful : Lawful s.calls) {e : ExecutableHandle}
    (hnew : ¬ s.inner.Passed (.executable e)) {c : Call} (hc : c ∈ s.calls) :
    c.1.executable? ≠ some e := by
  intro he
  obtain ⟨ok, hmade⟩ := hlawful.created hc he
  exact hnew (h.passed (.executable e) ok hmade)

theorem fresh (hasRegion : Bool) : Tracked ⟨{ hasRegion }, []⟩ where
  journal := rfl
  holds k := by
    refine ⟨fun h => ?_, fun h => nomatch h.1⟩
    cases k <;> cases h
  passed k ok h := nomatch h
  returned k h := nomatch h
  frozen e h := nomatch h

end Chronicled.Tracked

/-- **Every run keeps track.** -/
theorem Session.run_tracked (settings : LoaderSettings) (hooks : LaunchHooks) (hasRegion : Bool)
    (host : Host.System) (rs : List Request) :
    (recounted settings hooks hasRegion host rs).world.accelerator.Tracked :=
  run_recorded (P := Chronicled.Tracked) (fun _ _ _ _ hrec h => h.recorded hrec) settings hooks
    (s := (fresh hasRegion host).chronicled) (Simulator.Reachable.fresh hasRegion).sound
    (.fresh hasRegion) rs

end DeviceCode

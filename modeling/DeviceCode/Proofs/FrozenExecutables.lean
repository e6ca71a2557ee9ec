import DeviceCode.Proofs.Operations

/-!
# Frozen executables

Once an executable is frozen, nothing but its destruction can change it. What is under its handle
stays the same whatever else is asked of the simulator, new executables have other handles, and
what is meant to change it fails (`Operation.frozen_immutable`).
-/

namespace DeviceCode.Operation

open Simulator

variable {s : Simulator} {e : ExecutableHandle} {exe : Executable}

/-- An operation fails at a frozen executable, or destroys it. -/
theorem Turns.of_frozen {op : Operation} {ok : Bool} {exe?' : Option Executable}
    (ht : Turns s e op ok (some exe) exe?') (hfrozen : exe.frozen = true) :
    op = .destroyExecutable e ∧ ok = true ∨
      exe?' = some exe ∧ (op.changes? = some e → ok = false) := by
  have hopen : ∀ {exe' : Executable}, exe = exe' → exe'.frozen = false → False := by
    intro exe' heq hopen
    rw [← heq, hfrozen] at hopen
    cases hopen
  cases ht with
  | kept h =>
    refine .inr ⟨rfl, fun hop => ?_⟩
    cases ok with
    | false => rfl
    | true => exact absurd hop (h rfl)
  | loaded _ _ _ _ h => exact (hopen rfl h).elim
  | froze h => exact (hopen rfl h).elim
  | defined h => exact (hopen rfl h).elim
  | destroyed => exact .inl ⟨rfl, rfl⟩

theorem perform_of_frozen (hs : s.Sound) (hexe : s.executables.get? e = some exe)
    (hfrozen : exe.frozen = true) (op : Operation)
    (hstays : (op, (op.perform s).1) ≠ (.destroyExecutable e, true)) :
    (op.perform s).2.executables.get? e = some exe ∧
      (op.changes? = some e → (op.perform s).1 = false) := by
  have hturns := perform_turns hs op e
  rw [hexe] at hturns
  rcases hturns.of_frozen hfrozen with ⟨hop, hok⟩ | hkept
  · exact absurd (Prod.ext hop hok) hstays
  · exact hkept

/-- A frozen executable stays the same until it is destroyed. -/
theorem run_of_frozen (hs : s.Sound) (hexe : s.executables.get? e = some exe)
    (hfrozen : exe.frozen = true) (ops : List Operation)
    (hstays : (.destroyExecutable e, true) ∉ history s ops) :
    (run s ops).executables.get? e = some exe := by
  induction ops generalizing s with
  | nil => exact hexe
  | cons op ops ih =>
    obtain ⟨hne, hrest⟩ := not_or.mp (mt List.mem_cons.mpr hstays)
    obtain ⟨hkept, -⟩ := perform_of_frozen hs hexe hfrozen op (Ne.symm hne)
    exact ih (perform_sound hs op) hkept hrest

/-- **A frozen executable is immutable.** After an executable was frozen, and as long as it is not
destroyed, it is there and frozen, and it is the same one whatever is asked of the simulator. Each
name is answered as before, unless the call is made to fail, and loading into it, binding its
globals and freezing it fail and leave it as it is. -/
theorem frozen_immutable {before after : List Operation} {e : ExecutableHandle}
    (hfroze : (.freeze e, true) ∈ history {} before)
    (hstays : (.destroyExecutable e, true) ∉ history {} (before ++ after)) :
    let s := run {} before
    let t := run {} (before ++ after)
    s.isFrozen e = true ∧ t.isFrozen e = true ∧
      t.executables.get? e = s.executables.get? e ∧
      (∀ g g' name, s.faulty .getSymbol = false → t.faulty .getSymbol = false →
        ∃ answer, (s.getSymbol e g name).1 = .ok answer ∧
          (t.getSymbol e g' name).1 = .ok answer) ∧
      ∀ op : Operation, op.changes? = some e → op ≠ .destroyExecutable e →
        (op.perform t).1 = false ∧
          (op.perform t).2.executables.get? e = t.executables.get? e := by
  intro s t
  have htells : Tells (history {} before) s := run_tells before
  rw [history_append, List.mem_append, not_or] at hstays
  have hs : s.isFrozen e = true := (htells.frozen e).mpr ⟨hfroze, hstays.1⟩
  obtain ⟨exe, hexe, hfrozen⟩ := isFrozen_iff.mp hs
  have ht : t = run s after := run_append
  have hexe' : t.executables.get? e = some exe := by
    rw [ht]
    exact run_of_frozen htells.sound hexe hfrozen after hstays.2
  refine ⟨hs, isFrozen_iff.mpr ⟨exe, hexe', hfrozen⟩, hexe'.trans hexe.symm, ?_, ?_⟩
  · intro g g' name hask hask'
    refine ⟨lookup exe name, ?_, ?_⟩
    · rw [getSymbol_eq hask hexe]
    · rw [getSymbol_eq hask' hexe']
  · intro op hop hne
    have htells' : Tells (history {} (before ++ after)) t := run_tells (before ++ after)
    obtain ⟨hkept, hfails⟩ := perform_of_frozen htells'.sound hexe' hfrozen op
      fun heq => hne (congrArg Prod.fst heq)
    exact ⟨hfails hop, hkept.trans hexe'.symm⟩

/-- An executable with a global, used after it was frozen. -/
theorem frozen_immutable_global :
    let before := [createExecutable, defineGlobal ⟨1⟩ "flag" 0x1000, freeze ⟨1⟩]
    let after := [defineGlobal ⟨1⟩ "flag" 0x2000, freeze ⟨1⟩, inject .destroyExecutable,
      destroyExecutable ⟨1⟩, clearFaults, createExecutable, destroyExecutable ⟨2⟩]
    (.freeze ⟨1⟩, true) ∈ history {} before ∧
      (.destroyExecutable ⟨1⟩, true) ∉ history {} (before ++ after) ∧
      ((run {} (before ++ after)).getSymbol ⟨1⟩ ⟨7⟩ "flag").1 =
        .ok (some { name := "flag", kind := .variable, address := 0x1000 }) := by
  intro before after
  have hfroze : (.freeze ⟨1⟩, true) ∈ history {} before := by decide
  have hstays : (.destroyExecutable ⟨1⟩, true) ∉ history {} (before ++ after) := by decide
  obtain ⟨-, -, -, hanswers, -⟩ := frozen_immutable hfroze hstays
  obtain ⟨answer, hbefore, hafter⟩ := hanswers ⟨7⟩ ⟨7⟩ "flag" (by decide) (by decide)
  have hanswer : ((run {} before).getSymbol ⟨1⟩ ⟨7⟩ "flag").1 =
      .ok (some { name := "flag", kind := .variable, address := 0x1000 }) := by decide
  exact ⟨hfroze, hstays, hafter.trans (hbefore.symm.trans hanswer)⟩

end DeviceCode.Operation

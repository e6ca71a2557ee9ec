import DeviceCode.Proofs.Session
import Mathlib.Data.List.Nodup

/-!
# Auditing completions

The simulator keeps the completions that are outstanding, not those that it ever handed out, nor how
often each was released. To state that every completion is released once, an accelerator is put
behind one that writes down every dispatch and every release with its answer (`Audit`). Like the
notes of `Watched`, an audit is read by nobody, so a loader does the same with and without it.

`Audited.Tallied` is what an audit of the simulator says as long as only outstanding completions are
released: the handles handed out are all different, and each is either outstanding or was released
once, successfully.
-/

namespace DeviceCode

variable {σ α : Type}

/-- All dispatches and releases so far. -/
structure Audit where
  /-- Whether a completion was asked for, and the answer. -/
  dispatches : List (Bool × Except CallError (Option CompletionHandle)) := []
  releases : List (CompletionHandle × Except CallError Unit) := []

namespace Audit

/-- Earlier calls and later ones. -/
def add (a b : Audit) : Audit where
  dispatches := a.dispatches ++ b.dispatches
  releases := a.releases ++ b.releases

/-- The completion that came with an answer, if one did. -/
def grant? : Except CallError (Option CompletionHandle) → Option CompletionHandle
  | .ok c => c
  | .error _ => none

/-- All completions that were handed out. -/
def granted (a : Audit) : List CompletionHandle := a.dispatches.filterMap (grant? ·.2)

/-- All completions that were to be released, once for each time. -/
def released (a : Audit) : List CompletionHandle := a.releases.map (·.1)

theorem granted_add (a b : Audit) : (a.add b).granted = a.granted ++ b.granted :=
  List.filterMap_append

theorem released_add (a b : Audit) : (a.add b).released = a.released ++ b.released :=
  List.map_append

@[simp] theorem granted_dispatch (wanted : Bool)
    (answer : Except CallError (Option CompletionHandle)) :
    granted { dispatches := [(wanted, answer)] } = (grant? answer).toList := by
  unfold granted
  cases h : grant? answer with
  | none => exact List.filterMap_cons_none h
  | some c => exact List.filterMap_cons_some h

end Audit

/-- An accelerator's state and the audit of its calls. -/
structure Audited (σ : Type) where
  inner : σ
  audit : Audit := {}

namespace Audited

/-- Pass a call on and write down its answer. -/
def pass (call : σ → Reply σ α) (note : Except CallError α → Audit) (s : Audited σ) :
    Reply (Audited σ) α :=
  let (answer, inner) := call s.inner
  (answer, { inner, audit := s.audit.add (note answer) })

theorem pass_of {call : σ → Reply σ α} {s : Audited σ} {answer : Except CallError α} {t : σ}
    (h : call s.inner = (answer, t)) (note : Except CallError α → Audit) :
    pass call note s = (answer, ⟨t, s.audit.add (note answer)⟩) := by
  unfold pass
  rw [h]

/-- The state without the audit. -/
def Erases (s : Audited σ) (t : σ) : Prop := s.inner = t

theorem pass_erases (call : σ → Reply σ α) (note : Except CallError α → Audit) :
    CallsAlike Erases (pass call note) call := by
  rintro s t rfl
  exact ⟨rfl, rfl⟩

end Audited

namespace Accelerator

/-- An accelerator behind one that writes down dispatches and releases. -/
def audit (a : Accelerator σ) : Accelerator (Audited σ) where
  name := a.name
  createExecutable := Audited.pass a.createExecutable fun _ => {}
  loadReader e g r := Audited.pass (a.loadReader e g r) fun _ => {}
  loadCodeObject e g c := Audited.pass (a.loadCodeObject e g c) fun _ => {}
  freeze e := Audited.pass (a.freeze e) fun _ => {}
  destroyExecutable e := Audited.pass (a.destroyExecutable e) fun _ => {}
  getSymbol e g n := Audited.pass (a.getSymbol e g n) fun _ => {}
  defineGlobal e n x := Audited.pass (a.defineGlobal e n x) fun _ => {}
  createReader fs p := Audited.pass (a.createReader fs p) fun _ => {}
  destroyReader r := Audited.pass (a.destroyReader r) fun _ => {}
  deserialize x n := Audited.pass (a.deserialize x n) fun _ => {}
  destroyCodeObject c := Audited.pass (a.destroyCodeObject c) fun _ => {}
  lockMemory g x n := Audited.pass (a.lockMemory g x n) fun _ => {}
  unlockMemory x := Audited.pass (a.unlockMemory x) fun _ => {}
  findRegion g := Audited.pass (a.findRegion g) fun _ => {}
  allocate r n := Audited.pass (a.allocate r n) fun _ => {}
  free x := Audited.pass (a.free x) fun _ => {}
  writeMemory x bs := Audited.pass (a.writeMemory x bs) fun _ => {}
  dispatch g q p bs w :=
    Audited.pass (a.dispatch g q p bs w) fun answer => { dispatches := [(w, answer)] }
  synchronize g := Audited.pass (a.synchronize g) fun _ => {}
  releaseCompletion c :=
    Audited.pass (a.releaseCompletion c) fun answer => { releases := [(c, answer)] }

variable {a : Accelerator σ} {s : Audited σ} {t : σ}

theorem audit_dispatch_of {agent : AgentHandle} {queue : QueueHandle} {p : Packet}
    {arguments : Bytes} {wanted : Bool} {answer : Except CallError (Option CompletionHandle)}
    (h : a.dispatch agent queue p arguments wanted s.inner = (answer, t)) :
    a.audit.dispatch agent queue p arguments wanted s =
      (answer, ⟨t, s.audit.add { dispatches := [(wanted, answer)] }⟩) :=
  Audited.pass_of h fun answer => { dispatches := [(wanted, answer)] }

theorem audit_releaseCompletion_of {c : CompletionHandle} {answer : Except CallError Unit}
    (h : a.releaseCompletion c s.inner = (answer, t)) :
    a.audit.releaseCompletion c s = (answer, ⟨t, s.audit.add { releases := [(c, answer)] }⟩) :=
  Audited.pass_of h fun answer => { releases := [(c, answer)] }

end Accelerator

/-- A loader over an audited accelerator. -/
def Loader.audit (l : Loader σ) : Loader (Audited σ) where
  accelerator := l.accelerator.audit
  settings := l.settings
  hooks := l.hooks

/-- A rig whose accelerator is audited. -/
def Rig.audit (rig : Rig σ) : Rig (Audited σ) where
  loader := rig.loader.audit
  inject point s := { s with inner := rig.inject point s.inner }
  clearFaults s := { s with inner := rig.clearFaults s.inner }

namespace World

/-- A world whose accelerator is audited from now on. -/
def audited (w : World σ) : World (Audited σ) where
  accelerator := { inner := w.accelerator }
  host := w.host
  loader := w.loader
  completions := w.completions
  log := w.log
  hookCalls := w.hookCalls

/-- A world without the audit. -/
def unaudited (w : World (Audited σ)) : World σ where
  accelerator := w.accelerator.inner
  host := w.host
  loader := w.loader
  completions := w.completions
  log := w.log
  hookCalls := w.hookCalls

theorem match_unaudited (w : World (Audited σ)) : Match Audited.Erases w w.unaudited :=
  ⟨rfl, rfl, rfl, trivial, rfl, rfl, rfl⟩

theorem MatchOn.unaudited_eq {v : World (Audited σ)} {w : World σ} (h : Match Audited.Erases v w) :
    v.unaudited = w := by
  obtain ⟨a, b, c, d, e, f⟩ := w
  obtain ⟨h1, h2, h3, -, h4, h5, h6⟩ := h
  unfold unaudited
  rw [(h1 : v.accelerator.inner = a), h2, h3, h4, h5, h6]

end World

/-! ## An audit of the simulator -/

namespace Audited

open Accelerator Simulator

variable {s t : Audited Simulator}

/-- What a dispatch on a queue leaves behind with its answer. -/
structure Submitted (agent : AgentHandle) (queue : QueueHandle) (wanted : Bool)
    (s : Audited Simulator) (answer : Except CallError (Option CompletionHandle))
    (t : Audited Simulator) : Prop where
  audit : t.audit = s.audit.add { dispatches := [(wanted, answer)] }
  completions : t.inner.completions = s.inner.completions ++ (Audit.grant? answer).toList
  lastHandle : s.inner.lastHandle ≤ t.inner.lastHandle
  /-- A completion handed out has a new handle. -/
  fresh : ∀ c, Audit.grant? answer = some c →
    s.inner.lastHandle < c.id ∧ c.id ≤ t.inner.lastHandle
  /-- Only a dispatch that is made to fail is refused. -/
  refused : ∀ e, answer = .error e →
    s.inner.faulty .dispatch = true ∧ t.inner.dispatches = s.inner.dispatches
  /-- The packet is recorded with the completion that was asked for as its signal. -/
  recorded : ∀ c, answer = .ok c → c.isSome = wanted ∧ ∃ d : SubmittedDispatch,
    t.inner.dispatches = s.inner.dispatches ++ [d] ∧ d.agent = agent ∧ d.queue = queue ∧
      d.packet.completionSignal = (c.map fun c => UInt64.ofNat c.id).getD 0

theorem dispatch_submitted (s : Audited Simulator) (agent : AgentHandle) (queue : QueueHandle)
    (p : Packet) (arguments : Bytes) (wanted : Bool) :
    ∃ answer t, accelerator.audit.dispatch agent queue p arguments wanted s = (answer, t) ∧
      Submitted agent queue wanted s answer t := by
  rcases s.inner.dispatch_cases agent queue p arguments wanted with
    ⟨hfault, err, j, n, h⟩ | ⟨hwanted, p', hsignal, j, n, h⟩ | ⟨hwanted, p', hsignal, j, n, h⟩
  · refine ⟨_, _, audit_dispatch_of h, ?_⟩
    exact
      { audit := rfl
        completions := (List.append_nil _).symm
        lastHandle := Nat.le_refl _
        fresh := fun _ hc => nomatch hc
        refused := fun _ _ => ⟨hfault, rfl⟩
        recorded := fun _ hc => nomatch hc }
  · refine ⟨_, _, audit_dispatch_of h, ?_⟩
    exact
      { audit := rfl
        completions := rfl
        lastHandle := Nat.le_succ _
        fresh := fun c hc => by
          cases hc
          exact ⟨Nat.lt_succ_self _, Nat.le_refl _⟩
        refused := fun _ he => nomatch he
        recorded := fun c hc => by
          cases hc
          exact ⟨hwanted.symm, _, rfl, rfl, rfl, hsignal⟩ }
  · refine ⟨_, _, audit_dispatch_of h, ?_⟩
    exact
      { audit := rfl
        completions := (List.append_nil _).symm
        lastHandle := Nat.le_refl _
        fresh := fun _ hc => nomatch hc
        refused := fun _ he => nomatch he
        recorded := fun c hc => by
          cases hc
          exact ⟨hwanted.symm, _, rfl, rfl, rfl, hsignal⟩ }

/-- Releasing an outstanding completion succeeds, and is written down. -/
theorem releaseCompletion_of_mem {c : CompletionHandle} (h : c ∈ s.inner.completions) :
    ∃ t, accelerator.audit.releaseCompletion c s = (.ok (), t) ∧
      t.audit = s.audit.add { releases := [(c, .ok ())] } ∧
      t.inner.completions = s.inner.completions.erase c ∧
      t.inner.lastHandle = s.inner.lastHandle := by
  obtain ⟨j, n, hcall⟩ := Simulator.releaseCompletion_of_mem h
  exact ⟨_, audit_releaseCompletion_of hcall, rfl, rfl, rfl⟩

/-- Every completion handed out is outstanding, or it was released once. -/
structure Tallied (s : Audited Simulator) : Prop where
  /-- No release failed. -/
  answered : ∀ x ∈ s.audit.releases, x.2 = .ok ()
  distinct : s.audit.granted.Nodup
  below : ∀ c ∈ s.audit.granted, c.id ≤ s.inner.lastHandle
  conserved : s.audit.granted.Perm (s.inner.completions ++ s.audit.released)

namespace Tallied

/-- Outstanding completions are among those handed out. -/
theorem granted_of_outstanding (h : s.Tallied) {c : CompletionHandle}
    (hc : c ∈ s.inner.completions) : c ∈ s.audit.granted :=
  h.conserved.mem_iff.mpr (List.mem_append_left _ hc)

/-- A completion handed out was released once, unless it is outstanding. -/
theorem count_released (h : s.Tallied) {c : CompletionHandle} (hc : c ∈ s.audit.granted) :
    s.audit.released.count c = if c ∈ s.inner.completions then 0 else 1 := by
  have hone : s.inner.completions.count c + s.audit.released.count c = 1 := by
    rw [← List.count_append, ← h.conserved.count_eq]
    exact List.count_eq_one_of_mem h.distinct hc
  split
  · rename_i hout
    have hpos := List.count_pos_iff.mpr hout
    omega
  · rename_i hout
    have hzero := List.count_eq_zero.mpr hout
    omega

/-- Neither changes of the faults nor other calls matter. -/
theorem frame (h : s.Tallied) (ha : t.audit = s.audit)
    (hl : t.inner.lastHandle = s.inner.lastHandle)
    (hc : t.inner.completions = s.inner.completions) : t.Tallied where
  answered := by rw [ha]; exact h.answered
  distinct := by rw [ha]; exact h.distinct
  below := by rw [ha, hl]; exact h.below
  conserved := by rw [ha, hc]; exact h.conserved

theorem submitted (h : s.Tallied) {agent : AgentHandle} {queue : QueueHandle} {wanted : Bool}
    {answer : Except CallError (Option CompletionHandle)}
    (hs : Submitted agent queue wanted s answer t) : t.Tallied := by
  have hgranted : t.audit.granted = s.audit.granted ++ (Audit.grant? answer).toList := by
    rw [hs.audit, Audit.granted_add, Audit.granted_dispatch]
  have hreleases : t.audit.releases = s.audit.releases := by
    rw [hs.audit]
    exact List.append_nil _
  have hnew : ∀ c ∈ (Audit.grant? answer).toList,
      s.inner.lastHandle < c.id ∧ c.id ≤ t.inner.lastHandle := fun c hc =>
    hs.fresh c (Option.mem_toList.mp hc)
  refine ⟨by rw [hreleases]; exact h.answered, ?distinct, ?below, ?conserved⟩
  case distinct =>
    rw [hgranted]
    refine List.nodup_append.mpr ⟨h.distinct, Option.toList_nodup _, ?_⟩
    intro c hc d hd heq
    have hle := h.below c hc
    have hlt := (hnew d hd).1
    rw [heq] at hle
    omega
  case below =>
    intro c hc
    rw [hgranted] at hc
    rcases List.mem_append.mp hc with hc | hc
    · exact Nat.le_trans (h.below c hc) hs.lastHandle
    · exact (hnew c hc).2
  case conserved =>
    -- what is handed out now is outstanding
    rw [hgranted, hs.completions, Audit.released, hreleases]
    refine (h.conserved.append_right _).trans ?_
    rw [List.append_assoc, List.append_assoc]
    exact List.perm_append_comm.append_left _

/-- Only what is outstanding may be released. -/
theorem released (h : s.Tallied) {c : CompletionHandle} (hc : c ∈ s.inner.completions)
    (ha : t.audit = s.audit.add { releases := [(c, .ok ())] })
    (ho : t.inner.completions = s.inner.completions.erase c)
    (hl : t.inner.lastHandle = s.inner.lastHandle) : t.Tallied := by
  have hgranted : t.audit.granted = s.audit.granted := by
    rw [ha, Audit.granted_add]
    exact List.append_nil _
  refine ⟨?answered, by rw [hgranted]; exact h.distinct,
    by rw [hgranted, hl]; exact h.below, ?conserved⟩
  case answered =>
    intro x hx
    rw [ha] at hx
    rcases List.mem_append.mp hx with hx | hx
    · exact h.answered x hx
    · cases List.mem_singleton.mp hx
      rfl
  case conserved =>
    -- the completion moves from the outstanding ones to the released ones
    rw [hgranted, ho, ha, Audit.released_add]
    have hput := (List.perm_cons_erase hc).append_right s.audit.released
    refine (h.conserved.trans hput).trans ?_
    rw [List.cons_append, ← List.append_assoc]
    exact (List.perm_append_singleton c _).symm

end Tallied

end Audited

end DeviceCode

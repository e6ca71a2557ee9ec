import DeviceCode.Proofs.Session

/-!
# Chronicling calls

The journal says which calls were made, not which of them succeeded. To state what has happened to
an executable, an accelerator is put behind one that writes every entry of the journal down together
with its outcome. Like the notes of `Watched`, a chronicle is read by nobody, so a loader does the
same with and without it (`Session.run_unchronicled`).

`Session.history` is the chronicle of a whole run.
-/

namespace DeviceCode

variable {σ α : Type}

/-- An entry of the journal, and whether the call succeeded. -/
abbrev Call := JournalEntry × Bool

/-- An accelerator's state and all calls so far that its journal lists. -/
structure Chronicled (σ : Type) where
  inner : σ
  calls : List Call := []

namespace Chronicled

/-- What is written down of a call: the entry that `note` makes of its answer, if any. -/
def listed? (note : Except CallError α → Option JournalEntry) (answer : Except CallError α) :
    Option Call :=
  (note answer).map (·, answer.isOk)

@[simp] theorem map_listed? (note : Except CallError α → Option JournalEntry)
    (answer : Except CallError α) : (listed? note answer).map (·.1) = note answer := by
  unfold listed?
  cases note answer <;> rfl

/-- A call that the journal lists however it ends. -/
def always (entry : JournalEntry) : Except CallError α → Option JournalEntry := fun _ => some entry

/-- A call that the journal lists under what it hands out, when it succeeds. -/
def granted (entry : α → JournalEntry) (answer : Except CallError α) : Option JournalEntry :=
  answer.toOption.map entry

/-- A call that the journal does not list. -/
def never : Except CallError α → Option JournalEntry := fun _ => none

/-- Pass a call on and write it down. -/
def pass (call : σ → Reply σ α) (note : Except CallError α → Option JournalEntry)
    (s : Chronicled σ) : Reply (Chronicled σ) α :=
  let (answer, inner) := call s.inner
  (answer, { inner, calls := s.calls ++ (listed? note answer).toList })

/-- The state without the chronicle. -/
def Erases (s : Chronicled σ) (t : σ) : Prop := s.inner = t

theorem pass_erases (call : σ → Reply σ α) (note : Except CallError α → Option JournalEntry) :
    CallsAlike Erases (pass call note) call := by
  rintro s t rfl
  exact ⟨rfl, rfl⟩

end Chronicled

open Chronicled in
/-- An accelerator behind one that writes down its calls. -/
def Accelerator.chronicle (a : Accelerator σ) : Accelerator (Chronicled σ) where
  name := a.name
  createExecutable := pass a.createExecutable (granted .createExecutable)
  loadReader e g r := pass (a.loadReader e g r) (always (.loadReader e r))
  loadCodeObject e g c := pass (a.loadCodeObject e g c) (always (.loadCodeObject e c))
  freeze e := pass (a.freeze e) (always (.freeze e))
  destroyExecutable e := pass (a.destroyExecutable e) (always (.destroyExecutable e))
  getSymbol e g n := pass (a.getSymbol e g n) (always (.getSymbol e n))
  defineGlobal e n x := pass (a.defineGlobal e n x) (always (.defineGlobal e n))
  createReader fs p := pass (a.createReader fs p) (granted .createReader)
  destroyReader r := pass (a.destroyReader r) (always (.destroyReader r))
  deserialize x n := pass (a.deserialize x n) (granted .deserialize)
  destroyCodeObject c := pass (a.destroyCodeObject c) (always (.destroyCodeObject c))
  lockMemory g x n := pass (a.lockMemory g x n) (always (.lockMemory x))
  unlockMemory x := pass (a.unlockMemory x) (always (.unlockMemory x))
  findRegion g := pass (a.findRegion g) never
  allocate r n := pass (a.allocate r n) (granted .allocate)
  free x := pass (a.free x) (always (.free x))
  writeMemory x bs := pass (a.writeMemory x bs) (always (.writeMemory x))
  dispatch g q p bs w := pass (a.dispatch g q p bs w) (always (.dispatch q))
  synchronize g := pass (a.synchronize g) (always (.synchronize g))
  releaseCompletion c := pass (a.releaseCompletion c) (always (.releaseCompletion c))

open Chronicled in
theorem Accelerator.chronicle_alike (a : Accelerator σ) : a.chronicle.Alike Erases a where
  createExecutable := pass_erases _ _
  loadReader _ _ _ := pass_erases _ _
  loadCodeObject _ _ _ := pass_erases _ _
  freeze _ := pass_erases _ _
  destroyExecutable _ := pass_erases _ _
  getSymbol _ _ _ := pass_erases _ _
  defineGlobal _ _ _ := pass_erases _ _
  createReader _ _ := pass_erases _ _
  destroyReader _ := pass_erases _ _
  deserialize _ _ := pass_erases _ _
  destroyCodeObject _ := pass_erases _ _
  lockMemory _ _ _ := pass_erases _ _
  unlockMemory _ := pass_erases _ _
  findRegion _ := pass_erases _ _
  allocate _ _ := pass_erases _ _
  free _ := pass_erases _ _
  writeMemory _ _ := pass_erases _ _
  dispatch _ _ _ _ _ := pass_erases _ _
  synchronize _ := pass_erases _ _
  releaseCompletion _ := pass_erases _ _

/-- A loader over a chronicled accelerator. -/
def Loader.chronicle (l : Loader σ) : Loader (Chronicled σ) where
  accelerator := l.accelerator.chronicle
  settings := l.settings
  hooks := l.hooks

/-- A rig whose accelerator is chronicled. Its switches are no calls. -/
def Rig.chronicle (rig : Rig σ) : Rig (Chronicled σ) where
  loader := rig.loader.chronicle
  inject point s := { s with inner := rig.inject point s.inner }
  clearFaults s := { s with inner := rig.clearFaults s.inner }

theorem Rig.chronicle_alike (rig : Rig σ) : Rig.Alike Chronicled.Erases rig.chronicle rig where
  accelerator := rig.loader.accelerator.chronicle_alike
  settings := rfl
  hooks := rfl
  inject point s t h := by cases (h : s.inner = t); rfl
  clearFaults s t h := by cases (h : s.inner = t); rfl

namespace World

/-- A world whose accelerator is chronicled from now on. -/
def chronicled (w : World σ) : World (Chronicled σ) where
  accelerator := { inner := w.accelerator }
  host := w.host
  loader := w.loader
  completions := w.completions
  log := w.log
  hookCalls := w.hookCalls

/-- A world without the chronicle. -/
def unchronicled (w : World (Chronicled σ)) : World σ where
  accelerator := w.accelerator.inner
  host := w.host
  loader := w.loader
  completions := w.completions
  log := w.log
  hookCalls := w.hookCalls

theorem match_unchronicled (w : World (Chronicled σ)) :
    Match Chronicled.Erases w w.unchronicled :=
  ⟨rfl, rfl, rfl, trivial, rfl, rfl, rfl⟩

theorem MatchOn.unchronicled_eq {v : World (Chronicled σ)} {w : World σ}
    (h : Match Chronicled.Erases v w) : v.unchronicled = w := by
  obtain ⟨a, b, c, d, e, f⟩ := w
  obtain ⟨h1, h2, h3, -, h4, h5, h6⟩ := h
  unfold unchronicled
  rw [(h1 : v.accelerator.inner = a), h2, h3, h4, h5, h6]

end World

namespace Session

/-- A session whose accelerator is chronicled from now on. -/
def chronicled (s : Session σ) : Session (Chronicled σ) where
  world := s.world.chronicled
  modules := s.modules

/-- A session without the chronicle. -/
def unchronicled (s : Session (Chronicled σ)) : Session σ where
  world := s.world.unchronicled
  modules := s.modules

/-- All calls so far. -/
abbrev calls (s : Session (Chronicled σ)) : List Call := s.world.accelerator.calls

theorem step_unchronicled (rig : Rig σ) (s : Session (Chronicled σ)) (r : Request) :
    (s.step rig.chronicle r).unchronicled = s.unchronicled.step rig r := by
  have h := step_alike rig.chronicle_alike (s := s) (t := s.unchronicled)
    ⟨World.match_unchronicled s.world, rfl⟩ r
  unfold unchronicled
  rw [h.world.unchronicled_eq, h.modules]
  rfl

/-- **A chronicle has no effect on a run.** -/
theorem run_unchronicled (rig : Rig σ) (s : Session (Chronicled σ)) (rs : List Request) :
    (s.run rig.chronicle rs).unchronicled = s.unchronicled.run rig rs := by
  induction rs generalizing s with
  | nil => rfl
  | cons r rs ih =>
    show ((s.step rig.chronicle r).run rig.chronicle rs).unchronicled = _
    rw [ih, step_unchronicled]
    rfl

/-- A program that has made some requests, with the chronicle of its calls. -/
def recounted (settings : LoaderSettings) (hooks : LaunchHooks) (hasRegion : Bool)
    (host : Host.System) (rs : List Request) : Session (Chronicled Simulator) :=
  (fresh hasRegion host).chronicled.run (Simulator.rig settings hooks).chronicle rs

/-- The calls of a program that makes some requests, in their order, with their outcomes. -/
def history (settings : LoaderSettings) (hooks : LaunchHooks) (hasRegion : Bool)
    (host : Host.System) (rs : List Request) : List Call :=
  (recounted settings hooks hasRegion host rs).calls

end Session

end DeviceCode

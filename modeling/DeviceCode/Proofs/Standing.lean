import DeviceCode.Proofs.Ledger
import DeviceCode.Proofs.Moves

/-!
# The executables of a program's modules

A module's executable was frozen when it was loaded, and a frozen executable is the same one for as
long as it is there. So every run has a book that says once and for all what the executable under a
handle is (`Fleet.Ran.standing`): whatever else the program does, the modules that it holds have
these executables or none at all.
-/

namespace DeviceCode

namespace Simulator

variable {s t : Simulator} {e : ExecutableHandle} {exe : Executable}

/-- Every call is recorded, in one way or another. -/
theorem Called.recorded (c : Called s t) (h : s.Sound) : ∃ c?, Recorded s c? t := by
  cases c with
  | createExecutable => exact ⟨_, createExecutable_recorded h⟩
  | loadReader e g r => exact ⟨_, loadReader_recorded s e g r⟩
  | loadCodeObject e g c => exact ⟨_, loadCodeObject_recorded s e g c⟩
  | freeze e => exact ⟨_, freeze_recorded s e⟩
  | destroyExecutable e => exact ⟨_, destroyExecutable_recorded s e⟩
  | getSymbol e g n => exact ⟨_, getSymbol_recorded s e g n⟩
  | defineGlobal e n x => exact ⟨_, defineGlobal_recorded s e n x⟩
  | createReader fs p => exact ⟨_, createReader_recorded s fs p⟩
  | destroyReader r => exact ⟨_, destroyReader_recorded s r⟩
  | deserialize x n => exact ⟨_, deserialize_recorded s x n⟩
  | destroyCodeObject c => exact ⟨_, destroyCodeObject_recorded s c⟩
  | lockMemory g x n => exact ⟨_, lockMemory_recorded s g x n⟩
  | unlockMemory x => exact ⟨_, unlockMemory_recorded s x⟩
  | findRegion g => exact ⟨_, findRegion_recorded s g⟩
  | allocate r n => exact ⟨_, allocate_recorded s r n⟩
  | free x => exact ⟨_, free_recorded s x⟩
  | writeMemory x bs => exact ⟨_, writeMemory_recorded s x bs⟩
  | dispatch g q p bs w => exact ⟨_, dispatch_recorded s g q p bs w⟩
  | synchronize g => exact ⟨_, synchronize_recorded s g⟩
  | releaseCompletion c => exact ⟨_, releaseCompletion_recorded s c⟩

/-- What no operation of the simulator does: hand out a handle again, or change an executable that
is frozen. -/
structure Spares (e : ExecutableHandle) (exe : Executable) (s t : Simulator) : Prop where
  passed : s.Passed (.executable e) → t.Passed (.executable e)
  holds : s.Passed (.executable e) → t.Holds (.executable e) → s.Holds (.executable e)
  frozen : s.executables.get? e = some exe → exe.frozen = true → t.Holds (.executable e) →
    t.executables.get? e = some exe

theorem Spares.of_same (hcounter : t.lastHandle = s.lastHandle)
    (hsame : t.executables = s.executables) : Spares e exe s t where
  passed h := Nat.le_trans h (Nat.le_of_eq hcounter.symm)
  holds _ h := by
    unfold Holds at h ⊢
    rwa [hsame] at h
  frozen h _ _ := hsame ▸ h

theorem Operated.spares (o : Operated s t) (h : s.Sound) (e : ExecutableHandle)
    (exe : Executable) : Spares e exe s t := by
  cases o with
  | called c =>
    obtain ⟨c?, hrec⟩ := c.recorded h
    refine ⟨hrec.passed _, fun hpassed hthere => ?_, hrec.kept e exe⟩
    obtain hold | hmade := ((hrec.holds _).mp hthere).1
    · exact hold
    · exact absurd hpassed (hrec.made _ true hmade).2.1
  | inject point =>
    unfold Simulator.inject
    split <;> exact .of_same rfl rfl
  | clearFaults => exact .of_same rfl rfl
  | setSegmentSizes kernel group private_ => exact .of_same rfl rfl
  | setArgumentSize kernel size => exact .of_same rfl rfl

/-- The handle was given out, and the executable under it is this one or is gone. -/
structure Stands (e : ExecutableHandle) (exe : Executable) (s : Simulator) : Prop where
  reachable : s.Reachable
  passed : s.Passed (.executable e)
  same : s.Holds (.executable e) → s.executables.get? e = some exe

theorem Stands.operated (h : Stands e exe s) (hfrozen : exe.frozen = true) (o : Operated s t) :
    Stands e exe t := by
  have hspares := o.spares h.reachable.sound e exe
  refine ⟨h.reachable.operated o, hspares.passed h.passed, fun hthere => ?_⟩
  exact hspares.frozen (h.same (hspares.holds h.passed hthere)) hfrozen hthere

/-! ## On the way from one state to another -/

section Reaches

variable (h : s.Reaches t)
include h

theorem Reaches.reachable (hs : s.Reachable) : t.Reachable :=
  h _ (fun _ _ o hs => hs.operated o) hs

theorem Reaches.passed (hs : s.Reachable) (hpassed : s.Passed (.executable e)) :
    t.Passed (.executable e) :=
  (h (fun u => u.Reachable ∧ u.Passed (.executable e))
    (fun _ _ o hu => ⟨hu.1.operated o, (o.spares hu.1.sound e {}).passed hu.2⟩)
    ⟨hs, hpassed⟩).2

theorem Reaches.stands (hs : Stands e exe s) (hfrozen : exe.frozen = true) : Stands e exe t :=
  h _ (fun _ _ o hs => hs.operated hfrozen o) hs

end Reaches

theorem Stands.eq (h : Stands e exe s) {exe' : Executable}
    (hexe : s.executables.get? e = some exe') : exe' = exe :=
  Option.some.inj (hexe.symm.trans (h.same (Assoc.contains_of_get? hexe)))

end Simulator

open Simulator

/-- The modules of a program have executables of their own, which the book describes. -/
structure Session.Standing (book : ExecutableHandle → Executable) (s : Session Simulator) :
    Prop where
  reachable : s.world.accelerator.Reachable
  distinct : (s.modules.map (·.executable)).Nodup
  stands : ∀ m ∈ s.modules, Stands m.executable (book m.executable) s.world.accelerator
  frozen : ∀ m ∈ s.modules, (book m.executable).frozen = true
  shows : ∀ m ∈ s.modules, ∃ n, Shows (book m.executable) m.image (codeBase n)

namespace Session

variable {book : ExecutableHandle → Executable} {s t : Session Simulator} {notes : List Lookup}
  {m m' : LoadedModule}

/-- A module is known by its executable. -/
theorem Standing.eq_of_executable (h : s.Standing book) (hm : m ∈ s.modules) (hm' : m' ∈ s.modules)
    (heq : m'.executable = m.executable) : m' = m :=
  List.inj_on_of_nodup_map h.distinct hm' hm heq

/-- The executables are those from before the request or one that is new. -/
theorem Move.executables (h : s.Move notes t) :
    (t.modules.map LoadedModule.pristine).Sublist (s.modules.map LoadedModule.pristine) ∨
      ∃ m, New s.world.accelerator m t.world.accelerator ∧ t.modules = s.modules ++ [m] := by
  have hset : ∀ {index : Nat} {m m' : LoadedModule}, s.modules[index]? = some m →
      m'.pristine = m.pristine → t.modules = s.modules.set index m' →
        t.modules.map LoadedModule.pristine = s.modules.map LoadedModule.pristine := by
    intro index m m' hm hsame h
    obtain ⟨hindex, rfl⟩ := List.getElem?_eq_some_iff.mp hm
    rw [h, List.map_set, hsame, ← List.map_set, List.set_getElem_self]
  cases h with
  | still h => exact .inl (h ▸ .refl _)
  | loaded hm h => exact .inr ⟨_, hm, h⟩
  | unloaded h => exact .inl (h ▸ (List.eraseIdx_sublist _ _).map _)
  | stopped hm hm' h => exact .inl (hset hm hm'.pristine h ▸ .refl _)
  | @asked index m m' name r _ hm hr hm' h =>
    subst hm'
    exact .inl (hset hm hr.pristine h ▸ .refl _)

theorem Standing.of_sublist (h : s.Standing book)
    (hreaches : s.world.accelerator.Reaches t.world.accelerator)
    (hsub : (t.modules.map LoadedModule.pristine).Sublist (s.modules.map LoadedModule.pristine)) :
    t.Standing book := by
  -- every module of `t` is one of `s`, but for what it remembers and what is released
  have hold : ∀ m ∈ t.modules, ∃ m₀ ∈ s.modules, m₀.pristine = m.pristine := fun m hm =>
    List.mem_map.mp (hsub.subset (List.mem_map_of_mem hm))
  have hexecutables : ∀ ms : List LoadedModule,
      ms.map (·.executable) = (ms.map LoadedModule.pristine).map (·.executable) := fun ms => by
    rw [List.map_map]
    rfl
  refine ⟨?_, ?_, fun m hm => ?_, fun m hm => ?_, fun m hm => ?_⟩
  · exact hreaches.reachable h.reachable
  · rw [hexecutables]
    exact (hexecutables s.modules ▸ h.distinct).sublist (hsub.map _)
  all_goals
    obtain ⟨m₀, hm₀, hsame⟩ := hold m hm
    have hexecutable : m₀.executable = m.executable := congrArg (·.executable) hsame
    have himage : m₀.image = m.image := congrArg (·.image) hsame
    rw [← hexecutable]
  · exact hreaches.stands (h.stands m₀ hm₀) (h.frozen m₀ hm₀)
  · exact h.frozen m₀ hm₀
  · exact himage ▸ h.shows m₀ hm₀

/-- **Requests leave the book as it is**, but for a line on the executable of a new module. -/
theorem Standing.move (h : s.Standing book) (hmove : s.Move notes t)
    (hreaches : s.world.accelerator.Reaches t.world.accelerator) :
    ∃ book', t.Standing book' ∧
      ∀ e, s.world.accelerator.Passed (.executable e) → book' e = book e := by
  obtain hsub | ⟨m, hnew, hmodules⟩ := hmove.executables
  · exact ⟨book, h.of_sublist hreaches hsub, fun _ _ => rfl⟩
  · obtain ⟨exe, hexe, hfrozen, hshows⟩ := hnew.executable
    let book' (e : ExecutableHandle) : Executable := if e = m.executable then exe else book e
    have hself : book' m.executable = exe := if_pos rfl
    -- the handle of the new module was not given out before
    have hother : ∀ e, s.world.accelerator.Passed (.executable e) →
        e ≠ m.executable ∧ book' e = book e := by
      intro e hpassed
      have hne : e ≠ m.executable := by
        intro heq
        exact absurd hnew.fresh (Nat.not_lt_of_le (heq ▸ hpassed))
      exact ⟨hne, if_neg hne⟩
    have hbefore : ∀ m₀ ∈ s.modules,
        m₀.executable ≠ m.executable ∧ book' m₀.executable = book m₀.executable :=
      fun m₀ hm₀ => hother _ (h.stands m₀ hm₀).passed
    have hreachable := hreaches.reachable h.reachable
    refine ⟨book', ⟨hreachable, ?_, ?_, ?_, ?_⟩, fun e he => (hother e he).2⟩
    · rw [hmodules, List.map_append]
      refine List.nodup_append.mpr ⟨h.distinct, List.nodup_singleton _, fun e he e' he' => ?_⟩
      obtain ⟨m₀, hm₀, rfl⟩ := List.mem_map.mp he
      rw [List.mem_singleton.mp he']
      exact (hbefore m₀ hm₀).1
    all_goals
      intro m₀ hm₀
      rw [hmodules, List.mem_append, List.mem_singleton] at hm₀
      obtain hm₀ | rfl := hm₀
    · rw [(hbefore m₀ hm₀).2]
      exact hreaches.stands (h.stands m₀ hm₀) (h.frozen m₀ hm₀)
    · rw [hself]
      have hthere := Assoc.contains_of_get? hexe
      exact ⟨hreachable, hreachable.sound.executables _ hthere, fun _ => hexe⟩
    · rw [(hbefore m₀ hm₀).2]
      exact h.frozen m₀ hm₀
    · rw [hself]
      exact hfrozen
    · rw [(hbefore m₀ hm₀).2]
      exact h.shows m₀ hm₀
    · rw [hself]
      exact hshows

end Session

namespace Fleet

variable {settings : LoaderSettings} {hooks : LaunchHooks} {notes : List Lookup}
  {f : Fleet Simulator} {book : ExecutableHandle → Executable}

theorem start_standing (hasRegion : Bool) (host : Host.System) :
    (start { hasRegion } host : Fleet Simulator).session.Standing book where
  reachable := .fresh hasRegion
  distinct := List.nodup_nil
  stands _ hm := absurd hm List.not_mem_nil
  frozen _ hm := absurd hm List.not_mem_nil
  shows _ hm := absurd hm List.not_mem_nil

theorem standing_step (h : f.session.Standing book) (r : FleetRequest) :
    ∃ book', (f.step (Simulator.rig settings hooks) r).session.Standing book' ∧
      ∀ e, f.session.world.accelerator.Passed (.executable e) → book' e = book e :=
  h.move (step_move f r) (step_reaches f r)

theorem standing_operate (h : f.session.Standing book) {t : Simulator}
    (o : Operated f.session.world.accelerator t) : (f.operate t).session.Standing book :=
  h.of_sublist (fun _ hP => hP _ _ o) (.refl _)

/-- **Every run has its book.** -/
theorem Ran.standing (h : Ran settings hooks notes f) : ∃ book, f.session.Standing book := by
  induction h with
  | start hasRegion host => exact ⟨fun _ => {}, start_standing hasRegion host⟩
  | requested _ r ih =>
    obtain ⟨book, hbook⟩ := ih
    obtain ⟨book', hbook', -⟩ := standing_step hbook r
    exact ⟨book', hbook'⟩
  | operated _ o ih =>
    obtain ⟨book, hbook⟩ := ih
    exact ⟨book, standing_operate hbook o⟩

end Fleet

end DeviceCode

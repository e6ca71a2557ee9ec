import DeviceCode.Proofs.Standing

/-!
# Functions are looked up once

The functions that a module remembers are those that lookups have found in it, in the order in which
they were found first (`found`), until its executable is gone. So the list can be read off the
lookups of the run alone (`Session.Noted`).

What was found once is answered from then on without asking anyone. What the executable answered is
what the book says of it, and the book never changes; so one name is never both found and missing.
-/

namespace DeviceCode

open Simulator

/-- The function that a lookup has found in this module. -/
def Lookup.found? (x : Lookup) (m : LoadedModule) : Option KernelFunction :=
  if x.module = m then x.answer.toOption else none

/-- The functions that were found in a module, each once, in the order in which they were found
first. -/
def found (notes : List Lookup) (m : LoadedModule) : List KernelFunction :=
  (notes.filterMap (·.found? m)).eraseDups

section Found

variable {notes : List Lookup} {x : Lookup} {m : LoadedModule} {f : KernelFunction}

theorem Lookup.found?_eq_some_iff :
    x.found? m = some f ↔ x.module = m ∧ x.answer = .ok f := by
  unfold Lookup.found?
  split
  · next h =>
    rw [and_iff_right h]
    cases x.answer <;> simp [Except.toOption]
  · next h => exact ⟨nofun, fun hx => absurd hx.1 h⟩

theorem mem_found_iff : f ∈ found notes m ↔ ∃ x ∈ notes, x.module = m ∧ x.answer = .ok f := by
  simp only [found, List.mem_eraseDups, List.mem_filterMap, Lookup.found?_eq_some_iff]

/-- A lookup that has found nothing new in the module. -/
theorem found_concat_of_forall (h : ∀ f, x.found? m = some f → f ∈ found notes m) :
    found (notes ++ [x]) m = found notes m := by
  unfold found
  rw [List.filterMap_append, List.eraseDups_append]
  cases hx : x.found? m with
  | none => simp [hx]
  | some f =>
    have hmem : f ∈ notes.filterMap (·.found? m) := List.mem_eraseDups.mp (h f hx)
    have hnone : ([x].filterMap (·.found? m)).removeAll (notes.filterMap (·.found? m)) = [] := by
      simpa [List.removeAll, hx] using hmem
    rw [hnone, List.eraseDups_nil, List.append_nil]

/-- A lookup that has found a new function. -/
theorem found_concat_of_not_mem (hx : x.found? m = some f) (hnew : f ∉ found notes m) :
    found (notes ++ [x]) m = found notes m ++ [f] := by
  unfold found at hnew ⊢
  rw [List.mem_eraseDups] at hnew
  have hone : ([x].filterMap (·.found? m)).removeAll (notes.filterMap (·.found? m)) = [f] := by
    simpa [List.removeAll, hx] using hnew
  rw [List.filterMap_append, List.eraseDups_append, hone]
  rfl

theorem found_nodup (notes : List Lookup) (m : LoadedModule) : (found notes m).Nodup := by
  induction notes using List.reverseRecOn with
  | nil => exact List.nodup_nil
  | append_singleton notes x ih =>
    by_cases h : ∀ f, x.found? m = some f → f ∈ found notes m
    · rw [found_concat_of_forall h]
      exact ih
    · push Not at h
      obtain ⟨f, hx, hnew⟩ := h
      rw [found_concat_of_not_mem hx hnew]
      refine List.nodup_append.mpr ⟨ih, List.nodup_singleton f, fun g hg f' hf' => ?_⟩
      rw [List.mem_singleton.mp hf']
      exact fun heq => hnew (heq ▸ hg)

end Found

theorem name_of_answerOf {exe : Executable} {name : String} {f : KernelFunction}
    (h : answerOf exe name = .ok f) : f.name = name := by
  unfold answerOf at h
  cases hfit : fitting exe name (·.isKernel) with
  | error e =>
    rw [hfit] at h
    cases h
  | ok x =>
    rw [hfit] at h
    cases h
    rfl

namespace Session

variable {book book' : ExecutableHandle → Executable} {notes new : List Lookup}
  {s t : Session Simulator} {m : LoadedModule}

/-- The book agrees with all lookups, and the modules remember what was found in them. -/
structure Noted (book : ExecutableHandle → Executable) (notes : List Lookup)
    (s : Session Simulator) : Prop where
  passed : ∀ x ∈ notes, s.world.accelerator.Passed (.executable x.module.executable)
  agrees : ∀ x ∈ notes, Agrees (book x.module.executable) x.name x.answer
  functions : ∀ m ∈ s.modules,
    m.functions = if m.released.executable then [] else found notes m.pristine

namespace Noted

/-- What a module remembers was found by a lookup, under the function's own name. -/
theorem answerOf (h : s.Noted book notes) (hm : m ∈ s.modules) {f : KernelFunction}
    (hf : f ∈ m.functions) : Simulator.answerOf (book m.executable) f.name = .ok f := by
  rw [h.functions m hm] at hf
  split at hf
  · cases hf
  · obtain ⟨x, hx, hmodule, hanswer⟩ := mem_found_iff.mp hf
    have hfound := (h.agrees x hx).found f hanswer
    rw [hmodule] at hfound
    rw [name_of_answerOf hfound]
    exact hfound

theorem known (h : s.Noted book notes) (hm : m ∈ s.modules) {name : String} {f : KernelFunction}
    (hknown : m.known? name = some f) : f.name = name ∧ f ∈ m.functions ∧
      Simulator.answerOf (book m.executable) name = .ok f := by
  have hname : f.name = name := eq_of_beq (List.find?_some hknown :)
  have hmem : f ∈ m.functions := List.mem_of_find?_eq_some hknown
  exact ⟨hname, hmem, hname ▸ h.answerOf hm hmem⟩

/-- The book agrees with a new lookup too. -/
theorem agrees_lookup (h : s.Noted book notes) (hstanding : s.Standing book) (hm : m ∈ s.modules)
    {name : String} {r : Except LoadError (KernelFunction × LoadedModule)}
    (hr : LookedUp s.world.accelerator m name r) :
    Agrees (book m.executable) name (r.map (·.1)) := by
  have hstands := hstanding.stands m hm
  cases hr with
  | failed hmissing =>
    refine ⟨nofun, fun n hn => ?_⟩
    cases hn
    obtain ⟨exe, hexe, hnone⟩ := hmissing ⟨n, rfl⟩
    rw [← hstands.eq hexe]
    exact hnone
  | known hlive hknown =>
    refine ⟨fun f hf => ?_, nofun⟩
    cases hf
    exact (h.known hm hknown).2.2
  | learned hlive hnew hexe hanswer =>
    refine ⟨fun f hf => ?_, nofun⟩
    cases hf
    rw [← hstands.eq hexe]
    exact hanswer

/-- A module after a lookup remembers what was found in it, the new function included. -/
theorem functions_lookup (h : s.Noted book notes) (hm : m ∈ s.modules) {name : String}
    {r : Except LoadError (KernelFunction × LoadedModule)}
    (hr : LookedUp s.world.accelerator m name r) :
    let m' := (r.map (·.2)).toOption.getD m
    m'.functions = if m'.released.executable then [] else
      found (notes ++ [{ module := m.pristine, name, answer := r.map (·.1) }]) m'.pristine := by
  have hfunctions := h.functions m hm
  cases hr with
  | @failed e hmissing =>
    have hsame : found (notes ++ [{ module := m.pristine, name, answer := .error e }]) m.pristine =
        found notes m.pristine := by
      refine found_concat_of_forall fun f hf => ?_
      cases (Lookup.found?_eq_some_iff.mp hf).2
    exact hfunctions.trans (congrArg (if m.released.executable then [] else ·) hsame.symm)
  | @known f hlive hknown =>
    have hmem := (h.known hm hknown).2.1
    rw [hfunctions, hlive] at hmem
    have hsame : found (notes ++ [{ module := m.pristine, name, answer := .ok f }]) m.pristine =
        found notes m.pristine := by
      refine found_concat_of_forall fun g hg => ?_
      cases (Lookup.found?_eq_some_iff.mp hg).2
      exact hmem
    exact hfunctions.trans (congrArg (if m.released.executable then [] else ·) hsame.symm)
  | @learned f exe hlive hnew hexe hanswer =>
    rw [hlive] at hfunctions
    have hfresh : f ∉ found notes m.pristine := by
      intro hmem
      have hne := List.find?_eq_none.mp hnew f (hfunctions.symm ▸ hmem)
      exact hne (beq_iff_eq.mpr (name_of_answerOf hanswer))
    have hgrown : found (notes ++ [{ module := m.pristine, name, answer := .ok f }]) m.pristine =
        found notes m.pristine ++ [f] :=
      found_concat_of_not_mem (Lookup.found?_eq_some_iff.mpr ⟨rfl, rfl⟩) hfresh
    show m.functions ++ [f] = if m.released.executable then [] else _
    rw [hlive, hfunctions]
    exact hgrown.symm

/-- After a lookup all modules remember what was found in them. -/
theorem functions_asked (h : s.Noted book notes) (ht : t.Standing book') {index : Nat}
    {m₀ m' : LoadedModule} {name : String} {r : Except LoadError (KernelFunction × LoadedModule)}
    (hm₀ : s.modules[index]? = some m₀) (hr : LookedUp s.world.accelerator m₀ name r)
    (hm' : m' = (r.map (·.2)).toOption.getD m₀) (hmodules : t.modules = s.modules.set index m')
    (hm : m ∈ t.modules) :
    m.functions = if m.released.executable then [] else
      found (notes ++ [{ module := m₀.pristine, name, answer := r.map (·.1) }]) m.pristine := by
  have hasked := h.functions_lookup (List.mem_of_getElem? hm₀) hr
  have hkept : m'.executable = m₀.executable := by
    subst hm'
    exact congrArg (·.executable) hr.pristine
  have hthere : m' ∈ t.modules := by
    rw [hmodules]
    exact List.mem_set (List.getElem?_eq_some_iff.mp hm₀).1 m'
  by_cases hsame : m.executable = m'.executable
  · obtain rfl := ht.eq_of_executable hthere hm hsame
    rw [← hm'] at hasked
    exact hasked
  · -- the lookup was in another module
    have hnothing : found (notes ++ [{ module := m₀.pristine, name, answer := r.map (·.1) }])
        m.pristine = found notes m.pristine := by
      refine found_concat_of_forall fun f hf => ?_
      have hmodule := congrArg (·.executable) (Lookup.found?_eq_some_iff.mp hf).1
      exact absurd (hmodule.symm.trans hkept.symm) hsame
    rw [hnothing]
    obtain hm | rfl := List.mem_or_eq_of_mem_set (hmodules ▸ hm)
    · exact h.functions m hm
    · exact absurd rfl hsame

/-- No lookup was in a module that is new. -/
theorem functions_loaded (h : s.Noted book notes)
    (hnew : New s.world.accelerator m t.world.accelerator) :
    m.functions = if m.released.executable then [] else found notes m.pristine := by
  have hnone : found notes m.pristine = [] := by
    refine List.eq_nil_iff_forall_not_mem.mpr fun f hf => ?_
    obtain ⟨x, hx, hmodule, -⟩ := mem_found_iff.mp hf
    have hpast := h.passed x hx
    rw [hmodule] at hpast
    exact absurd hnew.fresh (Nat.not_lt_of_le hpast)
  rw [hnew.functions, hnew.released, hnone]
  rfl

/-- An unload that stops lets a module forget all functions or none. -/
theorem functions_stopped (h : s.Noted book notes) {m₀ : LoadedModule} (hm₀ : m₀ ∈ s.modules)
    (hstopped : Stopped m₀ m) :
    m.functions = if m.released.executable then [] else found notes m.pristine := by
  rw [hstopped.pristine]
  obtain ⟨hfunctions, hreleased⟩ | ⟨hfunctions, hreleased⟩ := hstopped.functions
  · rw [hfunctions, hreleased]
    exact h.functions m₀ hm₀
  · rw [hfunctions, hreleased]
    rfl

/-- **Lookups are noted**, and nothing else changes what modules remember but unloads. -/
theorem move (h : s.Noted book notes) (hstanding : s.Standing book) (hmove : s.Move new t)
    (ht : t.Standing book') (hreaches : s.world.accelerator.Reaches t.world.accelerator)
    (hbook : ∀ e, s.world.accelerator.Passed (.executable e) → book' e = book e) :
    t.Noted book' (notes ++ new) := by
  -- what was noted before is still so
  have hpassed : ∀ x ∈ notes, t.world.accelerator.Passed (.executable x.module.executable) :=
    fun x hx => hreaches.passed hstanding.reachable (h.passed x hx)
  have hagrees : ∀ x ∈ notes, Agrees (book' x.module.executable) x.name x.answer :=
    fun x hx => (hbook _ (h.passed x hx)).symm ▸ h.agrees x hx
  have hquiet : (∀ m ∈ t.modules,
      m.functions = if m.released.executable then [] else found notes m.pristine) →
        t.Noted book' (notes ++ []) := by
    intro hfunctions
    rw [List.append_nil]
    exact ⟨hpassed, hagrees, hfunctions⟩
  cases hmove with
  | still hmodules => exact hquiet fun m hm => h.functions m (hmodules ▸ hm)
  | unloaded hmodules =>
    exact hquiet fun m hm => h.functions m (List.mem_of_mem_eraseIdx (hmodules ▸ hm))
  | loaded hnew hmodules =>
    refine hquiet fun m hm => ?_
    rw [hmodules, List.mem_append, List.mem_singleton] at hm
    obtain hm | rfl := hm
    · exact h.functions m hm
    · exact h.functions_loaded hnew
  | stopped hm₀ hstopped hmodules =>
    refine hquiet fun m hm => ?_
    obtain hm | rfl := List.mem_or_eq_of_mem_set (hmodules ▸ hm)
    · exact h.functions m hm
    · exact h.functions_stopped (List.mem_of_getElem? hm₀) hstopped
  | @asked index m₀ m' name r _ hm₀ hr hm' hmodules =>
    have hmem := List.mem_of_getElem? hm₀
    have hpast := (hstanding.stands m₀ hmem).passed
    refine ⟨fun x hx => ?_, fun x hx => ?_, fun m hm => ?_⟩
    · rw [List.mem_append, List.mem_singleton] at hx
      obtain hx | rfl := hx
      · exact hpassed x hx
      · exact hreaches.passed hstanding.reachable hpast
    · rw [List.mem_append, List.mem_singleton] at hx
      obtain hx | rfl := hx
      · exact hagrees x hx
      · exact (hbook _ hpast).symm ▸ h.agrees_lookup hstanding hmem hr
    · exact h.functions_asked ht hm₀ hr hm' hmodules hm

end Noted

end Session

/-- What can become of the functions of a module when a request makes the lookups `new`: nothing, or
one more that was never found in the module before, or none is left because the executable is
gone. -/
inductive Grown (notes new : List Lookup) (m m' : LoadedModule) : Prop
  | same (h : m'.functions = m.functions)
  | first {x : Lookup} {f : KernelFunction} (hnew : new = [x]) (hmodule : x.module = m.pristine)
      (hanswer : x.answer = .ok f)
      (hfirst : ∀ y ∈ notes, y.module = m.pristine → y.name = x.name → ∀ g, y.answer ≠ .ok g)
      (h : m'.functions = m.functions ++ [f])
  | gone (hgone : m'.released.executable = true) (h : m'.functions = [])

namespace Session.Noted

variable {book : ExecutableHandle → Executable} {notes new : List Lookup}
  {s t : Session Simulator} {m m' : LoadedModule}

theorem grown_lookup (h : s.Noted book notes) (hm : m ∈ s.modules) {name : String}
    {r : Except LoadError (KernelFunction × LoadedModule)}
    (hr : LookedUp s.world.accelerator m name r) :
    Grown notes [{ module := m.pristine, name, answer := r.map (·.1) }] m
      ((r.map (·.2)).toOption.getD m) := by
  cases hr with
  | failed _ => exact .same rfl
  | known _ _ => exact .same rfl
  | learned hlive hnew _ _ =>
    refine .first rfl rfl rfl (fun y hy hmodule hname g hg => ?_) rfl
    -- an earlier lookup would have left the function in the module
    have hmem : g ∈ m.functions := by
      rw [h.functions m hm, hlive]
      exact mem_found_iff.mpr ⟨y, hy, hmodule, hg⟩
    have hsame : g.name = name := (name_of_answerOf ((h.agrees y hy).found g hg)).trans hname
    exact List.find?_eq_none.mp hnew g hmem (beq_iff_eq.mpr hsame)

/-- **The list grows only by a function that is found for the first time.** -/
theorem grown (h : s.Noted book notes) (hstanding : s.Standing book) (hmove : s.Move new t)
    (hm : m ∈ s.modules) (hm' : m' ∈ t.modules) (hsame : m'.pristine = m.pristine) :
    Grown notes new m m' := by
  have hexecutable : m'.executable = m.executable := congrArg (·.executable) hsame
  have hold : m' ∈ s.modules → Grown notes new m m' := by
    intro hm'
    rw [hstanding.eq_of_executable hm hm' hexecutable]
    exact .same rfl
  cases hmove with
  | still hmodules => exact hold (hmodules ▸ hm')
  | unloaded hmodules => exact hold (List.mem_of_mem_eraseIdx (hmodules ▸ hm'))
  | @loaded m₀ _ hnew hmodules =>
    rw [hmodules, List.mem_append, List.mem_singleton] at hm'
    obtain hm' | rfl := hm'
    · exact hold hm'
    · have hpast := (hstanding.stands m hm).passed
      rw [← hexecutable] at hpast
      exact absurd hnew.fresh (Nat.not_lt_of_le hpast)
  | @stopped index m₀ m₁ _ hm₀ hstopped hmodules =>
    obtain hm' | rfl := List.mem_or_eq_of_mem_set (hmodules ▸ hm')
    · exact hold hm'
    · have hpristine := congrArg (·.executable) (hstopped.pristine.symm.trans hsame)
      obtain rfl := hstanding.eq_of_executable hm (List.mem_of_getElem? hm₀) hpristine
      obtain ⟨hfunctions, -⟩ | ⟨hfunctions, hgone⟩ := hstopped.functions
      · exact .same hfunctions
      · exact .gone hgone hfunctions
  | @asked index m₀ m₁ name r _ hm₀ hr hm₁ hmodules =>
    obtain hm' | rfl := List.mem_or_eq_of_mem_set (hmodules ▸ hm')
    · exact hold hm'
    · have hkept : m'.executable = m₀.executable := by
        subst hm₁
        exact congrArg (·.executable) hr.pristine
      obtain rfl := hstanding.eq_of_executable hm (List.mem_of_getElem? hm₀)
        (hkept.symm.trans hexecutable)
      rw [hm₁]
      exact h.grown_lookup hm hr

/-- No two functions of a module have one name. -/
theorem names_nodup (h : s.Noted book notes) (hm : m ∈ s.modules) :
    (m.functions.map (·.name)).Nodup := by
  refine List.Nodup.map_on (fun f hf g hg hname => ?_) ?_
  · have hfound := h.answerOf hm hf
    rw [hname, h.answerOf hm hg] at hfound
    exact (Except.ok.inj hfound).symm
  · rw [h.functions m hm]
    split
    · exact List.nodup_nil
    · exact found_nodup _ _

/-- A function that was found is the one that the module remembers under that name. -/
theorem known_of_found (h : s.Noted book notes) (hm : m ∈ s.modules)
    (hlive : m.released.executable = false) {x : Lookup} (hx : x ∈ notes)
    (hmodule : x.module = m.pristine) {f : KernelFunction} (hanswer : x.answer = .ok f) :
    m.known? x.name = some f := by
  have hfound := (h.agrees x hx).found f hanswer
  have hmem : f ∈ m.functions := by
    rw [h.functions m hm, hlive]
    exact mem_found_iff.mpr ⟨x, hx, hmodule, hanswer⟩
  have hsome : (m.known? x.name).isSome := by
    unfold LoadedModule.known?
    rw [List.find?_isSome]
    exact ⟨f, hmem, beq_iff_eq.mpr (name_of_answerOf hfound)⟩
  obtain ⟨g, hg⟩ := Option.isSome_iff_exists.mp hsome
  -- the name has one answer only
  have hsame := (h.known hm hg).2.2
  rw [hmodule] at hfound
  rw [hg]
  exact congrArg some (Except.ok.inj (hsame.symm.trans hfound))

end Session.Noted

namespace Fleet

variable {settings : LoaderSettings} {hooks : LaunchHooks} {notes : List Lookup}
  {f : Fleet Simulator}

theorem Ran.noted (h : Ran settings hooks notes f) :
    ∃ book, f.session.Standing book ∧ f.session.Noted book notes := by
  induction h with
  | start hasRegion host =>
    refine ⟨fun _ => {}, start_standing hasRegion host, ?_, ?_, ?_⟩
    · exact fun _ hx => absurd hx List.not_mem_nil
    · exact fun _ hx => absurd hx List.not_mem_nil
    · exact fun _ hm => absurd hm List.not_mem_nil
  | @requested notes f _ r ih =>
    obtain ⟨book, hstanding, hnoted⟩ := ih
    obtain ⟨book', ht, hbook⟩ :
        ∃ book', (f.step (Simulator.rig settings hooks) r).session.Standing book' ∧
          ∀ e, f.session.world.accelerator.Passed (.executable e) → book' e = book e :=
      standing_step hstanding r
    exact ⟨book', ht, hnoted.move hstanding (step_move f r) ht (step_reaches f r) hbook⟩
  | @operated notes f _ t o ih =>
    obtain ⟨book, hstanding, hnoted⟩ := ih
    have ht := standing_operate hstanding o
    have hstill : f.session.Move [] (f.operate t).session := .still rfl
    have hmoved := hnoted.move hstanding hstill ht (fun _ hP => hP _ _ o) fun _ _ => rfl
    rw [List.append_nil] at hmoved
    exact ⟨book, ht, hmoved⟩

/-- **Functions are looked up once.** At any time of any run the functions that a module remembers
have different names, and as long as it has its executable they are those that lookups have found,
in the order in which they were found first; a request adds a function only by finding it for the
first time. What was found once is answered again by any loader in any world, without a change to
that world. No name is both found in a module and missing in it. -/
theorem Ran.memoized (h : Ran settings hooks notes f) :
    (∀ m ∈ f.session.modules, (m.functions.map (·.name)).Nodup ∧
      (m.functions = if m.released.executable then [] else found notes m.pristine) ∧
      (∀ r, ∀ m' ∈ (f.step (Simulator.rig settings hooks) r).session.modules,
        m'.pristine = m.pristine →
          Grown notes (f.lookups (Simulator.rig settings hooks) r) m m') ∧
      (m.released.executable = false → ∀ x ∈ notes, x.module = m.pristine →
        ∀ fn, x.answer = .ok fn → ∀ (σ : Type) (l : Loader σ) (device : Device) (w : World σ),
          l.getFunction (some device) m x.name w = (.ok (fn, m), w))) ∧
    ∀ x ∈ notes, ∀ y ∈ notes, x.module = y.module → x.name = y.name →
      ∀ fn n, x.answer = .ok fn → y.answer ≠ .error (.symbolNotFound n) := by
  obtain ⟨book, hstanding, hnoted⟩ := h.noted
  refine ⟨fun m hm => ⟨hnoted.names_nodup hm, hnoted.functions m hm, ?_, ?_⟩, ?_⟩
  · intro r m' hm' hsame
    exact hnoted.grown hstanding (step_move f r) hm hm' hsame
  · intro hlive x hx hmodule fn hanswer σ l device w
    exact l.getFunction_known hlive (hnoted.known_of_found hm hlive hx hmodule hanswer) device w
  · intro x hx y hy hmodule hname fn n hfound hmissing
    have hanswer := (hnoted.agrees x hx).found fn hfound
    rw [hmodule, hname] at hanswer
    exact (hnoted.agrees y hy).missing n hmissing fn hanswer

/-- Two kernels in memory. -/
def kernelPair : Elf.Draft where
  text := [0x90]
  symbols := [.function "vadd" 0x10 8, .function "vmul" 0x18 8]

/-- The program that loads them and asks for both, with a name that is missing in between. -/
def pairRequests : List FleetRequest :=
  let device : Option Device := some ⟨0, ⟨0xa600⟩, ⟨0x9000⟩⟩
  [.create {} .default none, .through 0 (.load device (.memory kernelPair.encode)),
    .through 0 (.getFunction device 0 "vmul"), .through 0 (.getFunction device 0 "vsub"),
    .through 0 (.getFunction device 0 "vadd")]

/-- Both kernels are remembered in the order in which they were found. -/
theorem kernelPair_memoized :
    ∃ notes f, Ran {} .default notes f ∧ ∃ m ∈ f.session.modules,
      m.functions.map (·.name) = ["vmul", "vadd"] ∧
      m.functions = if m.released.executable then [] else found notes m.pristine := by
  let f : Fleet Simulator :=
    run (Simulator.rig {} .default) (start { hasRegion := true } ⟨⟨[], []⟩, ""⟩) pairRequests
  have hnames : f.session.modules.map (fun m => m.functions.map (·.name)) = [["vmul", "vadd"]] := by
    decide +kernel
  have hmem : ["vmul", "vadd"] ∈ f.session.modules.map fun m => m.functions.map (·.name) := by
    rw [hnames]
    exact List.mem_singleton_self _
  obtain ⟨m, hm, hmnames⟩ := List.mem_map.mp hmem
  obtain ⟨notes, h⟩ : ∃ notes, Ran {} .default notes f := ran_run true _ pairRequests
  exact ⟨notes, f, h, m, hm, hmnames, (h.memoized.1 m hm).2.1⟩

end Fleet

end DeviceCode

import DeviceCode.Proofs.Books
import DeviceCode.Proofs.Leads
import DeviceCode.Proofs.Ledger

/-!
# The calls of an unload

An unload waits for the module's agent and then gives back what the module still has, in the order
of `LoadedModule.kept`. So its calls are known before it is run, up to the point where the first of
them fails; and the module that comes back then has exactly what was not given back (`Halted`).

None of this depends on the accelerator.
-/

namespace DeviceCode

/-- The call that has given it back. -/
def Resource.returned (k : Resource) : Call := (k.gone, true)

namespace LoadedModule

/-- What a module still has, in the order in which unloads release it. -/
def kept (m : LoadedModule) : List Resource :=
  m.executable?.toList.map .executable ++
    (m.codeObject?.toList.map .codeObject ++ m.allocation?.toList.map .allocation)

/-- A module with a note about its releases. -/
def noting (m : LoadedModule) (note : Released → Released) : LoadedModule :=
  { m with released := note m.released }

variable {m : LoadedModule} {d : DeviceImage}

/-- Noting a release takes it out of what is kept. -/
theorem kept_of_executable (h : ¬ m.released.executable = true) :
    m.kept = .executable m.executable :: (m.noting ({ · with executable := true })).kept := by
  unfold kept
  rw [executable?_of_not h]
  rfl

theorem kept_of_codeObject (hgone : m.executable? = none) (hd : m.deviceImage = some d)
    (h : ¬ m.released.codeObject = true) :
    m.kept = .codeObject d.codeObject :: (m.noting ({ · with codeObject := true })).kept := by
  have hgone' : (m.noting ({ · with codeObject := true })).executable? = none := hgone
  unfold kept
  rw [hgone, hgone', codeObject?_of_not h hd]
  rfl

theorem kept_of_allocation (hgone : m.executable? = none) (hcode : m.codeObject? = none)
    (hd : m.deviceImage = some d) (h : ¬ m.released.deviceImage = true) :
    m.kept = .allocation d.address :: (m.noting ({ · with deviceImage := true })).kept := by
  have hgone' : (m.noting ({ · with deviceImage := true })).executable? = none := hgone
  have hcode' : (m.noting ({ · with deviceImage := true })).codeObject? = none := hcode
  unfold kept
  rw [hgone, hgone', hcode, hcode', allocation?_of_not h hd]
  rfl

/-- The executable is kept until its release is noted. -/
theorem executable_mem_kept_iff :
    .executable m.executable ∈ m.kept ↔ m.released.executable = false := by
  unfold kept executable?
  cases m.released.executable <;> simp

theorem kept_nodup (m : LoadedModule) : m.kept.Nodup := by
  unfold kept
  cases m.executable? <;> cases m.codeObject? <;> cases m.allocation? <;> simp

theorem Spent.kept_eq (h : m.Spent) : m.kept = [] := by
  unfold kept
  rw [h.executable, h.codeObject, h.allocation]
  rfl

end LoadedModule

variable {σ α : Type}

/-- The calls after those of an unload that has given back `done`. -/
def LoadedModule.unloadCalls (m : LoadedModule) (calls : List Call) (done : List Resource) :
    List Call :=
  calls ++ (.synchronize m.agent, true) :: done.map (·.returned)

/-- What an unload has called when it stops, and the module that it comes back with. -/
inductive Halted (calls : List Call) (m : LoadedModule) : LoadedModule → List Call → Prop
  /-- The agent did not come to rest. -/
  | waiting : Halted calls m m (calls ++ [(.synchronize m.agent, false)])
  /-- Something could not be given back. -/
  | releasing {m' : LoadedModule} {done : List Resource} {k : Resource} {rest : List Resource}
      (hpristine : m'.pristine = m.pristine) (hkept : m.kept = done ++ m'.kept)
      (hleft : m'.kept = k :: rest) :
      Halted calls m m' (m.unloadCalls calls done ++ [(k.gone, false)])

/-- It is the same module, but for what was released. -/
theorem Halted.pristine_eq {calls calls' : List Call} {m m' : LoadedModule}
    (h : Halted calls m m' calls') : m'.pristine = m.pristine := by
  cases h with
  | waiting => rfl
  | releasing hpristine => exact hpristine

/-- An unload whose calls have succeeded so far. -/
structure Releasing (w₀ : World (Chronicled σ)) (m₀ : LoadedModule)
    (p : UnloadProgress (Chronicled σ)) : Prop where
  pristine : p.module.pristine = m₀.pristine
  loader : p.world.loader = w₀.loader
  calls : ∃ done, m₀.kept = done ++ p.module.kept ∧
    p.world.accelerator.calls = m₀.unloadCalls w₀.accelerator.calls done

/-- An unload one of whose calls has failed. -/
def Stuck (w₀ : World (Chronicled σ)) (m₀ : LoadedModule) (p : UnloadProgress (Chronicled σ)) :
    Prop :=
  p.world.loader = w₀.loader ∧
    Halted w₀.accelerator.calls m₀ p.module p.world.accelerator.calls

/-- A call that is written down however it ends. -/
theorem Ends.always {call : σ → Reply σ α} {entry : JournalEntry}
    {Q : α → Chronicled σ → Prop} {E : Chronicled σ → Prop} {s : Chronicled σ}
    (hok : ∀ a t, t.calls = s.calls ++ [(entry, true)] → Q a t)
    (herror : ∀ t, t.calls = s.calls ++ [(entry, false)] → E t) :
    Ends Q E (Chronicled.pass call (Chronicled.always entry) s) := by
  unfold Chronicled.pass
  rcases call s.inner with ⟨e | a, t⟩
  · exact herror _ rfl
  · exact hok _ _ rfl

/-- A call in an unload, by what the accelerator answers. -/
theorem Ends.unload_call {f : σ → Reply σ α} {Q : α → UnloadProgress σ → Prop}
    {E : UnloadProgress σ → Prop} {p : UnloadProgress σ}
    (h : Ends (fun a s => Q a { p with world := { p.world with accelerator := s } })
      (fun s => E { p with world := { p.world with accelerator := s } })
      (f p.world.accelerator)) :
    Ends Q E (UnloadStep.call f p) := by
  unfold UnloadStep.call
  rcases hcall : f p.world.accelerator with ⟨e | a, s⟩
  all_goals
    rw [hcall] at h
    rw [World.run_call hcall]
    exact h

/-- Such a call that is written down. -/
theorem UnloadStep.call_ends {call : σ → Reply σ α} {entry : JournalEntry}
    {Q : α → UnloadProgress (Chronicled σ) → Prop} {E : UnloadProgress (Chronicled σ) → Prop}
    {p : UnloadProgress (Chronicled σ)}
    (hok : ∀ a q, q.module = p.module → q.world.loader = p.world.loader →
      q.world.accelerator.calls = p.world.accelerator.calls ++ [(entry, true)] → Q a q)
    (herror : ∀ q, q.module = p.module → q.world.loader = p.world.loader →
      q.world.accelerator.calls = p.world.accelerator.calls ++ [(entry, false)] → E q) :
    Ends Q E (UnloadStep.call (Chronicled.pass call (Chronicled.always entry)) p) :=
  .unload_call (.always (fun a _ hcalls => hok a _ rfl rfl hcalls)
    fun _ hcalls => herror _ rfl rfl hcalls)

namespace Releasing

variable {w₀ : World (Chronicled σ)} {m₀ : LoadedModule} {p : UnloadProgress (Chronicled σ)}
  {k : Resource} {note : Released → Released}

theorem deviceImage_eq (h : Releasing w₀ m₀ p) : p.module.deviceImage = m₀.deviceImage :=
  congrArg (·.deviceImage) h.pristine

/-- Give back what comes next, and note it. -/
theorem release (h : Releasing w₀ m₀ p) {release : σ → Reply σ Unit}
    (hkept : p.module.kept = k :: (p.module.noting note).kept) :
    Ends (fun _ q => Releasing w₀ m₀ q ∧ q.module = p.module.noting note) (Stuck w₀ m₀)
      ((UnloadStep.call (Chronicled.pass release (Chronicled.always k.gone)) >>=
        fun _ => UnloadStep.note note) p) := by
  obtain ⟨done, hdone, hcalls⟩ := h.calls
  refine Ends.bind (Q := fun _ q => q.module = p.module ∧ q.world.loader = w₀.loader ∧
    q.world.accelerator.calls = m₀.unloadCalls w₀.accelerator.calls (done ++ [k])) ?_ ?_
  · refine UnloadStep.call_ends (fun _ q hm hl hc => ⟨hm, hl.trans h.loader, ?_⟩)
      fun q hm hl hc => ⟨hl.trans h.loader, ?_⟩
    · rw [hc, hcalls]
      unfold LoadedModule.unloadCalls
      rw [List.map_append, List.append_assoc]
      rfl
    · rw [hm, hc, hcalls]
      exact .releasing h.pristine hdone hkept
  · rintro _ q ⟨hm, hl, hc⟩
    refine ⟨⟨?_, hl, done ++ [k], ?_, hc⟩, congrArg (·.noting note) hm⟩
    · show (q.module.noting note).pristine = _
      rw [hm]
      exact h.pristine
    · show m₀.kept = _ ++ (q.module.noting note).kept
      rw [hm, hdone, hkept, List.append_assoc]
      rfl

/-- Forgetting the functions is no release. -/
theorem forget (h : Releasing w₀ m₀ p) :
    Releasing w₀ m₀ { p with module := { p.module with functions := [] } } :=
  { h with }

end Releasing

namespace Loader

variable {w₀ : World (Chronicled σ)} {m₀ : LoadedModule} (l : Loader σ)

theorem releaseExecutable_calls :
    Leads (Releasing w₀ m₀) l.chronicle.releaseExecutable
      (fun _ p => Releasing w₀ m₀ p ∧ p.module.executable? = none) (Stuck w₀ m₀) := by
  refine Leads.get_bind fun p hp => ?_
  by_cases hreleased : p.module.released.executable = true
  · rw [if_pos hreleased]
    exact ⟨hp, LoadedModule.executable?_of_released hreleased⟩
  · rw [if_neg hreleased]
    refine (hp.release (LoadedModule.kept_of_executable hreleased)).imp ?_ fun _ hq => hq
    rintro _ q ⟨hq, hm⟩
    exact ⟨hq, by rw [hm]; rfl⟩

/-- A module loaded from memory whose executable was given back. -/
def Releasing.Imaged (w₀ : World (Chronicled σ)) (m₀ : LoadedModule) (d : DeviceImage)
    (p : UnloadProgress (Chronicled σ)) : Prop :=
  Releasing w₀ m₀ p ∧ p.module.deviceImage = some d ∧ p.module.executable? = none

theorem releaseCodeObject_calls (d : DeviceImage) :
    Leads (Releasing.Imaged w₀ m₀ d) (l.chronicle.releaseCodeObject d)
      (fun _ p => Releasing.Imaged w₀ m₀ d p ∧ p.module.codeObject? = none) (Stuck w₀ m₀) := by
  refine Leads.get_bind fun p hp => ?_
  obtain ⟨hr, hd, hgone⟩ := hp
  by_cases hreleased : p.module.released.codeObject = true
  · rw [if_pos hreleased]
    exact ⟨⟨hr, hd, hgone⟩, LoadedModule.codeObject?_of_released hreleased⟩
  · rw [if_neg hreleased]
    refine (hr.release (LoadedModule.kept_of_codeObject hgone hd hreleased)).imp ?_ fun _ hq => hq
    rintro _ q ⟨hq, hm⟩
    exact ⟨⟨hq, by rw [hm]; exact hd, by rw [hm]; exact hgone⟩, by rw [hm]; rfl⟩

theorem releaseDeviceImage_calls (d : DeviceImage) :
    Leads (fun p => Releasing.Imaged w₀ m₀ d p ∧ p.module.codeObject? = none)
      (l.chronicle.releaseDeviceImage d)
      (fun _ p => Releasing w₀ m₀ p ∧ p.module.Spent) (Stuck w₀ m₀) := by
  refine Leads.get_bind fun p hp => ?_
  obtain ⟨⟨hr, hd, hgone⟩, hcode⟩ := hp
  by_cases hreleased : p.module.released.deviceImage = true
  · rw [if_pos hreleased]
    exact ⟨hr, hgone, hcode, LoadedModule.allocation?_of_released hreleased⟩
  · rw [if_neg hreleased]
    refine (hr.release (LoadedModule.kept_of_allocation hgone hcode hd hreleased)).imp ?_
      fun _ hq => hq
    rintro _ q ⟨hq, hm⟩
    exact ⟨hq, by rw [hm]; exact hgone, by rw [hm]; exact hcode, by rw [hm]; rfl⟩

/-- The calls of all steps, in their order. -/
theorem releaseSteps_calls (m : LoadedModule) (w : World (Chronicled σ)) :
    Ends (fun _ p => Releasing w m p ∧ p.module.Spent) (Stuck w m)
      (l.chronicle.releaseSteps { module := m, world := w }) := by
  unfold releaseSteps
  refine Ends.get (Ends.bind (Q := fun _ p => Releasing w m p ∧ p.module = m) ?_ ?_)
  · refine UnloadStep.call_ends (fun _ q hm hl hc => ⟨⟨?_, hl, [], ?_, hc⟩, hm⟩)
      fun q hm hl hc => ⟨hl, ?_⟩
    · rw [hm]
    · rw [hm, List.nil_append]
    · rw [hm, hc]
      exact .waiting
  rintro _ p ⟨hp, hm⟩
  refine (releaseExecutable_calls l p hp).bind fun _ q hq => ?_
  -- the functions are forgotten next, which is no call
  have hforgot : Releasing w m { q with module := { q.module with functions := [] } } :=
    hq.1.forget
  cases hd : m.deviceImage with
  | none =>
    have hnone : q.module.deviceImage = none := by rw [hq.1.deviceImage_eq, hd]
    exact ⟨hforgot, hq.2, LoadedModule.codeObject?_of_file hnone,
      LoadedModule.allocation?_of_file hnone⟩
  | some d =>
    have himaged : Releasing.Imaged w m d { q with module := { q.module with functions := [] } } :=
      ⟨hforgot, by rw [hforgot.deviceImage_eq, hd], hq.2⟩
    refine ((releaseCodeObject_calls l d).bind fun _ => ?_) _ himaged
    exact (releaseDeviceImage_calls l d).bind fun _ => Leads.pure fun _ hq => hq

/-- **The calls of an unload**: all that the module has is given back in order, or the first call
that fails is the last one, and what the module then has is what was not given back. -/
theorem unload_calls (m : LoadedModule) (w : World (Chronicled σ)) :
    (∃ w', l.chronicle.unload m w = (.ok (), w') ∧
        w'.accelerator.calls = m.unloadCalls w.accelerator.calls m.kept ∧
        w'.loader = { w.loader with residency := w.loader.residency.release m.id }) ∨
      ∃ e w', l.chronicle.unload m w = (.error e, w') ∧ w'.loader = w.loader ∧
        Halted w.accelerator.calls m e.module w'.accelerator.calls := by
  have hsteps := releaseSteps_calls l m w
  unfold unload
  rcases hrun : l.chronicle.releaseSteps { module := m, world := w } with ⟨e | functions, p⟩
  · rw [hrun] at hsteps
    exact .inr ⟨_, _, rfl, hsteps.1, hsteps.2⟩
  · rw [hrun] at hsteps
    obtain ⟨hr, hspent⟩ := hsteps
    obtain ⟨done, hdone, hcalls⟩ := hr.calls
    rw [hspent.kept_eq, List.append_nil] at hdone
    refine .inl ⟨_, rfl, ?_, ?_⟩
    · rw [hdone]
      exact hcalls
    · rw [← hr.loader]

end Loader

end DeviceCode

import DeviceCode.Proofs.UnloadCalls

/-!
# Unloads that nothing can stop

What a module still has can be released when it is there and none of the calls that unloads make is
made to fail. Destroying a code object cannot be made to fail at all.
-/

namespace DeviceCode

namespace Simulator

variable {s : Simulator} {k : Resource}

/-- None of the calls that unloads make is made to fail. -/
structure Unhindered (s : Simulator) : Prop where
  synchronize : s.faulty .synchronize = false
  destroyExecutable : s.faulty .destroyExecutable = false
  free : s.faulty .free = false

theorem Unhindered.of_faults {t : Simulator} (h : s.Unhindered) (heq : t.faults = s.faults) :
    t.Unhindered := by
  obtain ⟨hsynchronize, hdestroy, hfree⟩ := h
  unfold faulty at *
  rw [← heq] at hsynchronize hdestroy hfree
  exact ⟨hsynchronize, hdestroy, hfree⟩

/-- A call that succeeds, sets no fault, and gives nothing else back. -/
def GivesBack (s : Simulator) (k : Resource) (r : Reply Simulator Unit) : Prop :=
  Ends (fun _ t => t.faults = s.faults ∧ ∀ k', k' ≠ k → s.Holds k' → t.Holds k') (fun _ => False) r

/-- What it does to other things is known from the way it is written down. -/
theorem Succeeds.givesBack {r : Reply Simulator Unit} {t : Simulator} (h : Succeeds r () t)
    (hfaults : t.faults = s.faults)
    (hrecorded : Recorded s (Chronicled.listed? (Chronicled.always k.gone) r.1) r.2) :
    s.GivesBack k r := by
  obtain ⟨journal, loads, rfl⟩ := h
  refine ⟨hfaults, fun k' hne hk' => (hrecorded.holds k').mpr ⟨.inl hk', fun heq => ?_⟩⟩
  exact hne (Resource.gone_inj (Prod.mk.inj (Option.some.inj heq)).1).symm

theorem destroyExecutable_givesBack (h : s.Unhindered) {e : ExecutableHandle}
    (hthere : s.Holds (.executable e)) : s.GivesBack (.executable e) (s.destroyExecutable e) := by
  rcases s.destroyExecutable_cases e with ⟨hfails | hfails, -⟩ | ⟨-, -, hok⟩
  · exact absurd hfails (ne_true_of_eq_false h.destroyExecutable)
  · exact absurd hthere (ne_true_of_eq_false hfails)
  · exact hok.givesBack rfl (s.destroyExecutable_recorded e)

theorem destroyCodeObject_givesBack {c : CodeObjectHandle} (hthere : s.Holds (.codeObject c)) :
    s.GivesBack (.codeObject c) (s.destroyCodeObject c) := by
  rcases s.destroyCodeObject_cases c with ⟨hfails, -⟩ | ⟨-, hok⟩
  · exact absurd hthere (ne_true_of_eq_false hfails)
  · exact hok.givesBack rfl (s.destroyCodeObject_recorded c)

theorem free_givesBack (h : s.Unhindered) {x : Nat} (hthere : s.Holds (.allocation x)) :
    s.GivesBack (.allocation x) (s.free x) := by
  rcases s.free_cases x with ⟨hfails | hfails, -⟩ | ⟨-, -, hok⟩
  · exact absurd hfails (ne_true_of_eq_false h.free)
  · exact absurd hthere (ne_true_of_eq_false hfails)
  · exact hok.givesBack rfl (s.free_recorded x)

end Simulator

open Simulator

/-- An unload that nothing can stop: all that the module has is there. -/
structure Unstoppable (p : UnloadProgress Simulator) : Prop where
  unhindered : p.world.accelerator.Unhindered
  there : ∀ k ∈ p.module.kept, p.world.accelerator.Holds k

namespace Unstoppable

variable {p : UnloadProgress Simulator} {k : Resource} {note : Released → Released}

/-- Give back what comes next, and note it. -/
theorem release (h : Unstoppable p) {release : Simulator → Reply Simulator Unit}
    (hkept : p.module.kept = k :: (p.module.noting note).kept)
    (hgives : p.world.accelerator.GivesBack k (release p.world.accelerator)) :
    Ends (fun _ q => Unstoppable q ∧ q.module = p.module.noting note) (fun _ => False)
      ((UnloadStep.call release >>= fun _ => UnloadStep.note note) p) := by
  refine Ends.bind (Q := fun _ q => q.module = p.module ∧
    q.world.accelerator.Unhindered ∧
    ∀ k' ∈ (p.module.noting note).kept, q.world.accelerator.Holds k') (.unload_call ?_) ?_
  · refine hgives.imp (fun _ t ⟨hfaults, hother⟩ => ?_) fun _ hfalse => hfalse
    refine ⟨rfl, h.unhindered.of_faults hfaults, fun k' hk' => hother k' ?_ (h.there k' ?_)⟩
    · -- a module has nothing twice, so what is left is something else
      have hdistinct := p.module.kept_nodup
      rw [hkept] at hdistinct
      rintro rfl
      exact (List.nodup_cons.mp hdistinct).1 hk'
    · rw [hkept]
      exact List.mem_cons_of_mem _ hk'
  · rintro _ q ⟨hm, hunhindered, hthere⟩
    refine ⟨⟨hunhindered, ?_⟩, congrArg (·.noting note) hm⟩
    show ∀ k' ∈ (q.module.noting note).kept, _
    rw [hm]
    exact hthere

end Unstoppable

namespace Loader

variable (settings : LoaderSettings) (hooks : LaunchHooks)

theorem releaseExecutable_unstoppable {m : LoadedModule} :
    Leads (fun p => Unstoppable p ∧ p.module.deviceImage = m.deviceImage)
      (Simulator.loader settings hooks).releaseExecutable
      (fun _ p => (Unstoppable p ∧ p.module.deviceImage = m.deviceImage) ∧
        p.module.executable? = none) fun _ => False := by
  refine Leads.get_bind fun p hp => ?_
  by_cases hreleased : p.module.released.executable = true
  · rw [if_pos hreleased]
    exact ⟨hp, LoadedModule.executable?_of_released hreleased⟩
  · rw [if_neg hreleased]
    have hkept := LoadedModule.kept_of_executable hreleased
    have hthere := hp.1.there (.executable p.module.executable)
      (by rw [hkept]; exact List.mem_cons_self)
    refine (hp.1.release hkept (destroyExecutable_givesBack hp.1.unhindered hthere)).imp ?_
      fun _ hfalse => hfalse
    rintro _ q ⟨hq, hm⟩
    exact ⟨⟨hq, by rw [hm]; exact hp.2⟩, by rw [hm]; rfl⟩

theorem releaseCodeObject_unstoppable (d : DeviceImage) :
    Leads (fun p => Unstoppable p ∧ p.module.deviceImage = some d ∧ p.module.executable? = none)
      ((Simulator.loader settings hooks).releaseCodeObject d)
      (fun _ p => Unstoppable p ∧ p.module.deviceImage = some d ∧ p.module.executable? = none ∧
        p.module.codeObject? = none) fun _ => False := by
  refine Leads.get_bind fun p ⟨hp, hd, hgone⟩ => ?_
  by_cases hreleased : p.module.released.codeObject = true
  · rw [if_pos hreleased]
    exact ⟨hp, hd, hgone, LoadedModule.codeObject?_of_released hreleased⟩
  · rw [if_neg hreleased]
    have hkept := LoadedModule.kept_of_codeObject hgone hd hreleased
    have hthere := hp.there (.codeObject d.codeObject) (by rw [hkept]; exact List.mem_cons_self)
    refine (hp.release hkept (destroyCodeObject_givesBack hthere)).imp ?_ fun _ hfalse => hfalse
    rintro _ q ⟨hq, hm⟩
    exact ⟨hq, by rw [hm]; exact hd, by rw [hm]; exact hgone, by rw [hm]; rfl⟩

theorem releaseDeviceImage_unstoppable (d : DeviceImage) :
    Leads (fun p => Unstoppable p ∧ p.module.deviceImage = some d ∧ p.module.executable? = none ∧
        p.module.codeObject? = none)
      ((Simulator.loader settings hooks).releaseDeviceImage d)
      (fun _ _ => True) fun _ => False := by
  refine Leads.get_bind fun p ⟨hp, hd, hgone, hcode⟩ => ?_
  by_cases hreleased : p.module.released.deviceImage = true
  · rw [if_pos hreleased]
    exact trivial
  · rw [if_neg hreleased]
    have hkept := LoadedModule.kept_of_allocation hgone hcode hd hreleased
    have hthere := hp.there (.allocation d.address) (by rw [hkept]; exact List.mem_cons_self)
    exact (hp.release hkept (free_givesBack hp.unhindered hthere)).imp (fun _ _ _ => trivial)
      fun _ hfalse => hfalse

/-- **An unload succeeds** when all that the module has is there, and nothing that unloads call is
made to fail. -/
theorem unload_succeeds {m : LoadedModule} {w : World Simulator}
    (hunhindered : w.accelerator.Unhindered) (hthere : ∀ k ∈ m.kept, w.accelerator.Holds k) :
    ∃ w', (Simulator.loader settings hooks).unload m w = (.ok (), w') := by
  have hsteps : Ends (fun _ _ => True) (fun _ => False)
      ((Simulator.loader settings hooks).releaseSteps { module := m, world := w }) := by
    unfold releaseSteps
    refine Ends.get (Ends.bind
      (Q := fun _ p => Unstoppable p ∧ p.module.deviceImage = m.deviceImage) (.unload_call ?_) ?_)
    · have hfaulty : (w.accelerator.record (.synchronize m.agent)).faulty .synchronize = false :=
        hunhindered.synchronize
      show Ends _ _ (w.accelerator.synchronize m.agent)
      unfold synchronize
      dsimp only
      rw [hfaulty]
      exact ⟨⟨hunhindered.of_faults rfl, hthere⟩, rfl⟩
    rintro _ p hp
    refine (releaseExecutable_unstoppable settings hooks p hp).bind fun _ => ?_
    refine Leads.bind (Q := fun _ q => (Unstoppable q ∧ q.module.deviceImage = m.deviceImage) ∧
      q.module.executable? = none) ?_ fun functions => ?_
    · exact fun q hq => ⟨⟨⟨hq.1.1.unhindered, hq.1.1.there⟩, hq.1.2⟩, hq.2⟩
    cases m.deviceImage with
    | none => exact Leads.pure fun _ _ => trivial
    | some d =>
      rintro q ⟨⟨hq, himage⟩, hgone⟩
      refine (releaseCodeObject_unstoppable settings hooks d q ⟨hq, himage, hgone⟩).bind fun _ => ?_
      exact (releaseDeviceImage_unstoppable settings hooks d).bind fun _ => Leads.pure fun _ _ =>
        trivial
  unfold unload
  rcases hrun : (Simulator.loader settings hooks).releaseSteps { module := m, world := w } with
    ⟨e | functions, p⟩
  · rw [hrun] at hsteps
    exact hsteps.elim
  · exact ⟨_, rfl⟩

end Loader

end DeviceCode

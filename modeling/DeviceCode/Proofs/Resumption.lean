import DeviceCode.Proofs.Lawfulness

/-!
# A module on its way out

A module's things are released one after the other, over several unloads if some of them stop.
`Followed m s` is what the calls and the modules of a session tell about this at any time, whatever
else the program does in between: what was released is gone for good and comes first in the order,
and what was not is still kept by the module, if under other notes.

A step keeps it (`Followed.step`), and a load begins it (`followed_of_made`). So it holds in
every run of every module that was ever there (`Session.run_followed`).
-/

namespace DeviceCode

namespace LoadedModule

variable {m m' : LoadedModule} {k : Resource}

/-- What a module got when it was loaded, in the order in which unloads release it. -/
def resources (m : LoadedModule) : List Resource :=
  .executable m.executable :: (m.deviceImage.toList.map (.codeObject ·.codeObject) ++
    m.deviceImage.toList.map (.allocation ·.address))

/-- At first nothing was released. -/
theorem kept_eq_resources (h : m.released = {}) : m.kept = m.resources := by
  unfold kept executable? codeObject? allocation? resources
  rw [h]
  cases m.deviceImage <;> rfl

theorem resources_eq (h : m'.pristine = m.pristine) : m'.resources = m.resources :=
  (congrArg resources h : m'.pristine.resources = m.pristine.resources)

theorem resources_nodup (m : LoadedModule) : m.resources.Nodup := by
  rw [show m.resources = m.pristine.resources from rfl, ← kept_eq_resources rfl]
  exact kept_nodup _

theorem ne_reader (hk : k ∈ m.resources) (r : ReaderHandle) : k ≠ .reader r := by
  rintro rfl
  unfold resources at hk
  cases hd : m.deviceImage <;> rw [hd] at hk <;> simp at hk

end LoadedModule

/-! ## Releases in order -/

variable {calls more : List Call} {ks : List Resource} {m : LoadedModule}

/-- Nothing was to be given back before all that comes first in a list. -/
def InOrder (ks : List Resource) (calls : List Call) : Prop :=
  ∀ earlier k later, ks = earlier ++ k :: later → ∀ past ok, past ++ [(k.gone, ok)] <+: calls →
    ∀ k' ∈ earlier, (k'.gone, true) ∈ past

/-- A call is among the earlier or among the later ones. -/
theorem prefix_append_cases {past : List Call} {c : Call} (h : past ++ [c] <+: calls ++ more) :
    past ++ [c] <+: calls ∨ ∃ before, past = calls ++ before ∧ before ++ [c] <+: more := by
  rcases List.prefix_or_prefix_of_prefix h (List.prefix_append calls more) with hpast | ⟨now, hnow⟩
  · exact .inl hpast
  · rcases List.eq_nil_or_concat now with rfl | ⟨before, c', rfl⟩
    · rw [List.append_nil] at hnow
      exact .inl (hnow ▸ List.prefix_rfl)
    · rw [← hnow, List.prefix_append_right_inj] at h
      rw [List.concat_eq_append, ← List.append_assoc] at hnow
      obtain ⟨rfl, hc⟩ := List.append_inj' hnow rfl
      cases hc
      exact .inr ⟨before, rfl, by rwa [List.concat_eq_append] at h⟩

theorem InOrder.append (h : InOrder ks calls)
    (hmore : ∀ earlier k later, ks = earlier ++ k :: later → ∀ before ok,
      before ++ [(k.gone, ok)] <+: more → ∀ k' ∈ earlier, (k'.gone, true) ∈ calls ++ before) :
    InOrder ks (calls ++ more) := by
  intro earlier k later hks past ok hpast
  rcases prefix_append_cases hpast with hold | ⟨before, rfl, hnew⟩
  · exact h earlier k later hks past ok hold
  · exact hmore earlier k later hks before ok hnew

/-- Calls that give back only what a module has, and all that comes first before that. -/
def Descends (m : LoadedModule) (more : List Call) : Prop :=
  ∀ before k ok, before ++ [(Resource.gone k, ok)] <+: more →
    ∃ earlier later, m.kept = earlier ++ k :: later ∧ ∀ k' ∈ earlier, (k'.gone, true) ∈ before

/-- An attempt to give back what comes next. -/
theorem Descends.concat (h : Descends m more) {done rest : List Resource} {k : Resource}
    (hkept : m.kept = done ++ k :: rest) (hdone : ∀ k' ∈ done, (k'.gone, true) ∈ more) (ok : Bool) :
    Descends m (more ++ [(k.gone, ok)]) := by
  intro before k' ok' hbefore
  rcases List.prefix_concat_iff.mp hbefore with heq | hbefore
  · obtain ⟨rfl, hc⟩ := List.append_inj' heq rfl
    cases Resource.gone_inj (Prod.mk.inj (List.cons.inj hc).1).1
    exact ⟨done, rest, hkept, hdone⟩
  · exact h before k' ok' hbefore

/-- What an unload gives back before it fails, if it does. The induction adds one release at the
end. -/
theorem descends_unloading {done rest : List Resource} (hkept : m.kept = done ++ rest) (ok : Bool) :
    Descends m ((.synchronize m.agent, ok) :: done.map (·.returned)) := by
  induction done using List.reverseRecOn generalizing rest with
  | nil =>
    intro before k ok' hbefore
    have hmem := hbefore.subset (List.mem_append_right _ (List.mem_singleton_self _))
    exact absurd (Prod.mk.inj (List.mem_singleton.mp hmem)).1 (Resource.gone_ne rfl)
  | append_singleton done k ih =>
    rw [List.append_assoc] at hkept
    rw [List.map_append, ← List.cons_append]
    refine (ih hkept).concat hkept (fun k' hk' => ?_) true
    exact List.mem_cons_of_mem _ (List.mem_map_of_mem hk')

theorem mem_returned {done : List Resource} {k : Resource} (hk : k ∈ done) (c : Call) :
    (k.gone, true) ∈ c :: done.map (·.returned) :=
  List.mem_cons_of_mem _ (List.mem_map_of_mem hk)

/-- What was one module is another one now, and what it has lost was given back. -/
structure Carries (calls : List Call) (m m' : LoadedModule) : Prop where
  pristine : m'.pristine = m.pristine
  kept : ∃ done, m.kept = done ++ m'.kept ∧ ∀ k ∈ done, (k.gone, true) ∈ calls

theorem Carries.refl (calls : List Call) (m : LoadedModule) : Carries calls m m :=
  ⟨rfl, [], rfl, nofun⟩

/-- An unload that stops. -/
theorem Halted.descends {calls' : List Call} {m' : LoadedModule} (h : Halted calls m m' calls') :
    ∃ more, calls' = calls ++ more ∧ Descends m more ∧ Carries calls' m m' := by
  cases h with
  | waiting =>
    exact ⟨_, rfl, descends_unloading (List.nil_append _).symm false, .refl _ _⟩
  | @releasing _ done k rest hpristine hkept hleft =>
    refine ⟨_, List.append_assoc .., ?_, hpristine, done, hkept, fun k' hk' => ?_⟩
    · have hnext : m.kept = done ++ k :: rest := by rw [hkept, hleft]
      exact (descends_unloading hkept true).concat hnext (fun k' hk' => mem_returned hk' _) false
    · exact List.mem_append_left _ (List.mem_append_right _ (mem_returned hk' _))

/-! ## Following a module -/

namespace Session

variable {s t : Session (Chronicled Simulator)} {r : Request} {m m' : LoadedModule}

/-- What has become of a module's things. -/
structure Followed (m : LoadedModule) (s : Session (Chronicled Simulator)) : Prop where
  made : ∀ k ∈ m.resources, (k.made, true) ∈ s.calls
  /-- No other module has any of them. -/
  owned : ∀ m' ∈ s.modules, ∀ k ∈ m'.kept, k ∈ m.resources → m'.pristine = m.pristine
  /-- What the module does not have any more, was given back. -/
  progress : ∀ m' ∈ s.modules, m'.pristine = m.pristine →
    ∃ done, m.resources = done ++ m'.kept ∧ ∀ k ∈ done, (k.gone, true) ∈ s.calls
  /-- The module is there until everything was given back. -/
  held : (∃ m' ∈ s.modules, m'.pristine = m.pristine) ∨ ∀ k ∈ m.resources, (k.gone, true) ∈ s.calls
  ordered : InOrder m.resources s.calls

namespace Followed

/-- Requests other than unloads do not give back what was made before, except for readers. -/
theorem not_returned (h : Followed m s) {more : List Call} (hadds : Adds s more t) {k : Resource}
    (hk : k ∈ m.resources) (ok : Bool) : (k.gone, ok) ∉ more := by
  intro hmem
  rcases hadds.returned k ok hmem with ⟨r, hr⟩ | ⟨hnew, -⟩
  · exact LoadedModule.ne_reader hk r hr
  · exact hnew (h.made k hk)

theorem ordered_adds (h : Followed m s) {more : List Call} (hadds : Adds s more t) :
    InOrder m.resources t.calls := by
  rw [hadds.calls]
  refine h.ordered.append fun earlier k later hks before ok hbefore => ?_
  refine absurd (hbefore.subset (List.mem_append_right _ (List.mem_singleton_self _))) ?_
  refine h.not_returned hadds ?_ ok
  rw [hks]
  exact List.mem_append_right _ List.mem_cons_self

/-- Unloads give back the things of a followed module in their order. -/
theorem ordered_descends (h : Followed m s) (hm' : m' ∈ s.modules) {more : List Call}
    (hmore : Descends m' more) : InOrder m.resources (s.calls ++ more) := by
  refine h.ordered.append fun earlier k later hks before ok hbefore k' hk' => ?_
  obtain ⟨earlier', later', hkept, hearlier'⟩ := hmore before k ok hbefore
  have hk : k ∈ m.resources := by
    rw [hks]
    exact List.mem_append_right _ List.mem_cons_self
  have hstill : k ∈ m'.kept := by
    rw [hkept]
    exact List.mem_append_right _ List.mem_cons_self
  have hsame := h.owned m' hm' k hstill hk
  obtain ⟨done, hdone, hgone⟩ := h.progress m' hm' hsame
  -- what comes before `k` was given back earlier, or it is given back now
  have heq : earlier = done ++ earlier' := by
    have hsplit : earlier ++ k :: later = done ++ earlier' ++ k :: later' := by
      rw [← hks, hdone, hkept, List.append_assoc]
    have hdistinct := m.resources_nodup
    rw [hks, List.nodup_append] at hdistinct
    refine ((List.append_cons_inj_of_notMem ?_ ?_).mp hsplit).1
    · exact fun hmem => hdistinct.2.2 k hmem k List.mem_cons_self rfl
    · exact (List.nodup_cons.mp hdistinct.2.1).1
  rw [heq] at hk'
  rcases List.mem_append.mp hk' with hk' | hk'
  · exact List.mem_append_left _ (hgone k' hk')
  · exact List.mem_append_right _ (hearlier' k' hk')

/-- All that a step must tell about the modules. -/
theorem next (h : Followed m s) (hgrown : s.calls <+: t.calls)
    (hordered : InOrder m.resources t.calls)
    (hback : ∀ m' ∈ t.modules, (∃ m'' ∈ s.modules, Carries t.calls m'' m') ∨
      m'.pristine ≠ m.pristine ∧ ∀ k ∈ m'.kept, k ∉ m.resources)
    (hheld : ∀ m' ∈ s.modules, m'.pristine = m.pristine →
      (∃ m'' ∈ t.modules, m''.pristine = m.pristine) ∨ ∀ k ∈ m'.kept, (k.gone, true) ∈ t.calls) :
    Followed m t where
  made k hk := hgrown.subset (h.made k hk)
  owned m' hm' k hk hmem := by
    rcases hback m' hm' with ⟨m'', hm'', hcarries⟩ | ⟨-, hnot⟩
    · obtain ⟨done, hkept, -⟩ := hcarries.kept
      rw [hcarries.pristine]
      exact h.owned m'' hm'' k (by rw [hkept]; exact List.mem_append_right _ hk) hmem
    · exact absurd hmem (hnot k hk)
  progress m' hm' hsame := by
    rcases hback m' hm' with ⟨m'', hm'', hcarries⟩ | ⟨hne, -⟩
    · obtain ⟨done, hkept, hdone⟩ := hcarries.kept
      obtain ⟨before, hbefore, hgone⟩ := h.progress m'' hm'' (by rw [← hcarries.pristine, hsame])
      refine ⟨before ++ done, by rw [hbefore, hkept, List.append_assoc], fun k hk => ?_⟩
      rcases List.mem_append.mp hk with hk | hk
      · exact hgrown.subset (hgone k hk)
      · exact hdone k hk
    · exact absurd hsame hne
  held := by
    rcases h.held with ⟨m', hm', hsame⟩ | hgone
    · refine (hheld m' hm' hsame).imp_right fun hrest k hk => ?_
      obtain ⟨done, hdone, hbefore⟩ := h.progress m' hm' hsame
      rw [hdone] at hk
      exact (List.mem_append.mp hk).elim (fun hk => hgrown.subset (hbefore k hk)) (hrest k)
    · exact .inr fun k hk => hgrown.subset (hgone k hk)
  ordered := hordered

/-- What a load has just made was not there before. -/
theorem not_made (h : Followed m s) {m' : LoadedModule} {w : Chronicled Simulator}
    (hmade : Loader.Made s.calls m' w) :
    m'.pristine ≠ m.pristine ∧ ∀ k ∈ m'.kept, k ∉ m.resources := by
  obtain ⟨held, hcarrying, hhas⟩ := hmade.carrying
  have hnot : ∀ k ∈ m'.kept, k ∉ m.resources := fun k hk hmem =>
    (hcarrying.owned k (hhas k hk)).2.2 (h.made k hmem)
  refine ⟨fun hsame => ?_, hnot⟩
  rw [LoadedModule.kept_eq_resources hmade.released, LoadedModule.resources_eq hsame] at hnot
  exact hnot _ List.mem_cons_self List.mem_cons_self

/-- **Every step can be followed.** -/
theorem step (h : Followed m s) (hwrote : Wrote s r t) : Followed m t := by
  have hgrown := hwrote.grown
  cases hwrote with
  | kept hadds hmodules =>
    -- what modules remember of their functions is of no interest here
    have hmatch : ∀ {ms ms' : List LoadedModule}, ms.map (·.forgetful) = ms'.map (·.forgetful) →
        ∀ m' ∈ ms, ∃ m'' ∈ ms', m''.pristine = m'.pristine ∧ m''.kept = m'.kept := by
      intro ms ms' heq m' hm'
      obtain ⟨m'', hm'', hsame⟩ := List.mem_map.mp (heq ▸ List.mem_map_of_mem hm')
      exact ⟨m'', hm'', (congrArg LoadedModule.pristine hsame :
        m''.forgetful.pristine = m'.forgetful.pristine), (congrArg LoadedModule.kept hsame :
        m''.forgetful.kept = m'.forgetful.kept)⟩
    refine h.next hgrown (h.ordered_adds hadds) (fun m' hm' => ?_) fun m' hm' hsame => ?_
    · obtain ⟨m'', hm'', hpristine, hkept⟩ := hmatch hmodules m' hm'
      exact .inl ⟨m'', hm'', hpristine.symm, [], hkept, nofun⟩
    · obtain ⟨m'', hm'', hpristine, -⟩ := hmatch hmodules.symm m' hm'
      exact .inl ⟨m'', hm'', hpristine.trans hsame⟩
  | loaded hadds hmade =>
    refine h.next hgrown (h.ordered_adds hadds) (fun m' hm' => ?_) fun m' hm' hsame => ?_
    · rcases List.mem_append.mp hm' with hm' | hm'
      · exact .inl ⟨m', hm', .refl _ _⟩
      · rw [List.mem_singleton.mp hm']
        exact .inr (h.not_made hmade)
    · exact .inl ⟨m', List.mem_append_left _ hm', hsame⟩
  | @unloaded index m₀ w hm₀ hcalls =>
    have hdescends : Descends m₀ ((.synchronize m₀.agent, true) :: m₀.kept.map (·.returned)) :=
      descends_unloading (List.append_nil _).symm true
    refine h.next hgrown ?_ (fun m' hm' => ?_) fun m' hm' hsame => ?_
    · show InOrder _ w.accelerator.calls
      rw [hcalls]
      exact h.ordered_descends (List.mem_of_getElem? hm₀) hdescends
    · exact .inl ⟨m', List.mem_of_mem_eraseIdx hm', .refl _ _⟩
    · rcases mem_eraseIdx_or_eq hm₀ hm' with hm' | rfl
      · exact .inl ⟨m', hm', hsame⟩
      · refine .inr fun k hk => ?_
        show _ ∈ w.accelerator.calls
        rw [hcalls]
        exact List.mem_append_right _ (mem_returned hk _)
  | @halted index m₀ m₁ w hm₀ hhalted =>
    obtain ⟨more, hcalls, hdescends, hcarries⟩ := hhalted.descends
    refine h.next hgrown ?_ (fun m' hm' => ?_) fun m' hm' hsame => ?_
    · show InOrder _ w.accelerator.calls
      rw [hcalls]
      exact h.ordered_descends (List.mem_of_getElem? hm₀) hdescends
    · rcases List.mem_or_eq_of_mem_set hm' with hm' | rfl
      · exact .inl ⟨m', hm', .refl _ _⟩
      · exact .inl ⟨m₀, List.mem_of_getElem? hm₀, hcarries⟩
    · rcases mem_set_or_eq hm₀ hm' m₁ with hm' | rfl
      · exact .inl ⟨m', hm', hsame⟩
      · have hm₁ := List.mem_set (List.getElem?_eq_some_iff.mp hm₀).1 m₁
        exact .inl ⟨m₁, hm₁, hcarries.pristine.trans hsame⟩

end Followed

/-- **A load begins it.** -/
theorem followed_of_made (hs : s.Proper) {w : World (Chronicled Simulator)}
    (h : Loader.Made s.calls m w.accelerator) :
    Followed m { world := w, modules := s.modules ++ [m] } := by
  obtain ⟨held, hcarrying, hhas⟩ := h.carrying
  rw [LoadedModule.kept_eq_resources h.released] at hhas
  have howned := fun k hk => hcarrying.owned k (hhas k hk)
  have hmodules : ∀ m' ∈ s.modules, ∀ k ∈ m'.kept, k ∉ m.resources := fun m' hm' k hk hmem =>
    (howned k hmem).2.2 (hs.alive_kept hm' hk).1
  refine
    { made := fun k hk => (howned k hk).1
      owned := fun m' hm' k hk hmem => ?_
      progress := fun m' hm' hsame => ?_
      held := .inl ⟨m, List.mem_append_right _ (List.mem_singleton_self _), rfl⟩
      ordered := fun earlier k later hks past ok hpast => ?_ }
  · rcases List.mem_append.mp hm' with hm' | hm'
    · exact absurd hmem (hmodules m' hm' k hk)
    · rw [List.mem_singleton.mp hm']
  · rcases List.mem_append.mp hm' with hm' | hm'
    · -- the executable of a module that was there was created before
      have hsame' : m'.executable = m.executable :=
        (congrArg LoadedModule.executable hsame : m'.pristine.executable = m.pristine.executable)
      have hmade := (hs.tracked.frozen _ (hs.frozen m' hm')).1
      rw [hsame'] at hmade
      exact absurd hmade (howned (.executable m.executable) List.mem_cons_self).2.2
    · rw [List.mem_singleton.mp hm', LoadedModule.kept_eq_resources h.released]
      exact ⟨[], rfl, nofun⟩
  · -- nothing of it was given back
    refine absurd (hpast.subset (List.mem_append_right _ (List.mem_singleton_self _))) ?_
    refine (howned k ?_).2.1 ok
    rw [hks]
    exact List.mem_append_right _ List.mem_cons_self

/-- Followed modules may be called by the name of what has become of them. -/
theorem Followed.of_pristine (h : Followed m s) (hsame : m'.pristine = m.pristine) :
    Followed m' s := by
  have hresources := LoadedModule.resources_eq hsame
  exact
    { made := by rw [hresources]; exact h.made
      owned := by rw [hresources, hsame]; exact h.owned
      progress := by rw [hresources, hsame]; exact h.progress
      held := by rw [hresources, hsame]; exact h.held
      ordered := by rw [hresources]; exact h.ordered }

/-- Modules that a step leaves were there before, or the step has loaded them. -/
theorem Wrote.followed (hs : s.Proper) (h : Wrote s r t) (hall : ∀ m ∈ s.modules, Followed m s)
    (hm : m ∈ t.modules) : Followed m t := by
  have hold : ∀ m' ∈ s.modules, m.pristine = m'.pristine → Followed m t := fun m' hm' hsame =>
    ((hall m' hm').step h).of_pristine hsame
  cases h with
  | kept hadds hmodules =>
    obtain ⟨m', hm', hsame⟩ := List.mem_map.mp (hmodules ▸ List.mem_map_of_mem hm)
    exact hold m' hm' (congrArg LoadedModule.pristine hsame :
      m'.forgetful.pristine = m.forgetful.pristine).symm
  | loaded hadds hmade =>
    rcases List.mem_append.mp hm with hm | hm
    · exact hold m hm rfl
    · rw [List.mem_singleton.mp hm]
      exact followed_of_made hs hmade
  | unloaded hm₀ hcalls => exact hold m (List.mem_of_mem_eraseIdx hm) rfl
  | halted hm₀ hhalted =>
    rcases List.mem_or_eq_of_mem_set hm with hm | rfl
    · exact hold m hm rfl
    · exact hold _ (List.mem_of_getElem? hm₀) hhalted.pristine_eq

/-! ## Whole runs -/

variable (settings : LoaderSettings) (hooks : LaunchHooks) (hasRegion : Bool) (host : Host.System)

/-- All modules that are there are followed. -/
theorem run_followed_now (rs : List Request) :
    ∀ m ∈ (recounted settings hooks hasRegion host rs).modules,
      Followed m (recounted settings hooks hasRegion host rs) := by
  induction rs using List.reverseRecOn with
  | nil => exact nofun
  | append_singleton rs r ih =>
    have hproper := run_proper settings hooks hasRegion host rs
    rw [recounted_append]
    exact fun m hm => (step_wrote settings hooks hproper r).followed hproper ih hm

/-- Histories only grow. -/
theorem history_grows (before after : List Request) :
    history settings hooks hasRegion host before <+:
      history settings hooks hasRegion host (before ++ after) := by
  induction after using List.reverseRecOn with
  | nil => simp only [List.append_nil, List.prefix_refl]
  | append_singleton after r ih =>
    refine ih.trans ?_
    unfold history
    rw [← List.append_assoc, recounted_append]
    exact (step_wrote settings hooks (run_proper settings hooks hasRegion host _) r).grown

/-- **Every module is followed from when it is there**, whatever becomes of it. -/
theorem run_followed (before after : List Request)
    (hm : m ∈ (recounted settings hooks hasRegion host before).modules) :
    Followed m (recounted settings hooks hasRegion host (before ++ after)) := by
  induction after using List.reverseRecOn with
  | nil =>
    rw [List.append_nil]
    exact run_followed_now settings hooks hasRegion host before m hm
  | append_singleton after r ih =>
    rw [← List.append_assoc, recounted_append]
    exact ih.step (step_wrote settings hooks (run_proper settings hooks hasRegion host _) r)

end Session

end DeviceCode

import DeviceCode.Proofs.Accounting
import DeviceCode.Proofs.Apart
import DeviceCode.Proofs.Attributed
import DeviceCode.Proofs.SessionSteps
import DeviceCode.Proofs.Variables

/-!
# Images in device memory

A module that was loaded from memory keeps a copy of its image in device memory. Nobody but its own
load writes to it, and it does not change before it is freed: other loads get memory of their own,
unloads free what their own module has, and no other request is about device memory at all.

What loads and unloads do to the simulator is known already (`Loader.loadFrom_ends`,
`Loader.unload_cases`), and what a load leaves at the new address is the image that it copied
(`Simulator.copyImage_ok`). So every request keeps the sessions in which each module has memory of
its own with its image in it (`Session.Imaged`), whichever loader it goes through.
-/

namespace DeviceCode

/-- As long as a module has an image in device memory, it is the image that the module retains. -/
structure LoadedModule.ImagedIn (m : LoadedModule) (s : Simulator) : Prop where
  fromMemory : m.source = .memory → m.deviceImage.isSome = true
  size : ∀ d, m.deviceImage = some d → d.size = m.image.length
  image : ∀ x, m.allocation? = some x → s.allocations.get? x = some m.image

namespace LoadedModule

variable {m m' : LoadedModule} {s t : Simulator}

theorem ImagedIn.of_kept (h : m.ImagedIn s) (hkept : ∀ x, m.allocation? = some x →
    t.allocations.get? x = s.allocations.get? x) : m.ImagedIn t :=
  { h with image := fun x hx => (hkept x hx).trans (h.image x hx) }

/-- It does not matter which functions were looked up. -/
theorem ImagedIn.of_forgetful (h : m.ImagedIn s) (hsame : m.forgetful = m'.forgetful) :
    m'.ImagedIn s := by
  have hforgetful : m.forgetful.ImagedIn s := ⟨h.fromMemory, h.size, h.image⟩
  rw [hsame] at hforgetful
  exact ⟨hforgetful.fromMemory, hforgetful.size, hforgetful.image⟩

/-- A part of it is released, which may be the image. -/
theorem ImagedIn.dropped (h : m.ImagedIn s) (hpristine : m'.pristine = m.pristine)
    (hdropped : Assoc.Dropped s.allocations t.allocations m.allocation? m'.allocation?) :
    m'.ImagedIn t := by
  have hsource : m'.source = m.source := congrArg (·.source) hpristine
  have himage : m'.image = m.image := congrArg (·.image) hpristine
  have hdevice : m'.deviceImage = m.deviceImage := congrArg (·.deviceImage) hpristine
  refine ⟨fun hmemory => ?_, fun d hd => ?_, fun x hx => ?_⟩
  · rw [hdevice]
    exact h.fromMemory (hsource ▸ hmemory)
  · rw [himage]
    exact h.size d (hdevice ▸ hd)
  · rw [hx] at hdropped
    obtain ⟨hthen, hsame⟩ := hdropped.of_some
    rw [hsame, himage]
    exact h.image x hthen

end LoadedModule

namespace Simulator

variable {settings : LoaderSettings} {hooks : LaunchHooks}

section Calls

variable {α : Type} {call : Simulator → Reply Simulator α} {s t : Simulator}

/-- Over the simulator, calls that are not about device memory are alike as far as that goes. -/
theorem callsAlike_memory (op : Operation) (hop : op.changesMemory = false)
    (hcall : ∀ s, (op.perform s).2 = (call s).2) (memory : Assoc Nat Bytes × Nat) :
    CallsAlike (Only fun s => s.memory = memory) call call := by
  refine .only fun s hs => ?_
  rw [← hcall s]
  exact (Operation.perform_memory hop s).trans hs

theorem memory_of_perform (op : Operation) (hop : op.changesMemory = false)
    (h : (op.perform s).2 = t) : t.memory = s.memory := by
  rw [← h]
  exact Operation.perform_memory hop s

end Calls

/-! ## Teardowns -/

/-- A teardown makes no call about device memory. -/
theorem shutdown_memory (settings : LoaderSettings) (hooks : LaunchHooks) (w : World Simulator) :
    ((loader settings hooks).shutdown w).2.accelerator.memory = w.accelerator.memory := by
  have halike : Alike (World.Match (Only fun s : Simulator => s.memory = w.accelerator.memory)) Eq
      (loader settings hooks).shutdown (loader settings hooks).shutdown :=
    Loader.shutdown_alikeOn (fun x => callsAlike_memory (.unlockMemory x) rfl (fun _ => rfl) _)
      (fun r => callsAlike_memory (.destroyReader r) rfl (fun _ => rfl) _) fun _ _ _ _ => trivial
  exact (halike w w (World.Match.only rfl)).2.accelerator.2

theorem close_memory (settings : LoaderSettings) (hooks : LaunchHooks) (w : World Simulator) :
    ((loader settings hooks).close w).2.accelerator.memory = w.accelerator.memory := by
  have halike : Alike (World.Match (Only fun s : Simulator => s.memory = w.accelerator.memory)) Eq
      (loader settings hooks).close (loader settings hooks).close :=
    Loader.close_alike (fun x => callsAlike_memory (.unlockMemory x) rfl (fun _ => rfl) _)
      (fun r => callsAlike_memory (.destroyReader r) rfl (fun _ => rfl) _)
  exact (halike w w (World.Match.only rfl)).2.accelerator.2

/-! ## Loads -/

section Loads

variable {agent : AgentHandle} {image : Bytes} {undefined : List String}
  {p q : LoadProgress Simulator} {e : ExecutableHandle} {d : DeviceImage}

theorem newExecutable_memory (h : (loader settings hooks).newExecutable p = (.ok e, q)) :
    q.world.accelerator.memory = p.world.accelerator.memory := by
  obtain ⟨_, _, hcall, h⟩ := run_bind_eq_ok.mp h
  obtain ⟨s, hs, rfl⟩ := LoadStep.call_ok_iff.mp hcall
  cases h
  exact memory_of_perform .createExecutable rfl (congrArg (·.2) hs)

/-- After an image was copied its load leaves device memory alone. -/
theorem finishImage_memory {copied : Nat × CodeObjectHandle}
    (h : (loader settings hooks).finishImage agent image undefined copied p = (.ok (e, d), q)) :
    d.address = copied.1 ∧ d.size = image.length ∧
      q.world.accelerator.memory = p.world.accelerator.memory := by
  obtain ⟨_, p₁, hnew, h⟩ := run_bind_eq_ok.mp h
  obtain ⟨_, p₂, hbind, h⟩ := run_bind_eq_ok.mp h
  obtain ⟨_, p₃, hload, h⟩ := run_bind_eq_ok.mp h
  obtain ⟨_, p₄, hfreeze, h⟩ := run_bind_eq_ok.mp h
  obtain ⟨s, hs, rfl⟩ := LoadStep.call_ok_iff.mp hload
  obtain ⟨t, ht, rfl⟩ := LoadStep.call_ok_iff.mp hfreeze
  cases h
  have hbound : p₂.world.accelerator.memory = p₁.world.accelerator.memory :=
    (bindUndefined_only (P := fun s => s.memory = p₁.world.accelerator.memory)
      (fun x n s y t hs h =>
        (memory_of_perform (.lockMemory agent x n) rfl (congrArg (·.2) h)).trans hs)
      (fun name x s u t hs h =>
        (memory_of_perform (.defineGlobal e name x) rfl (congrArg (·.2) h)).trans hs)
      rfl hbind).1
  refine ⟨rfl, rfl, ?_⟩
  calc t.memory
    _ = s.memory := memory_of_perform (.freeze e) rfl (congrArg (·.2) ht)
    _ = p₂.world.accelerator.memory :=
      memory_of_perform (.loadCodeObject e agent copied.2) rfl (congrArg (·.2) hs)
    _ = p₁.world.accelerator.memory := hbound
    _ = p.world.accelerator.memory := newExecutable_memory hnew

/-- **A load from memory leaves its image at the new address.** -/
theorem loadImageSteps_stores
    (h : (loader settings hooks).loadImageSteps agent image undefined p = (.ok (e, d), q)) :
    d.size = image.length ∧ q.world.accelerator.allocations.get? d.address = some image := by
  rw [Loader.loadImageSteps_eq] at h
  obtain ⟨⟨address, c⟩, mid, hcopy, hfinish⟩ := run_bind_eq_ok.mp h
  obtain ⟨-, -, lastHandle, pages, codeObjects, journal, rfl⟩ := copyImage_ok hcopy
  obtain ⟨haddress, hsize, hmemory⟩ := finishImage_memory hfinish
  have hallocations : q.world.accelerator.allocations =
    p.world.accelerator.allocations.put address image := congrArg (·.1) hmemory
  refine ⟨hsize, ?_⟩
  rw [hallocations, haddress]
  exact Assoc.get?_put_self

variable {w w' : World Simulator} {current : Option Device} {m : LoadedModule}

theorem loadData_imaged {bytes : Bytes}
    (h : (loader settings hooks).loadData current bytes w = (.ok m, w')) :
    m.ImagedIn w'.accelerator := by
  obtain ⟨device, o, image, undefined, e, d, held, v, -, -, -, -, hsteps, rfl, rfl⟩ :=
    Loader.loadData_ok_iff.mp h
  obtain ⟨hsize, himage⟩ := loadImageSteps_stores hsteps
  refine ⟨fun _ => rfl, fun d' hd => ?_, fun x hx => ?_⟩
  · cases hd
    exact hsize
  · cases hx
    exact himage

/-- **A new module's image is in device memory**, if it was loaded from memory. -/
theorem loadFrom_imaged {source : LoadSource}
    (h : (loader settings hooks).loadFrom current source w = (.ok m, w')) :
    m.ImagedIn w'.accelerator := by
  cases source with
  | file path =>
    have hload : (loader settings hooks).load current path w = (.ok m, w') := h
    have hnew : ∀ id agent executable image, LoadedModule.ImagedIn
        { id, agent, executable, source := .file path, image } w'.accelerator := by
      intro id agent executable image
      refine ⟨fun hmemory => ?_, fun d hd => ?_, fun x hx => ?_⟩
      · cases hmemory
      · cases hd
      · cases hx
    have hends := Loader.load_leads (P := fun m => m.ImagedIn w'.accelerator)
      (loader settings hooks) current path hnew w trivial
    rw [hload] at hends
    exact hends
  | memory bytes => exact loadData_imaged h
  | memoryWith bytes options =>
    unfold Loader.loadFrom Loader.loadDataWith at h
    dsimp only at h
    split at h
    · exact loadData_imaged h
    · -- options are only reported
      obtain ⟨_, _, hreport, h⟩ := run_bind_eq_ok.mp h
      cases hreport
      exact loadData_imaged (w := { w with log := w.log ++ [.optionsIgnored options] }) h

end Loads

end Simulator

/-! ## Sessions -/

namespace Session

open Simulator

variable {settings : LoaderSettings} {hooks : LaunchHooks} {s t : Session Simulator}
  {m m' : LoadedModule} {index : Nat}

/-- Each module has device memory of its own, with its image in it. -/
structure Imaged (s : Session Simulator) : Prop where
  imaged : ∀ m ∈ s.modules, m.ImagedIn s.world.accelerator
  owned : ∀ x, (s.modules.filterMap (·.allocation?)).count x ≤
    s.world.accelerator.allocations.tally x

namespace Imaged

theorem contains (h : s.Imaged) (hm : m ∈ s.modules) {x : Nat} (hx : m.allocation? = some x) :
    s.world.accelerator.allocations.contains x = true :=
  Assoc.contains_of_get? ((h.imaged m hm).image x hx)

/-- Memory that is allocated keeps its bytes, and no module is released any further. -/
theorem of_kept (h : s.Imaged)
    (hkept : ∀ x, s.world.accelerator.allocations.contains x = true →
      t.world.accelerator.allocations.get? x = s.world.accelerator.allocations.get? x)
    (hmodules : t.modules.map (·.forgetful) = s.modules.map (·.forgetful)) : t.Imaged where
  imaged m hm := by
    obtain ⟨m₀, hm₀, hsame⟩ := exists_forgetful hmodules.symm hm
    exact ((h.imaged m₀ hm₀).of_kept fun x hx => hkept x (h.contains hm₀ hx)).of_forgetful hsame
  owned x := by
    have hforget : ∀ ms : List LoadedModule, ms.filterMap (·.allocation?) =
        (ms.map (·.forgetful)).filterMap (·.allocation?) := by
      intro ms
      rw [List.filterMap_map]
      rfl
    have hthere : s.world.accelerator.allocations.contains x = true →
        t.world.accelerator.allocations.contains x = true := by
      intro hx
      have hget := hkept x hx
      unfold Assoc.contains at hx ⊢
      rw [hget]
      exact hx
    rw [hforget, hmodules, ← hforget]
    exact Nat.le_trans (h.owned x) (Assoc.tally_le hthere)

theorem of_memory (h : s.Imaged)
    (hmemory : t.world.accelerator.memory = s.world.accelerator.memory)
    (hmodules : t.modules = s.modules) : t.Imaged :=
  h.of_kept (fun x _ => congrArg (·.1.get? x) hmemory) (congrArg _ hmodules)

/-- One module less. -/
theorem eraseIdx (h : s.Imaged) (index : Nat) :
    Imaged { s with modules := s.modules.eraseIdx index } where
  imaged m hm := h.imaged m (List.mem_of_mem_eraseIdx hm)
  owned x := by
    have hsub := (List.eraseIdx_sublist s.modules index).filterMap (·.allocation?)
    exact Nat.le_trans (hsub.count_le x) (h.owned x)

/-- A new module comes with memory that was not allocated before. -/
theorem concat (h : s.Imaged) {w : World Simulator}
    (hgained : Assoc.Gained s.world.accelerator.allocations w.accelerator.allocations m.allocation?)
    (hm : m.ImagedIn w.accelerator) : Imaged { world := w, modules := s.modules ++ [m] } where
  imaged m₀ hm₀ := by
    rw [List.mem_append, List.mem_singleton] at hm₀
    obtain hm₀ | rfl := hm₀
    · exact (h.imaged m₀ hm₀).of_kept fun x hx =>
        Assoc.Gained.get?_old hgained (h.contains hm₀ hx)
    · exact hm
  owned x := by
    have howned := h.owned x
    rw [Books.count_filterMap_concat, Assoc.Gained.tally_eq hgained]
    omega

/-- One module is released further: what it frees is its own memory. -/
theorem set (h : s.Imaged) (hm : s.modules[index]? = some m) (hpristine : m'.pristine = m.pristine)
    {w : World Simulator} (hdropped : Assoc.Dropped s.world.accelerator.allocations
      w.accelerator.allocations m.allocation? m'.allocation?) :
    Imaged { world := w, modules := s.modules.set index m' } := by
  have howned : ∀ x, ((s.modules.set index m').filterMap (·.allocation?)).count x ≤
      w.accelerator.allocations.tally x := by
    intro x
    have hthen := h.owned x
    have hfreed := hdropped.tally_add x
    have hcount := Books.count_filterMap_set (·.allocation?) s.modules hm m' x
    omega
  refine ⟨fun m₀ hm₀ => ?_, howned⟩
  obtain hthen | rfl := List.mem_or_eq_of_mem_set hm₀
  · refine (h.imaged m₀ hthen).of_kept fun x hx => hdropped.get?_of_contains ?_
    -- what somebody still answers for was not freed
    have hnow := Books.count_filterMap_pos (f := (·.allocation?)) hm₀ hx
    exact Assoc.tally_pos.mp (Nat.lt_of_lt_of_le hnow (howned x))
  · exact (h.imaged m (List.mem_of_getElem? hm)).dropped hpristine hdropped

end Imaged

/-! ## Requests -/

theorem load_imaged (hsound : s.world.accelerator.Sound) (h : s.Imaged) (current : Option Device)
    (source : LoadSource) : (s.load (loader settings hooks) current source).Imaged := by
  -- the watched run ends like the run itself, and of that one it is known what it acquires
  have hends := Loader.loadFrom_ends settings hooks (w := s.world.watched) hsound current source
  have hplain : (loader settings hooks).loadFrom current source s.world = _ :=
    (Loader.loadFrom_alike (l := watchedLoader settings hooks) (k := loader settings hooks)
      accelerator.watch_alike rfl current source).unwatched s.world.watched
  unfold load
  rcases hrun : (watchedLoader settings hooks).loadFrom current source s.world.watched with
    ⟨e | m, w⟩
  · rw [hrun] at hends hplain
    obtain ⟨held, frozen, news, -, -, -, hu⟩ := hends
    rw [hplain]
    exact h.of_kept (fun x hx => Assoc.Gained.get?_old hu.acquired.allocations hx) rfl
  · rw [hrun] at hends hplain
    obtain ⟨held, news, hloaded⟩ := hends
    have hgained := hloaded.acquired.allocations
    rw [← Loaded.allocation?_eq (s := s.watched) hloaded] at hgained
    rw [hplain]
    exact h.concat hgained (loadFrom_imaged hplain)

theorem unload_imaged (h : s.Imaged) (index : Nat) :
    (s.unload (loader settings hooks) index).Imaged := by
  unfold unload
  cases hm : s.modules[index]? with
  | none => exact h
  | some m =>
    have hplain : (loader settings hooks).unload m s.world = _ :=
      (Loader.unload_alike (l := watchedLoader settings hooks) (k := loader settings hooks)
        accelerator.watch_alike m).unwatched s.world.watched
    dsimp only
    obtain ⟨p, log, hu, -, hrun⟩ | ⟨p, cause, log, hu, hrun⟩ :=
      Loader.unload_cases settings hooks m s.world.watched
    · rw [hrun] at hplain
      rw [hplain]
      have hset := (h.set hm hu.module hu.allocations (w := p.world.unwatched)).eraseIdx index
      dsimp only at hset
      rw [List.eraseIdx_set_eq] at hset
      exact hset.of_memory rfl rfl
    · rw [hrun] at hplain
      rw [hplain]
      exact h.set hm hu.module hu.allocations

/-- **Every request leaves the images where they are**, as far as it does not free them. -/
theorem step_imaged (hsound : s.world.accelerator.Sound) (h : s.Imaged) (r : Request) :
    (s.step (rig settings hooks) r).Imaged := by
  by_cases hquiet : r.Quiet
  · have hkeeps : Session.Keeps s.watched (s.watched.step (watchedRig settings hooks) r) :=
      step_keeps hquiet
    have hplain : s.step (rig settings hooks) r = _ := (step_unwatched s.watched r).symm
    rw [hplain]
    exact h.of_kept (fun x _ => congrArg (·.get? x) hkeeps.world.accelerator.allocations)
      hkeeps.modules
  · cases r with
    | load current source => exact load_imaged hsound h current source
    | unload index => exact unload_imaged h index
    | shutdown => exact h.of_memory (shutdown_memory settings hooks s.world) rfl
    | _ => exact absurd trivial hquiet

end Session

/-! ## Programs -/

theorem Simulator.Operated.sound {s t : Simulator} (o : Operated s t) (h : s.Sound) :
    t.Sound := by
  cases o with
  | called c => exact h.called c
  | inject point => exact Operation.perform_sound h (.inject point)
  | clearFaults => exact Operation.perform_sound h .clearFaults
  | setSegmentSizes kernel group private_ =>
    exact Operation.perform_sound h (.setSegmentSizes kernel group private_)
  | setArgumentSize kernel size => exact Operation.perform_sound h (.setArgumentSize kernel size)

namespace Fleet

open Simulator

variable {settings : LoaderSettings} {hooks : LaunchHooks} {f : Fleet Simulator}

/-- Programs that leave device memory to their loaders. What else they do with the simulator is not
about device memory. -/
inductive Entrusting (settings : LoaderSettings) (hooks : LaunchHooks) : Fleet Simulator → Prop
  | start (hasRegion : Bool) (host : Host.System) :
      Entrusting settings hooks (start { hasRegion } host)
  | requested {f : Fleet Simulator} (h : Entrusting settings hooks f) (r : FleetRequest) :
      Entrusting settings hooks (f.step (rig settings hooks) r)
  | operated {f : Fleet Simulator} (h : Entrusting settings hooks f) {op : Operation}
      (hop : op.changesMemory = false) :
      Entrusting settings hooks (f.operate (op.perform f.session.world.accelerator).2)

theorem entrusting_run (hasRegion : Bool) (host : Host.System) (rs : List FleetRequest) :
    Entrusting settings hooks ((start { hasRegion } host).run (rig settings hooks) rs) := by
  induction rs using List.reverseRecOn with
  | nil => exact .start hasRegion host
  | append_singleton rs r ih =>
    rw [run_append]
    exact ih.requested r

/-- A request to one of several loaders. -/
theorem step_imaged (hsound : f.session.world.accelerator.Sound) (h : f.session.Imaged)
    (r : FleetRequest) : (f.step (rig settings hooks) r).session.Imaged := by
  cases r with
  | create settings hooks hostImage => exact h.of_memory rfl rfl
  | drop i =>
    show ((f.member? i).elim f _).session.Imaged
    cases f.member? i with
    | none => exact h
    | some m => exact h.of_memory (close_memory m.settings m.hooks (f.entered m).world) rfl
  | through i r =>
    show ((f.member? i).elim f _).session.Imaged
    cases f.member? i with
    | none => exact h
    | some m =>
      have hsound : (f.entered m).world.accelerator.Sound := hsound
      have hentered : (f.entered m).Imaged := h.of_memory rfl rfl
      have hstep : ((f.entered m).step (rig m.settings m.hooks) r).Imaged :=
        Session.step_imaged hsound hentered r
      exact hstep

theorem Entrusting.imaged (h : Entrusting settings hooks f) :
    f.session.world.accelerator.Sound ∧ f.session.Imaged := by
  -- along the program; in a sound simulator no load gets memory that is in use
  induction h with
  | start hasRegion host =>
    exact ⟨(Reachable.fresh hasRegion).sound, fun m hm => (List.not_mem_nil hm).elim,
      fun x => Nat.zero_le _⟩
  | @requested f h r ih =>
    have hreaches : f.session.world.accelerator.Reaches
      (f.step (rig settings hooks) r).session.world.accelerator := step_reaches f r
    exact ⟨hreaches Simulator.Sound (fun s t o hs => o.sound hs) ih.1, step_imaged ih.1 ih.2 r⟩
  | @operated f h op hop ih =>
    exact ⟨Operation.perform_sound ih.1 op, ih.2.of_memory (Operation.perform_memory hop _) rfl⟩

/-- Two pages were taken, and the first of them was given back. -/
def oneFreed : Simulator :=
  Operation.run {} [.allocate fineGrainedRegion 1, .allocate fineGrainedRegion 16,
    .free allocationBase]

/-- **Allocations never alias**, whatever is asked of the simulator, and in programs that leave
device memory to their loaders every module from memory has its image there until it is freed. -/
theorem allocations_never_alias :
    (∀ ops : List Operation, (Operation.run {} ops).Unaliased) ∧
      ∀ settings hooks f, Entrusting settings hooks f → ∀ m ∈ f.session.modules,
        (m.source = .memory → m.deviceImage.isSome = true) ∧
          ∀ d, m.deviceImage = some d → m.released.deviceImage = false →
            d.size = m.image.length ∧
              f.session.world.accelerator.allocations.get? d.address = some m.image := by
  constructor
  · intro ops
    exact (Operation.run_apart Operation.fresh_apart ops).unaliased
  · intro settings hooks f hf m hm
    have hm := hf.imaged.2.imaged m hm
    refine ⟨hm.fromMemory, fun d hd hthere => ⟨hm.size d hd, hm.image d.address ?_⟩⟩
    exact LoadedModule.allocation?_of_not (by rw [hthere]; exact Bool.false_ne_true) hd

/-- A write to the page that is left, two more allocations, and the memory of a program that has
loaded a table. -/
theorem allocations_never_alias_oneFreed :
    (∃ t, oneFreed.writeMemory (allocationBase + 0x2004) [1, 2] = (.ok (), t) ∧
      ∃ base old new, WrittenIn oneFreed (allocationBase + 0x2004) [1, 2] base old new t) ∧
    (∃ t u, oneFreed.allocate fineGrainedRegion 0x1001 = (.ok (allocationBase + 0x4000), t) ∧
      t.allocate fineGrainedRegion 1 = (.ok (allocationBase + 0x7000), u) ∧
      allocationBase + 0x4000 + 0x1001 < allocationBase + 0x7000) ∧
    Entrusting {} .default (loaded exportedTable) ∧
    ∃ m ∈ (loaded exportedTable).session.modules, ∃ d, m.deviceImage = some d ∧
      (loaded exportedTable).session.world.accelerator.allocations.get? d.address =
        some m.image := by
  have hunaliased : oneFreed.Unaliased := allocations_never_alias.1 _
  have hwritten : (oneFreed.writeMemory (allocationBase + 0x2004) [1, 2]).1 = .ok () := by
    decide +kernel
  have hfirst : (oneFreed.allocate fineGrainedRegion 0x1001).1 = .ok (allocationBase + 0x4000) := by
    decide +kernel
  have hthen : ((oneFreed.allocate fineGrainedRegion 0x1001).2.allocate fineGrainedRegion 1).1 =
      .ok (allocationBase + 0x7000) := by
    decide +kernel
  have hf : Entrusting {} .default (loaded exportedTable) := entrusting_run true _ _
  have hthere : (loaded exportedTable).session.modules ≠ [] := by decide +kernel
  have hmodules : ∀ m ∈ (loaded exportedTable).session.modules,
      m.source = .memory ∧ m.released.deviceImage = false := by
    decide +kernel
  refine ⟨⟨_, Prod.ext hwritten rfl, hunaliased.written _ _ _ (Prod.ext hwritten rfl)⟩,
    ⟨_, _, Prod.ext hfirst rfl, Prod.ext hthen rfl, ?_⟩, hf, ?_⟩
  · exact hunaliased.later _ _ _ _ (Prod.ext hfirst rfl) [] _ _ _ _ (Prod.ext hthen rfl)
  · obtain ⟨m, hm⟩ := List.exists_mem_of_ne_nil _ hthere
    obtain ⟨hsource, hkept⟩ := hmodules m hm
    obtain ⟨hmemory, himage⟩ := allocations_never_alias.2 {} .default _ hf m hm
    obtain ⟨d, hd⟩ := Option.isSome_iff_exists.mp (hmemory hsource)
    exact ⟨m, hm, d, hd, (himage d hd hkept).2⟩

end Fleet

end DeviceCode

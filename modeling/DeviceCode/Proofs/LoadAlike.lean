import DeviceCode.Proofs.LoaderAlike

/-!
# Loading and unloading over accelerators that answer alike

The second half of the operations. Loads and unloads carry something of their own next to the world,
the holdings of a load and the module of an unload; both are the same on either side.

Loads make most kinds of calls, so `Accelerator.Alike` asks for all of them at once. Neither loads
nor unloads touch the known layouts, so they keep any property of the loader's state that depends on
those only.
-/

namespace DeviceCode

variable {σ τ α β : Type} {R : σ → τ → Prop} {L : LoaderState → Prop}

/-- Accelerators all of whose calls run alike. -/
structure Accelerator.Alike (R : σ → τ → Prop) (a : Accelerator σ) (b : Accelerator τ) : Prop where
  createExecutable : CallsAlike R a.createExecutable b.createExecutable
  loadReader : ∀ e g r, CallsAlike R (a.loadReader e g r) (b.loadReader e g r)
  loadCodeObject : ∀ e g c, CallsAlike R (a.loadCodeObject e g c) (b.loadCodeObject e g c)
  freeze : ∀ e, CallsAlike R (a.freeze e) (b.freeze e)
  destroyExecutable : ∀ e, CallsAlike R (a.destroyExecutable e) (b.destroyExecutable e)
  getSymbol : ∀ e g n, CallsAlike R (a.getSymbol e g n) (b.getSymbol e g n)
  defineGlobal : ∀ e n x, CallsAlike R (a.defineGlobal e n x) (b.defineGlobal e n x)
  createReader : ∀ fs p, CallsAlike R (a.createReader fs p) (b.createReader fs p)
  destroyReader : ∀ r, CallsAlike R (a.destroyReader r) (b.destroyReader r)
  deserialize : ∀ x n, CallsAlike R (a.deserialize x n) (b.deserialize x n)
  destroyCodeObject : ∀ c, CallsAlike R (a.destroyCodeObject c) (b.destroyCodeObject c)
  lockMemory : ∀ g x n, CallsAlike R (a.lockMemory g x n) (b.lockMemory g x n)
  unlockMemory : ∀ x, CallsAlike R (a.unlockMemory x) (b.unlockMemory x)
  findRegion : ∀ g, CallsAlike R (a.findRegion g) (b.findRegion g)
  allocate : ∀ r n, CallsAlike R (a.allocate r n) (b.allocate r n)
  free : ∀ x, CallsAlike R (a.free x) (b.free x)
  writeMemory : ∀ x bs, CallsAlike R (a.writeMemory x bs) (b.writeMemory x bs)
  dispatch : ∀ g q p bs w, CallsAlike R (a.dispatch g q p bs w) (b.dispatch g q p bs w)
  synchronize : ∀ g, CallsAlike R (a.synchronize g) (b.synchronize g)
  releaseCompletion : ∀ c, CallsAlike R (a.releaseCompletion c) (b.releaseCompletion c)

/-- The same module, and worlds that match. -/
structure UnloadProgress.MatchOn (L : LoaderState → Prop) (R : σ → τ → Prop)
    (p : UnloadProgress σ) (q : UnloadProgress τ) : Prop where
  module : p.module = q.module
  world : World.MatchOn L R p.world q.world

/-- The same holdings, and worlds that match. -/
structure LoadProgress.MatchOn (L : LoaderState → Prop) (R : σ → τ → Prop)
    (p : LoadProgress σ) (q : LoadProgress τ) : Prop where
  held : p.held = q.held
  world : World.MatchOn L R p.world q.world

namespace UnloadStep

theorem call_alike {f : σ → Reply σ α} {g : τ → Reply τ α} (h : CallsAlike R f g) :
    AlikeE (UnloadProgress.MatchOn L R) Eq (call f) (call g) := by
  intro p q hp
  obtain ⟨ha, hw⟩ := World.call_alike h p.world q.world hp.world
  exact ⟨SameOutcome.of_eq ha, { module := hp.module, world := hw }⟩

theorem update_alike (f : LoadedModule → LoadedModule) :
    AlikeE (UnloadProgress.MatchOn L R) Eq (update f) (update f) :=
  fun _ _ hp => ⟨rfl, { module := congrArg f hp.module, world := hp.world }⟩

end UnloadStep

namespace LoadStep

theorem attempt_alike {x : Attempt σ α} {y : Attempt τ α} (h : AlikeE (World.MatchOn L R) Eq x y) :
    AlikeE (LoadProgress.MatchOn L R) Eq (attempt x) (attempt y) :=
  fun p q hp => ⟨(h p.world q.world hp.world).1,
    { held := hp.held, world := (h p.world q.world hp.world).2 }⟩

theorem call_alike (cause : CallError → LoadError) {f : σ → Reply σ α} {g : τ → Reply τ α}
    (h : CallsAlike R f g) : AlikeE (LoadProgress.MatchOn L R) Eq (call cause f) (call cause g) :=
  attempt_alike (Attempt.call_alike cause h)

theorem hold_alike (f : Holdings → Holdings) :
    AlikeE (LoadProgress.MatchOn L R) Eq (hold f) (hold f) :=
  fun p q hp => ⟨rfl, { held := by show f p.held = f q.held; rw [hp.held], world := hp.world }⟩

end LoadStep

namespace Loader

variable {l : Loader σ} {k : Loader τ}

/-! ## Unloading and tearing down -/

section Unload

variable (h : l.accelerator.Alike R k.accelerator)
include h

theorem releaseExecutable_alike :
    AlikeE (UnloadProgress.MatchOn L R) Eq l.releaseExecutable k.releaseExecutable := by
  refine AlikeE.get_bind fun p q hp => ?_
  rw [hp.module]
  show AlikeE _ _ (if _ then _ else _) (if _ then _ else _)
  split
  · exact AlikeE.pure rfl
  · exact (UnloadStep.call_alike (h.destroyExecutable _)).andThen fun _ =>
      UnloadStep.update_alike _

theorem releaseCodeObject_alike (d : DeviceImage) :
    AlikeE (UnloadProgress.MatchOn L R) Eq (l.releaseCodeObject d) (k.releaseCodeObject d) := by
  refine AlikeE.get_bind fun p q hp => ?_
  rw [hp.module]
  split
  · exact AlikeE.pure rfl
  · exact (UnloadStep.call_alike (h.destroyCodeObject _)).andThen fun _ =>
      UnloadStep.update_alike _

theorem releaseDeviceImage_alike (d : DeviceImage) :
    AlikeE (UnloadProgress.MatchOn L R) Eq (l.releaseDeviceImage d) (k.releaseDeviceImage d) := by
  refine AlikeE.get_bind fun p q hp => ?_
  rw [hp.module]
  split
  · exact AlikeE.pure rfl
  · exact (UnloadStep.call_alike (h.free _)).andThen fun _ => UnloadStep.update_alike _

omit h in
theorem forgetFunctions_alike :
    AlikeE (UnloadProgress.MatchOn L R) Eq forgetFunctions forgetFunctions := by
  refine AlikeE.get_bind fun p q hp => ?_
  rw [hp.module]
  exact (UnloadStep.update_alike _).andThen fun _ => AlikeE.pure rfl

theorem releaseSteps_alike :
    AlikeE (UnloadProgress.MatchOn L R) Eq l.releaseSteps k.releaseSteps := by
  refine AlikeE.get_bind fun p q hp => ?_
  rw [hp.module]
  refine (UnloadStep.call_alike (h.synchronize _)).andThen fun _ => ?_
  refine (releaseExecutable_alike h).andThen fun _ => ?_
  refine forgetFunctions_alike.andThen fun functions => ?_
  cases q.module.deviceImage with
  | none => exact AlikeE.pure rfl
  | some d =>
    refine (releaseCodeObject_alike h d).andThen fun _ => ?_
    exact (releaseDeviceImage_alike h d).andThen fun _ => AlikeE.pure rfl

theorem unload_alikeOn (hL : ∀ s t : LoaderState, s.layouts = t.layouts → L s → L t)
    (m : LoadedModule) : Alike (World.MatchOn L R) Eq (l.unload m) (k.unload m) := by
  intro v w hw
  unfold Loader.unload
  rcases (releaseSteps_alike h).runs (s := ⟨m, v⟩) (t := ⟨m, w⟩) ⟨rfl, hw⟩ with
    ⟨e, p, q, hl, hk, hp⟩ | ⟨functions, _, p, q, hl, hk, rfl, hp⟩
  · rw [hl, hk]
    refine (?_ : Alike (World.MatchOn L R) Eq _ _) p.world q.world hp.world
    rw [hp.module]
    exact (World.report_alike _).andThen fun _ => Alike.pure rfl
  · rw [hl, hk]
    refine (?_ : Alike (World.MatchOn L R) Eq _ _) p.world q.world hp.world
    refine (World.updateLoader_alike _ (by exact fun s => hL s _ rfl)).andThen fun _ => ?_
    exact (World.report_alike _).andThen fun _ => Alike.pure rfl

theorem unload_alike (m : LoadedModule) :
    Alike (World.Match R) Eq (l.unload m) (k.unload m) :=
  unload_alikeOn h (fun _ _ _ _ => trivial) m

theorem unpinAll_alike (pins : List PinnedGlobal) :
    Alike (World.MatchOn L R) Eq (l.unpinAll pins) (k.unpinAll pins) := by
  induction pins with
  | nil => exact Alike.pure rfl
  | cons pin pins ih => exact (World.discard_alike (h.unlockMemory _) _).andThen fun _ => ih

end Unload

section Teardown

variable
  (hunlock : ∀ x, CallsAlike R (l.accelerator.unlockMemory x) (k.accelerator.unlockMemory x))
  (hdestroy : ∀ r, CallsAlike R (l.accelerator.destroyReader r) (k.accelerator.destroyReader r))

include hunlock in
theorem unpinReleased_alike (report : TeardownReport) (pins : List PinnedGlobal) :
    Alike (World.MatchOn L R) Eq (l.unpinReleased report pins) (k.unpinReleased report pins) := by
  induction pins generalizing report with
  | nil => exact Alike.pure rfl
  | cons pin pins ih =>
    refine (World.discard_alike (hunlock _) _).andThen fun failure => ?_
    cases failure with
    | none => exact ih _
    | some e => exact ih _

include hdestroy in
theorem destroyReleased_alike (report : TeardownReport) (readers : List ReaderHandle) :
    Alike (World.MatchOn L R) Eq (l.destroyReleased report readers)
      (k.destroyReleased report readers) := by
  induction readers generalizing report with
  | nil => exact Alike.pure rfl
  | cons r rs ih =>
    refine (World.discard_alike (hdestroy _) _).andThen fun failure => ?_
    cases failure with
    | none => exact ih _
    | some e => exact ih _

include hunlock hdestroy

theorem shutdown_alikeOn (hL : ∀ s t : LoaderState, s.layouts = t.layouts → L s → L t) :
    Alike (World.MatchOn L R) Eq l.shutdown k.shutdown := by
  refine Alike.get_bind fun v w hw => ?_
  rw [hw.loader]
  refine (World.updateLoader_alike _ (by exact fun s => hL s _ rfl)).andThen fun _ => ?_
  refine (unpinReleased_alike hunlock _ _).andThen fun report => ?_
  refine (destroyReleased_alike hdestroy _ _).andThen fun report => ?_
  show Alike _ _ (if _ then _ else _) (if _ then _ else _)
  split
  · refine (World.report_alike _).andThen fun _ => ?_
    refine (World.updateLoader_alike _ (by exact fun s => hL s _ rfl)).andThen fun _ => ?_
    exact (World.report_alike _).andThen fun _ => Alike.pure rfl
  · refine (World.updateLoader_alike _ (by exact fun s => hL s _ rfl)).andThen fun _ => ?_
    exact (World.report_alike _).andThen fun _ => Alike.pure rfl

theorem close_alike : Alike (World.Match R) Eq l.close k.close := by
  refine Alike.get_bind fun v w hw => ?_
  rw [hw.loader]
  split
  · exact Alike.pure rfl
  · refine (shutdown_alikeOn hunlock hdestroy fun _ _ _ _ => trivial).andThen fun report => ?_
    split
    · exact Alike.pure rfl
    · exact World.report_alike _

omit hunlock hdestroy in
theorem shutdown_alike (h : l.accelerator.Alike R k.accelerator) :
    Alike (World.Match R) Eq l.shutdown k.shutdown :=
  shutdown_alikeOn h.unlockMemory h.destroyReader fun _ _ _ _ => trivial

end Teardown

/-! ## Loading -/

section Load

variable (h : l.accelerator.Alike R k.accelerator)
include h

theorem pinGlobal_alike (host : Host.Image) (agent : AgentHandle) (name : String) :
    AlikeE (World.MatchOn L R) Eq (l.pinGlobal host agent name) (k.pinGlobal host agent name) := by
  unfold pinGlobal
  cases host.lookup? name with
  | none => exact AlikeE.throw
  | some s => exact (Attempt.call_alike _ (h.lockMemory _ _ _)).andThen fun _ => AlikeE.pure rfl

theorem defineGlobal_alike (executable : ExecutableHandle) (pin : PinnedGlobal) :
    AlikeE (World.MatchOn L R) Eq (l.defineGlobal executable pin) (k.defineGlobal executable pin) :=
  (Attempt.call_alike _ (h.defineGlobal _ _ _)).andThen fun _ => Attempt.report_alike _

theorem bindUntilFailure_alike (host : Host.Image) (agent : AgentHandle)
    (executable : ExecutableHandle) (pins : List PinnedGlobal) (names : List String) :
    Alike (World.MatchOn L R) Eq (l.bindUntilFailure host agent executable pins names)
      (k.bindUntilFailure host agent executable pins names) := by
  induction names generalizing pins with
  | nil => exact Alike.pure rfl
  | cons name names ih =>
    refine (pinGlobal_alike h host agent name).outcome.andThen fun pinned => ?_
    cases pinned with
    | error e => exact Alike.pure rfl
    | ok pin =>
      refine (defineGlobal_alike h executable pin).outcome.andThen fun defined => ?_
      cases defined with
      | error e => exact Alike.pure rfl
      | ok _ => exact ih _

theorem bindGlobals_alike (host : Host.Image) (agent : AgentHandle)
    (executable : ExecutableHandle) (names : List String) :
    AlikeE (World.MatchOn L R) Eq (l.bindGlobals host agent executable names)
      (k.bindGlobals host agent executable names) := by
  refine AlikeE.lift_bind (bindUntilFailure_alike h host agent executable [] names) ?_
  rintro ⟨pins, _ | e⟩
  · exact (Attempt.report_alike _).andThen fun _ => AlikeE.pure rfl
  · exact (Attempt.perform_alike (unpinAll_alike h pins)).andThen fun _ => AlikeE.throw

omit h in
theorem giveBack_alike {κ : Type} (held : Option κ) {f : κ → σ → Reply σ Unit}
    {g : κ → τ → Reply τ Unit} (hfg : ∀ x, CallsAlike R (f x) (g x)) (message what : String)
    (label : κ → String) :
    Alike (World.MatchOn L R) Eq (giveBack held f message what label)
      (giveBack held g message what label) := by
  cases held with
  | none => exact Alike.pure rfl
  | some x => exact (World.discard_alike (hfg x) _).andThen fun _ => Alike.pure rfl

theorem rollBack_alike (held : Holdings) :
    Alike (World.MatchOn L R) Eq (l.rollBack held) (k.rollBack held) := by
  refine (giveBack_alike _ h.destroyExecutable _ _ _).andThen fun _ => ?_
  refine (giveBack_alike _ h.destroyCodeObject _ _ _).andThen fun _ => ?_
  refine (giveBack_alike _ h.free _ _ _).andThen fun _ => ?_
  refine (giveBack_alike _ h.destroyReader _ _ _).andThen fun _ => ?_
  refine (unpinAll_alike h _).andThen fun _ => ?_
  split
  · exact Alike.pure rfl
  · exact World.report_alike _

theorem transaction_alike {x : LoadStep σ α} {y : LoadStep τ α}
    (hxy : AlikeE (LoadProgress.MatchOn L R) Eq x y) :
    AlikeE (World.MatchOn L R) Eq (l.transaction x) (k.transaction y) := by
  intro v w hw
  unfold Loader.transaction
  rcases hxy.runs (s := { world := v }) (t := { world := w }) ⟨rfl, hw⟩ with
    ⟨e, p, q, hx, hy, hp⟩ | ⟨a, _, p, q, hx, hy, rfl, hp⟩
  · rw [hx, hy]
    dsimp only
    rw [hp.held]
    exact ⟨rfl, (rollBack_alike h q.held p.world q.world hp.world).2⟩
  · rw [hx, hy]
    dsimp only
    rw [hp.held]
    exact ⟨rfl, hp.world⟩

theorem newExecutable_alike :
    AlikeE (LoadProgress.MatchOn L R) Eq l.newExecutable k.newExecutable := by
  refine (LoadStep.call_alike _ h.createExecutable).andThen fun e => ?_
  exact (LoadStep.hold_alike _).andThen fun _ => AlikeE.pure rfl

theorem imageRegion_alike (agent : AgentHandle) :
    AlikeE (LoadProgress.MatchOn L R) Eq (l.imageRegion agent) (k.imageRegion agent) := by
  refine (LoadStep.call_alike _ (h.findRegion agent)).andThen fun found => ?_
  cases found with
  | none => exact AlikeE.throw
  | some region => exact AlikeE.pure rfl

omit h in
theorem commit_alike (hL : ∀ s t : LoaderState, s.layouts = t.layouts → L s → L t)
    (held : Holdings) : Alike (World.MatchOn L R) Eq (commit held) (commit held) := by
  refine Alike.get_bind fun v w hw => ?_
  rw [hw.loader]
  exact (World.updateLoader_alike _ (by exact fun s => hL s _ rfl)).andThen fun _ => Alike.pure rfl

omit h in
theorem announce_alike (m : LoadedModule) (undefined : Nat) :
    Alike (World.MatchOn L R) Eq (announce m undefined) (announce m undefined) :=
  (World.report_alike _).andThen fun _ => World.report_alike _

/-! The steps of a load change nothing that the loader remembers but the host image. -/

section Steps

variable (hL : ∀ s image, L s → L { s with hostImage := some image })
  (hs : l.settings = k.settings)
include hL hs

omit h in
theorem hostImage_alike : AlikeE (World.MatchOn L R) Eq l.hostImage k.hostImage := by
  refine AlikeE.get_bind fun v w hw => ?_
  rw [hw.loader, hw.host, hs]
  cases w.loader.hostImage with
  | some image => exact AlikeE.pure rfl
  | none =>
    refine (Attempt.ofExcept_alike _).andThen fun image => ?_
    refine (Attempt.report_alike _).andThen fun _ => ?_
    refine (Attempt.perform_alike (World.updateLoader_alike _ ?_)).andThen fun _ => AlikeE.pure rfl
    exact fun s => hL s image

theorem bindUndefined_alike (agent : AgentHandle) (executable : ExecutableHandle)
    (undefined : List String) :
    AlikeE (LoadProgress.MatchOn L R) Eq (l.bindUndefined agent executable undefined)
      (k.bindUndefined agent executable undefined) := by
  unfold bindUndefined
  split
  · exact AlikeE.pure rfl
  · refine (LoadStep.attempt_alike (hostImage_alike hL hs)).andThen fun host => ?_
    refine (LoadStep.attempt_alike (bindGlobals_alike h _ _ _ _)).andThen fun pins => ?_
    exact LoadStep.hold_alike _

theorem loadFileSteps_alike (agent : AgentHandle) (path : String) (undefined : List String) :
    AlikeE (LoadProgress.MatchOn L R) Eq (l.loadFileSteps agent path undefined)
      (k.loadFileSteps agent path undefined) := by
  refine (newExecutable_alike h).andThen fun e => ?_
  refine (bindUndefined_alike h hL hs agent e undefined).andThen fun _ => ?_
  refine AlikeE.get_bind fun p q hp => ?_
  rw [hp.world.host]
  refine (LoadStep.call_alike _ (h.createReader _ _)).andThen fun r => ?_
  refine (LoadStep.hold_alike _).andThen fun _ => ?_
  refine (LoadStep.call_alike _ (h.loadReader e agent r)).andThen fun _ => ?_
  exact (LoadStep.call_alike _ (h.freeze e)).andThen fun _ => AlikeE.pure rfl

theorem loadImageSteps_alike (agent : AgentHandle) (image : Bytes) (undefined : List String) :
    AlikeE (LoadProgress.MatchOn L R) Eq (l.loadImageSteps agent image undefined)
      (k.loadImageSteps agent image undefined) := by
  refine (imageRegion_alike h agent).andThen fun region => ?_
  refine (LoadStep.call_alike _ (h.allocate _ _)).andThen fun address => ?_
  refine (LoadStep.hold_alike _).andThen fun _ => ?_
  refine (LoadStep.call_alike _ (h.writeMemory _ _)).andThen fun _ => ?_
  refine (LoadStep.call_alike _ (h.deserialize _ _)).andThen fun c => ?_
  refine (LoadStep.hold_alike _).andThen fun _ => ?_
  refine (newExecutable_alike h).andThen fun e => ?_
  refine (bindUndefined_alike h hL hs agent e undefined).andThen fun _ => ?_
  refine (LoadStep.call_alike _ (h.loadCodeObject e agent c)).andThen fun _ => ?_
  exact (LoadStep.call_alike _ (h.freeze e)).andThen fun _ => AlikeE.pure rfl

end Steps

variable (hL : ∀ s t : LoaderState, s.layouts = t.layouts → L s → L t)
  (hs : l.settings = k.settings)
include hL hs

theorem load_alike (current : Option Device) (path : String) :
    AlikeE (World.MatchOn L R) Eq (l.load current path) (k.load current path) := by
  refine (Attempt.ofExcept_alike _).andThen fun device => ?_
  refine (Attempt.report_alike _).andThen fun _ => ?_
  refine AlikeE.get_bind fun v w hw => ?_
  rw [hw.host]
  cases w.host.files.read path with
  | error fault => exact fun v w hw => ⟨rfl, hw⟩
  | ok bytes =>
    refine (AlikeE.pure rfl).andThen fun image => ?_
    refine (Attempt.ofExcept_alike _).andThen fun undefined => ?_
    refine (transaction_alike h
      (loadFileSteps_alike h (fun s _ => hL s _ rfl) hs _ _ _)).andThen fun (e, held) => ?_
    refine (Attempt.perform_alike (commit_alike hL held)).andThen fun id => ?_
    exact (Attempt.perform_alike (announce_alike _ _)).andThen fun _ => AlikeE.pure rfl

theorem loadData_alike (current : Option Device) (bytes : Bytes) :
    AlikeE (World.MatchOn L R) Eq (l.loadData current bytes) (k.loadData current bytes) := by
  refine (Attempt.ofExcept_alike _).andThen fun device => ?_
  refine (Attempt.report_alike _).andThen fun _ => ?_
  refine (Attempt.ofExcept_alike _).andThen fun o => ?_
  refine (Attempt.ofExcept_alike _).andThen fun image => ?_
  refine (Attempt.ofExcept_alike _).andThen fun undefined => ?_
  refine (transaction_alike h
    (loadImageSteps_alike h (fun s _ => hL s _ rfl) hs _ _ _)).andThen fun ((e, d), held) => ?_
  refine (Attempt.perform_alike (commit_alike hL held)).andThen fun id => ?_
  exact (Attempt.perform_alike (announce_alike _ _)).andThen fun _ => AlikeE.pure rfl

theorem loadDataWith_alike (current : Option Device) (bytes : Bytes) (options : List LoadOption) :
    AlikeE (World.MatchOn L R) Eq (l.loadDataWith current bytes options)
      (k.loadDataWith current bytes options) := by
  unfold loadDataWith
  split
  · exact loadData_alike h hL hs current bytes
  · exact (Attempt.report_alike _).andThen fun _ => loadData_alike h hL hs current bytes

end Load

end Loader

end DeviceCode

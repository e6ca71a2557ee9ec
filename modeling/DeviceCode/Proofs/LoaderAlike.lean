import DeviceCode.Loader.Launch
import DeviceCode.Loader.Lookup
import DeviceCode.Loader.Teardown
import DeviceCode.Proofs.Alike

/-!
# A loader sees its accelerator through answers only

Two loaders with the same settings and hooks, over accelerators whose calls run alike, run alike
themselves: every operation gives the same answer and changes everything but the accelerator's state
in the same way. A loader operation asks only for those calls to run alike that it makes, so that
the same theorems say what an operation leaves alone: a property of the accelerator's state that
these calls keep is kept by the operation.

The relation also carries a property of the loader's own state. Lookups keep any such property, and
launches any that computing a layout keeps.
-/

namespace DeviceCode

variable {σ τ α β : Type} {R : σ → τ → Prop}

/-- Two calls that give the same answer and leave related states. -/
def CallsAlike (R : σ → τ → Prop) (f : σ → Reply σ α) (g : τ → Reply τ α) : Prop :=
  ∀ s t, R s t → (f s).1 = (g t).1 ∧ R (f s).2 (g t).2

/-- Worlds that are the same but for the states of their accelerators, which are related; and what
their loader remembers has the property `L`. -/
structure World.MatchOn (L : LoaderState → Prop) (R : σ → τ → Prop) (v : World σ) (w : World τ) :
    Prop where
  accelerator : R v.accelerator w.accelerator
  host : v.host = w.host
  loader : v.loader = w.loader
  keeps : L v.loader
  completions : v.completions = w.completions
  log : v.log = w.log
  hookCalls : v.hookCalls = w.hookCalls

/-- Worlds that are the same but for the states of their accelerators. -/
abbrev World.Match (R : σ → τ → Prop) (v : World σ) (w : World τ) : Prop :=
  World.MatchOn (fun _ => True) R v w

variable {L : LoaderState → Prop}

/-! ## Calls and changes of the world -/

namespace World

theorem run_call {w : World σ} {s : σ} {f : σ → Reply σ α} {r : Except CallError α}
    (h : f w.accelerator = (r, s)) : call f w = (r, { w with accelerator := s }) := by
  unfold call
  rw [h]

theorem call_alike {f : σ → Reply σ α} {g : τ → Reply τ α} (h : CallsAlike R f g) :
    Alike (MatchOn L R) Eq (call f) (call g) := by
  intro v w hw
  obtain ⟨ha, hs⟩ := h _ _ hw.accelerator
  exact ⟨ha, { hw with accelerator := hs }⟩

theorem report_alike (e : Trace.Event) : Alike (MatchOn L R) Eq (report e) (report e) :=
  fun v w hw => ⟨rfl, { hw with log := by show v.log ++ [e] = w.log ++ [e]; rw [hw.log] }⟩

theorem recordHook_alike (c : HookCall) : Alike (MatchOn L R) Eq (recordHook c) (recordHook c) :=
  fun v w hw => ⟨rfl, { hw with
    hookCalls := by show v.hookCalls ++ [c] = w.hookCalls ++ [c]; rw [hw.hookCalls] }⟩

theorem updateLoader_alike (f : LoaderState → LoaderState) (hf : ∀ s, L s → L (f s)) :
    Alike (MatchOn L R) Eq (updateLoader f) (updateLoader f) :=
  fun v w hw => ⟨rfl, { hw with
    loader := by show f v.loader = f w.loader; rw [hw.loader]
    keeps := hf _ hw.keeps }⟩

theorem reportAll_alike (es : List Trace.Event) :
    Alike (MatchOn L R) Eq (modify fun w => { w with log := w.log ++ es })
      (modify fun w => { w with log := w.log ++ es }) :=
  fun v w hw => ⟨rfl, { hw with log := by show v.log ++ es = w.log ++ es; rw [hw.log] }⟩

theorem discard_of_alike {S : World σ → World τ → Prop} {f : σ → Reply σ Unit}
    {g : τ → Reply τ Unit} (h : Alike S Eq (call f) (call g))
    (hreport : ∀ e, Alike S Eq (report e) (report e)) (warning : CallError → Trace.Event) :
    Alike S Eq (discard f warning) (discard g warning) := by
  refine h.andThen fun r => ?_
  cases r with
  | ok a => exact Alike.pure rfl
  | error e => exact (hreport _).andThen fun _ => Alike.pure rfl

theorem discard_alike {f : σ → Reply σ Unit} {g : τ → Reply τ Unit} (h : CallsAlike R f g)
    (warning : CallError → Trace.Event) :
    Alike (MatchOn L R) Eq (discard f warning) (discard g warning) :=
  discard_of_alike (call_alike h) report_alike warning

end World

namespace Attempt

theorem run_call_ok {w : World σ} {s : σ} (cause : CallError → LoadError) {f : σ → Reply σ α}
    {a : α} (h : f w.accelerator = (.ok a, s)) :
    call cause f w = (.ok a, { w with accelerator := s }) := by
  rw [call, run_lift_bind, World.run_call h]
  rfl

theorem run_call_error {w : World σ} {s : σ} (cause : CallError → LoadError) {f : σ → Reply σ α}
    {e : CallError} (h : f w.accelerator = (.error e, s)) :
    call cause f w = (.error (cause e), { w with accelerator := s }) := by
  rw [call, run_lift_bind, World.run_call h]
  rfl

theorem perform_alike {S : World σ → World τ → Prop} {x : Action σ α} {y : Action τ α}
    (h : Alike S Eq x y) : AlikeE S Eq (perform x) (perform y) :=
  fun v w hw => ⟨SameOutcome.of_eq (congrArg Except.ok (h v w hw).1), (h v w hw).2⟩

theorem report_alike (e : Trace.Event) : AlikeE (World.MatchOn L R) Eq (report e) (report e) :=
  perform_alike (World.report_alike e)

theorem ofExcept_alike (r : Except LoadError α) :
    AlikeE (World.MatchOn L R) Eq (ofExcept r) (ofExcept r) :=
  fun _ _ hw => ⟨SameOutcome.of_eq rfl, hw⟩

theorem call_of_alike {S : World σ → World τ → Prop} (cause : CallError → LoadError)
    {f : σ → Reply σ α} {g : τ → Reply τ α} (h : Alike S Eq (World.call f) (World.call g)) :
    AlikeE S Eq (call cause f) (call cause g) := by
  refine AlikeE.lift_bind h fun r => ?_
  cases r with
  | ok a => exact AlikeE.pure rfl
  | error e => exact AlikeE.throw

theorem call_alike (cause : CallError → LoadError) {f : σ → Reply σ α} {g : τ → Reply τ α}
    (h : CallsAlike R f g) : AlikeE (World.MatchOn L R) Eq (call cause f) (call cause g) :=
  call_of_alike cause (World.call_alike h)

end Attempt

namespace Loader

variable {l : Loader σ} {k : Loader τ}

/-! ## Looking symbols up -/

section Lookup

variable
  (hg : ∀ e g n, CallsAlike R (l.accelerator.getSymbol e g n) (k.accelerator.getSymbol e g n))
include hg

theorem findSymbol_alike (device : Device) (m : LoadedModule) (name : String)
    (fits : ExecutableSymbol → Bool) :
    AlikeE (World.MatchOn L R) Eq (l.findSymbol device m name fits)
      (k.findSymbol device m name fits) := by
  refine (Attempt.call_alike _ (hg _ _ _)).andThen fun found => ?_
  cases found.filter fits with
  | none => exact AlikeE.throw
  | some s => exact AlikeE.pure rfl

theorem getFunction_alike (current : Option Device) (m : LoadedModule) (name : String) :
    AlikeE (World.MatchOn L R) Eq (l.getFunction current m name)
      (k.getFunction current m name) := by
  refine (Attempt.ofExcept_alike _).andThen fun device => ?_
  refine (Attempt.ofExcept_alike _).andThen fun _ => ?_
  cases m.known? name with
  | some f => exact AlikeE.pure rfl
  | none =>
    refine (findSymbol_alike hg device m name _).andThen fun s => ?_
    exact (Attempt.report_alike _).andThen fun _ => AlikeE.pure rfl

theorem getGlobal_alike (current : Option Device) (m : LoadedModule) (name : String) :
    AlikeE (World.MatchOn L R) Eq (l.getGlobal current m name) (k.getGlobal current m name) := by
  refine (Attempt.ofExcept_alike _).andThen fun device => ?_
  refine (Attempt.ofExcept_alike _).andThen fun _ => ?_
  refine (findSymbol_alike hg device m name _).andThen fun s => ?_
  exact (Attempt.ofExcept_alike _).andThen fun _ => AlikeE.pure rfl

end Lookup

/-! ## Launching -/

/-- A layout that is not there yet is computed and kept; one that cannot be computed changes
nothing. -/
theorem layoutOf_run (kernel : String) (w : World σ) :
    World.layoutOf kernel w = match w.loader.layouts.getOrCompute kernel with
      | .error e => (.error e, w)
      | .ok (layout, layouts) =>
        if (w.loader.layouts.get? kernel).isSome then (.ok layout, w)
        else (.ok layout, { w with
          loader := { w.loader with layouts }
          log := w.log ++ [LayoutCache.computedEvent kernel layout] }) := by
  show (Attempt.ofExcept (w.loader.layouts.getOrCompute kernel) >>= _ : Attempt σ ArgLayout) w = _
  cases w.loader.layouts.getOrCompute kernel with
  | error e => rfl
  | ok found =>
    show (if _ then _ else _ : Attempt σ ArgLayout) w = _
    split <;> rfl

section Packing

variable (hL : ∀ s kernel layout layouts, L s →
  s.layouts.getOrCompute kernel = .ok (layout, layouts) → L { s with layouts })
include hL

theorem layoutOf_alike (kernel : String) :
    AlikeE (World.MatchOn L R) Eq (World.layoutOf kernel) (World.layoutOf kernel) := by
  intro v w hw
  rw [layoutOf_run, layoutOf_run, ← hw.loader]
  cases hget : v.loader.layouts.getOrCompute kernel with
  | error e => exact ⟨rfl, hw⟩
  | ok found =>
    dsimp only
    split
    · exact ⟨rfl, hw⟩
    · refine ⟨rfl, { hw with
        loader := rfl
        keeps := hL _ _ _ _ hw.keeps hget
        log := ?_ }⟩
      show v.log ++ _ = w.log ++ _
      rw [hw.log]

theorem packArguments_alike (kernel : String) (args : LaunchArgs) :
    AlikeE (World.MatchOn L R) Eq (World.packArguments kernel args)
      (World.packArguments kernel args) := by
  refine (Attempt.ofExcept_alike _).andThen fun form => ?_
  cases form with
  | structured arguments =>
    refine (layoutOf_alike hL kernel).andThen fun layout => ?_
    exact (Attempt.ofExcept_alike _).andThen fun _ => AlikeE.pure rfl
  | described words => exact (Attempt.ofExcept_alike _).andThen fun _ => AlikeE.pure rfl

end Packing

theorem buildPacket_alike (f : KernelFunction) (g : Geometry) (mode : FlushMode) :
    AlikeE (World.MatchOn L R) Eq (World.buildPacket f g mode) (World.buildPacket f g mode) := by
  refine (Attempt.ofExcept_alike _).andThen fun packet => ?_
  exact (Attempt.report_alike _).andThen fun _ => AlikeE.pure rfl

section Completions

/-- What the attaching and releasing of completions asks of a relation between worlds: the
completions are the same, and whatever changes them or releases one keeps the relation. -/
structure Bears (l : Loader σ) (k : Loader τ) (S : World σ → World τ → Prop) : Prop where
  completions : ∀ v w, S v w → v.completions = w.completions
  replaced : ∀ v w c, S v w → S { v with completions := c } { w with completions := c }
  reported : ∀ e, Alike S Eq (World.report e) (World.report e)
  released : ∀ c, Alike S Eq (World.call (l.accelerator.releaseCompletion c))
    (World.call (k.accelerator.releaseCompletion c))

namespace Bears

variable {S : World σ → World τ → Prop} (h : Bears l k S)
include h

theorem setCompletions (c : Completions) :
    Alike S Eq (modify fun w => { w with completions := c })
      (modify fun w => { w with completions := c }) :=
  fun v w hw => ⟨rfl, h.replaced v w c hw⟩

theorem releaseCompletion (c : CompletionHandle) :
    Alike S Eq (l.releaseCompletion c) (k.releaseCompletion c) :=
  (World.discard_of_alike (h.released c) h.reported _).andThen fun _ => Alike.pure rfl

theorem leaveLease (id : LeaseId) : Alike S Eq (l.leaveLease id) (k.leaveLease id) := by
  refine Alike.get_bind fun v w hw => ?_
  rw [h.completions v w hw]
  rcases w.completions.leave id with ⟨released, left⟩
  refine (h.setCompletions left).andThen fun _ => ?_
  cases released with
  | none => exact Alike.pure rfl
  | some c => exact h.releaseCompletion c

theorem leaveLease? (id : Option LeaseId) : Alike S Eq (l.leaveLease? id) (k.leaveLease? id) := by
  cases id with
  | none => exact Alike.pure rfl
  | some id => exact h.leaveLease id

theorem attach (event : String) (id : LeaseId) (record : EventRecord) :
    Alike S Eq (l.attach event id record) (k.attach event id record) := by
  refine (h.reported _).andThen fun _ => ?_
  refine Alike.get_bind fun v w hw => ?_
  rw [h.completions v w hw]
  rcases w.completions.attach event id record with ⟨previous, attached⟩
  exact (h.setCompletions attached).andThen fun _ => h.leaveLease? previous

theorem detach (event : String) : Alike S Eq (l.detach event) (k.detach event) := by
  refine Alike.get_bind fun v w hw => ?_
  rw [h.completions v w hw]
  rcases w.completions.detach event with ⟨previous, detached⟩
  exact (h.setCompletions detached).andThen fun _ => h.leaveLease? previous

theorem attach? (event : Option String) (id : LeaseId) (record : EventRecord) :
    Alike S Eq (l.attach? event id record) (k.attach? event id record) := by
  cases event with
  | none => exact Alike.pure rfl
  | some event => exact h.attach event id record

theorem attachEvents (r : LaunchRequest) (queue : QueueHandle) (c : CompletionHandle) :
    Alike S Eq (l.attachEvents r queue c) (k.attachEvents r queue c) := by
  have hgrant : Alike S Eq (World.grantLease c true) (World.grantLease c true) := by
    refine Alike.get_bind fun v w hw => ?_
    rw [h.completions v w hw]
    rcases w.completions.grant c true with ⟨id, granted⟩
    exact (h.setCompletions granted).andThen fun _ => Alike.pure rfl
  refine hgrant.andThen fun lease => ?_
  refine (h.attach? _ _ _).andThen fun _ => ?_
  exact (h.attach? _ _ _).andThen fun _ => h.leaveLease lease

/-- A submission is a dispatch, and its completion is attached. -/
theorem submit
    (hd : ∀ a q p bs b, Alike S Eq (World.call (l.accelerator.dispatch a q p bs b))
      (World.call (k.accelerator.dispatch a q p bs b)))
    (device : Device) (r : LaunchRequest) (kernel : String) (queue : QueueHandle)
    (packet : Packet) (arguments : Bytes) :
    AlikeE S Eq (l.submit device r kernel queue packet arguments)
      (k.submit device r kernel queue packet arguments) := by
  refine (Attempt.call_of_alike _ (hd _ _ _ _ _)).andThen fun completion => ?_
  cases completion with
  | none => exact Attempt.perform_alike (h.reported _)
  | some c =>
    exact (Attempt.perform_alike (h.attachEvents r queue c)).andThen fun _ =>
      Attempt.perform_alike (h.reported _)

end Bears

variable (hc : ∀ c, CallsAlike R (l.accelerator.releaseCompletion c)
  (k.accelerator.releaseCompletion c))
include hc

theorem matchOn_bears : Bears l k (World.MatchOn L R) where
  completions _ _ hw := hw.completions
  replaced _ _ _ hw := { hw with completions := rfl }
  reported e := World.report_alike e
  released c := World.call_alike (hc c)

theorem leaveLease_alike (id : LeaseId) :
    Alike (World.MatchOn L R) Eq (l.leaveLease id) (k.leaveLease id) :=
  (matchOn_bears hc).leaveLease id

theorem detach_alike (event : String) :
    Alike (World.MatchOn L R) Eq (l.detach event) (k.detach event) :=
  (matchOn_bears hc).detach event

theorem attachEvents_alike (r : LaunchRequest) (queue : QueueHandle) (c : CompletionHandle) :
    Alike (World.MatchOn L R) Eq (l.attachEvents r queue c) (k.attachEvents r queue c) :=
  (matchOn_bears hc).attachEvents r queue c

end Completions

section Launch

variable (hk : l.hooks = k.hooks)
  (hd : ∀ a q p bs b, CallsAlike R (l.accelerator.dispatch a q p bs b)
    (k.accelerator.dispatch a q p bs b))
  (hc : ∀ c, CallsAlike R (l.accelerator.releaseCompletion c) (k.accelerator.releaseCompletion c))

include hk in
theorem chooseQueue_alike (device : Device) (requested : Option QueueHandle) (g : Geometry)
    (kernel : String) :
    AlikeE (World.MatchOn L R) Eq (l.chooseQueue device requested g kernel)
      (k.chooseQueue device requested g kernel) := by
  unfold chooseQueue
  rw [hk]
  refine (Attempt.perform_alike (World.recordHook_alike _)).andThen fun _ => ?_
  refine (Attempt.ofExcept_alike _).andThen fun (queue, reported) => ?_
  exact (Attempt.perform_alike (World.reportAll_alike _)).andThen fun _ => AlikeE.pure rfl

include hk in
theorem concludeLaunch_alike (kernel : String) (queue : QueueHandle) (reported : Geometry) :
    Alike (World.MatchOn L R) Eq (l.concludeLaunch kernel queue reported)
      (k.concludeLaunch kernel queue reported) := by
  unfold concludeLaunch
  rw [hk]
  exact (World.recordHook_alike _).andThen fun _ => World.reportAll_alike _

include hd hc

theorem submit_alike (device : Device) (r : LaunchRequest) (kernel : String) (queue : QueueHandle)
    (packet : Packet) (arguments : Bytes) :
    AlikeE (World.MatchOn L R) Eq (l.submit device r kernel queue packet arguments)
      (k.submit device r kernel queue packet arguments) :=
  (matchOn_bears hc).submit (fun _ _ _ _ _ => World.call_alike (hd _ _ _ _ _)) device r kernel
    queue packet arguments

variable (hs : l.settings = k.settings)
  (hL : ∀ s kernel layout layouts, L s →
    s.layouts.getOrCompute kernel = .ok (layout, layouts) → L { s with layouts })
include hk hs hL

theorem launch_alike (current : Option Device) (f : KernelFunction) (r : LaunchRequest)
    (args : LaunchArgs) :
    AlikeE (World.MatchOn L R) Eq (l.launch current f r args) (k.launch current f r args) := by
  unfold launch
  rw [hs]
  refine (Attempt.ofExcept_alike _).andThen fun device => ?_
  refine (packArguments_alike hL _ _).andThen fun arguments => ?_
  refine (buildPacket_alike _ _ _).andThen fun packet => ?_
  refine (chooseQueue_alike hk _ _ _ _).andThen fun (queue, reported) => ?_
  -- the launch is concluded whether or not it could be submitted, so its outcome is an answer
  refine (Attempt.perform_alike (submit_alike hd hc _ _ _ _ _ _).outcome).andThen fun result => ?_
  exact (Attempt.perform_alike (concludeLaunch_alike hk _ _ _)).andThen fun _ =>
    Attempt.ofExcept_alike result

theorem launchBlocks_alike (current : Option Device) (f : KernelFunction) (blocks block : Dim3)
    (dynamicShared : Nat) (queue : Option QueueHandle) (args : LaunchArgs) :
    AlikeE (World.MatchOn L R) Eq (l.launchBlocks current f blocks block dynamicShared queue args)
      (k.launchBlocks current f blocks block dynamicShared queue args) :=
  (Attempt.ofExcept_alike _).andThen fun _ => launch_alike hk hd hc hs hL _ _ _ _

end Launch

end Loader

end DeviceCode

import DeviceCode.Proofs.Leads
import DeviceCode.Proofs.Leases

/-!
# What a launch does to the completions

Until it submits its packet a launch moves nothing (`World.Unmoved`), and neither does anything that
it does after its events are attached. So what a launch does to the accelerator and to the
completions is what its one dispatch does, and then its one change of the events; `launch_ends` says
so as a rule, for any property of those two.
-/

namespace DeviceCode

variable {σ α β : Type}

namespace LaunchRequest

/-- The launch was given an event. -/
def Given (r : LaunchRequest) (event : String) : Prop :=
  r.startEvent = some event ∨ r.stopEvent = some event

/-- What an event has on record once the launch got a completion. An event that stands for both
moments was attached as the stop event last. -/
def recordAfter (r : LaunchRequest) (c : CompletionHandle) (queue : QueueHandle) (event : String)
    (before : Option EventRecord) : Option EventRecord :=
  if r.stopEvent = some event then some ⟨c, queue, .stop⟩
  else if r.startEvent = some event then some ⟨c, queue, .start⟩
  else before

theorem wantsCompletion_iff (r : LaunchRequest) :
    r.wantsCompletion = true ↔ ∃ event, r.Given event := by
  unfold wantsCompletion Given
  rw [Bool.or_eq_true, Option.isSome_iff_exists, Option.isSome_iff_exists, exists_or]

end LaunchRequest

/-- The accelerator and the completions are where they were. -/
structure World.Unmoved (w v : World σ) : Prop where
  accelerator : v.accelerator = w.accelerator
  completions : v.completions = w.completions

namespace World.Unmoved

variable {u v w : World σ}

theorem refl (w : World σ) : Unmoved w w := ⟨rfl, rfl⟩

theorem trans (h : Unmoved u v) (h' : Unmoved v w) : Unmoved u w :=
  ⟨h'.accelerator.trans h.accelerator, h'.completions.trans h.completions⟩

end World.Unmoved

/-! ## Steps that move nothing -/

/-- A computation that moves nothing, however it ends. -/
abbrev Idle (x : Attempt σ α) : Prop :=
  ∀ w, Leads (World.Unmoved w) x (fun _ => World.Unmoved w) (World.Unmoved w)

namespace Idle

theorem ofExcept (r : Except LoadError α) : Idle (Attempt.ofExcept r : Attempt σ α) := by
  intro w v hv
  cases r <;> exact hv

theorem perform {x : Action σ α} (h : ∀ v, World.Unmoved v (x v).2) : Idle (Attempt.perform x) :=
  fun _ v hv => hv.trans (h v)

theorem bind {x : Attempt σ α} {f : α → Attempt σ β} (hx : Idle x) (hf : ∀ a, Idle (f a)) :
    Idle (x >>= f) := fun w => (hx w).bind fun a => hf a w

theorem pure (a : α) : Idle (Pure.pure a : Attempt σ α) := fun _ => Leads.pure fun _ hv => hv

theorem report (e : Trace.Event) : Idle (Attempt.report e : Attempt σ Unit) :=
  perform fun _ => ⟨rfl, rfl⟩

theorem updateLoader (f : LoaderState → LoaderState) :
    Idle (Attempt.perform (World.updateLoader f) : Attempt σ Unit) := perform fun _ => ⟨rfl, rfl⟩

end Idle

theorem World.layoutOf_idle (kernel : String) : Idle (layoutOf kernel : Attempt σ ArgLayout) := by
  refine fun w => Leads.get_bind fun v hv => ?_
  refine ((Idle.ofExcept _).bind fun (layout, cache) => ?_) w v hv
  show Idle (if _ then _ else _)
  split
  · exact Idle.pure _
  · exact (Idle.updateLoader _).bind fun _ => (Idle.report _).bind fun _ => Idle.pure _

theorem World.packArguments_idle (kernel : String) (args : LaunchArgs) :
    Idle (packArguments kernel args : Attempt σ PackedArgs) := by
  refine (Idle.ofExcept _).bind fun form => ?_
  cases form with
  | structured arguments =>
    exact (layoutOf_idle kernel).bind fun _ => (Idle.ofExcept _).bind fun _ => Idle.pure _
  | described words => exact (Idle.ofExcept _).bind fun _ => Idle.pure _

theorem World.buildPacket_idle (f : KernelFunction) (g : Geometry) (mode : FlushMode) :
    Idle (buildPacket f g mode : Attempt σ Packet) :=
  (Idle.ofExcept _).bind fun _ => (Idle.report _).bind fun _ => Idle.pure _

namespace Loader

variable (l : Loader σ)

/-- Choosing a queue moves nothing, and the answer is the hooks'. -/
theorem chooseQueue_leads (device : Device) (requested : Option QueueHandle) (g : Geometry)
    (kernel : String) (w : World σ) :
    Leads (World.Unmoved w) (l.chooseQueue device requested g kernel)
      (fun a v => World.Unmoved w v ∧ l.hooks.choose device requested g kernel = .ok a)
      (World.Unmoved w) := by
  refine ((Idle.perform (x := World.recordHook _) fun _ => ⟨rfl, rfl⟩) w).bind fun _ v hv => ?_
  rcases hc : l.hooks.choose device requested g kernel with e | ⟨queue, reported⟩
  · exact hv
  · exact ⟨⟨hv.accelerator, hv.completions⟩, rfl⟩

theorem concludeLaunch_unmoved (kernel : String) (queue : QueueHandle) (reported : Geometry)
    (w : World σ) : World.Unmoved w (l.concludeLaunch kernel queue reported w).2 := ⟨rfl, rfl⟩

/-! ## Launching -/

/-- Attach the events of a launch to the completion that was handed out, if one was. -/
def attachGranted (r : LaunchRequest) (queue : QueueHandle) :
    Option CompletionHandle → Action σ Unit
  | none => pure ()
  | some c => l.attachEvents r queue c

/-- **A submission is one dispatch of the packet.** If it is refused nothing else happens, and
otherwise the events are attached and the dispatch is logged. -/
theorem submit_run (device : Device) (r : LaunchRequest) (kernel : String) (queue : QueueHandle)
    (packet : Packet) (arguments : Bytes) (w : World σ) :
    l.submit device r kernel queue packet arguments w =
      match l.accelerator.dispatch device.agent queue packet arguments r.wantsCompletion
        w.accelerator with
      | (.error err, s) => (.error (.callFailed err), { w with accelerator := s })
      | (.ok c, s) =>
        let v := (l.attachGranted r queue c { w with accelerator := s }).2
        (.ok (), { v with log := v.log ++
          [.dispatch kernel queue.id r.geometry.grid r.geometry.block arguments.length] }) := by
  unfold submit
  rcases hrun : l.accelerator.dispatch device.agent queue packet arguments r.wantsCompletion
    w.accelerator with ⟨err | c, s⟩
  · exact run_bind_of_error (Attempt.run_call_error _ hrun) _
  · refine (run_bind_of_ok (Attempt.run_call_ok _ hrun) _).trans ?_
    cases c with
    | none => rfl
    | some c => rfl

section Launch

variable {Q E : World σ → Prop} (hQ : ∀ u v, World.Unmoved u v → Q u → Q v)
  (hE : ∀ u v, World.Unmoved u v → E u → E v)

include hQ in
/-- A submission, by the accelerator's answer. -/
theorem submit_ends {device : Device} {r : LaunchRequest} {kernel : String} {queue : QueueHandle}
    {packet : Packet} {arguments : Bytes} {w : World σ}
    (h : Ends (fun c s => Q (l.attachGranted r queue c { w with accelerator := s }).2)
      (fun s => E { w with accelerator := s })
      (l.accelerator.dispatch device.agent queue packet arguments r.wantsCompletion
        w.accelerator)) :
    Ends (fun _ => Q) E (l.submit device r kernel queue packet arguments w) := by
  have hcall : Ends (fun c v => Q (l.attachGranted r queue c v).2) E
      (Attempt.call .callFailed (l.accelerator.dispatch device.agent queue packet arguments
        r.wantsCompletion) w) := Ends.call h
  refine hcall.bind fun c v hv => ?_
  -- only the log changes after the events are attached
  cases c with
  | none => exact hQ (l.attachGranted r queue none v).2 _ ⟨rfl, rfl⟩ hv
  | some c => exact hQ (l.attachGranted r queue (some c) v).2 _ ⟨rfl, rfl⟩ hv

include hQ hE in
/-- **A launch is one dispatch and one change of the events.** What holds wherever it may fail, and
what holds after its events are attached, holds when it ends. -/
theorem launch_ends {current : Option Device} {f : KernelFunction} {r : LaunchRequest}
    {args : LaunchArgs} {w : World σ} (hw : E w)
    (h : ∀ device queue reported packet arguments v, current = some device →
      l.hooks.choose device r.queue r.geometry f.name = .ok (queue, reported) →
      World.Unmoved w v →
      Ends (fun c s => Q (l.attachGranted r queue c { v with accelerator := s }).2)
        (fun s => E { v with accelerator := s })
        (l.accelerator.dispatch device.agent queue packet arguments r.wantsCompletion
          w.accelerator)) :
    Ends (fun _ => Q) E (l.launch current f r args w) := by
  have hstill : ∀ v, World.Unmoved w v → E v := fun v hv => hE w v hv hw
  have hdevice : Leads (World.Unmoved w) (Attempt.device current)
      (fun d v => World.Unmoved w v ∧ current = some d) E := by
    intro v hv
    cases current with
    | none => exact hstill v hv
    | some d => exact ⟨hv, rfl⟩
  refine Ends.bind (hdevice w (.refl w)) fun device u hu => ?_
  obtain ⟨hu, hcurrent⟩ := hu
  refine ((World.packArguments_idle _ _ w u hu).imp (fun _ _ hq => hq) hstill).bind
    fun arguments u hu => ?_
  refine ((World.buildPacket_idle _ _ _ w u hu).imp (fun _ _ hq => hq) hstill).bind
    fun packet u hu => ?_
  refine ((l.chooseQueue_leads _ _ _ _ w u hu).imp (fun _ _ hq => hq) hstill).bind
    fun (queue, reported) v hv => ?_
  obtain ⟨hv, hchoose⟩ := hv
  have hsubmit : Ends (fun _ => Q) E
      (l.submit device r f.name queue packet arguments.bytes v) := by
    refine submit_ends l hQ ?_
    rw [hv.accelerator]
    exact h device queue reported packet arguments.bytes v hcurrent hchoose hv
  -- a launch is concluded in both cases, and then answers what the submission answered
  show Ends (fun _ => Q) E ((l.submit device r f.name queue packet arguments.bytes v).1,
    (l.concludeLaunch f.name queue reported
      (l.submit device r f.name queue packet arguments.bytes v).2).2)
  rcases hr : l.submit device r f.name queue packet arguments.bytes v with ⟨_ | _, u⟩
  · rw [hr] at hsubmit
    exact hE _ _ (l.concludeLaunch_unmoved _ _ _ u) hsubmit
  · rw [hr] at hsubmit
    exact hQ _ _ (l.concludeLaunch_unmoved _ _ _ u) hsubmit

end Launch

/-! ## What attaching changes -/

@[simp] theorem releaseCompletion_completions (c : CompletionHandle) (w : World σ) :
    (l.releaseCompletion c w).2.completions = w.completions := by
  show (World.discard _ _ w).2.completions = _
  refine Ends.discard (Q := fun v => v.completions = w.completions) ?_
  exact .of_all (fun _ _ => rfl) fun _ _ => rfl

/-- Leaving a lease that others hold changes the lease only. -/
theorem leaveLease_none {id : LeaseId} {w : World σ} (h : (w.completions.leave id).1 = none) :
    (l.leaveLease id w).2 = { w with completions := (w.completions.leave id).2 } := by
  show Prod.snd ((match (w.completions.leave id).1 with
    | none => pure ()
    | some c => l.releaseCompletion c : Action σ Unit) _) = _
  rw [h]
  rfl

/-- Leaving a lease last releases its completion. -/
theorem leaveLease_some {id : LeaseId} {w : World σ} {c : CompletionHandle}
    (h : (w.completions.leave id).1 = some c) :
    (l.leaveLease id w).2 =
      (l.releaseCompletion c { w with completions := (w.completions.leave id).2 }).2 := by
  show Prod.snd ((match (w.completions.leave id).1 with
    | none => pure ()
    | some c => l.releaseCompletion c : Action σ Unit) _) = _
  rw [h]
  rfl

@[simp] theorem leaveLease_attachments (id : LeaseId) (w : World σ) :
    (l.leaveLease id w).2.completions.attachments = w.completions.attachments := by
  cases h : (w.completions.leave id).1 with
  | none =>
    rw [l.leaveLease_none h]
    exact w.completions.leave_attachments id
  | some c =>
    rw [l.leaveLease_some h, releaseCompletion_completions]
    exact w.completions.leave_attachments id

@[simp] theorem leaveLease?_attachments (id : Option LeaseId) (w : World σ) :
    (l.leaveLease? id w).2.completions.attachments = w.completions.attachments := by
  cases id with
  | none => rfl
  | some id => exact l.leaveLease_attachments id w

/-- An attached event has the given record, and the others have what they had. -/
theorem attach_record? (event : String) (id : LeaseId) (record : EventRecord) (w : World σ)
    (other : String) :
    (l.attach event id record w).2.completions.record? other =
      if event = other then some record else w.completions.record? other := by
  have hput : (l.attach event id record w).2.completions.attachments =
      w.completions.attachments.put event ⟨record, id⟩ := l.leaveLease?_attachments _ _
  unfold Completions.record?
  rw [hput, Assoc.get?_put]
  split <;> rfl

theorem attach?_record? (event : Option String) (id : LeaseId) (record : EventRecord)
    (w : World σ) (other : String) :
    (l.attach? event id record w).2.completions.record? other =
      if event = some other then some record else w.completions.record? other := by
  cases event with
  | none => rfl
  | some event =>
    rw [show l.attach? (some event) id record = l.attach event id record from rfl, attach_record?]
    simp only [Option.some.injEq]

theorem attachEvents_record? (r : LaunchRequest) (queue : QueueHandle) (c : CompletionHandle)
    (w : World σ) (event : String) :
    (l.attachEvents r queue c w).2.completions.record? event =
      r.recordAfter c queue event (w.completions.record? event) := by
  let id := (w.completions.grant c true).1
  let w₀ : World σ := { w with completions := (w.completions.grant c true).2 }
  let w₁ := (l.attach? r.startEvent id ⟨c, queue, .start⟩ w₀).2
  let w₂ := (l.attach? r.stopEvent id ⟨c, queue, .stop⟩ w₁).2
  show (l.leaveLease id w₂).2.completions.record? event = _
  unfold Completions.record?
  rw [leaveLease_attachments]
  show w₂.completions.record? event = _
  rw [attach?_record?, attach?_record?]
  rfl

/-- Attaching events calls for releases only, so it keeps what they keep. -/
theorem attachGranted_keeps {P : σ → Prop}
    (hP : ∀ c s, P s → P (l.accelerator.releaseCompletion c s).2) (r : LaunchRequest)
    (queue : QueueHandle) (c : Option CompletionHandle) {w : World σ} (h : P w.accelerator) :
    P (l.attachGranted r queue c w).2.accelerator := by
  cases c with
  | none => exact h
  | some c =>
    have halike := l.attachEvents_alike (L := fun _ => True) (fun c => .only (hP c)) r queue c
    exact (halike w w (World.Match.only h)).2.accelerator.2

end Loader

end DeviceCode

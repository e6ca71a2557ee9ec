import DeviceCode.Proofs.EventSession
import DeviceCode.Proofs.LaunchOutcome
import Mathlib.Data.List.Perm.Basic

/-!
# Completions are neither leaked nor released twice

In every state between two requests of a program the outstanding completions are those that the
program holds, and every other completion that was ever handed out was released once
(`EventSession.Conserved`).

The invariant behind it is `World.Settled`: the leases balance with the events and with a list of
other holds, and the audit tallies with the simulator. The other holds are the program's clones
between requests. Inside a request they also are what a launch still holds of its own completion,
and what an event held before it was attached again, so that each single step of a launch keeps the
invariant.
-/

namespace DeviceCode

open Audited

/-- Events and the given others hold all outstanding completions, and nothing was lost so far. -/
structure World.Settled (w : World (Audited Simulator)) (others : List Hold) : Prop where
  balanced : w.completions.Balanced others w.accelerator.inner.completions
  tallied : w.accelerator.Tallied

namespace World.Settled

variable {w v : World (Audited Simulator)} {others : List Hold} {x : Hold}

theorem moved (h : w.Settled others) (hv : Unmoved w v) : v.Settled others where
  balanced := by rw [hv.completions, hv.accelerator]; exact h.balanced
  tallied := by rw [hv.accelerator]; exact h.tallied

/-- One more hold next to another. -/
theorem share (h : w.Settled others) (hx : x ∈ w.completions.attached ++ others) :
    (World.shareLease x.lease w).2.Settled (x :: others) :=
  ⟨h.balanced.share hx, h.tallied⟩

variable {l : Loader (Audited Simulator)} (hl : l.accelerator = Simulator.accelerator.audit)
include hl

/-- Giving up a hold, with the release of its completion where it was the last one. -/
theorem leaveLease (h : w.Settled (x :: others)) : (l.leaveLease x.lease w).2.Settled others := by
  rcases h.balanced.leave with ⟨hnone, hleft⟩ | ⟨hsome, hout, hleft⟩
  · rw [l.leaveLease_none hnone]
    exact ⟨hleft, h.tallied⟩
  · obtain ⟨t, hcall, haudit, hcompletions, hhandle⟩ := releaseCompletion_of_mem hout
    rw [l.leaveLease_some hsome]
    show (World.discard _ _ _).2.Settled others
    refine Ends.discard (Q := fun v => v.Settled others) ?_
    rw [hl]
    show Ends _ _ (Simulator.accelerator.audit.releaseCompletion x.completion w.accelerator)
    rw [hcall]
    exact ⟨by rw [hcompletions]; exact hleft, h.tallied.released hout haudit hcompletions hhandle⟩

theorem leaveLease? {x : Option Hold} (h : w.Settled (x.toList ++ others)) :
    (l.leaveLease? (x.map (·.lease)) w).2.Settled others := by
  cases x with
  | none => exact h
  | some x => exact leaveLease hl h

theorem attach (h : w.Settled others) (hx : x ∈ w.completions.attached ++ others) (event : String)
    (record : EventRecord) (hr : record.completion = x.completion) :
    (l.attach event x.lease record w).2.Settled others := by
  have hheld : (w.completions.attach event x.lease record).1 =
      (w.completions.holdOf? event).map (·.lease) := (w.completions.holdOf?_lease event).symm
  show (l.leaveLease? (w.completions.attach event x.lease record).1 _).2.Settled others
  rw [hheld]
  exact leaveLease? hl ⟨h.balanced.attach hx event hr, h.tallied⟩

theorem attach? (h : w.Settled others) (hx : x ∈ w.completions.attached ++ others)
    (event : Option String) (record : EventRecord) (hr : record.completion = x.completion) :
    (l.attach? event x.lease record w).2.Settled others := by
  cases event with
  | none => exact h
  | some event => exact attach hl h hx event record hr

theorem detach (h : w.Settled others) (event : String) :
    (l.detach event w).2.Settled others := by
  have hheld : (w.completions.detach event).1 =
      (w.completions.holdOf? event).map (·.lease) := (w.completions.holdOf?_lease event).symm
  show (l.leaveLease? (w.completions.detach event).1 _).2.Settled others
  rw [hheld]
  exact leaveLease? hl ⟨h.balanced.detach event, h.tallied⟩

/-- A completion that was just handed out goes to the events of its launch. -/
theorem attachEvents {out : List CompletionHandle} {c : CompletionHandle}
    (hb : w.completions.Balanced others out) (hc : c ∉ out)
    (hout : w.accelerator.inner.completions = out ++ [c]) (ht : w.accelerator.Tallied)
    (r : LaunchRequest) (queue : QueueHandle) :
    (l.attachEvents r queue c w).2.Settled others := by
  let x : Hold := ⟨(w.completions.grant c true).1, c⟩
  let w₀ : World (Audited Simulator) := { w with completions := (w.completions.grant c true).2 }
  -- while its events are attached, the launch holds the new lease itself
  have h₀ : w₀.Settled (x :: others) := ⟨by
    show w₀.completions.Balanced _ w.accelerator.inner.completions
    rw [hout]
    exact hb.grant hc, ht⟩
  have hx : ∀ v : World (Audited Simulator), x ∈ v.completions.attached ++ (x :: others) :=
    fun v => List.mem_append_right _ List.mem_cons_self
  have h₁ := attach? hl h₀ (hx _) r.startEvent ⟨c, queue, .start⟩ rfl
  have h₂ := attach? hl h₁ (hx _) r.stopEvent ⟨c, queue, .stop⟩ rfl
  exact leaveLease hl h₂

/-- A dispatch, and the change of the events that follows it. -/
theorem submitted (h : w.Settled others) (hv : Unmoved w v) {agent : AgentHandle}
    {queue : QueueHandle} {wanted : Bool} {answer : Except CallError (Option CompletionHandle)}
    {t : Audited Simulator} (hs : Submitted agent queue wanted w.accelerator answer t)
    (r : LaunchRequest) :
    Ends (fun c s => (l.attachGranted r queue c { v with accelerator := s }).2.Settled others)
      (fun s => ({ v with accelerator := s } : World (Audited Simulator)).Settled others)
      (answer, t) := by
  have hb : v.completions.Balanced others w.accelerator.inner.completions := by
    rw [hv.completions]
    exact h.balanced
  have ht : t.Tallied := h.tallied.submitted hs
  -- without a completion there is nothing to attach, and nobody holds more than before
  have hsame : Audit.grant? answer = none →
      ({ v with accelerator := t } : World (Audited Simulator)).Settled others := fun hnone =>
    ⟨by
      show v.completions.Balanced others t.inner.completions
      rw [hs.completions, hnone]
      exact (List.append_nil _).symm ▸ hb, ht⟩
  rcases answer with e | _ | c
  · exact hsame rfl
  · exact hsame rfl
  · have hfresh : c ∉ w.accelerator.inner.completions := fun hc => by
      have hold := h.tallied.below c (h.tallied.granted_of_outstanding hc)
      have hnew := (hs.fresh c rfl).1
      omega
    show (l.attachEvents r queue c { v with accelerator := t }).2.Settled others
    exact attachEvents (w := { v with accelerator := t }) hl hb hfresh hs.completions ht r queue

theorem launch (h : w.Settled others) (current : Option Device) (f : KernelFunction)
    (r : LaunchRequest) (args : LaunchArgs) :
    (l.launch current f r args w).2.Settled others := by
  refine Ends.state (l.launch_ends (Q := fun v => v.Settled others) (E := fun v => v.Settled others)
    (fun _ _ hv hu => hu.moved hv) (fun _ _ hv hu => hu.moved hv) h ?_)
  intro device queue reported packet arguments v hcurrent hchoose hv
  obtain ⟨answer, t, hd, hs⟩ :=
    dispatch_submitted w.accelerator device.agent queue packet arguments r.wantsCompletion
  rw [hl, hd]
  exact submitted hl h hv hs r

/-- A launch over blocks is given no event. -/
theorem launchBlocks (h : w.Settled others) (current : Option Device) (f : KernelFunction)
    (blocks block : Dim3) (dynamicShared : Nat) (queue : Option QueueHandle) (args : LaunchArgs) :
    (l.launchBlocks current f blocks block dynamicShared queue args w).2.Settled others := by
  unfold Loader.launchBlocks
  cases Geometry.ofBlocks blocks block dynamicShared with
  | error e => exact h
  | ok geometry => exact launch hl h current f { geometry, queue } args

end World.Settled

/-! ## What a launch does -/

/-- A launch that fails changes no event and creates no completion. It failed before it asked for
anything, or what it asked for was refused, as dispatches are that are made to fail. -/
structure LaunchRefused (wanted : Bool) (w v : World (Audited Simulator)) : Prop where
  completions : v.completions = w.completions
  outstanding : v.accelerator.inner.completions = w.accelerator.inner.completions
  dispatches : v.accelerator.inner.dispatches = w.accelerator.inner.dispatches
  audit : v.accelerator.audit = w.accelerator.audit ∨
    w.accelerator.inner.faulty .dispatch = true ∧ ∃ e,
      v.accelerator.audit = w.accelerator.audit.add { dispatches := [(wanted, .error e)] }

/-- A launch that succeeds submits one packet, on the queue that the hooks chose, and asks for a
completion if it was given an event. The completion is the packet's signal, and the events of the
launch have it on record with that queue; other events are as they were. -/
structure LaunchDone (hooks : LaunchHooks) (current : Option Device) (f : KernelFunction)
    (r : LaunchRequest) (w v : World (Audited Simulator)) (d : SubmittedDispatch)
    (c : Option CompletionHandle) : Prop where
  submitted : v.accelerator.inner.dispatches = w.accelerator.inner.dispatches ++ [d]
  asked : v.accelerator.audit.dispatches =
    w.accelerator.audit.dispatches ++ [(r.wantsCompletion, .ok c)]
  granted : c.isSome = r.wantsCompletion
  signal : d.packet.completionSignal = (c.map fun c => UInt64.ofNat c.id).getD 0
  chosen : ∃ device reported, current = some device ∧ d.agent = device.agent ∧
    hooks.choose device r.queue r.geometry f.name = .ok (d.queue, reported)
  events : ∀ event, v.completions.record? event = match c with
    | none => w.completions.record? event
    | some c => r.recordAfter c d.queue event (w.completions.record? event)

theorem LaunchRefused.moved {wanted : Bool} {u v w : World (Audited Simulator)}
    (h : LaunchRefused wanted w u) (huv : World.Unmoved u v) : LaunchRefused wanted w v where
  completions := huv.completions.trans h.completions
  outstanding := by rw [huv.accelerator]; exact h.outstanding
  dispatches := by rw [huv.accelerator]; exact h.dispatches
  audit := by rw [huv.accelerator]; exact h.audit

theorem LaunchDone.moved {hooks : LaunchHooks} {current : Option Device} {f : KernelFunction}
    {r : LaunchRequest} {u v w : World (Audited Simulator)} {d : SubmittedDispatch}
    {c : Option CompletionHandle} (h : LaunchDone hooks current f r w u d c)
    (huv : World.Unmoved u v) : LaunchDone hooks current f r w v d c where
  submitted := by rw [huv.accelerator]; exact h.submitted
  asked := by rw [huv.accelerator]; exact h.asked
  granted := h.granted
  signal := h.signal
  chosen := h.chosen
  events := by rw [huv.completions]; exact h.events

section Launch

variable {l : Loader (Audited Simulator)} (hl : l.accelerator = Simulator.accelerator.audit)
include hl

/-- Releases leave dispatches and what is written down about them alone. -/
theorem attachGranted_dispatches (r : LaunchRequest) (queue : QueueHandle)
    (c : Option CompletionHandle) (w : World (Audited Simulator)) :
    (l.attachGranted r queue c w).2.accelerator.inner.dispatches = w.accelerator.inner.dispatches ∧
      (l.attachGranted r queue c w).2.accelerator.audit.dispatches =
        w.accelerator.audit.dispatches := by
  refine l.attachGranted_keeps (P := fun s => s.inner.dispatches = w.accelerator.inner.dispatches ∧
    s.audit.dispatches = w.accelerator.audit.dispatches) (fun c s hs => ?_) r queue c ⟨rfl, rfl⟩
  rw [hl]
  refine ⟨?_, (List.append_nil _).trans hs.2⟩
  show (s.inner.releaseCompletion c).2.dispatches = _
  obtain ⟨j, n, h | h⟩ := s.inner.releaseCompletion_state c
  · rw [h]
    exact hs.1
  · rw [h]
    exact hs.1

/-- **How a launch can end.** -/
theorem launch_outcome (current : Option Device) (f : KernelFunction) (r : LaunchRequest)
    (args : LaunchArgs) (w : World (Audited Simulator)) :
    Ends (fun _ v => ∃ d c, LaunchDone l.hooks current f r w v d c)
      (LaunchRefused r.wantsCompletion w) (l.launch current f r args w) := by
  refine l.launch_ends (fun u v huv => ?_) (fun u v huv hu => hu.moved huv)
    ⟨rfl, rfl, rfl, .inl rfl⟩ ?_
  · rintro ⟨d, c, hd⟩
    exact ⟨d, c, hd.moved huv⟩
  · intro device queue reported packet arguments v hcurrent hchoose hv
    obtain ⟨answer, t, hd, hs⟩ :=
      dispatch_submitted w.accelerator device.agent queue packet arguments r.wantsCompletion
    rw [hl, hd]
    cases answer with
    | error e =>
      obtain ⟨hfault, hdispatches⟩ := hs.refused e rfl
      exact
        { completions := hv.completions
          outstanding := hs.completions.trans (List.append_nil _)
          dispatches := hdispatches
          audit := .inr ⟨hfault, e, hs.audit⟩ }
    | ok c =>
      obtain ⟨hwanted, d, hdispatches, hagent, rfl, hsignal⟩ := hs.recorded c rfl
      obtain ⟨hinner, haudit⟩ := attachGranted_dispatches hl r d.queue c { v with accelerator := t }
      refine ⟨d, c, hinner.trans hdispatches, haudit.trans ?_, hwanted, hsignal,
        ⟨device, reported, hcurrent, hagent, hchoose⟩, fun event => ?_⟩
      · show t.audit.dispatches = _
        rw [hs.audit]
        rfl
      · rw [← hv.completions]
        cases c with
        | none => rfl
        | some c => exact l.attachEvents_record? r d.queue c { v with accelerator := t } event

/-- A launch over blocks is given no event, so it asks for no completion. -/
theorem launchBlocks_outcome (current : Option Device) (f : KernelFunction)
    (blocks block : Dim3) (dynamicShared : Nat) (queue : Option QueueHandle) (args : LaunchArgs)
    (w : World (Audited Simulator)) :
    Ends (fun _ v => ∃ geometry d, LaunchDone l.hooks current f { geometry, queue } w v d none)
      (LaunchRefused false w)
      (l.launchBlocks current f blocks block dynamicShared queue args w) := by
  unfold Loader.launchBlocks
  cases Geometry.ofBlocks blocks block dynamicShared with
  | error e => exact ⟨rfl, rfl, rfl, .inl rfl⟩
  | ok geometry =>
    refine (launch_outcome hl current f { geometry, queue } args w).imp (fun _ v hv => ?_)
      fun _ hv => hv
    obtain ⟨d, c, hd⟩ := hv
    cases c with
    | none => exact ⟨geometry, d, hd⟩
    | some c => exact nomatch hd.granted

end Launch

/-! ## Runs -/

namespace EventSession

/-- Every completion that was handed out is held and outstanding, or it was released once. -/
structure Conserved (s : EventSession (Audited Simulator)) : Prop where
  outstanding : ∀ c, c ∈ s.world.accelerator.inner.completions ↔ s.Holds c
  distinct : s.world.accelerator.inner.completions.Nodup
  /-- No handle is handed out twice. -/
  handles : s.world.accelerator.audit.granted.Nodup
  granted : ∀ c, s.Holds c → c ∈ s.world.accelerator.audit.granted
  /-- No release fails. -/
  answered : ∀ x ∈ s.world.accelerator.audit.releases, x.2 = .ok ()
  own : ∀ c ∈ s.world.accelerator.audit.released, c ∈ s.world.accelerator.audit.granted
  kept : ∀ c, s.Holds c → c ∉ s.world.accelerator.audit.released
  released : ∀ c ∈ s.world.accelerator.audit.granted, ¬ s.Holds c →
    s.world.accelerator.audit.released.count c = 1

/-- The events and the clones hold all outstanding completions, and nothing was lost. -/
abbrev Settled (s : EventSession (Audited Simulator)) : Prop := s.world.Settled s.clones

variable {s : EventSession (Audited Simulator)}

theorem Settled.conserved (h : s.Settled) : s.Conserved := by
  have houtstanding : ∀ c, c ∈ s.world.accelerator.inner.completions ↔ s.Holds c :=
    h.balanced.mem_out
  have hgranted : ∀ c, s.Holds c → c ∈ s.world.accelerator.audit.granted := fun c hc =>
    h.tallied.granted_of_outstanding ((houtstanding c).mpr hc)
  refine ⟨houtstanding, h.balanced.lent.distinct, h.tallied.distinct, hgranted,
    h.tallied.answered, ?own, ?kept, ?released⟩
  case own =>
    intro c hc
    exact h.tallied.conserved.mem_iff.mpr (List.mem_append_right _ hc)
  case kept =>
    intro c hc
    have hcount := h.tallied.count_released (hgranted c hc)
    rw [if_pos ((houtstanding c).mpr hc)] at hcount
    exact List.count_eq_zero.mp hcount
  case released =>
    intro c hc hnot
    have hcount := h.tallied.count_released hc
    rwa [if_neg (mt (houtstanding c).mp hnot)] at hcount

theorem start_settled (w : World Simulator) : (start w).audited.Settled where
  balanced := .empty
  tallied :=
    { answered := fun _ hx => nomatch hx
      distinct := List.nodup_nil
      below := fun _ hc => nomatch hc
      conserved := .refl _ }

theorem Settled.clone (h : s.Settled) {x : Hold}
    (hx : x ∈ s.world.completions.attached ++ s.clones) : (s.clone x).Settled :=
  World.Settled.share h hx

/-- A request that may have nothing to act on. -/
theorem Settled.elim {α : Type} (h : s.Settled) {o : Option α}
    {act : α → EventSession (Audited Simulator)} (hact : ∀ x, o = some x → (act x).Settled) :
    (o.elim s act).Settled := by
  cases o with
  | none => exact h
  | some x => exact hact x rfl

variable (settings : LoaderSettings) (hooks : LaunchHooks)

/-- **Every request keeps the balance.** -/
theorem Settled.step (h : s.Settled) (r : EventRequest) :
    (s.step (Simulator.rig settings hooks).audit r).Settled := by
  cases r with
  | launch settings hooks current f r args => exact World.Settled.launch rfl h current f r args
  | launchBlocks settings hooks current f blocks block dynamicShared queue args =>
    exact World.Settled.launchBlocks rfl h current f blocks block dynamicShared queue args
  | detach event => exact World.Settled.detach rfl h event
  | cloneOf event =>
    exact h.elim fun x hx => h.clone (List.mem_append_left _ (h.balanced.holdOf?_mem hx))
  | cloneAgain index =>
    exact h.elim fun x hx => h.clone (List.mem_append_right _ (List.mem_of_getElem? hx))
  | dropClone index =>
    refine h.elim fun x hx => World.Settled.leaveLease rfl ⟨h.balanced.perm ?_, h.tallied⟩
    obtain ⟨hlt, rfl⟩ := List.getElem?_eq_some_iff.mp hx
    exact (List.getElem_cons_eraseIdx_perm hlt).symm
  | setLoader state => exact ⟨h.balanced, h.tallied⟩
  | inject point =>
    obtain ⟨hl, hc⟩ : (s.world.accelerator.inner.inject point).lastHandle =
        s.world.accelerator.inner.lastHandle ∧
        (s.world.accelerator.inner.inject point).completions =
          s.world.accelerator.inner.completions := by
      unfold Simulator.inject
      split <;> exact ⟨rfl, rfl⟩
    refine ⟨?_, h.tallied.frame rfl hl hc⟩
    show s.world.completions.Balanced _ (s.world.accelerator.inner.inject point).completions
    rw [hc]
    exact h.balanced
  | clearFaults => exact ⟨h.balanced, h.tallied.frame rfl rfl rfl⟩

/-- **Every run keeps the balance.** -/
theorem Settled.run (h : s.Settled) (rs : List EventRequest) :
    (s.run (Simulator.rig settings hooks).audit rs).Settled := by
  induction rs generalizing s with
  | nil => exact h
  | cons r rs ih => exact ih (h.step settings hooks r)

/-- **Completions are neither leaked nor released twice.** In every state between requests the
outstanding completions are those that somebody holds, and each of the others was released exactly
once, without fail. From every such state a launch does what `LaunchDone` says, or fails and does
what `LaunchRefused` says. The audit that this speaks of changes nothing. -/
theorem run_conserved (w : World Simulator) (rs : List EventRequest) :
    let rig := Simulator.rig settings hooks
    let s := (start w).audited.run rig.audit rs
    s.unaudited = (start w).run rig rs ∧ s.Conserved ∧
      (∀ loaderSettings launchHooks current f r args,
        (r.wantsCompletion = true ↔ ∃ event, r.Given event) ∧
          Ends (fun _ v => ∃ d c, LaunchDone launchHooks current f r s.world v d c)
            (LaunchRefused r.wantsCompletion s.world)
            ((rig.audit.via loaderSettings launchHooks).launch current f r args s.world)) ∧
      ∀ loaderSettings launchHooks current f blocks block dynamicShared queue args,
        Ends (fun _ v => ∃ geometry d,
            LaunchDone launchHooks current f { geometry, queue } s.world v d none)
          (LaunchRefused false s.world)
          ((rig.audit.via loaderSettings launchHooks).launchBlocks current f blocks block
            dynamicShared queue args s.world) := by
  intro rig s
  refine ⟨run_unaudited rig _ rs, ((start_settled w).run settings hooks rs).conserved, ?_, ?_⟩
  · intro loaderSettings launchHooks current f r args
    exact ⟨r.wantsCompletion_iff, launch_outcome rfl current f r args s.world⟩
  · intro loaderSettings launchHooks current f blocks block dynamicShared queue args
    exact launchBlocks_outcome rfl current f blocks block dynamicShared queue args s.world

/-- Two launches with the same two events and a clone of the first one's lease, which is dropped
before the events are detached. -/
def cloning : List EventRequest :=
  let launch : EventRequest := .launch {} .default (some ⟨0, ⟨1⟩, ⟨2⟩⟩) ⟨"copy", 0, 0, 0, 0⟩
    { geometry := ⟨⟨1, 1, 1⟩, ⟨1, 1, 1⟩, 0⟩, startEvent := some "begin", stopEvent := some "end" }
    { descriptor := some [1, 0, 2, 0, 3] }
  [launch, .cloneOf "end", launch, .dropClone 0, .detach "begin", .detach "end"]

/-- The program that makes the first `n` of these requests, with an audit. -/
def afterCloning (n : Nat) : EventSession (Audited Simulator) :=
  (start { accelerator := {}, host := ⟨⟨[], []⟩, ""⟩ }).audited.run
    (Simulator.rig {} .default).audit (cloning.take n)

/-- The first completion outlives its events by the clone, the second stays until both events are
gone, and then each was released once. -/
theorem run_conserved_cloning :
    (afterCloning 3).world.accelerator.inner.completions = [⟨1⟩, ⟨2⟩] ∧
      (afterCloning 5).world.accelerator.inner.completions = [⟨2⟩] ∧
      (afterCloning 6).world.accelerator.inner.completions = [] ∧
      (afterCloning 6).world.accelerator.audit.released.count ⟨1⟩ = 1 ∧
      (afterCloning 6).world.accelerator.audit.released.count ⟨2⟩ = 1 := by
  have hnone : (afterCloning 6).world.accelerator.inner.completions = [] := by decide +kernel
  have hgranted : (afterCloning 6).world.accelerator.audit.granted = [⟨1⟩, ⟨2⟩] := by
    decide +kernel
  -- both were handed out and neither is held any more
  have hconserved : (afterCloning 6).Conserved := (run_conserved {} .default _ _).2.1
  have hreleased (c : CompletionHandle) (hc : c ∈ [⟨1⟩, ⟨2⟩]) :
      (afterCloning 6).world.accelerator.audit.released.count c = 1 := by
    rw [← hgranted] at hc
    refine hconserved.released c hc fun hheld => ?_
    have houtstanding := (hconserved.outstanding c).mpr hheld
    rw [hnone] at houtstanding
    cases houtstanding
  refine ⟨by decide +kernel, by decide +kernel, hnone, hreleased ⟨1⟩ ?_, hreleased ⟨2⟩ ?_⟩
  · simp
  · simp

end EventSession

end DeviceCode

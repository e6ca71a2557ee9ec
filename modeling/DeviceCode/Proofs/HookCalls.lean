import DeviceCode.Proofs.Submission

/-!
# Hooks around a launch

A launch that cannot be described calls no hook. Any other calls `before` once; if the hooks refuse
it, that is the end of it, and otherwise there is one submission, which is one dispatch of the packet
(`Loader.submit_run`), and then one call of `after`, with the queue and the geometry that the hooks
answered, however the submission ended.

What hooks write into their copy of the geometry goes to `after` and to the log only. Worlds that
`Agree` differ in the two histories at most, and submitting keeps that; so a launch does the same
with any hooks that answer with the same queue (`launch_hooked`).
-/

namespace DeviceCode

variable {σ : Type}

/-- Worlds that are the same but for the log and the calls of hooks. -/
structure World.Agree (v w : World σ) : Prop where
  accelerator : v.accelerator = w.accelerator
  host : v.host = w.host
  loader : v.loader = w.loader
  completions : v.completions = w.completions

/-- Only the known layouts and the log may have changed. -/
def World.Prepared (w v : World σ) : Prop :=
  ∃ layouts log, v = { w with loader := { w.loader with layouts }, log }

namespace World.Prepared

variable {u v w : World σ}

theorem trans (h : Prepared u v) (h' : Prepared v w) : Prepared u w := by
  obtain ⟨layouts, log, rfl⟩ := h
  obtain ⟨layouts', log', rfl⟩ := h'
  exact ⟨layouts', log', rfl⟩

theorem unmoved (h : Prepared w v) : Unmoved w v := by
  obtain ⟨layouts, log, rfl⟩ := h
  exact ⟨rfl, rfl⟩

theorem hookCalls (h : Prepared w v) : v.hookCalls = w.hookCalls := by
  obtain ⟨layouts, log, rfl⟩ := h
  rfl

end World.Prepared

/-! ## Before the hooks -/

namespace World

theorem layoutOf_prepared (kernel : String) (w : World σ) :
    Prepared w (layoutOf kernel w).2 := by
  rw [Loader.layoutOf_run]
  cases w.loader.layouts.getOrCompute kernel with
  | error e => exact ⟨_, _, rfl⟩
  | ok found =>
    dsimp only
    split <;> exact ⟨_, _, rfl⟩

theorem packArguments_prepared (kernel : String) (args : LaunchArgs) (w : World σ) :
    Prepared w (packArguments kernel args w).2 := by
  have hchecked {α β : Type} (r : Except LoadError α) (g : α → β) (v : World σ) :
      Prepared v ((Attempt.ofExcept r >>= fun a => pure (g a) : Attempt σ β) v).2 := by
    rw [checked_answer]
    exact ⟨_, _, rfl⟩
  unfold packArguments
  cases args.form with
  | error e => exact ⟨_, _, rfl⟩
  | ok form =>
    cases form with
    | described words =>
      exact hchecked ((args.readDescriptor words).mapError .invalidValue) PackedArgs.borrowed w
    | structured arguments =>
      have hlayout := layoutOf_prepared kernel w
      rcases hrun : layoutOf kernel w with ⟨e | layout, v⟩
      · rw [hrun] at hlayout
        exact (congrArg Prod.snd (run_bind_of_error hrun _)).symm ▸ hlayout
      · rw [hrun] at hlayout
        refine (congrArg Prod.snd (run_bind_of_ok hrun _)).symm ▸ ?_
        exact hlayout.trans (hchecked (layout.pack arguments) PackedArgs.owned v)

theorem buildPacket_prepared (f : KernelFunction) (g : Geometry) (mode : FlushMode) (w : World σ) :
    Prepared w (buildPacket f g mode w).2 := by
  unfold buildPacket
  cases Packet.forKernel f g.grid g.block g.dynamicShared mode <;> exact ⟨_, _, rfl⟩

end World

namespace Loader

/-! ## The submission -/

/-- Worlds that agree, each with the calls of hooks that it had. -/
structure Abreast (calls calls' : List HookCall) (v w : World σ) : Prop where
  agree : World.Agree v w
  left : v.hookCalls = calls
  right : w.hookCalls = calls'

variable {l k : Loader σ} {calls calls' : List HookCall}

theorem call_abreast {α : Type} (f : σ → Reply σ α) :
    Alike (Abreast calls calls') Eq (World.call f) (World.call f) := by
  intro v w h
  unfold World.call
  rw [h.agree.accelerator]
  exact ⟨rfl, { h with agree := { h.agree with accelerator := rfl } }⟩

theorem abreast_bears (h : l.accelerator = k.accelerator) : Bears l k (Abreast calls calls') where
  completions _ _ hw := hw.agree.completions
  replaced _ _ _ hw := { hw with agree := { hw.agree with completions := rfl } }
  reported _ _ _ hw := ⟨rfl, { hw with agree := { hw.agree with } }⟩
  released _ := h ▸ call_abreast _

/-- **A submission calls no hook**, and it does the same for any hooks, whatever was logged and
called before it. -/
theorem submit_abreast (h : l.accelerator = k.accelerator) (device : Device) (r : LaunchRequest)
    (kernel : String) (queue : QueueHandle) (packet : Packet) (arguments : Bytes) :
    AlikeE (Abreast calls calls') Eq (l.submit device r kernel queue packet arguments)
      (k.submit device r kernel queue packet arguments) :=
  (abreast_bears h).submit (fun _ _ _ _ _ => h ▸ call_abreast _) device r kernel queue packet
    arguments

/-! ## The launch -/

/-- A launch gets as far as the hooks: there is a current device, and the arguments and the packet
are these. -/
structure Described (l : Loader σ) (w : World σ) (current : Option Device) (f : KernelFunction)
    (r : LaunchRequest) (args : LaunchArgs) (device : Device) (packed : PackedArgs)
    (packet : Packet) : Prop where
  device : current = some device
  arguments : (World.packArguments f.name args w).1 = .ok packed
  packet : Packet.forKernel f r.geometry.grid r.geometry.block r.geometry.dynamicShared
    l.settings.flushMode = .ok packet

variable {w : World σ} {current : Option Device} {f : KernelFunction} {r : LaunchRequest}
  {args : LaunchArgs} {device : Device} {packed : PackedArgs} {packet : Packet}

/-- A launch that cannot be described ends before the hooks, whatever they are. -/
theorem launch_undescribed (l : Loader σ)
    (h : ∀ device packed packet, ¬ l.Described w current f r args device packed packet) :
    ∃ e v, World.Prepared w v ∧
      ∀ hooks, ({ l with hooks } : Loader σ).launch current f r args w = (.error e, v) := by
  unfold launch
  cases current with
  | none => exact ⟨_, w, ⟨_, _, rfl⟩, fun _ => rfl⟩
  | some device =>
    have hu := World.packArguments_prepared f.name args w
    rcases hpacked : World.packArguments f.name args w with ⟨e | packed, u⟩
    · rw [hpacked] at hu
      exact ⟨e, u, hu, fun _ => run_bind_of_error hpacked _⟩
    · rw [hpacked] at hu
      have hv := World.buildPacket_prepared f r.geometry l.settings.flushMode u
      rcases hpacket : World.buildPacket f r.geometry l.settings.flushMode u with ⟨e | packet, v⟩
      · rw [hpacket] at hv
        refine ⟨e, v, hu.trans hv, fun _ => ?_⟩
        exact (run_bind_of_ok hpacked _).trans (run_bind_of_error hpacket _)
      · have hanswer := (World.buildPacket_answer f r.geometry l.settings.flushMode u packet).mp
          (congrArg Prod.fst hpacket)
        exact absurd ⟨rfl, congrArg Prod.fst hpacked, hanswer⟩ (h device packed packet)

/-- A launch that can be described is up to the hooks. -/
theorem launch_described (h : l.Described w current f r args device packed packet) :
    ∃ v, World.Prepared w v ∧ ∀ hooks, ({ l with hooks } : Loader σ).launch current f r args w =
      let before := v.hookCalls ++ [.before f.name device r.queue r.geometry]
      match hooks.choose device r.queue r.geometry f.name with
      | .error e => (.error e, { v with hookCalls := before })
      | .ok (queue, reported) =>
        let submitted := l.submit device r f.name queue packet packed.bytes { v with
          hookCalls := before
          log := v.log ++ hooks.chosenEvents f.name device queue reported }
        (submitted.1, { submitted.2 with
          hookCalls := submitted.2.hookCalls ++ [.after f.name queue reported]
          log := submitted.2.log ++ hooks.afterEvents f.name queue }) := by
  let u := (World.packArguments f.name args w).2
  have hpacked : World.packArguments f.name args w = (.ok packed, u) := Prod.ext h.arguments rfl
  have hu : World.Prepared w u := World.packArguments_prepared f.name args w
  let v := (World.buildPacket f r.geometry l.settings.flushMode u).2
  have hpacket : World.buildPacket f r.geometry l.settings.flushMode u = (.ok packet, v) :=
    Prod.ext ((World.buildPacket_answer f r.geometry l.settings.flushMode u packet).mpr h.packet)
      rfl
  have hv : World.Prepared u v := World.buildPacket_prepared f r.geometry _ u
  refine ⟨v, hu.trans hv, fun hooks => ?_⟩
  unfold launch
  rw [h.device]
  -- arguments and packet are there, and the hooks come next
  refine ((run_bind_of_ok hpacked _).trans (run_bind_of_ok hpacket _)).trans ?_
  unfold chooseQueue
  dsimp only
  rcases hooks.choose device r.queue r.geometry f.name with e | ⟨queue, reported⟩
  · rfl
  · rfl

/-- Hooks that choose the same queue, or refuse alike. -/
theorem same_choice {c c' : Except LoadError (QueueHandle × Geometry)}
    (h : c'.map (·.1) = c.map (·.1)) :
    (∃ e, c = .error e ∧ c' = .error e) ∨
      ∃ queue reported reported', c = .ok (queue, reported) ∧ c' = .ok (queue, reported') := by
  rcases c with e | ⟨queue, reported⟩
  · rcases c' with e' | chosen'
    · cases h
      exact .inl ⟨e, rfl, rfl⟩
    · cases h
  · rcases c' with e' | ⟨queue', reported'⟩
    · cases h
    · cases h
      exact .inr ⟨queue, reported, reported', rfl, rfl⟩

/-- A launch does the same with other hooks that choose the same queue. -/
theorem launch_agree (l : Loader σ) {hooks : LaunchHooks}
    (h : ∀ device, current = some device →
      (hooks.choose device r.queue r.geometry f.name).map (·.1) =
        (l.hooks.choose device r.queue r.geometry f.name).map (·.1)) :
    let launched := l.launch current f r args w
    let other := ({ l with hooks } : Loader σ).launch current f r args w
    launched.1 = other.1 ∧ World.Agree launched.2 other.2 := by
  intro launched other
  by_cases hdescribed : ∃ device packed packet, l.Described w current f r args device packed packet
  · obtain ⟨device, packed, packet, hd⟩ := hdescribed
    obtain ⟨v, -, hrun⟩ := launch_described hd
    have hlaunched : launched = _ := hrun l.hooks
    have hother : other = _ := hrun hooks
    rcases same_choice (h device hd.device) with
      ⟨e, he, he'⟩ | ⟨queue, reported, reported', hok, hok'⟩
    · rw [he] at hlaunched
      rw [he'] at hother
      rw [hlaunched, hother]
      exact ⟨rfl, ⟨rfl, rfl, rfl, rfl⟩⟩
    · rw [hok] at hlaunched
      rw [hok'] at hother
      rw [hlaunched, hother]
      -- only what was logged before tells the two submissions apart
      let asked (events : List Trace.Event) : World σ := { v with
        hookCalls := v.hookCalls ++ [.before f.name device r.queue r.geometry]
        log := v.log ++ events }
      obtain ⟨hanswer, habreast⟩ :=
        submit_abreast (l := l) rfl device r f.name queue packet packed.bytes
          (asked (l.hooks.chosenEvents f.name device queue reported))
          (asked (hooks.chosenEvents f.name device queue reported'))
          ⟨⟨rfl, rfl, rfl, rfl⟩, rfl, rfl⟩
      exact ⟨hanswer.eq, { habreast.agree with }⟩
  · have hnone : ∀ device packed packet, ¬ l.Described w current f r args device packed packet :=
      fun device packed packet hd => hdescribed ⟨device, packed, packet, hd⟩
    obtain ⟨e, v, -, hrun⟩ := launch_undescribed l hnone
    rw [show launched = (.error e, v) from hrun l.hooks,
      show other = (.error e, v) from hrun hooks]
    exact ⟨rfl, ⟨rfl, rfl, rfl, rfl⟩⟩

/-- **Hooks are paired around a launch and cannot alter it.** A launch that cannot be described
fails without a hook. Otherwise `before` is called once. If the hooks refuse, their error is the
answer and nothing was submitted; if they choose a queue, there is one submission to this queue and
`after` is called once on the world that it left, with the queue and the geometry that the hooks
answered, and the answer is the submission's, be it a success or a failure. With other hooks that
choose the same queue, or refuse alike, the answer is the same and so is everything but the two
histories. A launch over blocks is such a launch, unless its geometry is refused before anything
else. -/
theorem launch_hooked (l : Loader σ) (current : Option Device) (f : KernelFunction)
    (r : LaunchRequest) (args : LaunchArgs) (w : World σ) :
    let launched := l.launch current f r args w
    ((∀ device packed packet, ¬ l.Described w current f r args device packed packet) →
      (∃ e, launched.1 = .error e) ∧ World.Unmoved w launched.2 ∧
        launched.2.hookCalls = w.hookCalls) ∧
    (∀ device packed packet, l.Described w current f r args device packed packet →
      let before := HookCall.before f.name device r.queue r.geometry
      (∀ e, l.hooks.choose device r.queue r.geometry f.name = .error e →
        launched.1 = .error e ∧ World.Unmoved w launched.2 ∧
          launched.2.hookCalls = w.hookCalls ++ [before]) ∧
      ∀ queue reported, l.hooks.choose device r.queue r.geometry f.name = .ok (queue, reported) →
        ∃ u, World.Unmoved w u ∧ u.hookCalls = w.hookCalls ++ [before] ∧
          let submitted := l.submit device r f.name queue packet packed.bytes u
          submitted.2.hookCalls = u.hookCalls ∧
          launched = (submitted.1, { submitted.2 with
            hookCalls := submitted.2.hookCalls ++ [.after f.name queue reported]
            log := submitted.2.log ++ l.hooks.afterEvents f.name queue })) ∧
    (∀ hooks : LaunchHooks,
      (∀ device, current = some device →
        (hooks.choose device r.queue r.geometry f.name).map (·.1) =
          (l.hooks.choose device r.queue r.geometry f.name).map (·.1)) →
      let other := ({ l with hooks } : Loader σ).launch current f r args w
      launched.1 = other.1 ∧ World.Agree launched.2 other.2) ∧
    ∀ blocks block dynamicShared queue,
      l.launchBlocks current f blocks block dynamicShared queue args w =
        match Geometry.ofBlocks blocks block dynamicShared with
        | .error cause => (.error (.invalidValue cause), w)
        | .ok geometry => l.launch current f { geometry, queue } args w := by
  intro launched
  refine ⟨fun hnone => ?_, fun device packed packet h => ?_, fun hooks h => launch_agree l h,
    fun blocks block dynamicShared queue => ?_⟩
  · obtain ⟨e, v, hv, hrun⟩ := launch_undescribed l hnone
    rw [show launched = (.error e, v) from hrun l.hooks]
    exact ⟨⟨e, rfl⟩, hv.unmoved, hv.hookCalls⟩
  · intro before
    obtain ⟨v, hv, hrun⟩ := launch_described h
    have hlaunched : launched = _ := hrun l.hooks
    refine ⟨fun e he => ?_, fun queue reported hok => ?_⟩
    · rw [he] at hlaunched
      rw [hlaunched]
      exact ⟨rfl, ⟨hv.unmoved.accelerator, hv.unmoved.completions⟩, hv.hookCalls ▸ rfl⟩
    · rw [hok] at hlaunched
      let u : World σ := { v with
        hookCalls := v.hookCalls ++ [before]
        log := v.log ++ l.hooks.chosenEvents f.name device queue reported }
      have hcalls := (submit_abreast (l := l) rfl device r f.name queue packet packed.bytes u u
        ⟨⟨rfl, rfl, rfl, rfl⟩, rfl, rfl⟩).2.left
      exact ⟨u, ⟨hv.unmoved.accelerator, hv.unmoved.completions⟩,
        congrArg (· ++ [before]) hv.hookCalls, hcalls, hlaunched⟩
  · exact l.launchBlocks_run current f blocks block dynamicShared queue args w

/-- Hooks that choose this queue and write over the grid. -/
def overwriting (queue : QueueHandle) (grid : Dim3) : LaunchHooks where
  choose _ _ g _ := .ok (queue, { g with grid })

/-- A dispatch that is made to fail and one that succeeds, between hooks that write over the grid.
The successful one carries the grid that was asked for, and its event is attached to the queue that
the hooks chose. -/
theorem launch_hooked_overwriting :
    let f : KernelFunction := ⟨"scale", 0x4000, 16, 0, 8⟩
    let r : LaunchRequest := { geometry := ⟨⟨256, 1, 1⟩, ⟨64, 1, 1⟩, 32⟩, stopEvent := some "stop" }
    let args : LaunchArgs := { parameters := some [[5], [1, 2, 3, 4]] }
    let device : Device := ⟨0, ⟨7⟩, ⟨8⟩⟩
    let faulty : World Simulator :=
      { scalingWorld with accelerator := scalingWorld.accelerator.inject .dispatch }
    let l : Loader Simulator := Simulator.loader {} (overwriting ⟨9⟩ ⟨1, 1, 1⟩)
    let k : Loader Simulator := Simulator.loader {} (overwriting ⟨9⟩ ⟨2, 2, 2⟩)
    let calls : List HookCall := [.before "scale" device none r.geometry,
      .after "scale" ⟨9⟩ { r.geometry with grid := ⟨1, 1, 1⟩ }]
    let refused := l.launch (some device) f r args faulty
    let launched := l.launch (some device) f r args scalingWorld
    (refused.1 ≠ .ok () ∧ refused.2.hookCalls = calls ∧
      let other := k.launch (some device) f r args faulty
      refused.1 = other.1 ∧ refused.2.accelerator = other.2.accelerator) ∧
    launched.1 = .ok () ∧ launched.2.hookCalls = calls ∧
      (∃ d, launched.2.accelerator.dispatches = scalingWorld.accelerator.dispatches ++ [d] ∧
        d.queue = ⟨9⟩ ∧ d.packet.gridSize = ⟨256, 1, 1⟩) ∧
      (launched.2.completions.record? "stop").map (·.queue) = some ⟨9⟩ ∧
      let other := k.launch (some device) f r args scalingWorld
      launched.1 = other.1 ∧ launched.2.accelerator = other.2.accelerator := by
  intro f r args device faulty l k calls refused launched
  -- the hooks around a launch that can be described, however its submission ends
  have hooked (w : World Simulator) (hw : w.hookCalls = []) (packed : PackedArgs)
      (packet : Packet) (h : l.Described w (some device) f r args device packed packet) :
      ∃ u, u.accelerator = w.accelerator ∧
        let submitted := l.submit device r f.name ⟨9⟩ packet packed.bytes u
        let ended := l.launch (some device) f r args w
        let other := k.launch (some device) f r args w
        ended.1 = submitted.1 ∧ ended.2.accelerator = submitted.2.accelerator ∧
          ended.2.hookCalls = calls ∧
          ended.1 = other.1 ∧ ended.2.accelerator = other.2.accelerator := by
    obtain ⟨-, hpaired, hsame, -⟩ := launch_hooked l (some device) f r args w
    obtain ⟨u, hu, hbefore, hcalls, hended⟩ := (hpaired device packed packet h).2 ⟨9⟩ _ rfl
    obtain ⟨hanswer, hagree⟩ := hsame (overwriting ⟨9⟩ ⟨2, 2, 2⟩) fun _ _ => rfl
    rw [hw] at hbefore
    refine ⟨u, hu.accelerator, ?_, ?_, ?_, hanswer, hagree.accelerator⟩
    · rw [hended]
    · rw [hended]
    · rw [hended]
      exact congrArg (· ++ [_]) (hcalls.trans hbefore)
  refine ⟨?_, ?_⟩
  · have hdescribed : ∃ packed packet,
        l.Described faulty (some device) f r args device packed packet := ⟨_, _, rfl, rfl, rfl⟩
    obtain ⟨packed, packet, h⟩ := hdescribed
    obtain ⟨u, hu, hanswer, -, hcalls, hsame⟩ := hooked faulty rfl packed packet h
    have hfaulty : u.accelerator.faulty .dispatch = true := hu ▸ rfl
    obtain ⟨err, v, herror, -⟩ :=
      Simulator.submit_refused (l := l) device r f.name ⟨9⟩ packet packed.bytes rfl hfaulty
    refine ⟨?_, hcalls, hsame⟩
    rw [show refused.1 = _ from hanswer, herror]
    exact nofun
  · have hdescribed : ∃ packed packet, packet.gridSize = ⟨256, 1, 1⟩ ∧
        l.Described scalingWorld (some device) f r args device packed packet :=
      ⟨_, _, rfl, rfl, rfl, rfl⟩
    obtain ⟨packed, packet, hgrid, h⟩ := hdescribed
    obtain ⟨u, hu, hanswer, haccelerator, hcalls, hsame⟩ := hooked scalingWorld rfl packed packet h
    have hready : u.accelerator.faulty .dispatch = false := hu ▸ rfl
    obtain ⟨signal, v, hsubmit, hdispatches⟩ :=
      Simulator.submit_accepted (l := l) device r f.name ⟨9⟩ packet packed.bytes rfl hready
    rw [hu] at hdispatches
    rw [hsubmit] at hanswer haccelerator
    have hlaunched : launched.2.accelerator.dispatches = v.accelerator.dispatches :=
      congrArg Simulator.dispatches haccelerator
    refine ⟨hanswer, hcalls, ⟨_, hlaunched.trans hdispatches, rfl, ?_⟩, by decide +kernel, hsame⟩
    show (⟨packet.gridX, packet.gridY, packet.gridZ⟩ : Dim3) = ⟨256, 1, 1⟩
    exact hgrid

end Loader

end DeviceCode

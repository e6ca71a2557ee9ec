import Mathlib
import DeviceCode.Proofs.Kernel.Packing
import DeviceCode.Proofs.LaunchOutcome
import DeviceCode.Proofs.LoadProgress
import DeviceCode.Proofs.Soundness

/-!
# What a launch submits

A launch that is accepted submits one packet, and that one carries what was asked for; a launch that
is not accepted submits none. The conditions are those of four different checks, and which of them
fails first decides the error; together they are one condition on the request, the known layouts and
the one call that is made (`LaunchRequest.Acceptable`). Both ways to launch are under this condition
(`Loader.launch_submits`): one counts blocks and must be able to count their work-items, the other
is given the work-items.

The argument addresses of dispatches are counted up in steps of a page from a fixed base and wrap
around after 2⁵² of them, so that many in a row are distinct.
-/

namespace DeviceCode

/-! ## Packets -/

namespace Packet

theorem workgroup_ok_iff {axis : Axis} {size : UInt32} {n : UInt16} :
    workgroup axis size = .ok n ↔ (1 ≤ size.toNat ∧ size.toNat ≤ 65535) ∧ n.toNat = size.toNat := by
  have hzero : size = 0 ↔ size.toNat = 0 := UInt32.toNat_inj.symm
  have hsize : UInt16.size = 65536 := rfl
  unfold workgroup
  split
  · next h =>
    rw [hzero] at h
    exact ⟨nofun, fun h' => by omega⟩
  · next h =>
    rw [hzero] at h
    split
    · next hlt =>
      have hval : (UInt16.ofNat size.toNat).toNat = size.toNat := UInt16.toNat_ofNat_of_lt hlt
      constructor
      · intro h'
        cases h'
        exact ⟨by omega, hval⟩
      · rintro ⟨-, h'⟩
        rw [← h', UInt16.ofNat_toNat]
    · exact ⟨nofun, fun h' => by omega⟩

theorem groupTotal_ok_iff {fixed n : UInt32} {dynamic : Nat} :
    groupTotal fixed dynamic = .ok n ↔
      fixed.toNat + dynamic < 2 ^ 32 ∧ n.toNat = fixed.toNat + dynamic := by
  unfold groupTotal
  split
  · next hlt =>
    have hval : (UInt32.ofNat (fixed.toNat + dynamic)).toNat = fixed.toNat + dynamic :=
      UInt32.toNat_ofNat_of_lt hlt
    constructor
    · intro h
      cases h
      exact ⟨hlt, hval⟩
    · rintro ⟨-, h⟩
      rw [← h, UInt32.ofNat_toNat]
  · next hge => exact ⟨nofun, fun h => absurd h.1 hge⟩

/-- The four fields of a header. -/
theorem headerFor_fields (mode : FlushMode) :
    headerFor mode &&& 0xff = kernelDispatch ∧ ((headerFor mode >>> 8) &&& 1 == 1) = true ∧
      (headerFor mode >>> 9) &&& 3 = mode.scope ∧ (headerFor mode >>> 11) &&& 3 = mode.scope := by
  cases mode <;> decide

/-- What a packet says about the kernel, the geometry and the fences of a launch. -/
structure Describes (p : Packet) (f : KernelFunction) (g : Geometry) (mode : FlushMode) : Prop where
  type : p.type = kernelDispatch
  barrier : p.hasBarrier = true
  acquire : p.acquireScope = mode.scope
  release : p.releaseScope = mode.scope
  dimensions : p.dimensions = 3
  grid : p.gridSize = g.grid
  workgroup : p.workgroupSize = g.block.toList
  groupSize : p.groupSize.toNat = f.groupSize.toNat + g.dynamicShared
  privateSize : p.privateSize = f.privateSize
  kernelObject : p.kernelObject = f.kernelObject

variable {f : KernelFunction} {g : Geometry} {mode : FlushMode} {p : Packet}

/-- The geometries that a packet can describe. -/
def Describable (f : KernelFunction) (g : Geometry) : Prop :=
  (∀ n ∈ g.block.toList, 1 ≤ n ∧ n ≤ 65535) ∧ f.groupSize.toNat + g.dynamicShared < 2 ^ 32

theorem forKernel_ok_iff : forKernel f g.grid g.block g.dynamicShared mode = .ok p ↔
    ∃ groupSize x y z, groupTotal f.groupSize g.dynamicShared = .ok groupSize ∧
      workgroup .x g.block.x = .ok x ∧ workgroup .y g.block.y = .ok y ∧
      workgroup .z g.block.z = .ok z ∧ p = {
        header := headerFor mode
        setup := 3
        workgroupX := x, workgroupY := y, workgroupZ := z
        gridX := g.grid.x, gridY := g.grid.y, gridZ := g.grid.z
        privateSize := f.privateSize
        groupSize
        kernelObject := f.kernelObject } := by
  unfold forKernel
  constructor
  · intro h
    obtain ⟨groupSize, hgroup, h⟩ := except_bind_eq_ok.mp h
    obtain ⟨x, hx, h⟩ := except_bind_eq_ok.mp h
    obtain ⟨y, hy, h⟩ := except_bind_eq_ok.mp h
    obtain ⟨z, hz, h⟩ := except_bind_eq_ok.mp h
    cases h
    exact ⟨groupSize, x, y, z, hgroup, hx, hy, hz, rfl⟩
  · rintro ⟨groupSize, x, y, z, hgroup, hx, hy, hz, rfl⟩
    rw [hgroup, hx, hy, hz]
    rfl

/-- **A packet describes its launch**, and only launches that can be described have one. -/
theorem describes_of_forKernel (h : forKernel f g.grid g.block g.dynamicShared mode = .ok p) :
    Describable f g ∧ p.Describes f g mode := by
  obtain ⟨groupSize, x, y, z, hgroup, hx, hy, hz, rfl⟩ := forKernel_ok_iff.mp h
  obtain ⟨hfits, hgroup⟩ := groupTotal_ok_iff.mp hgroup
  obtain ⟨hxrange, hx⟩ := workgroup_ok_iff.mp hx
  obtain ⟨hyrange, hy⟩ := workgroup_ok_iff.mp hy
  obtain ⟨hzrange, hz⟩ := workgroup_ok_iff.mp hz
  refine ⟨⟨?_, hfits⟩, ?_⟩
  · unfold Dim3.toList
    simp only [List.forall_mem_cons, List.not_mem_nil, false_imp_iff, implies_true, and_true]
    exact ⟨hxrange, hyrange, hzrange⟩
  · exact {
      type := (headerFor_fields mode).1
      barrier := (headerFor_fields mode).2.1
      acquire := (headerFor_fields mode).2.2.1
      release := (headerFor_fields mode).2.2.2
      dimensions := show (3 : UInt16) &&& 3 = 3 by decide
      grid := rfl
      workgroup := by
        unfold workgroupSize Dim3.toList
        rw [hx, hy, hz]
      groupSize := hgroup
      privateSize := rfl
      kernelObject := rfl }

/-- Every launch that can be described has a packet. -/
theorem forKernel_of_describable (h : Describable f g) (mode : FlushMode) :
    ∃ p, forKernel f g.grid g.block g.dynamicShared mode = .ok p := by
  obtain ⟨hblock, hfits⟩ := h
  have hworkgroup : ∀ axis size, size.toNat ∈ g.block.toList →
      ∃ n, workgroup axis size = .ok n := by
    intro axis size hmem
    have hrange := hblock _ hmem
    have hlt : size.toNat < UInt16.size := Nat.lt_succ_of_le hrange.2
    exact ⟨_, workgroup_ok_iff.mpr ⟨hrange, UInt16.toNat_ofNat_of_lt hlt⟩⟩
  obtain ⟨x, hx⟩ := hworkgroup .x g.block.x (by simp [Dim3.toList])
  obtain ⟨y, hy⟩ := hworkgroup .y g.block.y (by simp [Dim3.toList])
  obtain ⟨z, hz⟩ := hworkgroup .z g.block.z (by simp [Dim3.toList])
  have hgroup := groupTotal_ok_iff.mpr ⟨hfits, UInt32.toNat_ofNat_of_lt hfits⟩
  exact ⟨_, forKernel_ok_iff.mpr ⟨_, x, y, z, hgroup, hx, hy, hz, rfl⟩⟩

end Packet

/-! ## Counting in blocks -/

namespace Dim3

end Dim3

namespace Geometry

variable {g : Geometry} {blocks block : Dim3} {dynamicShared : Nat}

end Geometry

/-! ## Dispatches of the simulator -/

namespace Simulator

variable {s t : Simulator} {α : Type}

theorem Fails.dispatches {r : Reply Simulator α} (h : Fails r s) :
    r.2.dispatches = s.dispatches := by
  obtain ⟨err, journal, loads, rfl⟩ := h
  rfl

theorem Succeeds.dispatches {r : Reply Simulator α} {a : α} (h : Succeeds r a t) :
    r.2.dispatches = t.dispatches := by
  obtain ⟨journal, loads, rfl⟩ := h
  rfl

/-- A dispatch that is not made to fail is submitted with the packet's own fields, but for the
address of the arguments and the completion. -/
theorem dispatch_submits (g : AgentHandle) (q : QueueHandle) (p : Packet) (arguments : Bytes)
    (wantCompletion : Bool) (h : s.faulty .dispatch = false) :
    ∃ c signal t, s.dispatch g q p arguments wantCompletion = (.ok c, t) ∧
      t.dispatches = s.dispatches ++ [⟨g, q, { p with
        argumentAddress := argumentAddress (s.dispatches.length + 1)
        completionSignal := signal }, arguments⟩] := by
  have hfault : (s.record (.dispatch q)).faulty .dispatch ≠ true := by
    rw [show (s.record (.dispatch q)).faulty .dispatch = false from h]
    exact Bool.false_ne_true
  unfold dispatch
  dsimp only
  rw [if_neg hfault]
  split <;> exact ⟨_, _, _, rfl, rfl⟩

theorem dispatch_refused (g : AgentHandle) (q : QueueHandle) (p : Packet) (arguments : Bytes)
    (wantCompletion : Bool) (h : s.faulty .dispatch = true) :
    ∃ err t, s.dispatch g q p arguments wantCompletion = (.error err, t) ∧
      t.dispatches = s.dispatches := by
  unfold dispatch
  dsimp only
  rw [if_pos (show (s.record (.dispatch q)).faulty .dispatch = true from h)]
  exact ⟨_, _, rfl, rfl⟩

/-- A call submits nothing, or one dispatch more with the next argument address. -/
theorem Called.dispatches (c : Called s t) : t.dispatches = s.dispatches ∨
    ∃ d : SubmittedDispatch, t.dispatches = s.dispatches ++ [d] ∧
      d.packet.argumentAddress = argumentAddress (s.dispatches.length + 1) := by
  cases c with
  | dispatch g q p bs w =>
    cases hf : s.faulty .dispatch with
    | true =>
      obtain ⟨err, t, hrun, ht⟩ := dispatch_refused g q p bs w hf
      rw [hrun]
      exact .inl ht
    | false =>
      obtain ⟨c, signal, t, hrun, ht⟩ := dispatch_submits g q p bs w hf
      rw [hrun]
      exact .inr ⟨_, ht, rfl⟩
  | createExecutable =>
    rcases createExecutable_cases s with h | h <;> exact .inl h.dispatches
  | loadReader e g r =>
    rcases loadReader_cases s e g r with h | ⟨_, _, _, _, _, h⟩ <;> exact .inl h.dispatches
  | loadCodeObject e g c =>
    rcases loadCodeObject_cases s e g c with h | ⟨_, _, _, _, _, h⟩ <;> exact .inl h.dispatches
  | freeze e =>
    rcases freeze_cases s e with ⟨_, h⟩ | ⟨_, _, _, _, h⟩ <;> exact .inl h.dispatches
  | destroyExecutable e =>
    rcases destroyExecutable_cases s e with ⟨_, h⟩ | ⟨_, _, h⟩ <;> exact .inl h.dispatches
  | getSymbol e g n =>
    obtain ⟨journal, loads, heq⟩ := getSymbol_state s e g n
    exact .inl (heq ▸ rfl)
  | defineGlobal e n x =>
    rcases defineGlobal_cases s e n x with h | ⟨_, _, _, _, _, h⟩ <;> exact .inl h.dispatches
  | createReader fs p =>
    rcases createReader_cases s fs p with h | ⟨_, h⟩ <;> exact .inl h.dispatches
  | destroyReader r =>
    rcases destroyReader_cases s r with ⟨_, h⟩ | ⟨_, h⟩ <;> exact .inl h.dispatches
  | deserialize x n =>
    rcases deserialize_cases s x n with h | ⟨_, h⟩ <;> exact .inl h.dispatches
  | destroyCodeObject c =>
    rcases destroyCodeObject_cases s c with ⟨_, h⟩ | ⟨_, h⟩ <;> exact .inl h.dispatches
  | lockMemory g x n =>
    rcases lockMemory_cases s g x n with h | ⟨_, _, h⟩ <;> exact .inl h.dispatches
  | unlockMemory x =>
    rcases unlockMemory_cases s x with ⟨_, h⟩ | ⟨_, _, h⟩ <;> exact .inl h.dispatches
  | findRegion g => exact .inl (congrArg Simulator.dispatches (findRegion_state s g))
  | allocate r n =>
    rcases allocate_cases s r n with h | ⟨_, _, h⟩ <;> exact .inl h.dispatches
  | free x =>
    rcases free_cases s x with ⟨_, h⟩ | ⟨_, _, h⟩ <;> exact .inl h.dispatches
  | writeMemory x bs =>
    rcases writeMemory_cases s x bs with h | ⟨_, _, _, _, h⟩ <;> exact .inl h.dispatches
  | synchronize g =>
    obtain ⟨journal, loads, heq⟩ := synchronize_state s g
    exact .inl (heq ▸ rfl)
  | releaseCompletion c =>
    obtain ⟨journal, loads, heq | heq⟩ := releaseCompletion_state s c <;> exact .inl (heq ▸ rfl)

/-- Dispatches have the argument addresses in their order. -/
def Addressed (s : Simulator) : Prop :=
  ∀ i d, s.dispatches[i]? = some d → d.packet.argumentAddress = argumentAddress (i + 1)

theorem Addressed.called (h : Addressed s) (c : Called s t) : Addressed t := by
  rcases c.dispatches with heq | ⟨d, heq, haddress⟩
  · unfold Addressed
    rw [heq]
    exact h
  · intro i d' hd
    rw [heq, List.getElem?_append] at hd
    split at hd
    · exact h i d' hd
    · -- the new dispatch is the last one
      have hi : i = s.dispatches.length := by
        have hlt := (List.getElem?_eq_some_iff.mp hd).1
        rw [List.length_singleton] at hlt
        omega
      subst hi
      rw [Nat.sub_self] at hd
      cases hd
      exact haddress

/-- **Argument addresses are counted up**, in any use of a simulator. -/
theorem Reachable.addressed (h : Reachable s) : Addressed s := by
  induction h with
  | fresh hasRegion => exact fun _ _ hd => nomatch hd
  | called _ c ih => exact ih.called c
  | inject _ point ih =>
    unfold Simulator.inject
    split <;> exact ih
  | clearFaults _ ih => exact ih
  | setSegmentSizes _ kernel group private_ ih => exact ih
  | setArgumentSize _ kernel size ih => exact ih

/-- Fewer than 2⁵² pages on, the address is another one. -/
theorem argumentAddress_ne {i j : Nat} (hlt : i < j) (hclose : j < i + 2 ^ 52) :
    argumentAddress i ≠ argumentAddress j := by
  intro h
  have hmod := congrArg UInt64.toNat h
  unfold argumentAddress pageSize at hmod
  rw [UInt64.toNat_ofNat', UInt64.toNat_ofNat'] at hmod
  omega

end Simulator

/-! ## Launches -/

variable {σ α : Type}

theorem Idle.unmoved {x : Attempt σ α} (h : Idle x) (w : World σ) : World.Unmoved w (x w).2 :=
  (h w w (.refl w)).state

theorem World.buildPacket_answer (f : KernelFunction) (g : Geometry) (mode : FlushMode)
    (w : World σ) (p : Packet) :
    (buildPacket f g mode w).1 = .ok p ↔
      Packet.forKernel f g.grid g.block g.dynamicShared mode = .ok p := by
  unfold buildPacket
  cases Packet.forKernel f g.grid g.block g.dynamicShared mode with
  | error cause => exact ⟨nofun, nofun⟩
  | ok q => exact ⟨fun h => by cases h; rfl, fun h => by cases h; rfl⟩

theorem World.buildPacket_ne_overflow (f : KernelFunction) (g : Geometry) (mode : FlushMode)
    (w : World σ) : (buildPacket f g mode w).1 ≠ .error .capacityOverflow := by
  unfold buildPacket
  cases Packet.forKernel f g.grid g.block g.dynamicShared mode with
  | error cause => exact nofun
  | ok q => exact nofun

namespace Loader

/-- A launch that gets as far as its packet is one submission, and ends as that does. -/
theorem launch_submitted (accelerator : Accelerator σ) (settings : LoaderSettings)
    (device : Device) {f : KernelFunction} {r : LaunchRequest} {args : LaunchArgs} {w : World σ}
    {packed : PackedArgs} {packet : Packet}
    (hpacked : (World.packArguments f.name args w).1 = .ok packed)
    (hpacket : Packet.forKernel f r.geometry.grid r.geometry.block r.geometry.dynamicShared
      settings.flushMode = .ok packet) :
    let l : Loader σ := { accelerator, settings, hooks := .default }
    ∃ u, World.Unmoved w u ∧
      let queue := r.queue.getD device.defaultQueue
      (l.launch (some device) f r args w).1 =
          (l.submit device r f.name queue packet packed.bytes u).1 ∧
        (l.launch (some device) f r args w).2.accelerator =
          (l.submit device r f.name queue packet packed.bytes u).2.accelerator := by
  intro l
  let u := (World.packArguments f.name args w).2
  have hpacked : World.packArguments f.name args w = (.ok packed, u) := Prod.ext hpacked rfl
  have hu : World.Unmoved w u := (World.packArguments_idle f.name args).unmoved w
  let v := (World.buildPacket f r.geometry l.settings.flushMode u).2
  have hpacket : World.buildPacket f r.geometry l.settings.flushMode u = (.ok packet, v) :=
    Prod.ext ((World.buildPacket_answer f r.geometry l.settings.flushMode u packet).mpr hpacket) rfl
  have hv : World.Unmoved u v := (World.buildPacket_idle f r.geometry _).unmoved u
  -- the default hooks never refuse, and they answer with the queue that was asked for
  let queue := r.queue.getD device.defaultQueue
  let chosen := (l.chooseQueue device r.queue r.geometry f.name v).2
  have hchosen : World.Unmoved v chosen := ⟨rfl, rfl⟩
  let submitted := l.submit device r f.name queue packet packed.bytes chosen
  have hrun : l.launch (some device) f r args w =
      (submitted.1, (l.concludeLaunch f.name queue r.geometry submitted.2).2) := by
    unfold launch
    exact (run_bind_of_ok hpacked _).trans (run_bind_of_ok hpacket _)
  rw [hrun]
  exact ⟨chosen, hu.trans (hv.trans hchosen), rfl, (l.concludeLaunch_unmoved _ _ _ _).accelerator⟩

/-- A launch that does not get as far as its packet fails without a submission, and if it panics
then while it packs. -/
theorem launch_unsubmitted (accelerator : Accelerator σ) (settings : LoaderSettings)
    {current : Option Device} {f : KernelFunction} {r : LaunchRequest} {args : LaunchArgs}
    {w : World σ}
    (h : ∀ packed packet, current.isSome → (World.packArguments f.name args w).1 = .ok packed →
      Packet.forKernel f r.geometry.grid r.geometry.block r.geometry.dynamicShared
        settings.flushMode ≠ .ok packet) :
    let l : Loader σ := { accelerator, settings, hooks := .default }
    ∃ e v, World.Unmoved w v ∧ l.launch current f r args w = (.error e, v) ∧
      (e = .capacityOverflow ↔ current.isSome ∧ args.Overflows w.loader.layouts f.name) := by
  intro l
  unfold launch
  rw [← World.packArguments_overflow_iff]
  cases current with
  | none =>
    refine ⟨.noCurrentDevice, w, .refl w, rfl, nofun, ?_⟩
    rintro ⟨⟨⟩, -⟩
  | some device =>
    simp only [Option.isSome_some, true_and]
    have hu := (World.packArguments_idle f.name args).unmoved w
    rcases hpacked : World.packArguments f.name args w with ⟨e | packed, u⟩
    · rw [hpacked] at hu
      refine ⟨e, u, hu, run_bind_of_error hpacked _, ?_⟩
      exact ⟨congrArg Except.error, Except.error.inj⟩
    · rw [hpacked] at hu
      have hv := (World.buildPacket_idle f r.geometry l.settings.flushMode).unmoved u
      rcases hpacket : World.buildPacket f r.geometry l.settings.flushMode u with ⟨e | packet, v⟩
      · rw [hpacket] at hv
        refine ⟨e, v, hu.trans hv, ?_, ?_, nofun⟩
        · exact (run_bind_of_ok hpacked _).trans (run_bind_of_error hpacket _)
        · rintro rfl
          exact absurd (congrArg Prod.fst hpacket) (World.buildPacket_ne_overflow f r.geometry _ u)
      · have hanswer := (World.buildPacket_answer f r.geometry l.settings.flushMode u packet).mp
          (congrArg Prod.fst hpacket)
        exact absurd hanswer (h packed packet rfl (congrArg Prod.fst hpacked))

end Loader

namespace Simulator

variable {l : Loader Simulator} {w : World Simulator} (device : Device) (r : LaunchRequest)
  (kernel : String) (queue : QueueHandle) (packet : Packet) (arguments : Bytes)

theorem submit_accepted (hl : l.accelerator = accelerator)
    (h : w.accelerator.faulty .dispatch = false) :
    ∃ signal v, l.submit device r kernel queue packet arguments w = (.ok (), v) ∧
      v.accelerator.dispatches = w.accelerator.dispatches ++ [⟨device.agent, queue, { packet with
        argumentAddress := argumentAddress (w.accelerator.dispatches.length + 1)
        completionSignal := signal }, arguments⟩] := by
  obtain ⟨c, signal, t, hrun, ht⟩ :=
    dispatch_submits device.agent queue packet arguments r.wantsCompletion h
  -- attaching events submits nothing
  have hattach := l.attachGranted_keeps (P := fun s => s.dispatches = t.dispatches)
    (by
      intro c s hs
      rw [hl]
      obtain ⟨journal, loads, heq | heq⟩ := releaseCompletion_state s c <;>
        exact (congrArg Simulator.dispatches heq).trans hs)
    r queue c (w := { w with accelerator := t }) rfl
  rw [l.submit_run, hl, show accelerator.dispatch _ _ _ _ _ _ = (.ok c, t) from hrun]
  exact ⟨signal, _, rfl, hattach.trans ht⟩

theorem submit_refused (hl : l.accelerator = accelerator)
    (h : w.accelerator.faulty .dispatch = true) :
    ∃ err v, l.submit device r kernel queue packet arguments w = (.error (.callFailed err), v) ∧
      v.accelerator.dispatches = w.accelerator.dispatches := by
  obtain ⟨err, t, hrun, ht⟩ :=
    dispatch_refused device.agent queue packet arguments r.wantsCompletion h
  rw [l.submit_run, hl, show accelerator.dispatch _ _ _ _ _ _ = (.error err, t) from hrun]
  exact ⟨err, _, rfl, ht⟩

section Launched

variable (settings : LoaderSettings) (device : Device) {f : KernelFunction} {r : LaunchRequest}
  {args : LaunchArgs} {packed : PackedArgs} {packet : Packet}
  (hpacked : (World.packArguments f.name args w).1 = .ok packed)
  (hpacket : Packet.forKernel f r.geometry.grid r.geometry.block r.geometry.dynamicShared
    settings.flushMode = .ok packet)

include hpacked hpacket

/-- A launch with a packet submits it, unless dispatches are made to fail. -/
theorem launch_accepted (h : w.accelerator.faulty .dispatch = false) :
    let launched := (loader settings .default).launch (some device) f r args w
    launched.1 = .ok () ∧ ∃ signal, launched.2.accelerator.dispatches =
      w.accelerator.dispatches ++ [⟨device.agent, r.queue.getD device.defaultQueue, { packet with
        argumentAddress := argumentAddress (w.accelerator.dispatches.length + 1)
        completionSignal := signal }, packed.bytes⟩] := by
  intro launched
  obtain ⟨u, hu, hanswer, hstate⟩ :=
    Loader.launch_submitted accelerator settings device hpacked hpacket
  obtain ⟨signal, x, hsubmit, hdispatches⟩ := submit_accepted (l := { accelerator, settings })
    device r f.name (r.queue.getD device.defaultQueue) packet packed.bytes rfl (hu.accelerator ▸ h)
  rw [hsubmit] at hanswer hstate
  rw [hu.accelerator] at hdispatches
  exact ⟨hanswer, signal, (congrArg Simulator.dispatches hstate).trans hdispatches⟩

theorem launch_refused (h : w.accelerator.faulty .dispatch = true) :
    let launched := (loader settings .default).launch (some device) f r args w
    ∃ err, launched.1 = .error (.callFailed err) ∧
      launched.2.accelerator.dispatches = w.accelerator.dispatches := by
  intro launched
  obtain ⟨u, hu, hanswer, hstate⟩ :=
    Loader.launch_submitted accelerator settings device hpacked hpacket
  obtain ⟨e, x, hsubmit, hdispatches⟩ := submit_refused (l := { accelerator, settings })
    device r f.name (r.queue.getD device.defaultQueue) packet packed.bytes rfl (hu.accelerator ▸ h)
  rw [hsubmit] at hanswer hstate
  rw [hu.accelerator] at hdispatches
  exact ⟨e, hanswer, (congrArg Simulator.dispatches hstate).trans hdispatches⟩

end Launched

end Simulator

/-! ## What is submitted -/

/-- What a launch has to submit on a device. -/
structure SubmittedDispatch.Carries (d : SubmittedDispatch) (device : Device) (f : KernelFunction)
    (r : LaunchRequest) (mode : FlushMode) : Prop where
  agent : d.agent = device.agent
  queue : d.queue = r.queue.getD device.defaultQueue
  packet : d.packet.Describes f r.geometry mode

/-- A launch that is acceptable to a simulator: all that is checked before its dispatch, and the
dispatch itself. -/
structure LaunchRequest.Acceptable (r : LaunchRequest) (w : World Simulator)
    (current : Option Device) (f : KernelFunction) (args : LaunchArgs) : Prop where
  device : current.isSome
  arguments : args.WellFormed w.loader.layouts f.name
  block : ∀ n ∈ r.geometry.block.toList, 1 ≤ n ∧ n ≤ 65535
  group : f.groupSize.toNat + r.geometry.dynamicShared < 2 ^ 32
  dispatch : w.accelerator.faulty .dispatch = false

/-- An acceptable launch gets as far as its packet if it does not panic on the way, and any launch
that does is acceptable but for the dispatch itself. -/
theorem LaunchRequest.acceptable_iff (r : LaunchRequest) {w : World Simulator}
    (hlayouts : w.loader.layouts.Sound) (current : Option Device) (f : KernelFunction)
    (args : LaunchArgs) (mode : FlushMode) :
    r.Acceptable w current f args ∧ ¬ args.Overflows w.loader.layouts f.name ↔
      ∃ device packed packet, current = some device ∧
        (World.packArguments f.name args w).1 = .ok packed ∧
        Packet.forKernel f r.geometry.grid r.geometry.block r.geometry.dynamicShared mode =
          .ok packet ∧ w.accelerator.faulty .dispatch = false := by
  constructor
  · intro h
    obtain ⟨h, hroom⟩ := h
    obtain ⟨device, hdevice⟩ := Option.isSome_iff_exists.mp h.device
    obtain ⟨bytes, hbytes⟩ := (LaunchArgs.exists_packs_iff hlayouts).mpr ⟨h.arguments, hroom⟩
    obtain ⟨packed, hpacked, -⟩ := World.packArguments_ok_iff.mpr hbytes
    obtain ⟨packet, hpacket⟩ := Packet.forKernel_of_describable ⟨h.block, h.group⟩ mode
    exact ⟨device, packed, packet, hdevice, hpacked, hpacket, h.dispatch⟩
  · rintro ⟨device, packed, packet, rfl, hpacked, hpacket, hdispatch⟩
    obtain ⟨⟨hblock, hgroup⟩, -⟩ := Packet.describes_of_forKernel hpacket
    have hbytes := World.packArguments_ok_iff.mp ⟨packed, hpacked, rfl⟩
    obtain ⟨harguments, hroom⟩ := (LaunchArgs.exists_packs_iff hlayouts).mp ⟨_, hbytes⟩
    exact ⟨⟨rfl, harguments, hblock, hgroup, hdispatch⟩, hroom⟩

/-- What there is to say about a launch, by its answer and the world that it leaves. -/
structure LaunchRequest.Submits (r : LaunchRequest) (w : World Simulator)
    (current : Option Device) (f : KernelFunction) (args : LaunchArgs) (mode : FlushMode)
    (launched : Except LoadError Unit × World Simulator) : Prop where
  accepted : launched.1 = .ok () ↔
    r.Acceptable w current f args ∧ ¬ args.Overflows w.loader.layouts f.name
  panicked : launched.1 = .error .capacityOverflow ↔
    current.isSome ∧ args.Overflows w.loader.layouts f.name
  submitted : launched.1 = .ok () → ∃ device d, current = some device ∧
    launched.2.accelerator.dispatches = w.accelerator.dispatches ++ [d] ∧
    args.Packs w.loader.layouts f.name d.arguments ∧ d.Carries device f r mode ∧
    ∀ i earlier, w.accelerator.dispatches[i]? = some earlier →
      w.accelerator.dispatches.length < i + 2 ^ 52 →
      earlier.packet.argumentAddress ≠ d.packet.argumentAddress
  refused : launched.1 ≠ .ok () → launched.2.accelerator.dispatches = w.accelerator.dispatches

/-- A launch over a geometry is accepted, panics or is refused. -/
theorem LaunchRequest.launch_outcome (r : LaunchRequest) (settings : LoaderSettings)
    {w : World Simulator} (hlayouts : w.loader.layouts.Sound) (hw : w.accelerator.Reachable)
    (current : Option Device) (f : KernelFunction) (args : LaunchArgs) :
    r.Submits w current f args settings.flushMode
      ((Simulator.loader settings .default).launch current f r args w) := by
  have hacceptable := r.acceptable_iff hlayouts current f args settings.flushMode
  by_cases hpacked : ∃ device packed packet, current = some device ∧
      (World.packArguments f.name args w).1 = .ok packed ∧
      Packet.forKernel f r.geometry.grid r.geometry.block r.geometry.dynamicShared
        settings.flushMode = .ok packet
  · obtain ⟨device, packed, packet, rfl, hpacked, hpacket⟩ := hpacked
    have hroom : ¬ args.Overflows w.loader.layouts f.name := by
      rw [← World.packArguments_overflow_iff, hpacked]
      exact nofun
    cases hf : w.accelerator.faulty .dispatch with
    | false =>
      obtain ⟨hok, signal, hdispatches⟩ :=
        Simulator.launch_accepted settings device hpacked hpacket hf
      obtain ⟨-, hdescribes⟩ := Packet.describes_of_forKernel hpacket
      exact {
        accepted := ⟨fun _ => hacceptable.mpr ⟨device, packed, packet, rfl, hpacked, hpacket, hf⟩,
          fun _ => hok⟩
        panicked := by
          rw [hok]
          exact ⟨nofun, fun h => absurd h.2 hroom⟩
        submitted := fun _ => by
          refine ⟨device, _, rfl, hdispatches, World.packArguments_ok_iff.mp ⟨_, hpacked, rfl⟩,
            ⟨rfl, rfl, { hdescribes with }⟩, fun i earlier hearlier hclose => ?_⟩
          rw [hw.addressed i earlier hearlier]
          have hlt := (List.getElem?_eq_some_iff.mp hearlier).1
          exact Simulator.argumentAddress_ne (by omega) (by omega)
        refused := fun h => absurd hok h }
    | true =>
      obtain ⟨err, herror, hkept⟩ :=
        Simulator.launch_refused settings device hpacked hpacket hf
      have hfaulty : ¬ r.Acceptable w (some device) f args := fun h => by
        rw [h.dispatch] at hf
        cases hf
      rw [show (Simulator.loader settings .default).launch (some device) f r args w =
        (.error (.callFailed err), _) from Prod.ext herror rfl]
      exact {
        accepted := ⟨nofun, fun h => absurd h.1 hfaulty⟩
        panicked := ⟨nofun, fun h => absurd h.2 hroom⟩
        submitted := nofun
        refused := fun _ => hkept }
  · obtain ⟨e, v, hv, hrun, hpanic⟩ := Loader.launch_unsubmitted Simulator.accelerator settings
      fun packed packet hcurrent hpacked' hpacket =>
        have ⟨device, hdevice⟩ := Option.isSome_iff_exists.mp hcurrent
        hpacked ⟨device, packed, packet, hdevice, hpacked', hpacket⟩
    rw [show (Simulator.loader settings .default).launch current f r args w = (.error e, v)
      from hrun]
    refine ⟨⟨nofun, fun h => ?_⟩, ⟨fun h => hpanic.mp (Except.error.inj h), fun h => ?_⟩, nofun,
      fun _ => congrArg _ hv.accelerator⟩
    · obtain ⟨device, packed, packet, hdevice, hp, hpacket, -⟩ := hacceptable.mp h
      exact absurd ⟨device, packed, packet, hdevice, hp, hpacket⟩ hpacked
    · exact congrArg Except.error (hpanic.mpr h)

/-- A launch over blocks is one over their geometry, if that can be counted. -/
theorem Loader.launchBlocks_run {σ : Type} (l : Loader σ) (current : Option Device)
    (f : KernelFunction) (blocks block : Dim3) (dynamicShared : Nat) (queue : Option QueueHandle)
    (args : LaunchArgs) (w : World σ) :
    l.launchBlocks current f blocks block dynamicShared queue args w =
      match Geometry.ofBlocks blocks block dynamicShared with
      | .error cause => (.error (.invalidValue cause), w)
      | .ok geometry => l.launch current f { geometry, queue } args w := by
  unfold launchBlocks
  cases Geometry.ofBlocks blocks block dynamicShared with
  | error cause => rfl
  | ok geometry => rfl

/-- A simulator with one dispatch, and a kernel with two parameters that was declared. -/
def scalingWorld : World Simulator where
  accelerator := (Simulator.dispatch { hasRegion := true } ⟨7⟩ ⟨8⟩ {} [] false).2
  host := { files := { nodes := [], workingFolder := [] } }
  loader := { layouts := LayoutCache.declare {} "scale" [{ size := 1, align := 1 },
    { size := 4, align := 4 }] }

end DeviceCode

import DeviceCode.Launch.Request
import DeviceCode.Loader.Completions
import DeviceCode.Loader.Layouts

/-!
# Launching kernels

A launch packs its arguments and builds its packet first, so a launch that cannot be described never
reaches a hook. Then the hooks choose a queue, the packet is submitted, the events of the launch are
attached to its completion, and the hooks are told how it went, also when the submission failed.
-/

namespace DeviceCode

variable {σ : Type}

/-- A packet was built. -/
def Trace.Event.packetBuilt (kernel : String) (p : Packet) : Trace.Event where
  level := .debug
  message := "dispatch_packet_built"
  fields := [("kernel", kernel), count "header" p.header.toNat,
    count "group_segment_size" p.groupSize.toNat, count "private_segment_size" p.privateSize.toNat]

namespace World

/-- The packet of a launch. -/
def buildPacket (f : KernelFunction) (g : Geometry) (mode : FlushMode) : Attempt σ Packet := do
  let packet ← Attempt.valid (Packet.forKernel f g.grid g.block g.dynamicShared mode)
  Attempt.report (.packetBuilt f.name packet)
  return packet

end World

namespace Loader

variable (l : Loader σ)

/-- Ask the hooks for a queue. -/
def chooseQueue (device : Device) (requested : Option QueueHandle) (g : Geometry)
    (kernel : String) : Attempt σ (QueueHandle × Geometry) := do
  Attempt.perform (World.recordHook (.before kernel device requested g))
  let (queue, reported) ← Attempt.ofExcept (l.hooks.choose device requested g kernel)
  modify fun w => { w with log := w.log ++ l.hooks.chosenEvents kernel device queue reported }
  return (queue, reported)

/-- Tell the hooks that a dispatch is over. -/
def concludeLaunch (kernel : String) (queue : QueueHandle) (reported : Geometry) :
    Action σ Unit := do
  World.recordHook (.after kernel queue reported)
  modify fun w => { w with log := w.log ++ l.hooks.afterEvents kernel queue }

/-- Attach an event, if there is one. -/
def attach? (event : Option String) (id : LeaseId) (record : EventRecord) : Action σ Unit :=
  match event with
  | none => return
  | some event => l.attach event id record

/-- Attach the events of a launch to its completion. -/
def attachEvents (r : LaunchRequest) (queue : QueueHandle) (completion : CompletionHandle) :
    Action σ Unit := do
  let lease ← World.grantLease completion true
  l.attach? r.startEvent lease { completion, queue, role := .start }
  l.attach? r.stopEvent lease { completion, queue, role := .stop }
  l.leaveLease lease

/-- Submit a packet and attach the events of its launch. -/
def submit (device : Device) (r : LaunchRequest) (kernel : String) (queue : QueueHandle)
    (packet : Packet) (arguments : Bytes) : Attempt σ Unit := do
  let completion ← Attempt.call .callFailed
    (l.accelerator.dispatch device.agent queue packet arguments r.wantsCompletion)
  match completion with
  | none => pure ()
  | some c => l.attachEvents r queue c
  Attempt.report
    (.dispatch kernel queue.id r.geometry.grid r.geometry.block arguments.length)

/-- Launch a function on the caller's current device. -/
def launch (current : Option Device) (f : KernelFunction) (r : LaunchRequest) (args : LaunchArgs) :
    Attempt σ Unit := do
  let device ← Attempt.device current
  let arguments ← World.packArguments f.name args
  let packet ← World.buildPacket f r.geometry l.settings.flushMode
  let (queue, reported) ← l.chooseQueue device r.queue r.geometry f.name
  let result ← Attempt.perform (l.submit device r f.name queue packet arguments.bytes).run
  l.concludeLaunch f.name queue reported
  Attempt.ofExcept result

/-- Launch a function over a number of blocks. -/
def launchBlocks (current : Option Device) (f : KernelFunction) (blocks block : Dim3)
    (dynamicShared : Nat) (queue : Option QueueHandle) (args : LaunchArgs) : Attempt σ Unit := do
  let geometry ← Attempt.valid (Geometry.ofBlocks blocks block dynamicShared)
  l.launch current f { geometry, queue } args

end Loader

end DeviceCode

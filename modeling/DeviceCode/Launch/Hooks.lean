import DeviceCode.Device.Table
import DeviceCode.Kernel.Geometry
import DeviceCode.Trace.Event

/-!
# Launch hooks

A loader calls its hooks around every dispatch: once before it, to choose the queue, and once after
it with the queue and the geometry that the first call answered. The packet is built before, so what
a hook writes into its copy of the geometry is bookkeeping only.
-/

namespace DeviceCode

/-- A call to a hook. -/
inductive HookCall where
  /-- Before a dispatch, with the queue that the caller named, if any. -/
  | before (kernel : String) (device : Device) (requested : Option QueueHandle)
      (geometry : Geometry)
  /-- After a dispatch, whether it succeeded or not. -/
  | after (kernel : String) (queue : QueueHandle) (geometry : Geometry)
  deriving DecidableEq, Repr

/-- The hooks of a loader. -/
structure LaunchHooks where
  /-- Choose the queue for a kernel and change the copy of its geometry, or refuse the launch. -/
  choose : Device → Option QueueHandle → Geometry → String →
    Except LoadError (QueueHandle × Geometry)
  /-- What is logged when a queue was chosen. -/
  chosenEvents : String → Device → QueueHandle → Geometry → List Trace.Event := fun _ _ _ _ => []
  /-- What is logged after the dispatch. -/
  afterEvents : String → QueueHandle → List Trace.Event := fun _ _ => []

namespace LaunchHooks

/-- The queue that the caller named, or else the device's own. -/
def queueFor (device : Device) (requested : Option QueueHandle) : QueueHandle :=
  requested.getD device.defaultQueue

/-- Take the queue that the caller named, or else the device's own, and log both calls. -/
def default : LaunchHooks where
  choose device requested geometry _ := .ok (queueFor device requested, geometry)
  chosenEvents kernel device queue geometry :=
    [{ level := .trace
       message := "pre_launch"
       fields := [("kernel", kernel), Trace.Event.count "device" device.id, ("queue", queue.label),
         ("grid", Trace.Event.sizes ", " geometry.grid),
         ("block", Trace.Event.sizes ", " geometry.block)] }]
  afterEvents kernel queue :=
    [{ level := .trace
       message := "post_launch"
       fields := [("kernel", kernel), ("queue", queue.label)] }]

end LaunchHooks

end DeviceCode

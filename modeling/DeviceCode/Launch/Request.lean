import DeviceCode.Handle
import DeviceCode.Kernel.Geometry

/-!
# Launch requests

A launch over a total number of work-items, with an optional queue and optional events for its start
and its end.
-/

namespace DeviceCode

/-- What a caller asks of one launch. Events are known by name. -/
structure LaunchRequest where
  geometry : Geometry
  queue : Option QueueHandle := none
  startEvent : Option String := none
  stopEvent : Option String := none
  deriving DecidableEq, Repr

namespace LaunchRequest

variable (r : LaunchRequest)

/-- A completion is wanted when any event waits for it. -/
def wantsCompletion : Bool := r.startEvent.isSome || r.stopEvent.isSome

def describe : String :=
  s!"GlobalLaunch \x7b grid: {r.geometry.grid.describe}, block: {r.geometry.block.describe}, "
    ++ s!"shared_mem_bytes: {r.geometry.dynamicShared}, "
    ++ s!"queue: {describeOption (r.queue.map (·.describe))}, "
    ++ s!"start_event: {r.startEvent.isSome}, stop_event: {r.stopEvent.isSome} \x7d"

end LaunchRequest

end DeviceCode

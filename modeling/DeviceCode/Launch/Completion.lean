import DeviceCode.Assoc
import DeviceCode.Handle
import DeviceCode.Trace.Event

/-!
# Completions and the events that wait for them

A completion is held through a lease. Leases are shared: every holder counts, and when the last
holder of a managed lease leaves, the completion goes back to the accelerator. An event holds the
lease that it was last attached to, until it is attached again, reset or dropped.
-/

namespace DeviceCode

/-- Numbers of leases. -/
abbrev LeaseId := Nat

/-- A shared hold on a completion. -/
structure Lease where
  completion : CompletionHandle
  /-- Whether the completion goes back when the last holder leaves. -/
  managed : Bool
  holders : Nat
  deriving DecidableEq, Repr

def Lease.describe (l : Lease) : String :=
  s!"CompletionLease \x7b handle: {l.completion.describe}, holders: {l.holders} \x7d"

/-- Which moment of a dispatch an event stands for. -/
inductive EventRole where
  | start
  | stop
  deriving DecidableEq, Repr

def EventRole.name : EventRole → String
  | .start => "Start"
  | .stop => "Stop"

/-- What an event was last attached to. -/
structure EventRecord where
  completion : CompletionHandle
  queue : QueueHandle
  role : EventRole
  deriving DecidableEq, Repr

/-- An event's record and the lease that it holds. -/
structure Attachment where
  record : EventRecord
  lease : LeaseId
  deriving DecidableEq, Repr

/-- All leases and all attached events. Events are known by name. -/
structure Completions where
  nextLease : LeaseId := 1
  leases : Assoc LeaseId Lease := {}
  attachments : Assoc String Attachment := {}
  deriving DecidableEq, Repr

namespace Completions

variable (cs : Completions)

/-- A new lease with one holder. -/
def grant (completion : CompletionHandle) (managed : Bool) : LeaseId × Completions :=
  (cs.nextLease, { cs with
    nextLease := cs.nextLease + 1
    leases := cs.leases.put cs.nextLease { completion, managed, holders := 1 } })

/-- One more holder of a lease. -/
def share (id : LeaseId) : Completions :=
  match cs.leases.get? id with
  | none => cs
  | some l => { cs with leases := cs.leases.put id { l with holders := l.holders + 1 } }

/-- A holder leaves a lease. The answer is the completion that goes back now, if any. -/
def leave (id : LeaseId) : Option CompletionHandle × Completions :=
  match cs.leases.get? id with
  | none => (none, cs)
  | some l =>
    if 1 < l.holders then
      (none, { cs with leases := cs.leases.put id { l with holders := l.holders - 1 } })
    else
      (if l.managed then some l.completion else none, { cs with leases := cs.leases.erase id })

/-- What an event was last attached to, if it still is. -/
def record? (event : String) : Option EventRecord := (cs.attachments.get? event).map (·.record)

/-- Attach an event to a lease. The answer is the lease that the event held before, if any; it still
counts the event as a holder. -/
def attach (event : String) (id : LeaseId) (record : EventRecord) : Option LeaseId × Completions :=
  let shared := cs.share id
  ((cs.attachments.get? event).map (·.lease),
    { shared with attachments := cs.attachments.put event ⟨record, id⟩ })

/-- Detach an event. The answer is the lease that it held, which still counts it as a holder. -/
def detach (event : String) : Option LeaseId × Completions :=
  ((cs.attachments.get? event).map (·.lease),
    { cs with attachments := cs.attachments.erase event })

end Completions

namespace Trace.Event

/-- An event was attached to the completion of a dispatch. -/
def attached (r : EventRecord) : Trace.Event where
  level := .trace
  message := "completion_attached"
  fields := [("handle", r.completion.label), ("queue", r.queue.label), ("role", r.role.name)]

end Trace.Event

end DeviceCode

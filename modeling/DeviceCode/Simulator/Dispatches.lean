import DeviceCode.Simulator.Executables
import DeviceCode.Simulator.Memory

/-!
# Dispatches in the simulator

A submitted packet is published with an argument address of its own and with the completion, if one
is wanted, as its signal. A completion stays outstanding until it is released.
-/

namespace DeviceCode.Simulator

/-- The argument address of the `n`-th dispatch. -/
def argumentAddress (n : Nat) : UInt64 := UInt64.ofNat (0x7d0000000000 + n * pageSize)

variable (s : Simulator)

def dispatch (agent : AgentHandle) (queue : QueueHandle) (packet : Packet) (arguments : Bytes)
    (wantCompletion : Bool) : Reply Simulator (Option CompletionHandle) :=
  let s := s.record (.dispatch queue)
  if s.faulty .dispatch then s.failInjected "queue_dispatch"
  else
    let packet := { packet with argumentAddress := argumentAddress (s.dispatches.length + 1) }
    if wantCompletion then
      let c : CompletionHandle := ⟨s.nextHandle⟩
      let packet := { packet with completionSignal := UInt64.ofNat c.id }
      (.ok (some c), { s with
        lastHandle := s.nextHandle
        completions := s.completions ++ [c]
        dispatches := s.dispatches ++ [⟨agent, queue, packet, arguments⟩] })
    else
      let packet := { packet with completionSignal := 0 }
      (.ok none, { s with dispatches := s.dispatches ++ [⟨agent, queue, packet, arguments⟩] })

def synchronize (agent : AgentHandle) : Reply Simulator Unit :=
  let s := s.record (.synchronize agent)
  if s.faulty .synchronize then s.failInjected "agent_synchronize" else (.ok (), s)

def releaseCompletion (c : CompletionHandle) : Reply Simulator Unit :=
  let s := s.record (.releaseCompletion c)
  if s.completions.contains c then (.ok (), { s with completions := s.completions.erase c })
  else s.fail "signal_destroy" statusInvalidArgument s!"unknown completion {c.label}"

/-- The simulator as an accelerator. -/
def accelerator : Accelerator Simulator where
  name := "reference"
  createExecutable := createExecutable
  loadReader e g r s := s.loadReader e g r
  loadCodeObject e g c s := s.loadCodeObject e g c
  freeze e s := s.freeze e
  destroyExecutable e s := s.destroyExecutable e
  getSymbol e g n s := s.getSymbol e g n
  defineGlobal e n x s := s.defineGlobal e n x
  createReader fs p s := s.createReader fs p
  destroyReader r s := s.destroyReader r
  deserialize x n s := s.deserialize x n
  destroyCodeObject c s := s.destroyCodeObject c
  lockMemory g x n s := s.lockMemory g x n
  unlockMemory x s := s.unlockMemory x
  findRegion g s := s.findRegion g
  allocate r n s := s.allocate r n
  free x s := s.free x
  writeMemory x bs s := s.writeMemory x bs
  dispatch g q p bs w s := s.dispatch g q p bs w
  synchronize g s := s.synchronize g
  releaseCompletion c s := s.releaseCompletion c

end DeviceCode.Simulator

import DeviceCode.Error
import DeviceCode.Kernel.Parameter
import DeviceCode.Reader

/-!
# Dispatch packets

The packet is the 64-byte record that a command processor reads: six 16-bit fields, five 32-bit
fields and four 64-bit fields, all little-endian and without gaps. The header is itself made of four
bit fields: the packet type in the low eight bits, the barrier flag at bit 8, and two fence scopes
of two bits each at bits 9 and 11. The low two bits of `setup` hold the number of dimensions.

`Packet.forKernel` builds the packet of one launch. The argument address and the completion signal
are left zero for the accelerator to fill in.
-/

namespace DeviceCode

/-- How far the fences of a dispatch reach. -/
inductive FlushMode where
  /-- The whole system. -/
  | system
  /-- One accelerator. -/
  | agent
  deriving DecidableEq, Repr

namespace FlushMode

def name : FlushMode → String
  | .system => "System"
  | .agent => "Agent"

/-- The fence scope in a packet header. -/
def scope : FlushMode → UInt16
  | .system => 2
  | .agent => 1

end FlushMode

/-- A kernel dispatch packet. -/
structure Packet where
  header : UInt16 := 0
  setup : UInt16 := 0
  workgroupX : UInt16 := 0
  workgroupY : UInt16 := 0
  workgroupZ : UInt16 := 0
  reserved0 : UInt16 := 0
  gridX : UInt32 := 0
  gridY : UInt32 := 0
  gridZ : UInt32 := 0
  privateSize : UInt32 := 0
  groupSize : UInt32 := 0
  kernelObject : UInt64 := 0
  argumentAddress : UInt64 := 0
  reserved2 : UInt64 := 0
  completionSignal : UInt64 := 0
  deriving DecidableEq, Repr

namespace Packet

/-- The packet type of a kernel dispatch. -/
def kernelDispatch : UInt16 := 2

/-- The header of a kernel dispatch: the barrier is always set, and both fences have the scope of
the flush mode. -/
def headerFor (mode : FlushMode) : UInt16 :=
  let barrier : UInt16 := 0x100
  kernelDispatch ||| barrier ||| (mode.scope <<< 9) ||| (mode.scope <<< 11)

/-- A block size as it stands in a packet: between 1 and 65535. -/
def workgroup (axis : Axis) (size : UInt32) : Except InvalidValue UInt16 :=
  if size = 0 then .error (.emptyBlock axis)
  else if size.toNat < UInt16.size then .ok (UInt16.ofNat size.toNat)
  else .error (.wideBlock axis size.toNat)

/-- Static plus dynamic group memory, if it fits in 32 bits. -/
def groupTotal (fixed : UInt32) (dynamic : Nat) : Except InvalidValue UInt32 :=
  if fixed.toNat + dynamic < UInt32.size then .ok (UInt32.ofNat (fixed.toNat + dynamic))
  else .error (.groupOverflow fixed.toNat dynamic)

/-- The packet for a launch over `grid` work-items in blocks of `block`. -/
def forKernel (f : KernelFunction) (grid block : Dim3) (dynamicShared : Nat) (mode : FlushMode) :
    Except InvalidValue Packet := do
  let groupSize ← groupTotal f.groupSize dynamicShared
  let workgroupX ← workgroup .x block.x
  let workgroupY ← workgroup .y block.y
  let workgroupZ ← workgroup .z block.z
  return { header := headerFor mode
           setup := 3
           workgroupX, workgroupY, workgroupZ
           gridX := grid.x, gridY := grid.y, gridZ := grid.z
           privateSize := f.privateSize
           groupSize
           kernelObject := f.kernelObject }

variable (p : Packet)

def type : UInt16 := p.header &&& 0xff

def hasBarrier : Bool := (p.header >>> 8) &&& 1 == 1

def acquireScope : UInt16 := (p.header >>> 9) &&& 3

def releaseScope : UInt16 := (p.header >>> 11) &&& 3

def dimensions : UInt16 := p.setup &&& 3

def workgroupSize : List Nat := [p.workgroupX.toNat, p.workgroupY.toNat, p.workgroupZ.toNat]

def gridSize : Dim3 := ⟨p.gridX, p.gridY, p.gridZ⟩

/-- The 64 bytes of a packet. -/
def bytes : Bytes :=
  [p.header, p.setup, p.workgroupX, p.workgroupY, p.workgroupZ, p.reserved0].flatMap
      (Bytes.ofHalf .little)
    ++ [p.gridX, p.gridY, p.gridZ, p.privateSize, p.groupSize].flatMap (Bytes.ofFull .little)
    ++ [p.kernelObject, p.argumentAddress, p.reserved2, p.completionSignal].flatMap
      (Bytes.ofLong .little)

/-- Take a packet off the front of a byte string. -/
def read : Reader Packet := do
  let header ← Reader.half .little
  let setup ← Reader.half .little
  let workgroupX ← Reader.half .little
  let workgroupY ← Reader.half .little
  let workgroupZ ← Reader.half .little
  let reserved0 ← Reader.half .little
  let gridX ← Reader.full .little
  let gridY ← Reader.full .little
  let gridZ ← Reader.full .little
  let privateSize ← Reader.full .little
  let groupSize ← Reader.full .little
  let kernelObject ← Reader.long .little
  let argumentAddress ← Reader.long .little
  let reserved2 ← Reader.long .little
  let completionSignal ← Reader.long .little
  return { header, setup, workgroupX, workgroupY, workgroupZ, reserved0, gridX, gridY, gridZ,
           privateSize, groupSize, kernelObject, argumentAddress, reserved2, completionSignal }

end Packet

end DeviceCode

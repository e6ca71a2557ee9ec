import DeviceCode.Elf.Object
import DeviceCode.Simulator.State

/-!
# Executables in the simulator

Loading code into an executable exposes its symbols. Function symbols are kernels, and so are
function and data symbols whose name ends in `.kd`, which is then left off; other data symbols are
variables. Of several symbols exposed under one name the first one counts, static symbols before
dynamic ones.

A load needs every named undefined symbol of the dynamic table to be defined as a global of the
executable, and an executable that is not frozen.
-/

namespace DeviceCode.Simulator

/-- The kernel that a code descriptor is for: the name without its `.kd` end. -/
def descriptorOf? (name : String) : Option String :=
  let cs := name.toList
  if [ '.', 'k', 'd'].isSuffixOf cs then some (String.ofList (cs.take (cs.length - 3))) else none

/-- Where the symbols of the `n`-th loaded code lie. -/
def codeBase (n : Nat) : UInt64 := UInt64.ofNat (0x7e0000000000 + n * 0x1000000)

variable (s : Simulator)

/-- The kernel of a given name, with the sizes set for it. -/
def kernelSymbol (name : String) (address : UInt64) : ExecutableSymbol :=
  let sizes := (s.segmentSizes.get? name).getD (0, 0)
  { name, kind := .kernel, address
    argumentSize := (s.argumentSizes.get? name).getD 0
    groupSize := sizes.1
    privateSize := sizes.2 }

/-- What a definition exposes, if anything. -/
def expose? (base : UInt64) (d : Elf.Symbol) : Option ExecutableSymbol :=
  let address := base + d.value
  match d.kind, descriptorOf? d.name with
  | .object, some kernel => some (s.kernelSymbol kernel address)
  | .function, some kernel => some (s.kernelSymbol kernel address)
  | .function, none => some (s.kernelSymbol d.name address)
  | .object, none | .common, none | .threadLocal, none =>
    some { name := d.name, kind := .variable, address, size := d.size }
  | _, _ => none

/-- All symbols that the tables of an object expose, in the order in which they count. -/
def exposed (base : UInt64) (o : Elf.Object) : Except Elf.Error (List ExecutableSymbol) := do
  let static ← o.symbolTable
  let dynamic ← o.dynamicSymbolTable
  return (static.toList ++ dynamic.toList).flatMap fun table =>
    table.definitions.filterMap (s.expose? base)

/-- Add symbols to an executable; the first of a name counts. -/
def addSymbols (exe : Executable) (symbols : List ExecutableSymbol) : Executable :=
  { exe with symbols := symbols.foldl (fun known x => known.putNew x.name x) exe.symbols }

/-- Load an image into an executable. -/
def loadImage (operation : String) (e : ExecutableHandle) (image : Bytes) : Reply Simulator Unit :=
  let invalid (err : Elf.Error) (s : Simulator) : Reply Simulator Unit :=
    s.fail operation statusInvalidCodeObject err.message
  match Elf.Object.parse image with
  | .error err => invalid err s
  | .ok o =>
    match s.executables.get? e with
    | none => s.failUnknown operation e
    | some exe =>
      if exe.frozen then s.fail operation statusFrozenExecutable s!"{e.label} is frozen"
      else
        match o.undefinedGlobals with
        | .error err => invalid err s
        | .ok undefined =>
          match undefined.find? (!exe.globals.contains ·) with
          | some name =>
            s.fail operation statusVariableUndefined s!"undefined variable `{name}`"
          | none =>
            let s := { s with loads := s.loads + 1 }
            match s.exposed (codeBase s.loads) o with
            | .error err => invalid err s
            | .ok symbols =>
              (.ok (), { s with executables := s.executables.put e (addSymbols exe symbols) })

def createExecutable : Reply Simulator ExecutableHandle :=
  if s.faulty .createExecutable then s.failInjected "executable_create"
  else
    let e : ExecutableHandle := ⟨s.nextHandle⟩
    (.ok e, { s with
      lastHandle := s.nextHandle
      executables := s.executables.put e {} }.record (.createExecutable e))

def loadReader (e : ExecutableHandle) (_ : AgentHandle) (r : ReaderHandle) : Reply Simulator Unit :=
  let s := s.record (.loadReader e r)
  if s.faulty .loadReader then s.failInjected "executable_load_agent_code_object"
  else
    match s.readers.get? r with
    | none =>
      s.fail "executable_load_agent_code_object" statusInvalidArgument s!"unknown reader {r.label}"
    | some image => s.loadImage "executable_load_agent_code_object" e image

def loadCodeObject (e : ExecutableHandle) (_ : AgentHandle) (c : CodeObjectHandle) :
    Reply Simulator Unit :=
  let s := s.record (.loadCodeObject e c)
  if s.faulty .loadCodeObject then s.failInjected "executable_load_code_object"
  else
    match s.codeObjects.get? c with
    | none =>
      s.fail "executable_load_code_object" statusInvalidCodeObject s!"unknown code object {c.label}"
    | some image => s.loadImage "executable_load_code_object" e image

def freeze (e : ExecutableHandle) : Reply Simulator Unit :=
  let s := s.record (.freeze e)
  if s.faulty .freeze then s.failInjected "executable_freeze"
  else
    match s.executables.get? e with
    | none => s.failUnknown "executable_freeze" e
    | some exe =>
      if exe.frozen then
        s.fail "executable_freeze" statusFrozenExecutable s!"{e.label} already frozen"
      else (.ok (), { s with executables := s.executables.put e { exe with frozen := true } })

def destroyExecutable (e : ExecutableHandle) : Reply Simulator Unit :=
  let s := s.record (.destroyExecutable e)
  if s.faulty .destroyExecutable then s.failInjected "executable_destroy"
  else if s.executables.contains e then
    (.ok (), { s with executables := s.executables.erase e })
  else s.failUnknown "executable_destroy" e

/-- Symbols of loaded code come first, then the globals bound to the executable. -/
def getSymbol (e : ExecutableHandle) (_ : AgentHandle) (name : String) :
    Reply Simulator (Option ExecutableSymbol) :=
  let s := s.record (.getSymbol e name)
  if s.faulty .getSymbol then s.failInjected "executable_get_symbol"
  else
    match s.executables.get? e with
    | none => s.failUnknown "executable_get_symbol" e
    | some exe =>
      let asGlobal := (exe.globals.get? name).map fun address =>
        { name, kind := .variable, address : ExecutableSymbol }
      (.ok ((exe.symbols.get? name).or asGlobal), s)

def defineGlobal (e : ExecutableHandle) (name : String) (address : UInt64) : Reply Simulator Unit :=
  let s := s.record (.defineGlobal e name)
  if s.faulty .defineGlobal then s.failInjected "executable_global_variable_define"
  else
    match s.executables.get? e with
    | none => s.failUnknown "executable_global_variable_define" e
    | some exe =>
      if exe.frozen then
        s.fail "executable_global_variable_define" statusFrozenExecutable s!"{e.label} is frozen"
      else
        (.ok (), { s with
          executables := s.executables.put e { exe with globals := exe.globals.put name address } })

end DeviceCode.Simulator

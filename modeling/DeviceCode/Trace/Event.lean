import DeviceCode.JsonText
import DeviceCode.Kernel.Dim3
import DeviceCode.Text.Shortest

/-!
# Traced events

Everything that the library reports goes into a log of events: a level, a message and named fields
with their values as text. Durations are left out, since they differ from run to run.
-/

namespace DeviceCode.Trace

/-- How important an event is, most important first. -/
inductive Level where
  | error
  | warn
  | info
  | debug
  | trace
  deriving DecidableEq, Repr

namespace Level

/-- A number that grows with how much detail the level brings. -/
def rank : Level → Nat
  | .error => 1
  | .warn => 2
  | .info => 3
  | .debug => 4
  | .trace => 5

def name : Level → String
  | .error => "ERROR"
  | .warn => "WARN"
  | .info => "INFO"
  | .debug => "DEBUG"
  | .trace => "TRACE"

def all : List Level := [.error, .warn, .info, .debug, .trace]

/-- The level of a given name, in any case. -/
def ofName? (s : String) : Option Level := all.find? (·.name == s.map Char.toUpper)

end Level

/-- A span that is open around an event. -/
structure OpenSpan where
  level : Level
  name : String
  deriving DecidableEq, Repr

/-- The span as one text: its level, and its name as a JSON string. -/
def OpenSpan.describe (s : OpenSpan) : String :=
  s!"{s.level.name}:perf:[[" ++ JsonText.quote "name" ++ "," ++ JsonText.quote s.name ++ "]]"

/-- One entry of the log. -/
structure Event where
  level : Level
  message : String
  fields : List (String × String) := []
  /-- The spans that were open, innermost first. -/
  within : List OpenSpan := []
  deriving DecidableEq, Repr

namespace Event

/-- A named number, in decimal. -/
def count (name : String) (n : Nat) : String × String := (name, toString n)

/-- Three sizes as an array, with or without a blank after each comma. -/
def sizes (separator : String) (d : Dim3) : String :=
  "[" ++ separator.intercalate (d.toList.map toString) ++ "]"

/-- A device binary has finished loading. -/
def moduleLoad (source : String) (imageBytes undefinedSymbols : Nat) : Event where
  level := .debug
  message := "module_load_complete"
  fields := [("event", "module_load"), ("source", source), count "image_bytes" imageBytes,
    ("image_kb", Text.shortestScaled imageBytes 10), count "undefined_symbols" undefinedSymbols]

/-- A host global was pinned and bound into an executable. -/
def symbolBinding (name : String) (hostAddress deviceAddress size : Nat) : Event where
  level := .debug
  message := "host_global_bound"
  fields := [("event", "symbol_binding"), ("symbol", name), count "host_address" hostAddress,
    count "device_address" deviceAddress, count "size" size]

/-- A dispatch packet was submitted. -/
def dispatch (kernel : String) (queue : Nat) (grid block : Dim3) (argumentBytes : Nat) : Event where
  level := .debug
  message := "kernel_dispatched"
  fields := [("event", "dispatch"), ("kernel", kernel), count "queue" queue,
    ("grid", sizes "," grid), ("block", sizes "," block), count "work_items" grid.volume,
    count "kernarg_bytes" argumentBytes]

end Event

end DeviceCode.Trace

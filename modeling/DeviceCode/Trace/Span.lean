import DeviceCode.Trace.Event

/-!
# Timed spans

A span measures how long a stretch of work takes and logs its end. It logs only while spans are
switched on, and only when it took at least its threshold: the one it was started with or, without
one, the one in the settings at that moment. Whether spans are on is looked up when the span ends.

The settings keep the threshold as one 64-bit number, whose largest value stands for no threshold.
-/

namespace DeviceCode.Trace

/-- Settings shared by all spans. -/
structure SpanSettings where
  enabled : Bool
  /-- Microseconds; the largest number stands for no threshold. -/
  threshold : UInt64
  deriving DecidableEq, Repr

namespace SpanSettings

/-- The number that stands for no threshold. -/
def noThreshold : UInt64 := 0xffffffffffffffff

def configure (enabled : Bool) (threshold : Option UInt64) : SpanSettings where
  enabled := enabled
  threshold := threshold.getD noThreshold

/-- The threshold for spans that are started without one. -/
def defaultThreshold (s : SpanSettings) : Option UInt64 :=
  if s.threshold = noThreshold then none else some s.threshold

end SpanSettings

/-- A span that has been started. -/
structure Span where
  level : Level
  name : String
  threshold : Option UInt64
  deriving DecidableEq, Repr

namespace Span

/-- Start a span; without a threshold of its own it takes the one in the settings. -/
def start (settings : SpanSettings) (level : Level) (name : String) (threshold : Option UInt64) :
    Span where
  level := level
  name := name
  threshold := threshold.or settings.defaultThreshold

def toOpen (s : Span) : OpenSpan := ⟨s.level, s.name⟩

/-- Whether the end of a span that took `elapsed` microseconds is logged. -/
def logsAt (s : Span) (settings : SpanSettings) (elapsed : Nat) : Bool :=
  settings.enabled && s.threshold.all (·.toNat ≤ elapsed)

/-- End a span that took `elapsed` microseconds. -/
def finish (s : Span) (settings : SpanSettings) (elapsed : Nat) : List Event :=
  if s.logsAt settings elapsed then
    [{ level := .debug, message := "performance_span_complete", within := [s.toOpen] }]
  else []

end Span

end DeviceCode.Trace

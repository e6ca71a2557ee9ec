import DeviceCode.Text.Numeral
import DeviceCode.Trace.Filter
import DeviceCode.Trace.Span

/-!
# Trace settings

How the log is shown: the filter, the layout of its lines, and whether timed spans log. There are
three profiles; the environment chooses one of them and can override parts of it.
-/

namespace DeviceCode.Trace

/-- How lines are laid out. -/
inductive Output where
  | compact
  | pretty
  | json
  deriving DecidableEq, Repr

def Output.name : Output → String
  | .compact => "Compact"
  | .pretty => "Pretty"
  | .json => "Json"

/-- The layout of a given name, in any case and with blanks around it. -/
def Output.ofName? (s : String) : Option Output :=
  [Output.compact, .pretty, .json].find? fun o => Text.sameLetters o.name (Text.trim s)

/-- The moments of a span's life that are shown. -/
inductive SpanMoment where
  | enter
  | exit
  | close
  deriving DecidableEq, Repr

def SpanMoment.name : SpanMoment → String
  | .enter => "enter"
  | .exit => "exit"
  | .close => "close"

structure Settings where
  /-- Filter directives; when absent the environment is asked, then `defaultDirective` holds. -/
  directives : Option String := none
  defaultDirective : String := "info"
  includeTargets : Bool := true
  /-- Colours. -/
  ansi : Bool := false
  spanMoments : List SpanMoment := []
  output : Output := .json
  /-- Whether timed spans log. -/
  spans : Bool := false
  /-- Spans shorter than this many microseconds do not log. -/
  threshold : Option UInt64 := none
  deriving DecidableEq, Repr

/-- Looks a variable up; a value that is not valid text counts as absent. -/
abbrev Environment := String → Option String

namespace Settings

/-- Coloured lines for work at a terminal. -/
def ofLocal : Settings := { ansi := true, output := .pretty, spans := true }

/-- Plain lines for collectors. -/
def ofCi : Settings := {}

/-- Span timings and details of loading, for measuring. -/
def ofPerformance : Settings :=
  { directives := some "codeobj_loader=debug,codeobj_tracing=debug"
    spanMoments := [.enter, .exit, .close]
    spans := true }

/-- The profile of a given name; unknown names give the local one. -/
def ofProfile (name : String) : Settings :=
  if Text.sameLetters name "ci" then ofCi
  else if Text.sameLetters name "performance" then ofPerformance
  else ofLocal

/-- Choose a layout; the JSON layout has no colours. -/
def withOutput (s : Settings) (output : Output) : Settings :=
  { s with output, ansi := s.ansi && output != .json }

/-- The settings that the environment asks for. -/
def ofEnvironment (env : Environment) : Settings :=
  let s := ofProfile ((env "CODEOBJ_TRACING_PROFILE").getD "local")
  let s := match (env "CODEOBJ_TRACING_DIRECTIVES").filter (Text.trim · != "") with
    | some directives => { s with directives }
    | none => s
  let s := match (env "CODEOBJ_TRACING_FORMAT").bind Output.ofName? with
    | some output => s.withOutput output
    | none => s
  let s := match env "CODEOBJ_PERF_TRACING" with
    | some text => { s with spans := Text.isYes text }
    | none => s
  match (env "CODEOBJ_PERF_THRESHOLD_US").bind fun t =>
      Text.numeral? 10 (Text.trimChars t.toList) with
  | some n => { s with threshold := some (UInt64.ofNat n) }
  | none => s

/-- Why the log could not be set up. -/
inductive SetupError where
  /-- A directive is not well formed. -/
  | invalidFilter
  /-- Another log is installed already. -/
  | alreadyInstalled
  deriving DecidableEq, Repr

def SetupError.name : SetupError → String
  | .invalidFilter => "InvalidFilter"
  | .alreadyInstalled => "SubscriberInit"

def SetupError.message : SetupError → String
  | .invalidFilter => "invalid tracing directive"
  | .alreadyInstalled => "failed to install global tracing subscriber"

/-- The variable that holds directives when the settings have none. -/
def directiveVariable : String := "RUST_LOG"

/-- The filter in force. Directives in the settings must be well formed; the environment's
directives and then the default ones take over where they are absent, and the environment's also
where they are not well formed. -/
def filter (s : Settings) (env : Environment) : Except SetupError Filter :=
  match s.directives with
  | some ds =>
    match Filter.parse? ds with
    | some f => .ok f
    | none => .error .invalidFilter
  | none =>
    .ok (((env directiveVariable).bind Filter.parse?).getD (Filter.parseLossy s.defaultDirective))

/-- Apply the settings of timed spans, then install the log, which fails when one is installed. -/
def install (s : Settings) (env : Environment) (installed : Bool) :
    SpanSettings × Except SetupError Filter :=
  let result := match s.filter env with
    | .error e => .error e
    | .ok f => if installed then .error .alreadyInstalled else .ok f
  (SpanSettings.configure s.spans s.threshold, result)

end Settings

end DeviceCode.Trace

import DeviceCode.Trace.Span
import Mathlib.Data.List.Induction

/-!
# Timed spans of a program

A program configures its timed spans, starts them and ends them. `SpanSession.run` does this in any
order; what it configured last is read off its requests (`SpanRequest.latest`).

The rule that a span should follow is `SpanRequest.Due`: its end is logged if spans are on by then
and it took at least its threshold, its own one or the one that was configured when it started. The
settings keep a threshold as one number and have no room for the largest one, which means none to
them. `SpanSession.run_logs_iff` says that the rule is broken exactly where this shows: a span that
took the largest number over from the settings is logged although it took less.
-/

namespace DeviceCode.Trace

/-! ## Requests -/

inductive SpanRequest where
  | configure (enabled : Bool) (threshold : Option UInt64)
  | start (level : Level) (name : String) (threshold : Option UInt64)
  /-- End a span, meant by its place among all that were started. The time is in microseconds. -/
  | finish (place : Nat) (elapsed : UInt64)
  deriving DecidableEq

namespace SpanRequest

/-- What a request configures. -/
def configuration? : SpanRequest → Option (Bool × Option UInt64)
  | configure enabled threshold => some (enabled, threshold)
  | start _ _ _ => none
  | finish _ _ => none

/-- What was configured last. Before that, spans are as they were built, without a threshold. -/
def latest (builtIn : Bool) (requests : List SpanRequest) : Bool × Option UInt64 :=
  (requests.filterMap configuration?).getLast?.getD (builtIn, none)

def isStart : SpanRequest → Bool
  | start _ _ _ => true
  | configure _ _ => false
  | finish _ _ => false

/-- How many spans were started. -/
def started (requests : List SpanRequest) : Nat := requests.countP isStart

/-- The rule for the end of a span with this threshold of its own, which was started after the
requests in `before` and ends after all `requests`. -/
def Due (builtIn : Bool) (before requests : List SpanRequest) (own : Option UInt64)
    (elapsed : UInt64) : Prop :=
  (latest builtIn requests).1 = true ∧ ∀ t ∈ own.or (latest builtIn before).2, t ≤ elapsed

theorem latest_concat (builtIn : Bool) (requests : List SpanRequest) (r : SpanRequest) :
    latest builtIn (requests ++ [r]) = r.configuration?.getD (latest builtIn requests) := by
  unfold latest
  rw [List.filterMap_append]
  cases r <;> simp [configuration?]

theorem started_concat (requests : List SpanRequest) (r : SpanRequest) :
    started (requests ++ [r]) = started requests + if r.isStart then 1 else 0 := by
  unfold started
  rw [List.countP_append, List.countP_singleton]

end SpanRequest

open SpanRequest (latest started Due)

/-! ## Spans and settings -/

/-- What the end of a span puts into the log. -/
def completion (level : Level) (name : String) : Event where
  level := .debug
  message := "performance_span_complete"
  within := [⟨level, name⟩]

variable {enabled builtIn : Bool} {threshold own : Option UInt64} {level : Level} {name : String}
  {elapsed : UInt64} {before after requests : List SpanRequest} {place : Nat} {span : Span}

/-- Settings keep every threshold but the largest. -/
theorem SpanSettings.defaultThreshold_configure :
    (configure enabled threshold).defaultThreshold = threshold.filter (· ≠ noThreshold) := by
  unfold defaultThreshold configure
  cases threshold with
  | none => rfl
  | some t => by_cases h : t = noThreshold <;> simp [Option.filter, h]

theorem Span.logsAt_iff {settings : SpanSettings} :
    span.logsAt settings elapsed.toNat = true ↔
      settings.enabled = true ∧ ∀ t ∈ span.threshold, t ≤ elapsed := by
  unfold logsAt
  rw [Bool.and_eq_true]
  cases span.threshold <;> simp [UInt64.le_iff_toNat_le]

/-! ## Serving requests -/

/-- The spans of a program, in the order in which they were started; those that have ended are
gone. -/
structure SpanSession where
  settings : SpanSettings
  spans : List (Option Span) := []
  log : List Event := []

namespace SpanSession

variable {s : SpanSession} {r : SpanRequest}

def step (s : SpanSession) : SpanRequest → SpanSession
  | .configure enabled threshold => { s with settings := .configure enabled threshold }
  | .start level name threshold =>
    { s with spans := s.spans ++ [some (.start s.settings level name threshold)] }
  | .finish place elapsed =>
    match s.spans[place]?.join with
    | none => s
    | some span =>
      { s with
        spans := s.spans.set place none
        log := s.log ++ span.finish s.settings elapsed.toNat }

/-- Requests one after the other, from the beginning of a program. -/
def run (builtIn : Bool) (requests : List SpanRequest) : SpanSession :=
  requests.foldl step { settings := .configure builtIn none }

theorem run_concat (builtIn : Bool) (requests : List SpanRequest) (r : SpanRequest) :
    run builtIn (requests ++ [r]) = (run builtIn requests).step r := by
  unfold run
  rw [List.foldl_append]
  rfl

/-- Ending a span that is there logs what the span says. -/
theorem step_finish (h : s.spans[place]? = some (some span)) :
    s.step (.finish place elapsed) = { s with
      spans := s.spans.set place none
      log := s.log ++ span.finish s.settings elapsed.toNat } := by
  unfold step
  dsimp only
  rw [h]
  rfl

theorem step_settings : (s.step r).settings =
    (r.configuration?.map fun c => SpanSettings.configure c.1 c.2).getD s.settings := by
  cases r with
  | configure enabled threshold => rfl
  | start level name threshold => rfl
  | finish place elapsed =>
    unfold step
    dsimp only
    split <;> rfl

theorem length_step :
    (s.step r).spans.length = s.spans.length + if r.isStart then 1 else 0 := by
  cases r with
  | configure enabled threshold => rfl
  | start level name threshold => exact List.length_append
  | finish place elapsed =>
    unfold step
    dsimp only
    split
    · rfl
    · exact List.length_set

/-- A span stays as it is until it ends. -/
theorem step_spans (h : s.spans[place]? = some (some span)) (hr : ∀ d, r ≠ .finish place d) :
    (s.step r).spans[place]? = some (some span) := by
  cases r with
  | configure enabled threshold => exact h
  | start level name threshold =>
    have hlt : place < s.spans.length := (List.getElem?_eq_some_iff.mp h).1
    exact (List.getElem?_append_left hlt).trans h
  | finish other d =>
    have hne : other ≠ place := by
      intro heq
      exact hr d (heq ▸ rfl)
    unfold step
    dsimp only
    split
    · exact h
    · exact (List.getElem?_set_ne hne).trans h

/-! ## Runs -/

/-- The settings are what was configured last. -/
theorem run_settings (builtIn : Bool) (requests : List SpanRequest) :
    (run builtIn requests).settings =
      .configure (latest builtIn requests).1 (latest builtIn requests).2 := by
  induction requests using List.reverseRecOn with
  | nil => rfl
  | append_singleton requests r ih =>
    rw [run_concat, step_settings, SpanRequest.latest_concat, ih]
    cases r <;> rfl

theorem length_run (builtIn : Bool) (requests : List SpanRequest) :
    (run builtIn requests).spans.length = started requests := by
  induction requests using List.reverseRecOn with
  | nil => rfl
  | append_singleton requests r ih =>
    rw [run_concat, length_step, SpanRequest.started_concat, ih]

/-- A span that was started and has not ended has the threshold of its own, or else the one that the
settings had when it started. -/
theorem run_span (builtIn : Bool) (before after : List SpanRequest) (level : Level)
    (name : String) (own : Option UInt64) (hlasts : ∀ d, .finish (started before) d ∉ after) :
    (run builtIn (before ++ .start level name own :: after)).spans[started before]? =
      some (some (.start (run builtIn before).settings level name own)) := by
  induction after using List.reverseRecOn with
  | nil =>
    rw [run_concat, ← length_run builtIn before]
    exact List.getElem?_concat_length
  | append_singleton after r ih =>
    rw [← List.cons_append, ← List.append_assoc, run_concat]
    refine step_spans (ih fun d hd => hlasts d (List.mem_append_left _ hd)) fun d hr => ?_
    exact hlasts d (hr ▸ List.mem_append_right _ (List.mem_singleton_self r))

/-- What the settings lose of a threshold makes a difference only where a span takes it over, spans
are on when it ends, and it took less. -/
theorem kept_threshold_iff {on : Bool} {own configured : Option UInt64} :
    ((on = true ∧ ∀ t ∈ own.or (configured.filter (· ≠ SpanSettings.noThreshold)), t ≤ elapsed) ↔
        on = true ∧ ∀ t ∈ own.or configured, t ≤ elapsed) ↔
      ¬ (own = none ∧ configured = some SpanSettings.noThreshold ∧ on = true ∧
        elapsed < SpanSettings.noThreshold) := by
  cases own with
  | some t => simp
  | none =>
    cases configured with
    | none => simp
    | some t =>
      by_cases ht : t = SpanSettings.noThreshold
      · subst ht
        cases on <;> simp [Option.filter, UInt64.not_lt]
      · simp [Option.filter, ht]

/-- **Which spans are logged.** The end of a span is logged or not, and nothing else is. It is logged
as the rule says, except where the span took the largest threshold over from the settings and spans
are on when it ends: then it is logged although it took less. -/
theorem run_logs_iff (builtIn : Bool) (before after : List SpanRequest) (level : Level)
    (name : String) (own : Option UInt64) (elapsed : UInt64)
    (hlasts : ∀ d, .finish (started before) d ∉ after) :
    let requests := before ++ .start level name own :: after
    let s := run builtIn requests
    let ended := s.step (.finish (started before) elapsed)
    (ended.log = s.log ∨ ended.log = s.log ++ [completion level name]) ∧
      ((ended.log = s.log ++ [completion level name] ↔
          Due builtIn before requests own elapsed) ↔
        ¬ (own = none ∧ (latest builtIn before).2 = some SpanSettings.noThreshold ∧
          (latest builtIn requests).1 = true ∧ elapsed < SpanSettings.noThreshold)) := by
  intro requests s ended
  let span : Span := .start (run builtIn before).settings level name own
  have hspan : s.spans[started before]? = some (some span) :=
    run_span builtIn before after level name own hlasts
  have hlog : ended.log = s.log ++
      if span.logsAt s.settings elapsed.toNat then [completion level name] else [] := by
    show (s.step _).log = _
    rw [step_finish hspan]
    rfl
  have hlogs : ended.log = s.log ++ [completion level name] ↔
      span.logsAt s.settings elapsed.toNat = true := by
    rw [hlog]
    by_cases h : span.logsAt s.settings elapsed.toNat = true <;> simp [h]
  have hthreshold : span.threshold =
      own.or ((latest builtIn before).2.filter (· ≠ SpanSettings.noThreshold)) := by
    show own.or (run builtIn before).settings.defaultThreshold = _
    rw [run_settings, SpanSettings.defaultThreshold_configure]
  have henabled : s.settings.enabled = (latest builtIn requests).1 := by
    show (run builtIn requests).settings.enabled = _
    rw [run_settings]
    rfl
  constructor
  · rw [hlog]
    split
    · exact .inr rfl
    · exact .inl (List.append_nil _)
  · rw [hlogs, Span.logsAt_iff, hthreshold, henabled]
    exact kept_threshold_iff

/-- While a span lasts, another one is started and ended and the threshold is taken away. -/
def lifting : List SpanRequest :=
  [.start .info "inner" (some 0), .configure true none, .finish 1 3]

theorem run_logs_lifting :
    let before := [SpanRequest.configure true (some 100)]
    let s := run false (before ++ .start .debug "outer" none :: lifting)
    (∀ d, .finish (started before) d ∉ lifting) ∧
      (s.step (.finish 0 99)).log = s.log ∧
      (s.step (.finish 0 100)).log = s.log ++ [completion .debug "outer"] := by
  intro before s
  have hlasts : ∀ d, .finish (started before) d ∉ lifting := by
    intro d
    simp [lifting, before, started, SpanRequest.isStart]
  obtain ⟨hshort, hrule⟩ := run_logs_iff false before lifting .debug "outer" none 99 hlasts
  obtain ⟨-, hrule'⟩ := run_logs_iff false before lifting .debug "outer" none 100 hlasts
  refine ⟨hlasts, ?_, ?_⟩
  · rcases hshort with hshort | hshort
    · exact hshort
    · -- the threshold of the beginning still holds
      have hdue := (hrule.mpr (by decide)).mp hshort
      exact absurd (hdue.2 100 rfl) (by decide)
  · refine (hrule'.mpr (by decide)).mpr ⟨rfl, fun t ht => ?_⟩
    cases ht
    decide

/-- A span that takes over the largest threshold is logged as if it had none. -/
theorem largestThreshold_logs :
    let before := [SpanRequest.configure true (some 0xffffffffffffffff)]
    let requests := before ++ [.start .debug "load" none]
    let s := run true requests
    (s.step (.finish 0 0)).log = s.log ++ [completion .debug "load"] ∧
      ¬ Due true before requests none 0 := by
  refine ⟨rfl, fun hdue => ?_⟩
  exact absurd (hdue.2 0xffffffffffffffff rfl) (by decide)

end SpanSession

end DeviceCode.Trace

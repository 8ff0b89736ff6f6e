import ProjectionPlanner.Diagnostic
import ProjectionPlanner.Plan.Basic

/-! # What a build tells

While it runs, a build tells two audiences what happens: events, for whoever counts, and log lines,
for whoever reads. Both are told in the order in which things happen, so that they form one
sequence of signals; the events and the log are two views of it.
-/

namespace ProjectionPlanner

/-- An event of a build. Every event names the target record. -/
inductive BuildEvent where
  | started (projection source : String) (fields : Nat)
  | resolved (projection field : String) (kind : MappingKind)
  /-- One for every diagnostic, so that a field may have several. -/
  | rejected (projection field : String) (code : ErrorCode)
  /-- The number of fields that were resolved, and of those that were not. -/
  | finished (projection : String) (resolved rejected : Nat)
  deriving DecidableEq, Repr

/-- How much a log line matters. -/
inductive LogLevel where
  | trace
  | debug
  | warn
  deriving DecidableEq, Repr

/-- The written name. -/
def LogLevel.name : LogLevel → String
  | .trace => "TRACE"
  | .debug => "DEBUG"
  | .warn => "WARN"

/-- What is logged. The span of a build is opened and entered when it starts and left when it
    ends. -/
inductive LogLine where
  | spanOpened (projection source : String)
  | spanEntered
  | spanLeft
  | scan (line : ScanLine)
  | fieldResolved (field : String) (kind : MappingKind)
  | fieldRejected (field : String) (error : PlanErrorKind)
  deriving DecidableEq, Repr

/-- A log line in its written form: named texts. -/
inductive LogRecord where
  | span (level : LogLevel) (name : String) (fields : List (String × String))
  | enter (name : String)
  | exit (name : String)
  | event (level : LogLevel) (fields : List (String × String))
  deriving DecidableEq, Repr

namespace LogLine

/-- The name of the span of a build. -/
def spanName : String := "build_projection"

/-- The written form. -/
def record : LogLine → LogRecord
  | .spanOpened projection source =>
      .span .debug spanName [("dto", projection), ("source", source)]
  | .spanEntered => .enter spanName
  | .spanLeft => .exit spanName
  | .scan (.matched provider signature) =>
      .event .trace
        [("message", "method matched"), ("provider", provider), ("method", signature.text)]
  | .scan (.passed provider name) =>
      .event .trace [("message", "no match in provider"), ("provider", provider), ("name", name)]
  | .fieldResolved field kind =>
      .event .debug [("message", "field resolved"), ("field", field), ("kind", kind.name)]
  | .fieldRejected field error =>
      .event .warn [("message", error.message), ("field", field), ("code", error.code.name)]

end LogLine

/-- One thing that a build tells. -/
inductive Signal where
  | event (told : BuildEvent)
  | log (line : LogLine)
  deriving DecidableEq, Repr

namespace Signal

def event? : Signal → Option BuildEvent
  | .event told => some told
  | .log _ => none

def line? : Signal → Option LogLine
  | .event _ => none
  | .log line => some line

end Signal

end ProjectionPlanner

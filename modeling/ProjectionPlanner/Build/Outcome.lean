import ProjectionPlanner.Build.Field
import ProjectionPlanner.Build.Signal

/-! # The outcome of a build

A build plans every target field, whatever became of the others. If nothing is wrong the mappings
make a plan; else all diagnostics are reported together. Of several fields with one name only the
first is planned, and each later one is a diagnostic of its own.
-/

namespace ProjectionPlanner

/-- A target field and what became of it. -/
structure FieldOutcome where
  target : TargetField
  stage : Stage FieldMapping

namespace FieldOutcome

/-- The entry of the plan, if the field was resolved. -/
def entry? (outcome : FieldOutcome) : Option (String × FieldMapping) :=
  match outcome.stage.result with
  | .ok mapping => some (outcome.target.name, mapping)
  | .error _ => none

def isRejected (outcome : FieldOutcome) : Bool :=
  match outcome.stage.result with
  | .ok _ => false
  | .error _ => true

/-- The diagnostics about the field. -/
def errors (outcome : FieldOutcome) : List PlanError :=
  match outcome.stage.result with
  | .ok _ => []
  | .error rejection => rejection.toList.map (⟨outcome.target.name, ·⟩)

/-- What is told about a field that was resolved. -/
def resolvedSignals (projection field : String) (kind : MappingKind) : List Signal :=
  [.log (.fieldResolved field kind), .event (.resolved projection field kind)]

/-- What is told about a diagnostic. -/
def rejectedSignals (projection field : String) (error : PlanErrorKind) : List Signal :=
  [.log (.fieldRejected field error), .event (.rejected projection field error.code)]

/-- All that is told about the field: first its method searches, then what became of it. -/
def signals (projection : String) (outcome : FieldOutcome) : List Signal :=
  outcome.stage.lines.map (.log ∘ .scan) ++
    match outcome.stage.result with
    | .ok mapping => resolvedSignals projection outcome.target.name mapping.kind
    | .error rejection => rejection.toList.flatMap (rejectedSignals projection outcome.target.name)

end FieldOutcome

namespace Build

/-- Plan the fields one after the other. A name that was seen before is not planned again. -/
def outcomesAfter (build : Build) (seen : List String) : List TargetField → List FieldOutcome
  | [] => []
  | target :: rest =>
      { target
        stage :=
          if target.name ∈ seen then ⟨.error (.single .duplicateTargetField), []⟩
          else build.run target } ::
        build.outcomesAfter (target.name :: seen) rest

/-- What became of every declared field, in declaration order. -/
def outcomes (build : Build) : List FieldOutcome :=
  build.outcomesAfter [] build.declaration.fields

/-- The mappings of the fields that were resolved. -/
def mappings (build : Build) : Entries String FieldMapping :=
  .ofList (build.outcomes.filterMap FieldOutcome.entry?)

/-- All diagnostics, in declaration order. -/
def errors (build : Build) : List PlanError :=
  build.outcomes.flatMap FieldOutcome.errors

/-- The plan, or all diagnostics. -/
def result (build : Build) : Except BuildErrors Plan :=
  if build.errors.isEmpty then
    .ok
      { target := build.declaration.name
        source := build.source
        registry := build.registry
        fields := build.mappings }
  else
    .error ⟨build.declaration.name, build.errors⟩

/-- All that the build tells, in order. -/
def signals (build : Build) : List Signal :=
  let projection := build.declaration.name
  [.log (.spanOpened projection build.source.name), .log .spanEntered,
      .event (.started projection build.source.name build.declaration.fields.length)] ++
    build.outcomes.flatMap (FieldOutcome.signals projection) ++
    [.event
        (.finished projection build.mappings.size
          (build.outcomes.filter FieldOutcome.isRejected).length),
      .log .spanLeft]

/-- The events of the build. -/
def events (build : Build) : List BuildEvent :=
  build.signals.filterMap Signal.event?

/-- The log of the build. -/
def log (build : Build) : List LogLine :=
  build.signals.filterMap Signal.line?

end Build

end ProjectionPlanner

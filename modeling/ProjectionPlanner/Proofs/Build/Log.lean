import ProjectionPlanner.Proofs.Build.Events

/-! # The log of a build and its events

Whoever reads the log learns the same as whoever counts the events. Between the start and the end of
its span, a build logs of one declared field after the other, first what its method searches passed,
then what became of it. Without the lines of the searches there is one line for every event about a
field, and the lines that warn are those of the diagnostics that are returned.
-/

namespace ProjectionPlanner

namespace LogRecord

/-- The level of an event. Spans, and the lines that enter and leave them, have none. -/
def eventLevel? : LogRecord → Option LogLevel
  | .event level _ => some level
  | _ => none

/-- The line was written by a search. -/
def isTrace (record : LogRecord) : Bool :=
  record.eventLevel? == some .trace

end LogRecord

def BuildEvent.isAboutField : BuildEvent → Bool
  | .started .. => false
  | .resolved .. => true
  | .rejected .. => true
  | .finished .. => false

/-- Something that a build finds out about a field. -/
inductive Finding where
  | resolved (field : String) (kind : MappingKind)
  | rejected (error : PlanError)

namespace Finding

def field : Finding → String
  | .resolved field _ => field
  | .rejected error => error.field

/-- As it stands in the log. -/
def record : Finding → LogRecord
  | .resolved field kind =>
      .event .debug [("message", "field resolved"), ("field", field), ("kind", kind.name)]
  | .rejected error =>
      .event .warn
        [("message", error.kind.message), ("field", error.field), ("code", error.code.name)]

/-- As it is told to those who count. -/
def event (projection : String) : Finding → BuildEvent
  | .resolved field kind => .resolved projection field kind
  | .rejected error => .rejected projection error.field error.code

/-- As it is returned. What was resolved is no error. -/
def error? : Finding → Option PlanError
  | .resolved .. => none
  | .rejected error => some error

def line : Finding → LogLine
  | .resolved field kind => .fieldResolved field kind
  | .rejected error => .fieldRejected error.field error.kind

theorem record_line (finding : Finding) : finding.line.record = finding.record := by
  cases finding <;> rfl

theorem eventLevel?_record (finding : Finding) :
    finding.record.eventLevel? = some .debug ∨ finding.record.eventLevel? = some .warn := by
  cases finding with
  | resolved field kind => exact .inl rfl
  | rejected error => exact .inr rfl

theorem isTrace_record (finding : Finding) : finding.record.isTrace = false := by
  cases finding <;> rfl

theorem isAboutField_event (projection : String) (finding : Finding) :
    (finding.event projection).isAboutField = true := by
  cases finding <;> rfl

end Finding

/-- What is logged about one declared field: what its searches passed, and then what was found
    out. -/
structure Passage where
  traces : List LogRecord
  findings : List Finding

namespace Passage

def records (passage : Passage) : List LogRecord :=
  passage.traces ++ passage.findings.map Finding.record

theorem filter_records {passage : Passage}
    (traces : ∀ record ∈ passage.traces, record.isTrace = true) :
    passage.records.filter (!·.isTrace) = passage.findings.map Finding.record := by
  have untold : passage.traces.filter (!·.isTrace) = [] :=
    List.filter_eq_nil_iff.mpr fun record traced => by simp [traces record traced]
  rw [records, List.filter_append, untold, List.nil_append, List.filter_eq_self]
  intro record told
  obtain ⟨finding, -, rfl⟩ := List.mem_map.mp told
  simp [finding.isTrace_record]

end Passage

def ScanLine.record (line : ScanLine) : LogRecord :=
  (LogLine.scan line).record

theorem ScanLine.isTrace_record (line : ScanLine) : line.record.isTrace = true := by
  cases line <;> rfl

namespace FieldOutcome

def findings (outcome : FieldOutcome) : List Finding :=
  match outcome.stage.result with
  | .ok mapping => [.resolved outcome.target.name mapping.kind]
  | .error _ => outcome.errors.map .rejected

theorem filterMap_line?_signals (projection : String) (outcome : FieldOutcome) :
    (outcome.signals projection).filterMap Signal.line? =
      outcome.stage.lines.map LogLine.scan ++ outcome.findings.map Finding.line := by
  have scans : (outcome.stage.lines.map (Signal.log ∘ LogLine.scan)).filterMap Signal.line? =
      outcome.stage.lines.map LogLine.scan := by
    simp [List.filterMap_map, Function.comp_def, Signal.line?]
  rw [signals, List.filterMap_append, scans, findings, errors]
  cases outcome.stage.result with
  | ok mapping => rfl
  | error rejection =>
      simp only [List.filterMap_flatMap, rejectedSignals, List.map_map]
      exact congrArg _ (List.flatMap_pure_eq_map _ _)

theorem events_eq_map_findings (projection : String) (outcome : FieldOutcome) :
    outcome.events projection = outcome.findings.map (Finding.event projection) := by
  rw [events, findings, errors]
  cases outcome.stage.result with
  | ok mapping => rfl
  | error rejection => simp [Finding.event, PlanError.code]

theorem errors_eq_filterMap_findings (outcome : FieldOutcome) :
    outcome.errors = outcome.findings.filterMap Finding.error? := by
  rw [findings]
  cases result : outcome.stage.result with
  | ok mapping => simp [errors, result, Finding.error?]
  | error rejection => simp [List.filterMap_map, Function.comp_def, Finding.error?]

theorem findings_ne_nil (outcome : FieldOutcome) : outcome.findings ≠ [] := by
  rw [findings, errors]
  cases outcome.stage.result <;> simp [Rejection.toList]

theorem field_of_mem_findings {outcome : FieldOutcome} {finding : Finding}
    (found : finding ∈ outcome.findings) : finding.field = outcome.target.name := by
  rw [findings, errors] at found
  cases result : outcome.stage.result with
  | ok mapping =>
      rw [result] at found
      cases List.mem_singleton.mp found
      rfl
  | error rejection =>
      simp only [result, List.map_map, List.mem_map] at found
      obtain ⟨kind, -, rfl⟩ := found
      rfl

def passage (outcome : FieldOutcome) : Passage where
  traces := outcome.stage.lines.map ScanLine.record
  findings := outcome.findings

theorem map_record_signals (projection : String) (outcome : FieldOutcome) :
    ((outcome.signals projection).filterMap Signal.line?).map LogLine.record =
      outcome.passage.records := by
  rw [filterMap_line?_signals, List.map_append, List.map_map, List.map_map, Passage.records,
    passage]
  congr 1
  exact List.map_congr_left fun finding _ => finding.record_line

theorem filter_records_passage (outcome : FieldOutcome) :
    outcome.passage.records.filter (!·.isTrace) = outcome.findings.map Finding.record := by
  refine Passage.filter_records fun record traced => ?_
  obtain ⟨line, -, rfl⟩ := List.mem_map.mp traced
  exact line.isTrace_record

theorem filter_isAboutField_events (projection : String) (outcome : FieldOutcome) :
    (outcome.events projection).filter BuildEvent.isAboutField =
      outcome.findings.map (Finding.event projection) := by
  rw [events_eq_map_findings, List.filter_eq_self]
  intro event told
  obtain ⟨finding, -, rfl⟩ := List.mem_map.mp told
  exact finding.isAboutField_event projection

end FieldOutcome

namespace Build

/-! ## The searches of a field -/

/-- The searches for a transformation: where the first finds nothing there is a second. -/
def transformLookups (build : Build) (target : TargetField) (ref : MethodRef)
    (input : ValueType) : List MethodQuery :=
  let query := build.transformQuery target ref input
  query ::
    match (build.registry.search query).result with
    | .error (.notFound ..) => [{ query with receivers := .instanceOnly }]
    | _ => []

/-- The searches for a field, in order: none if it is copied or if its arguments are not known, one
    for the method that computes it, and then those for the transformation, if there is something to
    transform. -/
def lookups (build : Build) (target : TargetField) : List MethodQuery :=
  match target.directive with
  | .computed computation =>
      match build.arguments target computation with
      | .error _ => []
      | .ok (dependencies, arguments) =>
          let params := arguments.map (·.type)
          build.computeQuery target computation params ::
            match (build.computeStep target computation dependencies params).result,
              computation.transformedBy with
            | .ok step, some ref => build.transformLookups target ref step.returns
            | _, _ => []
  | _ => []

variable {build : Build} {target : TargetField}

theorem lines_computeStep (computation : Computation) (dependencies : List ResolvedPath)
    (params : List ValueType) :
    (build.computeStep target computation dependencies params).lines =
      (build.registry.search (build.computeQuery target computation params)).lines := by
  cases result : (build.registry.search (build.computeQuery target computation params)).result with
  | ok method => simp only [computeStep, result]
  | error error =>
      cases error with
      | nameRequired => simp only [computeStep, result]
      | providerNotRegistered provider available => simp only [computeStep, result]
      | notFound expected searched nearMisses =>
          simp only [computeStep, result]
          cases build.identity? target computation dependencies params <;> rfl

theorem lines_transformStep (ref : MethodRef) (input : ValueType) :
    (build.transformStep target ref input).lines =
      (build.transformLookups target ref input).flatMap
        fun query => (build.registry.search query).lines := by
  cases result : (build.registry.search (build.transformQuery target ref input)).result with
  | ok method => simp [transformStep, transformLookups, result]
  | error error =>
      cases error with
      | nameRequired => simp [transformStep, transformLookups, result]
      | providerNotRegistered provider available => simp [transformStep, transformLookups, result]
      | notFound expected searched nearMisses =>
          simp only [transformStep, transformLookups, result, List.flatMap_cons, List.flatMap_nil,
            List.append_nil]
          split <;> rfl

theorem lines_run (build : Build) (target : TargetField) :
    (build.run target).lines =
      (build.lookups target).flatMap fun query => (build.registry.search query).lines := by
  unfold run lookups
  cases target.directive with
  | implicit => rfl
  | explicit path => rfl
  | computed computation =>
      simp only [computed]
      cases build.arguments target computation with
      | error rejection => rfl
      | ok known =>
          obtain ⟨dependencies, arguments⟩ := known
          simp only [methods, List.flatMap_cons, ← lines_computeStep _ dependencies]
          cases (build.computeStep target computation dependencies
              (arguments.map (·.type))).result with
          | error rejection => simp
          | ok step =>
              cases computation.transformedBy with
              | none => simp [transform?]
              | some ref => simp [transform?, lines_transformStep]

/-! ## Passages -/

/-- The log in its written form. -/
def records (build : Build) : List LogRecord :=
  build.log.map LogLine.record

/-- The diagnostics that are returned; none if there is a plan. -/
def reported (build : Build) : List PlanError :=
  match build.result with
  | .ok _ => []
  | .error failure => failure.errors

/-- Some records between the start and the end of the span of the build. -/
def framed (build : Build) (body : List LogRecord) : List LogRecord :=
  .span .debug "build_projection"
      [("dto", build.declaration.name), ("source", build.source.name)] ::
    .enter "build_projection" :: (body ++ [.exit "build_projection"])

/-- The passage is what is logged about a field that stands after some others. First come the lines
    of its searches, of which there are none if its name is repeated. -/
structure LogsField (build : Build) (earlier : List TargetField) (target : TargetField)
    (passage : Passage) : Prop where
  traces : passage.traces =
    if target.name ∈ earlier.map (·.name) then []
    else (build.lookups target).flatMap fun query =>
      (build.registry.search query).lines.map ScanLine.record
  traceLevel : ∀ record ∈ passage.traces, record.eventLevel? = some .trace
  told : passage.findings ≠ []
  toldLevel : ∀ finding ∈ passage.findings,
    finding.record.eventLevel? = some .debug ∨ finding.record.eventLevel? = some .warn
  named : ∀ finding ∈ passage.findings, finding.field = target.name

theorem logsField_passage (build : Build) (earlier : List TargetField) (target : TargetField) :
    build.LogsField earlier target
      (FieldOutcome.passage ⟨target, build.stageAfter (earlier.map (·.name)) target⟩) where
  traces := by
    simp only [FieldOutcome.passage, stageAfter]
    split
    · rfl
    · rw [lines_run, List.map_flatMap]
  traceLevel := by
    intro record traced
    obtain ⟨line, -, rfl⟩ := List.mem_map.mp traced
    exact beq_iff_eq.mp line.isTrace_record
  told := FieldOutcome.findings_ne_nil _
  toldLevel := fun finding _ => finding.eventLevel?_record
  named := fun _ found => FieldOutcome.field_of_mem_findings found

theorem records_eq (build : Build) :
    build.records =
      build.framed (build.outcomes.flatMap fun outcome => outcome.passage.records) := by
  simp only [records, log, signals, List.filterMap_append, List.filterMap_flatMap, List.map_append,
    List.map_flatMap, FieldOutcome.map_record_signals]
  rfl

theorem filter_records_eq (build : Build) :
    build.records.filter (!·.isTrace) =
      build.framed (build.outcomes.flatMap fun outcome => outcome.findings.map Finding.record) := by
  rw [records_eq, framed, framed, List.filter_cons_of_pos rfl, List.filter_cons_of_pos rfl,
    List.filter_append, List.filter_flatMap]
  simp only [FieldOutcome.filter_records_passage]
  rfl

theorem filter_isAboutField_events (build : Build) :
    build.events.filter BuildEvent.isAboutField =
      build.outcomes.flatMap fun outcome =>
        outcome.findings.map (Finding.event build.declaration.name) := by
  rw [events_eq, List.filter_cons_of_neg (by simp [BuildEvent.isAboutField]), List.filter_append,
    List.filter_flatMap, List.filter_cons_of_neg (by simp [BuildEvent.isAboutField]),
    List.filter_nil, List.append_nil]
  simp only [FieldOutcome.filter_isAboutField_events]

theorem reported_eq (build : Build) :
    build.reported =
      build.outcomes.flatMap fun outcome => outcome.findings.filterMap Finding.error? := by
  simp only [← FieldOutcome.errors_eq_filterMap_findings]
  change build.reported = build.errors
  unfold reported result
  cases build.errors <;> rfl

/-- The log of a build and its events tell the same. Between the start and the end of its span the
    log has a passage for every declared field, in declaration order, with the lines of the searches
    before all others. What is left of the log without those lines is one line for each event about
    a field, and what it warns of are the diagnostics that are returned. -/
theorem log_tells_events (build : Build) :
    ∃ passages : List Passage,
      build.records = build.framed (passages.flatMap Passage.records) ∧
        build.records.filter (!·.isTrace) =
          build.framed ((passages.flatMap Passage.findings).map Finding.record) ∧
        build.events.filter BuildEvent.isAboutField =
          (passages.flatMap Passage.findings).map (Finding.event build.declaration.name) ∧
        build.reported = (passages.flatMap Passage.findings).filterMap Finding.error? ∧
        passages.length = build.declaration.fields.length ∧
        ∀ position target, build.declaration.fields[position]? = some target →
          ∃ passage, passages[position]? = some passage ∧
            build.LogsField (build.declaration.fields.take position) target passage := by
  refine ⟨build.outcomes.map FieldOutcome.passage, ?_, ?_, ?_, ?_, ?_, ?_⟩
  · rw [records_eq, List.flatMap_map]
  · rw [filter_records_eq, List.flatMap_map, List.map_flatMap]
    rfl
  · rw [filter_isAboutField_events, List.flatMap_map, List.map_flatMap]
    rfl
  · rw [reported_eq, List.flatMap_map, List.filterMap_flatMap]
    rfl
  · rw [List.length_map, outcomes, length_outcomesAfter]
  · intro position target there
    refine ⟨_, ?_, logsField_passage build (build.declaration.fields.take position) target⟩
    rw [List.getElem?_map, getElem?_outcomes, there]
    rfl

end Build

end ProjectionPlanner

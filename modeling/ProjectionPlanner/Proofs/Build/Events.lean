import ProjectionPlanner.Proofs.Build.Outcomes

/-! # The events of a build

A build tells of each field as often as it has diagnostics, and once if it has none, between an
event that it has started and one that it has finished. What can be read off these events is
compared here with what the build returns: how often something is told, and of the diagnostics also
in which order.
-/

namespace ProjectionPlanner

/-- The kind of mapping that an event tells of. -/
def BuildEvent.kind? : BuildEvent → Option MappingKind
  | .resolved _ _ kind => some kind
  | _ => none

/-- The code of the diagnostic that an event tells of. -/
def BuildEvent.code? : BuildEvent → Option ErrorCode
  | .rejected _ _ code => some code
  | _ => none

/-- The diagnostic that an event tells of, by field and code. -/
def BuildEvent.diagnostic? : BuildEvent → Option (String × ErrorCode)
  | .rejected _ field code => some (field, code)
  | _ => none

theorem BuildEvent.code?_eq (event : BuildEvent) :
    event.code? = event.diagnostic?.map Prod.snd := by
  cases event <;> rfl

/-- A diagnostic without its text: the field and the code. -/
def PlanError.summary (error : PlanError) : String × ErrorCode :=
  (error.field, error.code)

/-- The target record that an event names. -/
def BuildEvent.projection : BuildEvent → String
  | .started projection .. => projection
  | .resolved projection .. => projection
  | .rejected projection .. => projection
  | .finished projection .. => projection

namespace FieldOutcome

/-- What is told about a field to those who count. -/
def events (projection : String) (outcome : FieldOutcome) : List BuildEvent :=
  match outcome.stage.result with
  | .ok mapping => [.resolved projection outcome.target.name mapping.kind]
  | .error rejection =>
      rejection.toList.map fun error => .rejected projection outcome.target.name error.code

/-- How a field is mapped that was resolved. -/
def kind? (outcome : FieldOutcome) : Option MappingKind :=
  match outcome.stage.result with
  | .ok mapping => some mapping.kind
  | .error _ => none

variable {projection : String} {outcome : FieldOutcome}

theorem filterMap_event?_signals (projection : String) (outcome : FieldOutcome) :
    (outcome.signals projection).filterMap Signal.event? = outcome.events projection := by
  have noScan : (outcome.stage.lines.map (Signal.log ∘ LogLine.scan)).filterMap Signal.event? =
      [] := by
    simp [List.filterMap_map, Function.comp_def, Signal.event?]
  rw [signals, List.filterMap_append, noScan, List.nil_append, events]
  cases outcome.stage.result with
  | ok mapping => rfl
  | error rejection =>
      simp only [List.filterMap_flatMap, rejectedSignals]
      exact List.flatMap_pure_eq_map _ _

theorem isRejected_eq_false_iff : outcome.isRejected = false ↔ outcome.errors = [] := by
  unfold isRejected errors
  cases outcome.stage.result <;> simp [Rejection.toList]

theorem isSome_entry? (outcome : FieldOutcome) : outcome.entry?.isSome = !outcome.isRejected := by
  unfold entry? isRejected
  cases outcome.stage.result <;> rfl

theorem isSome_kind? (outcome : FieldOutcome) : outcome.kind?.isSome = !outcome.isRejected := by
  unfold kind? isRejected
  cases outcome.stage.result <;> rfl

theorem filterMap_kind?_events (projection : String) (outcome : FieldOutcome) :
    (outcome.events projection).filterMap BuildEvent.kind? = outcome.kind?.toList := by
  unfold events kind?
  cases outcome.stage.result with
  | ok mapping => rfl
  | error rejection => simp [List.filterMap_map, Function.comp_def, BuildEvent.kind?]

theorem filterMap_diagnostic?_events (projection : String) (outcome : FieldOutcome) :
    (outcome.events projection).filterMap BuildEvent.diagnostic? =
      outcome.errors.map PlanError.summary := by
  unfold events errors
  cases outcome.stage.result with
  | ok mapping => rfl
  | error rejection =>
      simp only [List.filterMap_map, List.map_map, Function.comp_def, BuildEvent.diagnostic?,
        List.filterMap_eq_map', PlanError.summary, PlanError.code]

theorem projection_of_mem_events {event : BuildEvent} (told : event ∈ outcome.events projection) :
    event.projection = projection := by
  unfold events at told
  cases result : outcome.stage.result with
  | ok mapping =>
      rw [result] at told
      cases List.mem_singleton.mp told
      rfl
  | error rejection =>
      rw [result] at told
      obtain ⟨_, -, rfl⟩ := List.mem_map.mp told
      rfl

end FieldOutcome

namespace Build

variable {build : Build}

/-- A plan is made. -/
def succeeds (build : Build) : Bool :=
  match build.result with
  | .ok _ => true
  | .error _ => false

/-- The codes of all diagnostics that are returned. -/
def codes (build : Build) : List ErrorCode :=
  match build.result with
  | .ok _ => []
  | .error failure => failure.codes

theorem codes_eq (build : Build) : build.codes = build.errors.map PlanError.code := by
  unfold codes result
  cases build.errors <;> rfl

/-- The field and the code of every diagnostic that is returned. -/
def diagnostics (build : Build) : List (String × ErrorCode) :=
  match build.result with
  | .ok _ => []
  | .error failure => failure.errors.map PlanError.summary

theorem diagnostics_eq (build : Build) :
    build.diagnostics = build.errors.map PlanError.summary := by
  unfold diagnostics result
  cases build.errors <;> rfl

theorem succeeds_iff : build.succeeds = true ↔ build.errors = [] := by
  unfold succeeds result
  cases build.errors <;> simp

/-- The number of fields that were resolved. -/
def resolvedFields (build : Build) : Nat :=
  build.outcomes.countP fun outcome => !outcome.isRejected

/-- The number of fields that were not. -/
def rejectedFields (build : Build) : Nat :=
  build.outcomes.countP FieldOutcome.isRejected

theorem resolvedFields_add_rejectedFields (build : Build) :
    build.resolvedFields + build.rejectedFields = build.declaration.fields.length := by
  have all : build.outcomes.length = build.declaration.fields.length :=
    build.length_outcomesAfter [] build.declaration.fields
  have parts := build.outcomes.length_eq_countP_add_countP FieldOutcome.isRejected
  simp only [Bool.not_eq_true, Bool.decide_eq_false] at parts
  rw [resolvedFields, rejectedFields]
  omega

theorem length_kinds (build : Build) :
    (build.outcomes.filterMap FieldOutcome.kind?).length = build.resolvedFields := by
  rw [List.length_filterMap_eq_countP, resolvedFields]
  simp only [FieldOutcome.isSome_kind?]

theorem rejectedFields_eq_zero_iff : build.rejectedFields = 0 ↔ build.succeeds = true := by
  rw [succeeds_iff, rejectedFields, List.countP_eq_zero, Build.errors, List.flatMap_eq_nil_iff]
  simp only [Bool.not_eq_true, FieldOutcome.isRejected_eq_false_iff]

/-- Of a name only the first field can be resolved, so that the entries of those that are have
    names of their own. -/
theorem nodup_entries_outcomesAfter (seen : List String) (fields : List TargetField) :
    (entryKeys ((build.outcomesAfter seen fields).filterMap FieldOutcome.entry?)).Nodup ∧
      ∀ name ∈ entryKeys ((build.outcomesAfter seen fields).filterMap FieldOutcome.entry?),
        name ∉ seen := by
  induction fields generalizing seen with
  | nil => simp [outcomesAfter]
  | cons first rest ih =>
      obtain ⟨distinct, fresh⟩ := ih (first.name :: seen)
      simp only [List.mem_cons, not_or] at fresh
      rw [outcomesAfter_cons, List.filterMap_cons]
      cases result : (build.stageAfter seen first).result with
      | error rejection =>
          simp only [FieldOutcome.entry?, result]
          exact ⟨distinct, fun name stands => (fresh name stands).2⟩
      | ok mapping =>
          have unseen := (stageAfter_eq_ok_iff.mp result).1
          simp only [FieldOutcome.entry?, result, entryKeys, List.map_cons, List.nodup_cons,
            List.forall_mem_cons]
          exact ⟨⟨fun repeated => (fresh _ repeated).1 rfl, distinct⟩, unseen,
            fun name stands => (fresh name stands).2⟩

theorem size_mappings (build : Build) : build.mappings.size = build.resolvedFields := by
  have distinct : (entryKeys (build.outcomes.filterMap FieldOutcome.entry?)).Nodup :=
    (build.nodup_entries_outcomesAfter [] build.declaration.fields).1
  rw [Entries.size, mappings, Entries.toList_ofList distinct, List.length_filterMap_eq_countP,
    resolvedFields]
  simp only [FieldOutcome.isSome_entry?]

theorem events_eq (build : Build) :
    build.events =
      .started build.declaration.name build.source.name build.declaration.fields.length ::
        (build.outcomes.flatMap (FieldOutcome.events build.declaration.name) ++
          [.finished build.declaration.name build.resolvedFields build.rejectedFields]) := by
  rw [events, signals, size_mappings, rejectedFields, List.countP_eq_length_filter]
  simp only [List.filterMap_append, List.filterMap_flatMap, FieldOutcome.filterMap_event?_signals]
  rfl

theorem filterMap_kind?_events (build : Build) :
    build.events.filterMap BuildEvent.kind? = build.outcomes.filterMap FieldOutcome.kind? := by
  rw [events_eq, List.filterMap_cons, List.filterMap_append, List.filterMap_flatMap]
  simp only [FieldOutcome.filterMap_kind?_events]
  simp [BuildEvent.kind?, List.filterMap_eq_flatMap_toList]

theorem filterMap_diagnostic?_events (build : Build) :
    build.events.filterMap BuildEvent.diagnostic? = build.diagnostics := by
  rw [events_eq, List.filterMap_cons, List.filterMap_append, List.filterMap_flatMap,
    diagnostics_eq, Build.errors, List.map_flatMap]
  simp only [FieldOutcome.filterMap_diagnostic?_events]
  simp [BuildEvent.diagnostic?]

theorem filterMap_code?_events (build : Build) :
    build.events.filterMap BuildEvent.code? = build.codes := by
  rw [funext BuildEvent.code?_eq, ← List.map_filterMap, filterMap_diagnostic?_events,
    diagnostics_eq, codes_eq, List.map_map]
  rfl

/-- Every event of a build names its target record. -/
theorem projection_of_mem_events {event : BuildEvent} (told : event ∈ build.events) :
    event.projection = build.declaration.name := by
  rw [events_eq, List.mem_cons, List.mem_append, List.mem_flatMap, List.mem_singleton] at told
  rcases told with rfl | ⟨outcome, -, told⟩ | rfl
  · rfl
  · exact FieldOutcome.projection_of_mem_events told
  · rfl

end Build

end ProjectionPlanner

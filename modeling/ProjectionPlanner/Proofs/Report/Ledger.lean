import ProjectionPlanner.Proofs.Report.Trace

/-! # The report is a ledger of builds

Counters are fed by events, while builds return plans or diagnostics. As long as the numbers are in
range the report says of the booked builds what they returned: how many were made and how many
failed, what became of their fields, and which diagnostics they gave, however the program nests
its scopes, gives up in them, and resets the counters between them.
-/

namespace ProjectionPlanner

/-! ## What one build adds -/

namespace Build

/-- What a build adds to a number, read off what it returns. -/
def adds (build : Build) : Figure → Nat
  | .started => 1
  | .succeeded => if build.succeeds then 1 else 0
  | .failed => if build.succeeds then 0 else 1
  | .resolved => build.resolvedFields
  | .rejected => build.rejectedFields
  | .mapped kind => (build.outcomes.filterMap FieldOutcome.kind?).count kind

/-- All that is counted of a build: itself, its fields, and its diagnostics. -/
def units (build : Build) : Nat :=
  1 + build.declaration.fields.length + build.codes.length

end Build

theorem BuildEvent.adds_mapped (event : BuildEvent) (kind : MappingKind) :
    event.adds (.mapped kind) = if event.kind? = some kind then 1 else 0 := by
  cases event with
  | resolved projection field told => simp only [adds, kind?, Option.some.injEq]
  | started projection source fields | rejected projection field code
    | finished projection resolved rejected => rfl

theorem FieldOutcome.adds_of_mem_events {projection : String} {outcome : FieldOutcome}
    {event : BuildEvent} (told : event ∈ outcome.events projection) {figure : Figure}
    (unmapped : ∀ kind, figure ≠ .mapped kind) : event.adds figure = 0 := by
  unfold events at told
  cases result : outcome.stage.result with
  | ok mapping =>
      rw [result] at told
      cases List.mem_singleton.mp told
      cases figure with
      | mapped kind => exact absurd rfl (unmapped kind)
      | started | succeeded | failed | resolved | rejected => rfl
  | error rejection =>
      rw [result] at told
      obtain ⟨_, -, rfl⟩ := List.mem_map.mp told
      cases figure <;> rfl

namespace Build

variable (build : Build)

/-- Between its first and its last event a build adds to no number but the kinds of mappings. -/
theorem sum_adds_of_unmapped {figure : Figure} (unmapped : ∀ kind, figure ≠ .mapped kind) :
    (build.events.map (·.adds figure)).sum =
      (BuildEvent.started build.declaration.name build.source.name
          build.declaration.fields.length).adds figure +
        (BuildEvent.finished build.declaration.name build.resolvedFields
          build.rejectedFields).adds figure := by
  have between : ((build.outcomes.flatMap (FieldOutcome.events build.declaration.name)).map
      (·.adds figure)).sum = 0 := by
    refine List.sum_eq_zero fun added listed => ?_
    obtain ⟨event, told, rfl⟩ := List.mem_map.mp listed
    obtain ⟨outcome, -, told⟩ := List.mem_flatMap.mp told
    exact FieldOutcome.adds_of_mem_events told unmapped
  rw [events_eq, List.map_cons, List.sum_cons, List.map_append, List.sum_append, between]
  simp

theorem sum_adds_events (figure : Figure) :
    (build.events.map (·.adds figure)).sum = build.adds figure := by
  cases figure with
  | mapped kind =>
      rw [adds, ← filterMap_kind?_events, count_filterMap_eq_sum]
      simp only [BuildEvent.adds_mapped]
  | started => exact build.sum_adds_of_unmapped (by simp)
  | resolved | rejected =>
      exact (build.sum_adds_of_unmapped (by simp)).trans (Nat.zero_add _)
  | succeeded | failed =>
      -- The events tell success by the number of fields, the build by its diagnostics.
      rw [build.sum_adds_of_unmapped (by simp)]
      simp only [BuildEvent.adds, adds, rejectedFields_eq_zero_iff, Nat.zero_add]

theorem adds_le_units (figure : Figure) : build.adds figure ≤ build.units := by
  have fields := build.resolvedFields_add_rejectedFields
  rw [units]
  cases figure with
  | started => simp only [adds]; omega
  | succeeded | failed => simp only [adds]; split <;> omega
  | resolved | rejected => simp only [adds]; omega
  | mapped kind =>
      have within : build.adds (.mapped kind) ≤
          (build.outcomes.filterMap FieldOutcome.kind?).length := List.count_le_length
      rw [length_kinds] at within
      omega

theorem resolvedFields_eq_kinds :
    build.resolvedFields =
      build.adds (.mapped .implicit) + build.adds (.mapped .explicit) +
        build.adds (.mapped .computed) := by
  rw [← length_kinds, adds, adds, adds]
  induction build.outcomes.filterMap FieldOutcome.kind? with
  | nil => rfl
  | cons kind rest ih =>
      rw [List.length_cons, ih]
      simp only [List.count_cons]
      cases kind <;> simp <;> omega

end Build

/-! ## What all builds add -/

theorem sum_map_flatMap {α β : Type} (items : List α) (parts : α → List β) (weight : β → Nat) :
    ((items.flatMap parts).map weight).sum =
      (items.map fun item => ((parts item).map weight).sum).sum := by
  induction items with
  | nil => rfl
  | cons item rest ih =>
      rw [List.flatMap_cons, List.map_append, List.sum_append, ih, List.map_cons, List.sum_cons]

theorem sum_adds_flatMap (builds : List Build) (figure : Figure) :
    ((builds.flatMap Build.events).map (·.adds figure)).sum =
      (builds.map (·.adds figure)).sum := by
  rw [sum_map_flatMap]
  simp only [Build.sum_adds_events]

theorem sum_adds_started (builds : List Build) :
    (builds.map (·.adds .started)).sum = builds.length := by
  simp [Build.adds]

theorem sum_adds_succeeded (builds : List Build) :
    (builds.map (·.adds .succeeded)).sum = builds.countP Build.succeeds := by
  rw [countP_eq_sum]
  rfl

theorem sum_adds_failed (builds : List Build) :
    (builds.map (·.adds .failed)).sum = builds.countP fun build => !build.succeeds := by
  rw [countP_eq_sum]
  refine congrArg List.sum (List.map_congr_left fun build _ => ?_)
  cases succeeds : build.succeeds <;> simp [Build.adds, succeeds]

theorem sum_adds_kinds (builds : List Build) :
    (builds.map (·.adds .resolved)).sum =
      (builds.map (·.adds (.mapped .implicit))).sum +
        (builds.map (·.adds (.mapped .explicit))).sum +
          (builds.map (·.adds (.mapped .computed))).sum := by
  rw [← List.sum_map_add, ← List.sum_map_add]
  exact congrArg List.sum (List.map_congr_left fun build _ => build.resolvedFields_eq_kinds)

theorem sum_adds_fields (builds : List Build) :
    (builds.map (·.adds .resolved)).sum + (builds.map (·.adds .rejected)).sum =
      (builds.map fun build => build.declaration.fields.length).sum := by
  rw [← List.sum_map_add]
  exact congrArg List.sum
    (List.map_congr_left fun build _ => build.resolvedFields_add_rejectedFields)

theorem filterMap_code?_flatMap (builds : List Build) :
    (builds.flatMap Build.events).filterMap BuildEvent.code? = builds.flatMap Build.codes := by
  rw [List.filterMap_flatMap]
  simp only [Build.filterMap_code?_events]

/-- The events of a build name its target record, and the first one makes the report keep it. -/
theorem exists_record?_iff {builds : List Build} {name : String} :
    (∃ event ∈ builds.flatMap Build.events, event.record? = some name) ↔
      ∃ build ∈ builds, build.declaration.name = name := by
  constructor
  · rintro ⟨event, told, record⟩
    obtain ⟨build, booked, told⟩ := List.mem_flatMap.mp told
    refine ⟨build, booked, ?_⟩
    rw [← Build.projection_of_mem_events told]
    cases event with
    | started projection source fields | finished projection resolved rejected =>
        exact Option.some.inj record
    | resolved projection field kind | rejected projection field code => cases record
  · rintro ⟨build, booked, rfl⟩
    refine ⟨.started build.declaration.name build.source.name build.declaration.fields.length,
      List.mem_flatMap.mpr ⟨build, booked, ?_⟩, rfl⟩
    rw [Build.events_eq]
    exact List.mem_cons_self

/-! ## The ledger -/

/-- Every number of a report is the number of what it names among some builds. -/
structure Report.IsLedgerOf (report : Report) (builds : List Build) : Prop where
  started : report.buildsStarted.value = builds.length
  succeeded : report.buildsSucceeded.value = builds.countP Build.succeeds
  failed : report.buildsFailed.value = builds.countP fun build => !build.succeeds
  ends : report.buildsStarted.value = report.buildsSucceeded.value + report.buildsFailed.value
  kinds :
    report.fieldsResolved.value =
      report.implicitFields.value + report.explicitFields.value + report.computedFields.value
  fields :
    report.fieldsResolved.value + report.fieldsRejected.value =
      (builds.map fun build => build.declaration.fields.length).sum
  errorsFor : ∀ code, report.errorsFor code = (builds.flatMap Build.codes).count code
  codes : ∀ code, code ∈ report.errorsByCode.keys ↔ code ∈ builds.flatMap Build.codes
  errorCount : report.errorCount = (builds.flatMap Build.codes).length
  records :
    ∀ name, name ∈ report.projections.keys ↔ ∃ build ∈ builds, build.declaration.name = name
  recordBuilds :
    (report.projections.values.map (·.builds.value)).sum = report.buildsStarted.value
  recordFailures :
    (report.projections.values.map (·.failures.value)).sum = report.buildsFailed.value
  recordResolved :
    (report.projections.values.map (·.fieldsResolved.value)).sum = report.fieldsResolved.value
  recordRejected :
    (report.projections.values.map (·.fieldsRejected.value)).sum = report.fieldsRejected.value

section InRange

variable {builds : List Build} (inRange : (builds.map Build.units).sum < counterRange)

include inRange

theorem sum_adds_lt (figure : Figure) : (builds.map (·.adds figure)).sum < counterRange :=
  Nat.lt_of_le_of_lt (List.sum_le_sum fun build _ => build.adds_le_units figure) inRange

theorem length_codes_lt : (builds.flatMap Build.codes).length < counterRange := by
  rw [List.length_flatMap]
  refine Nat.lt_of_le_of_lt (List.sum_le_sum fun build _ => ?_) inRange
  rw [Build.units]
  omega

theorem figure_booked (figure : Figure) :
    ((({} : Report).countAll (builds.flatMap Build.events)).figure figure).value =
      (builds.map (·.adds figure)).sum := by
  have zeroed : ({} : Report).figure figure = .zero := by
    cases figure with
    | mapped kind => cases kind <;> rfl
    | started | succeeded | failed | resolved | rejected => rfl
  rw [Report.figure_countAll, zeroed, sum_adds_flatMap,
    Counter.value_zero_add (sum_adds_lt inRange figure)]

theorem sum_projections_booked (figure : RecordFigure) :
    ((({} : Report).countAll (builds.flatMap Build.events)).projections.values.map
        fun counters => (counters.figure figure).value).sum =
      ((({} : Report).countAll (builds.flatMap Build.events)).figure figure.overall).value := by
  have small := sum_adds_lt inRange figure.overall
  rw [← sum_adds_flatMap] at small
  rw [Report.sum_projections_countAll figure small, figure_booked inRange, sum_adds_flatMap]

theorem isLedgerOf_countAll :
    (({} : Report).countAll (builds.flatMap Build.events)).IsLedgerOf builds := by
  have value := figure_booked inRange
  have started := (value .started).trans (sum_adds_started builds)
  have succeeded := (value .succeeded).trans (sum_adds_succeeded builds)
  have failed := (value .failed).trans (sum_adds_failed builds)
  have diagnostics := length_codes_lt inRange
  rw [← filterMap_code?_flatMap] at diagnostics
  constructor
  case started => exact started
  case succeeded => exact succeeded
  case failed => exact failed
  case ends =>
    have ends := builds.length_eq_countP_add_countP Build.succeeds
    simp only [Bool.not_eq_true, Bool.decide_eq_false] at ends
    exact (started.trans ends).trans (congrArg₂ (· + ·) succeeded failed).symm
  case kinds =>
    exact (value .resolved).trans ((sum_adds_kinds builds).trans
      (congrArg₂ (· + ·) (congrArg₂ (· + ·) (value (.mapped .implicit)) (value (.mapped .explicit)))
        (value (.mapped .computed))).symm)
  case fields =>
    exact (congrArg₂ (· + ·) (value .resolved) (value .rejected)).trans (sum_adds_fields builds)
  case errorsFor =>
    intro code
    rw [Report.errorsFor_countAll (Nat.lt_of_le_of_lt List.count_le_length diagnostics),
      filterMap_code?_flatMap]
  case codes =>
    intro code
    rw [Report.mem_errorsByCode_countAll, filterMap_code?_flatMap]
    exact or_iff_right List.not_mem_nil
  case errorCount => rw [Report.errorCount_countAll diagnostics, filterMap_code?_flatMap]
  case records =>
    intro name
    rw [Report.mem_projections_countAll, exists_record?_iff]
    exact or_iff_right List.not_mem_nil
  case recordBuilds => exact sum_projections_booked inRange .builds
  case recordFailures => exact sum_projections_booked inRange .failures
  case recordResolved => exact sum_projections_booked inRange .resolved
  case recordRejected => exact sum_projections_booked inRange .rejected

end InRange

/-- After any program that begins with all counters at zero, the report is the ledger of the builds
    that were booked, as long as what they count is in range. -/
theorem report_isLedgerOf (recorder : Recorder) (actions : List Action)
    (inRange : ((booked (Action.traceAll recorder.active actions).1).map Build.units).sum <
      counterRange) :
    (Action.runAll recorder.reset actions).1.report.IsLedgerOf
      (booked (Action.traceAll recorder.active actions).1) := by
  rw [Action.runAll_eq_play, report_play]
  exact isLedgerOf_countAll inRange

/-- The build of the order under another name, with no method to find for the total. -/
def strictOrder : Build :=
  { Build.orderBuild with
    declaration := ⟨"OrderCard", Build.orderBuild.declaration.fields⟩
    settings := { identityReduction := false } }

/-- Two of the six builds count: one came before the reset, two went to sinks, and one stands
    behind an error that leaves both scopes. -/
def mixedProgram : List Action :=
  [.build strictOrder, .reset, .build Build.orderBuild,
    .guarded [.scope 0 [.build strictOrder, .scope 1 [.build Build.orderBuild, .raise]],
      .build Build.orderBuild],
    .build strictOrder]

theorem mixedProgram_ledger :
    booked (Action.traceAll none mixedProgram).1 = [Build.orderBuild, strictOrder] ∧
      (Action.runAll {} mixedProgram).1.report.IsLedgerOf [Build.orderBuild, strictOrder] ∧
      (Action.runAll {} mixedProgram).1.report.buildsFailed.value = 1 := by
  have listed : booked (Action.traceAll none mixedProgram).1 = [Build.orderBuild, strictOrder] :=
    rfl
  have inRange : ([Build.orderBuild, strictOrder].map Build.units).sum < counterRange := by decide
  have ledger := report_isLedgerOf {} mixedProgram inRange
  exact ⟨listed, ledger, ledger.failed⟩

end ProjectionPlanner

import ProjectionPlanner.Proofs.Report.Trace

/-! # What a sink is told of a build

A sink that is open around one build is told of it from beginning to end: that it starts, field by
field what became of the declaration, and with which totals it is done. Two fields may have one
name, so that the fields are told apart by their places in the declaration and not by what the
events name.
-/

namespace ProjectionPlanner

/-- What is told about a declared field: once how it is mapped, or as often as it has diagnostics
    that it is rejected. -/
inductive TellsField (projection : String) (target : TargetField) : List BuildEvent → Prop where
  | resolved :
      TellsField projection target [.resolved projection target.name target.directive.kind]
  | rejected (first : ErrorCode) (others : List ErrorCode) :
      TellsField projection target
        ((first :: others).map fun code => .rejected projection target.name code)

namespace FieldOutcome

variable {projection : String} {outcome : FieldOutcome}

theorem tellsField_events
    (kind : ∀ mapping, outcome.stage.result = .ok mapping →
      mapping.kind = outcome.target.directive.kind) :
    TellsField projection outcome.target (outcome.events projection) := by
  unfold events
  cases result : outcome.stage.result with
  | ok mapping =>
      simp only [kind mapping result]
      exact .resolved
  | error rejection =>
      have told : TellsField projection outcome.target _ :=
        .rejected rejection.first.code (rejection.others.map PlanErrorKind.code)
      rw [List.map_cons, List.map_map] at told
      exact told

/-- A field is rejected when one of its events says so. -/
theorem any_diagnostic?_events (projection : String) (outcome : FieldOutcome) :
    (outcome.events projection).any (·.diagnostic?.isSome) = outcome.isRejected := by
  unfold events isRejected
  cases outcome.stage.result with
  | ok mapping => rfl
  | error rejection => simp [Rejection.toList, BuildEvent.diagnostic?]

end FieldOutcome

namespace Build

variable {build : Build}

/-- Every declared field has its outcome, in order, and is mapped as its directive says. -/
theorem outcomesAfter_mapped_as_declared (seen : List String) (fields : List TargetField) :
    List.Forall₂
      (fun target outcome => outcome.target = target ∧
        ∀ mapping, outcome.stage.result = .ok mapping → mapping.kind = target.directive.kind)
      fields (build.outcomesAfter seen fields) := by
  induction fields generalizing seen with
  | nil => exact .nil
  | cons first rest ih =>
      rw [outcomesAfter_cons]
      refine .cons ⟨rfl, fun mapping accepted => ?_⟩ (ih (first.name :: seen))
      exact (stageAfter_eq_ok_iff.mp accepted).2.kind_eq

theorem succeeds_iff_exists_plan : build.succeeds = true ↔ ∃ plan, build.result = .ok plan := by
  unfold succeeds
  cases build.result <;> simp

theorem size_of_result {plan : Plan} (made : build.result = .ok plan) :
    plan.size = build.resolvedFields := by
  obtain ⟨-, -, -, -, plans⟩ := result_eq_ok_iff.mp made
  have all := build.resolvedFields_add_rejectedFields
  have unrejected := rejectedFields_eq_zero_iff.mpr (succeeds_iff_exists_plan.mpr ⟨plan, made⟩)
  rw [Plan.size, Entries.size, ← plans.length_eq]
  omega

end Build

/-- An account of a build: the events about each declared field, and the totals at the end. -/
structure Account where
  fields : List (List BuildEvent)
  resolved : Nat
  rejected : Nat

namespace Account

/-- The account as it is told. -/
def events (account : Account) (build : Build) : List BuildEvent :=
  .started build.declaration.name build.source.name build.declaration.fields.length ::
    (account.fields.flatten ++
      [.finished build.declaration.name account.resolved account.rejected])

/-- What the account says of the fields and of the result is so. -/
structure IsTrueOf (account : Account) (build : Build) : Prop where
  /-- Every declared field has its own events, in declaration order. -/
  fields :
    List.Forall₂ (TellsField build.declaration.name) build.declaration.fields account.fields
  diagnostics : (account.events build).filterMap BuildEvent.diagnostic? = build.diagnostics
  resolved : account.resolved = (account.events build).countP (·.kind?.isSome)
  rejected : account.rejected = account.fields.countP fun told => told.any (·.diagnostic?.isSome)
  total : account.resolved + account.rejected = build.declaration.fields.length
  success : account.rejected = 0 ↔ ∃ plan, build.result = .ok plan
  size : ∀ plan, build.result = .ok plan → account.resolved = plan.size

end Account

namespace Build

/-- The account that a build gives of itself. -/
def account (build : Build) : Account where
  fields := build.outcomes.map (FieldOutcome.events build.declaration.name)
  resolved := build.resolvedFields
  rejected := build.rejectedFields

variable (build : Build)

theorem events_account : build.account.events build = build.events := by
  rw [events_eq, Account.events, account, List.flatMap_def]

theorem account_isTrue : build.account.IsTrueOf build where
  fields := by
    refine List.forall₂_map_right_iff.mpr ?_
    refine (build.outcomesAfter_mapped_as_declared [] build.declaration.fields).imp ?_
    rintro target outcome ⟨rfl, kind⟩
    exact FieldOutcome.tellsField_events kind
  diagnostics := by rw [events_account, filterMap_diagnostic?_events]
  resolved := by
    rw [events_account, ← List.length_filterMap_eq_countP, filterMap_kind?_events, length_kinds]
    rfl
  rejected := by
    simp only [account, List.countP_map, Function.comp_def, FieldOutcome.any_diagnostic?_events]
    rfl
  total := build.resolvedFields_add_rejectedFields
  success := rejectedFields_eq_zero_iff.trans succeeds_iff_exists_plan
  size := fun _ made => (size_of_result made).symm

end Build

/-- A sink that is open around one build is delivered a true account of it, and nothing else. -/
theorem scope_delivers_account (recorder : Recorder) (sink : Sink) (build : Build) :
    ∃ account : Account, account.IsTrueOf build ∧
      (Action.run recorder (.scope sink [.build build])).1.delivered =
        recorder.delivered ++ (account.events build).map (sink, ·) := by
  refine ⟨build.account, build.account_isTrue, ?_⟩
  rw [Action.run_eq_play, Build.events_account]
  rfl

end ProjectionPlanner

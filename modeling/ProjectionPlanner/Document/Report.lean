import ProjectionPlanner.Document.Basic
import ProjectionPlanner.Report.Basic

/-! # Reports as documents

The counters by diagnostic and by target record are objects, whose member names are the codes and
the names.
-/

namespace ProjectionPlanner

def ErrorCode.document (code : ErrorCode) : Document :=
  .text code.name

def ErrorCode.ofDocument? : Document → Option ErrorCode
  | .text name => ErrorCode.named? name
  | _ => none

@[simp]
theorem ErrorCode.ofDocument?_document (code : ErrorCode) :
    ofDocument? code.document = some code :=
  named?_name code

namespace Counter

def document (counter : Counter) : Document :=
  .count counter.value

def ofDocument? : Document → Option Counter
  | .count value => Counter.ofNat? value
  | _ => none

@[simp]
theorem ofDocument?_document (counter : Counter) :
    ofDocument? counter.document = some counter := by
  exact ofNat?_value counter

end Counter

namespace ProjectionCounters

def document (counters : ProjectionCounters) : Document :=
  .object
    [("builds", counters.builds.document), ("failures", counters.failures.document),
      ("fields_resolved", counters.fieldsResolved.document),
      ("fields_rejected", counters.fieldsRejected.document)]

def ofDocument? (document : Document) : Option ProjectionCounters := do
  let members ← document.members?
  let builds ← members.required "builds" Counter.ofDocument?
  let failures ← members.required "failures" Counter.ofDocument?
  let fieldsResolved ← members.required "fields_resolved" Counter.ofDocument?
  let fieldsRejected ← members.required "fields_rejected" Counter.ofDocument?
  return ⟨builds, failures, fieldsResolved, fieldsRejected⟩

@[simp]
theorem ofDocument?_document (counters : ProjectionCounters) :
    ofDocument? counters.document = some counters := by
  simp [document, ofDocument?]

end ProjectionCounters

namespace Document

/-- Read an object as keyed values. -/
def entries? {κ α : Type} [DecidableEq κ] (key : String → Option κ) (read : Document → Option α)
    (document : Document) : Option (Entries κ α) :=
  (document.members?.bind fun members =>
    members.mapM fun (name, data) =>
      (key name).bind fun known => (read data).map (known, ·)).map .ofList

/-- Keyed values as an object. -/
def ofEntries {κ α : Type} (name : κ → String) (write : α → Document) (entries : Entries κ α) :
    Document :=
  .object (entries.toList.map fun (key, value) => (name key, write value))

theorem entries?_ofEntries {κ α : Type} [DecidableEq κ] {name : κ → String} {write : α → Document}
    {key : String → Option κ} {read : Document → Option α}
    (sameKey : ∀ known, key (name known) = some known)
    (sameValue : ∀ value, read (write value) = some value) (entries : Entries κ α) :
    entries? key read (ofEntries name write entries) = some entries := by
  have pairs : (entries.toList.map fun (known, value) => (name known, write value)).mapM
      (fun (given, data) => (key given).bind fun known => (read data).map (known, ·)) =
        some entries.toList := by
    induction entries.toList with
    | nil => rfl
    | cons entry rest ih => simp [sameKey, sameValue, ih]
  simp only [entries?, ofEntries, members?_object, Option.bind_some, pairs, Option.map_some,
    Entries.ofList_toList]

end Document

namespace Report

def document (report : Report) : Document :=
  .object
    [("builds_started", report.buildsStarted.document),
      ("builds_succeeded", report.buildsSucceeded.document),
      ("builds_failed", report.buildsFailed.document),
      ("fields_resolved", report.fieldsResolved.document),
      ("fields_rejected", report.fieldsRejected.document),
      ("implicit_fields", report.implicitFields.document),
      ("explicit_fields", report.explicitFields.document),
      ("computed_fields", report.computedFields.document),
      ("errors_by_code", .ofEntries ErrorCode.name Counter.document report.errorsByCode),
      ("projections", .ofEntries id ProjectionCounters.document report.projections)]

def ofDocument? (document : Document) : Option Report := do
  let members ← document.members?
  let buildsStarted ← members.required "builds_started" Counter.ofDocument?
  let buildsSucceeded ← members.required "builds_succeeded" Counter.ofDocument?
  let buildsFailed ← members.required "builds_failed" Counter.ofDocument?
  let fieldsResolved ← members.required "fields_resolved" Counter.ofDocument?
  let fieldsRejected ← members.required "fields_rejected" Counter.ofDocument?
  let implicitFields ← members.required "implicit_fields" Counter.ofDocument?
  let explicitFields ← members.required "explicit_fields" Counter.ofDocument?
  let computedFields ← members.required "computed_fields" Counter.ofDocument?
  let errorsByCode ←
    members.required "errors_by_code" (Document.entries? ErrorCode.named? Counter.ofDocument?)
  let projections ←
    members.required "projections" (Document.entries? some ProjectionCounters.ofDocument?)
  return {
    buildsStarted, buildsSucceeded, buildsFailed, fieldsResolved, fieldsRejected, implicitFields
    explicitFields, computedFields, errorsByCode, projections }

@[simp]
theorem ofDocument?_document (report : Report) :
    ofDocument? report.document = some report := by
  simp [document, ofDocument?, Document.entries?_ofEntries, ErrorCode.named?_name]

end Report

end ProjectionPlanner

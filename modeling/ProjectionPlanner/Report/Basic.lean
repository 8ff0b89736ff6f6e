import ProjectionPlanner.Build.Signal

/-! # Reports

A report counts what builds tell in their events: how many ran and how they ended, what became of
their fields, which diagnostics they gave, and the same for each target record by name. Counters
hold 64 bits and stay at their largest value once they have reached it.
-/

namespace ProjectionPlanner

/-- The number of values of a counter. -/
def counterRange : Nat := UInt64.size

/-- A number that never leaves its range. -/
structure Counter where
  value : Nat
  inRange : value < counterRange
  deriving DecidableEq

namespace Counter

def zero : Counter := ⟨0, by decide⟩

instance : Inhabited Counter := ⟨zero⟩

/-- The number as a counter, the largest value in place of a larger number. -/
def ofNat (number : Nat) : Counter :=
  ⟨min number (counterRange - 1), by
    have : 0 < counterRange := by decide
    omega⟩

/-- The number as a counter, if it is in range. -/
def ofNat? (number : Nat) : Option Counter :=
  if h : number < counterRange then some ⟨number, h⟩ else none

/-- Count on, up to the largest value. -/
def add (counter : Counter) (number : Nat) : Counter :=
  ofNat (counter.value + number)

@[simp]
theorem value_zero : zero.value = 0 := rfl

/-- Below the end of the range a counter adds as numbers do. -/
theorem value_add {counter : Counter} {number : Nat}
    (small : counter.value + number < counterRange) :
    (counter.add number).value = counter.value + number := by
  simp only [add, ofNat]
  omega

theorem ofNat?_value (counter : Counter) : ofNat? counter.value = some counter := by
  simp [ofNat?, counter.inRange]

end Counter

/-- What is counted for one target record. -/
structure ProjectionCounters where
  builds : Counter := .zero
  failures : Counter := .zero
  fieldsResolved : Counter := .zero
  fieldsRejected : Counter := .zero
  deriving DecidableEq

/-- What was counted. -/
structure Report where
  buildsStarted : Counter := .zero
  buildsSucceeded : Counter := .zero
  buildsFailed : Counter := .zero
  fieldsResolved : Counter := .zero
  fieldsRejected : Counter := .zero
  implicitFields : Counter := .zero
  explicitFields : Counter := .zero
  computedFields : Counter := .zero
  errorsByCode : Entries ErrorCode Counter := .empty
  projections : Entries String ProjectionCounters := .empty

namespace Report

/-- How often a diagnostic was given. -/
def errorsFor (report : Report) (code : ErrorCode) : Nat :=
  match report.errorsByCode.get? code with
  | some counter => counter.value
  | none => 0

/-- How many diagnostics were given. -/
def errorCount (report : Report) : Nat :=
  report.errorsByCode.values.foldr (fun counter total => counter.value + total) 0

/-- The counters of a target record; all zero if it was never seen. -/
def countersOf (report : Report) (projection : String) : ProjectionCounters :=
  (report.projections.get? projection).getD {}

/-- One more field that is mapped in this way. -/
def countMapping (report : Report) : MappingKind → Report
  | .implicit => { report with implicitFields := report.implicitFields.add 1 }
  | .explicit => { report with explicitFields := report.explicitFields.add 1 }
  | .computed => { report with computedFields := report.computedFields.add 1 }

/-- Count an event. A build without rejected fields has succeeded. -/
def count (report : Report) : BuildEvent → Report
  | .started projection _ _ =>
      let counters := report.countersOf projection
      { report with
        buildsStarted := report.buildsStarted.add 1
        projections :=
          report.projections.put projection { counters with builds := counters.builds.add 1 } }
  | .resolved _ _ kind => report.countMapping kind
  | .rejected _ _ code =>
      let counter := (report.errorsByCode.get? code).getD .zero
      { report with errorsByCode := report.errorsByCode.put code (counter.add 1) }
  | .finished projection resolved rejected =>
      let counters := report.countersOf projection
      let failed := if rejected = 0 then 0 else 1
      { report with
        buildsSucceeded := report.buildsSucceeded.add (1 - failed)
        buildsFailed := report.buildsFailed.add failed
        fieldsResolved := report.fieldsResolved.add resolved
        fieldsRejected := report.fieldsRejected.add rejected
        projections :=
          report.projections.put projection
            { counters with
              failures := counters.failures.add failed
              fieldsResolved := counters.fieldsResolved.add resolved
              fieldsRejected := counters.fieldsRejected.add rejected } }

end Report

end ProjectionPlanner

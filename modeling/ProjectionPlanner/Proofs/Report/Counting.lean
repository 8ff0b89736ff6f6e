import Mathlib.Algebra.BigOperators.Group.List.Basic
import Mathlib.Algebra.Order.BigOperators.Group.List
import Mathlib.Algebra.Order.Ring.Nat
import Mathlib.Data.List.Nodup
import ProjectionPlanner.Proofs.Build.Events
import ProjectionPlanner.Report.Basic

/-! # What events add to a report

Every number of a report grows by what each event adds to it, and stays at its largest value once
it has reached it. So a number is known from the events alone: it has been added to by their total.
The numbers kept for each target record by its name add up to those kept for all of them.
-/

namespace ProjectionPlanner

/-! ## Counters and entries -/

namespace Counter

@[simp]
theorem add_zero (counter : Counter) : counter.add 0 = counter := by
  obtain ⟨value, inRange⟩ := counter
  simp only [add, ofNat, mk.injEq]
  omega

theorem add_add (counter : Counter) (first second : Nat) :
    (counter.add first).add second = counter.add (first + second) := by
  simp only [add, ofNat, mk.injEq]
  omega

/-- A counter that was set back shows what was added since, if that is in range. -/
theorem value_zero_add {number : Nat} (small : number < counterRange) :
    (zero.add number).value = number := by
  rw [value_add (by simpa using small), value_zero, Nat.zero_add]

end Counter

namespace Entries

variable {κ α : Type} [DecidableEq κ]

theorem get?_put (entries : Entries κ α) (key : κ) (value : α) (wanted : κ) :
    (entries.put key value).get? wanted =
      if wanted = key then some value else entries.get? wanted :=
  lookup_putEntry ..

theorem mem_keys_put (entries : Entries κ α) (key : κ) (value : α) (wanted : κ) :
    wanted ∈ (entries.put key value).keys ↔ wanted ∈ entries.keys ∨ wanted = key := by
  rw [keys, toList_put, entryKeys_putEntry]
  split
  · rename_i stands
    constructor
    · exact .inl
    · rintro (known | rfl)
      · exact known
      · exact stands
  · rw [List.mem_append, List.mem_singleton]
    rfl

/-- The values are those that the keys look up. -/
theorem values_eq_map_keys (entries : Entries κ α) (fallback : α) :
    entries.values = entries.keys.map fun key => (entries.get? key).getD fallback := by
  rw [values, keys, entryKeys, List.map_map]
  refine List.map_congr_left fun entry listed => ?_
  obtain ⟨key, value⟩ := entry
  rw [Function.comp_apply, get?_eq_some_iff.mpr listed]
  rfl

end Entries

/-- What is summed up for each key by itself is the sum of all, if every item that weighs something
    has one of the keys. -/
theorem sum_by_key {α κ : Type} [DecidableEq κ] (key : α → κ) (weight : α → Nat) {keys : List κ}
    (distinct : keys.Nodup) {items : List α}
    (covered : ∀ item ∈ items, weight item ≠ 0 → key item ∈ keys) :
    (keys.map fun k => (items.map fun item => if key item = k then weight item else 0).sum).sum =
      (items.map weight).sum := by
  induction items with
  | nil => simp
  | cons item rest ih =>
      rw [List.forall_mem_cons] at covered
      have once : (keys.map fun k => if key item = k then weight item else 0).sum =
          weight item := by
        have others : ∀ k, k ≠ key item → k ∈ keys →
            (if key item = k then weight item else 0) = 0 :=
          fun k other _ => if_neg (Ne.symm other)
        rw [List.sum_map_eq_nsmul_single (key item) _ others, if_pos rfl, Nat.nsmul_eq_mul]
        by_cases weightless : weight item = 0
        · rw [weightless, Nat.mul_zero]
        · rw [List.count_eq_one_of_mem distinct (covered.1 weightless), Nat.one_mul]
      simp only [List.map_cons, List.sum_cons, List.sum_map_add, once, ih covered.2]

theorem countP_eq_sum {α : Type} (holds : α → Bool) (items : List α) :
    items.countP holds = (items.map fun item => if holds item then 1 else 0).sum := by
  induction items with
  | nil => rfl
  | cons item rest ih =>
      rw [List.countP_cons, ih, List.map_cons, List.sum_cons, Nat.add_comm]

theorem count_filterMap_eq_sum {α β : Type} [DecidableEq β] (told : α → Option β) (items : List α)
    (wanted : β) :
    (items.filterMap told).count wanted =
      (items.map fun item => if told item = some wanted then 1 else 0).sum := by
  rw [List.count_filterMap, countP_eq_sum]
  simp only [beq_iff_eq]

/-! ## Numbers of all builds -/

/-- A number that a report keeps of all builds. -/
inductive Figure where
  | started
  | succeeded
  | failed
  | resolved
  | rejected
  | mapped (kind : MappingKind)

def Report.figure (report : Report) : Figure → Counter
  | .started => report.buildsStarted
  | .succeeded => report.buildsSucceeded
  | .failed => report.buildsFailed
  | .resolved => report.fieldsResolved
  | .rejected => report.fieldsRejected
  | .mapped .implicit => report.implicitFields
  | .mapped .explicit => report.explicitFields
  | .mapped .computed => report.computedFields

/-- What an event adds to a number. -/
def BuildEvent.adds : BuildEvent → Figure → Nat
  | .started .., .started => 1
  | .finished _ _ refused, .succeeded => if refused = 0 then 1 else 0
  | .finished _ _ refused, .failed => if refused = 0 then 0 else 1
  | .finished _ mapped _, .resolved => mapped
  | .finished _ _ refused, .rejected => refused
  | .resolved _ _ kind, .mapped counted => if kind = counted then 1 else 0
  | _, _ => 0

/-- The target record whose numbers an event changes. -/
def BuildEvent.record? : BuildEvent → Option String
  | .started projection .. => some projection
  | .finished projection .. => some projection
  | _ => none

namespace Report

/-- Count events in order. -/
def countAll (report : Report) (events : List BuildEvent) : Report :=
  events.foldl count report

theorem countAll_append (report : Report) (earlier later : List BuildEvent) :
    report.countAll (earlier ++ later) = (report.countAll earlier).countAll later :=
  List.foldl_append

/-- What each event adds to a counter, events add to it in total. -/
theorem counter_countAll (counter : Report → Counter) {weight : BuildEvent → Nat}
    (step : ∀ report event, counter (report.count event) = (counter report).add (weight event))
    (report : Report) (events : List BuildEvent) :
    counter (report.countAll events) = (counter report).add (events.map weight).sum := by
  induction events generalizing report with
  | nil => exact (Counter.add_zero _).symm
  | cons event rest ih =>
      rw [countAll, List.foldl_cons, ← countAll, ih, step, Counter.add_add, List.map_cons,
        List.sum_cons]

/-- A key stands in the report if it stood there before or if an event told of it. -/
theorem mem_keys_countAll {κ : Type} (keys : Report → List κ) {told : BuildEvent → Option κ}
    (step : ∀ report event key,
      key ∈ keys (report.count event) ↔ key ∈ keys report ∨ told event = some key)
    (report : Report) (events : List BuildEvent) (key : κ) :
    key ∈ keys (report.countAll events) ↔
      key ∈ keys report ∨ ∃ event ∈ events, told event = some key := by
  induction events generalizing report with
  | nil => simp [countAll]
  | cons event rest ih =>
      rw [countAll, List.foldl_cons, ← countAll, ih, step, or_assoc]
      simp only [List.mem_cons, exists_eq_or_imp]

theorem figure_count (report : Report) (event : BuildEvent) (figure : Figure) :
    (report.count event).figure figure = (report.figure figure).add (event.adds figure) := by
  cases event with
  | started projection source fields =>
      cases figure with
      | mapped kind => cases kind <;> exact (Counter.add_zero _).symm
      | started => rfl
      | succeeded | failed | resolved | rejected => exact (Counter.add_zero _).symm
  | resolved projection field kind =>
      cases figure with
      | mapped counted =>
          cases kind <;> cases counted <;> simp [count, countMapping, figure, BuildEvent.adds]
      | started | succeeded | failed | resolved | rejected =>
          cases kind <;> exact (Counter.add_zero _).symm
  | rejected projection field code =>
      cases figure with
      | mapped kind => cases kind <;> exact (Counter.add_zero _).symm
      | started | succeeded | failed | resolved | rejected => exact (Counter.add_zero _).symm
  | finished projection resolved rejected =>
      cases figure with
      | mapped kind => cases kind <;> exact (Counter.add_zero _).symm
      | started => exact (Counter.add_zero _).symm
      | succeeded => by_cases whole : rejected = 0 <;> simp [count, figure, BuildEvent.adds, whole]
      | failed | resolved | rejected => rfl

/-- A number has been added to by the total of the events. -/
theorem figure_countAll (report : Report) (events : List BuildEvent) (figure : Figure) :
    (report.countAll events).figure figure =
      (report.figure figure).add (events.map (·.adds figure)).sum :=
  counter_countAll (·.figure figure) (fun report event => report.figure_count event figure) ..

end Report

/-! ## Numbers of one target record -/

/-- A number that is kept for each target record. -/
inductive RecordFigure where
  | builds
  | failures
  | resolved
  | rejected

/-- The same number of all builds. -/
def RecordFigure.overall : RecordFigure → Figure
  | .builds => .started
  | .failures => .failed
  | .resolved => .resolved
  | .rejected => .rejected

def ProjectionCounters.figure (counters : ProjectionCounters) : RecordFigure → Counter
  | .builds => counters.builds
  | .failures => counters.failures
  | .resolved => counters.fieldsResolved
  | .rejected => counters.fieldsRejected

namespace Report

theorem countersOf_of_put (report : Report) {after : Report} {changed : String}
    {counters : ProjectionCounters}
    (put : after.projections = report.projections.put changed counters) (name : String) :
    after.countersOf name = if name = changed then counters else report.countersOf name := by
  rw [countersOf, put, Entries.get?_put]
  split <;> rfl

/-- An event adds to the numbers of the record that it names, and to no others. -/
theorem countersOf_count (report : Report) (event : BuildEvent) (name : String)
    (figure : RecordFigure) :
    ((report.count event).countersOf name).figure figure =
      ((report.countersOf name).figure figure).add
        (if event.projection = name then event.adds figure.overall else 0) := by
  cases event with
  | started projection source fields =>
      rw [countersOf_of_put report rfl, BuildEvent.projection]
      by_cases same : name = projection
      · subst same
        rw [if_pos rfl, if_pos rfl]
        cases figure with
        | builds => rfl
        | failures | resolved | rejected => exact (Counter.add_zero _).symm
      · rw [if_neg same, if_neg (Ne.symm same), Counter.add_zero]
  | resolved projection field kind =>
      have untouched : (report.count (.resolved projection field kind)).countersOf name =
          report.countersOf name := by
        cases kind <;> rfl
      have nothing : (BuildEvent.resolved projection field kind).adds figure.overall = 0 := by
        cases figure <;> rfl
      rw [untouched, nothing, ite_self, Counter.add_zero]
  | rejected projection field code =>
      have nothing : (BuildEvent.rejected projection field code).adds figure.overall = 0 := by
        cases figure <;> rfl
      rw [nothing, ite_self, Counter.add_zero]
      rfl
  | finished projection resolved rejected =>
      rw [countersOf_of_put report rfl, BuildEvent.projection]
      by_cases same : name = projection
      · subst same
        rw [if_pos rfl, if_pos rfl]
        cases figure with
        | builds => exact (Counter.add_zero _).symm
        | failures | resolved | rejected => rfl
      · rw [if_neg same, if_neg (Ne.symm same), Counter.add_zero]

theorem countersOf_countAll (report : Report) (events : List BuildEvent) (name : String)
    (figure : RecordFigure) :
    ((report.countAll events).countersOf name).figure figure =
      ((report.countersOf name).figure figure).add
        (events.map fun event =>
          if event.projection = name then event.adds figure.overall else 0).sum :=
  counter_countAll (fun report => (report.countersOf name).figure figure)
    (fun report event => report.countersOf_count event name figure) ..

theorem mem_projections_count (report : Report) (event : BuildEvent) (name : String) :
    name ∈ (report.count event).projections.keys ↔
      name ∈ report.projections.keys ∨ event.record? = some name := by
  cases event with
  | started projection source fields | finished projection resolved rejected =>
      simp only [count, Entries.mem_keys_put, BuildEvent.record?, Option.some.injEq, eq_comm]
  | resolved projection field kind => cases kind <;> simp [count, countMapping, BuildEvent.record?]
  | rejected projection field code => simp [count, BuildEvent.record?]

theorem mem_projections_countAll (report : Report) (events : List BuildEvent) (name : String) :
    name ∈ (report.countAll events).projections.keys ↔
      name ∈ report.projections.keys ∨ ∃ event ∈ events, event.record? = some name :=
  mem_keys_countAll (·.projections.keys) mem_projections_count ..

theorem record?_of_adds {event : BuildEvent} {figure : RecordFigure}
    (counted : event.adds figure.overall ≠ 0) : event.record? = some event.projection := by
  cases event with
  | started projection source fields | finished projection resolved rejected => rfl
  | resolved projection field kind | rejected projection field code =>
      cases figure <;> exact absurd rfl counted

theorem countersOf_eq_zero (name : String) (figure : RecordFigure) :
    (({} : Report).countersOf name).figure figure = .zero := by
  cases figure <;> rfl

/-- In range, what is kept for the target records one by one adds up to what is kept for all. -/
theorem sum_projections_countAll (figure : RecordFigure) {events : List BuildEvent}
    (small : (events.map (·.adds figure.overall)).sum < counterRange) :
    ((({} : Report).countAll events).projections.values.map
        fun counters => (counters.figure figure).value).sum =
      (events.map (·.adds figure.overall)).sum := by
  have one : ∀ name, (((({} : Report).countAll events).countersOf name).figure figure).value =
      (events.map fun event =>
        if event.projection = name then event.adds figure.overall else 0).sum := by
    intro name
    rw [countersOf_countAll, countersOf_eq_zero, Counter.value_zero_add]
    refine Nat.lt_of_le_of_lt (List.sum_le_sum fun event _ => ?_) small
    split
    · exact Nat.le_refl _
    · exact Nat.zero_le _
  rw [Entries.values_eq_map_keys _ {}, List.map_map]
  refine (congrArg List.sum (List.map_congr_left fun name _ => one name)).trans ?_
  refine sum_by_key BuildEvent.projection _ (Entries.distinct _) fun event told counted => ?_
  exact (mem_projections_countAll _ _ _).mpr (.inr ⟨event, told, record?_of_adds counted⟩)

/-! ## Numbers of one code -/

theorem errorCounter_count (report : Report) (event : BuildEvent) (code : ErrorCode) :
    ((report.count event).errorsByCode.get? code).getD .zero =
      ((report.errorsByCode.get? code).getD .zero).add
        (if event.code? = some code then 1 else 0) := by
  cases event with
  | rejected projection field told =>
      simp only [count, Entries.get?_put, BuildEvent.code?, Option.some.injEq]
      by_cases same : code = told
      · subst same
        rw [if_pos rfl, if_pos rfl]
        rfl
      · rw [if_neg same, if_neg (Ne.symm same), Counter.add_zero]
  | resolved projection field kind => cases kind <;> exact (Counter.add_zero _).symm
  | started projection source fields | finished projection resolved rejected =>
      exact (Counter.add_zero _).symm

theorem errorCounter_countAll (report : Report) (events : List BuildEvent) (code : ErrorCode) :
    ((report.countAll events).errorsByCode.get? code).getD .zero =
      ((report.errorsByCode.get? code).getD .zero).add
        ((events.filterMap BuildEvent.code?).count code) := by
  rw [count_filterMap_eq_sum]
  exact counter_countAll (fun report => (report.errorsByCode.get? code).getD .zero)
    (fun report event => report.errorCounter_count event code) ..

theorem mem_errorsByCode_count (report : Report) (event : BuildEvent) (code : ErrorCode) :
    code ∈ (report.count event).errorsByCode.keys ↔
      code ∈ report.errorsByCode.keys ∨ event.code? = some code := by
  cases event with
  | rejected projection field told =>
      simp only [count, Entries.mem_keys_put, BuildEvent.code?, Option.some.injEq, eq_comm]
  | resolved projection field kind => cases kind <;> simp [count, countMapping, BuildEvent.code?]
  | started projection source fields | finished projection resolved rejected =>
      simp [count, BuildEvent.code?]

theorem mem_errorsByCode_countAll (report : Report) (events : List BuildEvent)
    (code : ErrorCode) :
    code ∈ (report.countAll events).errorsByCode.keys ↔
      code ∈ report.errorsByCode.keys ∨ code ∈ events.filterMap BuildEvent.code? := by
  rw [List.mem_filterMap]
  exact mem_keys_countAll (·.errorsByCode.keys) mem_errorsByCode_count ..

theorem errorsFor_eq (report : Report) (code : ErrorCode) :
    report.errorsFor code = ((report.errorsByCode.get? code).getD .zero).value := by
  rw [errorsFor]
  cases report.errorsByCode.get? code <;> rfl

theorem errorsFor_countAll {events : List BuildEvent} {code : ErrorCode}
    (small : (events.filterMap BuildEvent.code?).count code < counterRange) :
    (({} : Report).countAll events).errorsFor code =
      (events.filterMap BuildEvent.code?).count code := by
  have none : (({} : Report).errorsByCode.get? code).getD .zero = .zero := rfl
  rw [errorsFor_eq, errorCounter_countAll, none, Counter.value_zero_add small]

theorem errorCount_eq (report : Report) :
    report.errorCount = (report.errorsByCode.keys.map report.errorsFor).sum := by
  have total : report.errorCount = (report.errorsByCode.values.map Counter.value).sum := by
    rw [errorCount, List.sum_eq_foldr, List.foldr_map]
  rw [total, Entries.values_eq_map_keys _ .zero, List.map_map]
  exact congrArg List.sum (List.map_congr_left fun code _ => (report.errorsFor_eq code).symm)

/-- In range, the numbers of the codes add up to the number of all diagnostics. -/
theorem errorCount_countAll {events : List BuildEvent}
    (small : (events.filterMap BuildEvent.code?).length < counterRange) :
    (({} : Report).countAll events).errorCount = (events.filterMap BuildEvent.code?).length := by
  have one : ∀ code, (({} : Report).countAll events).errorsFor code =
      ((events.filterMap BuildEvent.code?).map fun told => if told = code then 1 else 0).sum := by
    intro code
    rw [errorsFor_countAll (Nat.lt_of_le_of_lt List.count_le_length small), List.count,
      countP_eq_sum]
    simp only [beq_iff_eq]
  calc (({} : Report).countAll events).errorCount
      = _ := errorCount_eq _
    _ = _ := congrArg List.sum (List.map_congr_left fun code _ => one code)
    _ = ((events.filterMap BuildEvent.code?).map fun _ => 1).sum :=
        sum_by_key id _ (Entries.distinct _) fun code told _ =>
          (mem_errorsByCode_countAll _ _ _).mpr (.inr told)
    _ = (events.filterMap BuildEvent.code?).length := by simp

end Report

end ProjectionPlanner

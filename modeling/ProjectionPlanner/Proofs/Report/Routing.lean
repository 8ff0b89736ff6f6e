import ProjectionPlanner.Proofs.Report.Trace

/-! # Where events go

A recorder has a single place for the open sink, which every scope overwrites and puts back. Here
that is compared with the picture that programs are written with: scopes lie on a stack, and an
event goes to the sink on top of it, or is counted if the stack is empty. Scopes are left in the
order in which they were opened, also when an error leaves several of them at once.
-/

namespace ProjectionPlanner

/-! ## What happens when a program runs -/

/-- One thing that happens. -/
inductive Moment where
  | opened (sink : Sink)
  /-- The innermost scope is left, at its end or because its body gave up. -/
  | closed
  | told (event : BuildEvent)
  | reset
  deriving DecidableEq

mutual

/-- What happens when an action runs, and how that ends. -/
def Action.moments : Action → List Moment × Ending
  | .build job => (job.events.map .told, .normal)
  | .reset => ([.reset], .normal)
  | .scope sink body =>
      (.opened sink :: ((Action.momentsAll body).1 ++ [.closed]), (Action.momentsAll body).2)
  | .raise => ([], .raised)
  | .guarded body => ((Action.momentsAll body).1, .normal)
termination_by structural action => action

def Action.momentsAll : List Action → List Moment × Ending
  | [] => ([], .normal)
  | action :: rest =>
      match Action.moments action with
      | (earlier, .normal) =>
          (earlier ++ (Action.momentsAll rest).1, (Action.momentsAll rest).2)
      | (earlier, .raised) => (earlier, .raised)
termination_by structural actions => actions

end

/-- Whatever is opened is left again, innermost first. -/
inductive Nested : List Moment → Prop where
  | nil : Nested []
  | told (event : BuildEvent) : Nested [.told event]
  | reset : Nested [.reset]
  | scope (sink : Sink) {inside : List Moment} (nested : Nested inside) :
      Nested (.opened sink :: (inside ++ [.closed]))
  | append {earlier later : List Moment} (first : Nested earlier) (second : Nested later) :
      Nested (earlier ++ later)

theorem nested_told (events : List BuildEvent) : Nested (events.map .told) := by
  induction events with
  | nil => exact .nil
  | cons event rest ih => exact (Nested.told event).append ih

mutual

theorem Action.nested_moments (action : Action) : Nested action.moments.1 := by
  cases action with
  | build job => exact nested_told job.events
  | reset => exact .reset
  | scope sink body => exact .scope sink (Action.nested_momentsAll body)
  | raise => exact .nil
  | guarded body => exact Action.nested_momentsAll body
termination_by sizeOf action

theorem Action.nested_momentsAll (actions : List Action) :
    Nested (Action.momentsAll actions).1 := by
  cases actions with
  | nil => exact .nil
  | cons action rest =>
      have first := Action.nested_moments action
      rw [Action.momentsAll]
      cases happened : Action.moments action with
      | mk earlier ending =>
          rw [happened] at first
          cases ending with
          | normal => exact first.append (Action.nested_momentsAll rest)
          | raised => exact first
termination_by sizeOf actions

end

/-! ## What is taken at every moment -/

/-- Something that a recorder takes: an event for one receiver, a sink or else the counters, or a
    reset. -/
inductive Receipt where
  | event (receiver : Option Sink) (event : BuildEvent)
  | reset
  deriving DecidableEq

def Recorder.accept (recorder : Recorder) : Receipt → Recorder
  | .event none event => { recorder with report := recorder.report.count event }
  | .event (some sink) event =>
      { recorder with delivered := recorder.delivered ++ [(sink, event)] }
  | .reset => recorder.reset

def Recorder.acceptAll (recorder : Recorder) (receipts : List Receipt) : Recorder :=
  receipts.foldl accept recorder

/-- The scopes that are open behind some moments, the innermost first. -/
def scopesAfter (scopes : List Sink) : List Moment → List Sink
  | [] => scopes
  | .opened sink :: rest => scopesAfter (sink :: scopes) rest
  | .closed :: rest => scopesAfter scopes.tail rest
  | .told _ :: rest => scopesAfter scopes rest
  | .reset :: rest => scopesAfter scopes rest

/-- What is taken at every moment, where some scopes are open at the beginning: an event by the
    innermost scope that is open then. -/
def receipts (scopes : List Sink) : List Moment → List Receipt
  | [] => []
  | .opened sink :: rest => receipts (sink :: scopes) rest
  | .closed :: rest => receipts scopes.tail rest
  | .told event :: rest => .event scopes.head? event :: receipts scopes rest
  | .reset :: rest => .reset :: receipts scopes rest

theorem scopesAfter_append (scopes : List Sink) (earlier later : List Moment) :
    scopesAfter scopes (earlier ++ later) = scopesAfter (scopesAfter scopes earlier) later := by
  induction earlier generalizing scopes with
  | nil => rfl
  | cons moment rest ih => cases moment <;> exact ih _

theorem receipts_append (scopes : List Sink) (earlier later : List Moment) :
    receipts scopes (earlier ++ later) =
      receipts scopes earlier ++ receipts (scopesAfter scopes earlier) later := by
  induction earlier generalizing scopes with
  | nil => rfl
  | cons moment rest ih =>
      cases moment with
      | opened sink | closed => exact ih _
      | told event | reset => exact congrArg (_ :: ·) (ih _)

theorem receipts_told (scopes : List Sink) (events : List BuildEvent) :
    receipts scopes (events.map .told) = events.map (.event scopes.head?) := by
  induction events with
  | nil => rfl
  | cons event rest ih => exact congrArg (_ :: ·) ih

theorem receipts_scope (scopes : List Sink) (sink : Sink) (inside : List Moment) :
    receipts scopes (.opened sink :: (inside ++ [.closed])) = receipts (sink :: scopes) inside := by
  rw [receipts, receipts_append]
  exact List.append_nil _

/-- Where scopes are nested, those that are open at the end are those from the beginning. -/
theorem Nested.scopesAfter_eq {moments : List Moment} (nested : Nested moments)
    (scopes : List Sink) : scopesAfter scopes moments = scopes := by
  induction nested generalizing scopes with
  | nil | told event | reset => rfl
  | scope sink _ ih =>
      rw [scopesAfter, scopesAfter_append, ih]
      rfl
  | append _ _ first second => rw [scopesAfter_append, first, second]

namespace Moment

def event? : Moment → Option BuildEvent
  | .told event => some event
  | _ => none

end Moment

namespace Receipt

def event? : Receipt → Option BuildEvent
  | .event _ told => some told
  | .reset => none

end Receipt

/-- Every event is taken once, and none that does not happen. -/
theorem filterMap_event?_receipts (scopes : List Sink) (moments : List Moment) :
    (receipts scopes moments).filterMap Receipt.event? = moments.filterMap Moment.event? := by
  induction moments generalizing scopes with
  | nil => rfl
  | cons moment rest ih =>
      cases moment with
      | opened sink | closed | reset => exact ih _
      | told event => exact congrArg (event :: ·) (ih scopes)

theorem reset_mem_receipts {scopes : List Sink} {moments : List Moment} :
    Receipt.reset ∈ receipts scopes moments ↔ Moment.reset ∈ moments := by
  induction moments generalizing scopes with
  | nil => simp [receipts]
  | cons moment rest ih => cases moment <;> simp [receipts, ih]

/-- Inside a scope nothing is counted. -/
theorem Nested.not_counted {moments : List Moment} (nested : Nested moments) (sink : Sink)
    (scopes : List Sink) (event : BuildEvent) :
    Receipt.event none event ∉ receipts (sink :: scopes) moments := by
  induction nested generalizing sink scopes with
  | nil | told _ | reset => simp [receipts]
  | scope inner _ ih =>
      rw [receipts_scope]
      exact ih inner (sink :: scopes)
  | append first _ firstIh secondIh =>
      rw [receipts_append, first.scopesAfter_eq, List.mem_append, not_or]
      exact ⟨firstIh sink scopes, secondIh sink scopes⟩

namespace Recorder

variable (recorder : Recorder)

theorem acceptAll_append (earlier later : List Receipt) :
    recorder.acceptAll (earlier ++ later) = (recorder.acceptAll earlier).acceptAll later :=
  List.foldl_append

theorem report_acceptAll_of_not_counted {receipts : List Receipt}
    (uncounted : ∀ event, Receipt.event none event ∉ receipts) :
    (recorder.acceptAll receipts).report =
      if Receipt.reset ∈ receipts then {} else recorder.report := by
  induction receipts generalizing recorder with
  | nil => rfl
  | cons receipt rest ih =>
      have later : ∀ event, Receipt.event none event ∉ rest :=
        fun event listed => uncounted event (List.mem_cons_of_mem _ listed)
      rw [acceptAll, List.foldl_cons, ← acceptAll, ih _ later]
      cases receipt with
      | event receiver event =>
          cases receiver with
          | none => exact absurd List.mem_cons_self (uncounted event)
          | some sink => simp [accept]
      | reset => simp [accept, reset]

theorem acceptAll_counted (events : List BuildEvent) :
    recorder.acceptAll (events.map (.event none)) =
      { recorder with report := recorder.report.countAll events } := by
  induction events generalizing recorder with
  | nil => rfl
  | cons event rest ih => exact ih _

theorem acceptAll_delivered (sink : Sink) (events : List BuildEvent) :
    recorder.acceptAll (events.map (.event (some sink))) =
      { recorder with delivered := recorder.delivered ++ events.map (sink, ·) } := by
  induction events generalizing recorder with
  | nil => simp [acceptAll]
  | cons event rest ih =>
      refine (ih (recorder.accept (.event (some sink) event))).trans ?_
      simp [accept]

end Recorder

/-! ## A run takes what its moments bring -/

def Step.receipts : Step → List Receipt
  | .build sink job => job.events.map (.event sink)
  | .reset => [.reset]

theorem Recorder.play_eq_acceptAll (recorder : Recorder) (steps : List Step) :
    recorder.play steps = recorder.acceptAll (steps.flatMap Step.receipts) := by
  induction steps generalizing recorder with
  | nil => rfl
  | cons step rest ih =>
      have one : recorder.take step = recorder.acceptAll step.receipts := by
        cases step with
        | build sink job =>
            cases sink with
            | none => exact (recorder.acceptAll_counted job.events).symm
            | some sink => exact (recorder.acceptAll_delivered sink job.events).symm
        | reset => rfl
      rw [List.flatMap_cons, acceptAll_append, ← one, ← ih]
      rfl

mutual

/-- The sink that a trace notes with a build is the top of the stack. -/
theorem Action.trace_eq_moments (scopes : List Sink) (action : Action) :
    (action.trace scopes.head?).1.flatMap Step.receipts = receipts scopes action.moments.1 ∧
      (action.trace scopes.head?).2 = action.moments.2 := by
  cases action with
  | build job =>
      refine ⟨?_, rfl⟩
      rw [Action.moments, receipts_told]
      exact List.append_nil _
  | reset => exact ⟨rfl, rfl⟩
  | raise => exact ⟨rfl, rfl⟩
  | scope sink body =>
      rw [Action.moments, receipts_scope]
      exact Action.traceAll_eq_moments (sink :: scopes) body
  | guarded body => exact ⟨(Action.traceAll_eq_moments scopes body).1, rfl⟩
termination_by sizeOf action

theorem Action.traceAll_eq_moments (scopes : List Sink) (actions : List Action) :
    (Action.traceAll scopes.head? actions).1.flatMap Step.receipts =
        receipts scopes (Action.momentsAll actions).1 ∧
      (Action.traceAll scopes.head? actions).2 = (Action.momentsAll actions).2 := by
  cases actions with
  | nil => exact ⟨rfl, rfl⟩
  | cons action rest =>
      obtain ⟨sameSteps, sameEnding⟩ := Action.trace_eq_moments scopes action
      have nested := Action.nested_moments action
      rw [Action.traceAll, Action.momentsAll]
      cases done : Action.trace scopes.head? action with
      | mk steps ending =>
          cases happened : Action.moments action with
          | mk earlier otherEnding =>
              rw [done, happened] at sameSteps sameEnding
              rw [happened] at nested
              cases sameEnding
              cases ending with
              | raised => exact ⟨sameSteps, rfl⟩
              | normal =>
                  -- The scopes of the first action are left before the others begin.
                  obtain ⟨restSteps, restEnding⟩ := Action.traceAll_eq_moments scopes rest
                  refine ⟨?_, restEnding⟩
                  dsimp only at sameSteps ⊢
                  rw [List.flatMap_append, receipts_append, nested.scopesAfter_eq, sameSteps,
                    restSteps]
termination_by sizeOf actions

end

theorem Action.run_eq_acceptAll (recorder : Recorder) (action : Action) :
    action.run recorder =
      (recorder.acceptAll (receipts recorder.active.toList action.moments.1),
        action.moments.2) := by
  obtain ⟨sameSteps, sameEnding⟩ := Action.trace_eq_moments recorder.active.toList action
  rw [Option.head?_toList] at sameSteps sameEnding
  rw [Action.run_eq_play, Recorder.play_eq_acceptAll, sameSteps, sameEnding]

theorem Action.runAll_eq_acceptAll (recorder : Recorder) (actions : List Action) :
    Action.runAll recorder actions =
      (recorder.acceptAll (receipts recorder.active.toList (Action.momentsAll actions).1),
        (Action.momentsAll actions).2) := by
  obtain ⟨sameSteps, sameEnding⟩ := Action.traceAll_eq_moments recorder.active.toList actions
  rw [Option.head?_toList] at sameSteps sameEnding
  rw [Action.runAll_eq_play, Recorder.play_eq_acceptAll, sameSteps, sameEnding]

theorem Action.active_runAll (recorder : Recorder) (actions : List Action) :
    (Action.runAll recorder actions).1.active = recorder.active := by
  rw [Action.runAll_eq_play]
  exact recorder.active_play _

theorem Action.report_scope (recorder : Recorder) (sink : Sink) (body : List Action) :
    (Action.run recorder (.scope sink body)).1.report =
      if Moment.reset ∈ (Action.momentsAll body).1 then {} else recorder.report := by
  have uncounted := (Action.nested_momentsAll body).not_counted sink recorder.active.toList
  rw [Action.run_eq_acceptAll, Action.moments, receipts_scope,
    recorder.report_acceptAll_of_not_counted uncounted]
  simp only [reset_mem_receipts]

/-- A program hands every event to one receiver: the sink of the innermost scope that is open at
    that moment, or the counters if none is. However a scope is left, the sink from before it is
    open again. So it changes the report by the resets inside it alone, and what comes later takes
    the same way as if the scope had not been. -/
theorem events_reach_innermost_scope (recorder : Recorder) :
    (∀ actions,
      Action.runAll recorder actions =
          (recorder.acceptAll (receipts recorder.active.toList (Action.momentsAll actions).1),
            (Action.momentsAll actions).2) ∧
        (receipts recorder.active.toList (Action.momentsAll actions).1).filterMap
            Receipt.event? =
          (Action.momentsAll actions).1.filterMap Moment.event? ∧
        (Action.runAll recorder actions).1.active = recorder.active) ∧
    ∀ sink body,
      let after := (Action.run recorder (.scope sink body)).1
      after.active = recorder.active ∧
        after.report =
          (if Moment.reset ∈ (Action.momentsAll body).1 then {} else recorder.report) ∧
        ∀ rest, ∃ taken,
          (Action.runAll after rest).1 = after.acceptAll taken ∧
            (Action.runAll recorder rest).1 = recorder.acceptAll taken := by
  refine ⟨fun actions => ⟨Action.runAll_eq_acceptAll recorder actions,
    filterMap_event?_receipts _ _, Action.active_runAll recorder actions⟩, ?_⟩
  intro sink body after
  have restored : after.active = recorder.active := rfl
  refine ⟨restored, Action.report_scope recorder sink body, fun rest => ?_⟩
  refine ⟨receipts recorder.active.toList (Action.momentsAll rest).1, ?_, ?_⟩
  · rw [← restored, Action.runAll_eq_acceptAll]
  · rw [Action.runAll_eq_acceptAll]

end ProjectionPlanner

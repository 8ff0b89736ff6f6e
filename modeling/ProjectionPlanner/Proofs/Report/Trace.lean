import Mathlib.Data.List.DropRight
import ProjectionPlanner.Proofs.Report.Counting
import ProjectionPlanner.Report.Recorder

/-! # Traces of programs

A program nests its scopes, and it may give up in the middle of them. Its trace is flat: what was
really done, one step after the other, every build with the sink of the innermost scope around it.
A recorder that runs the program ends up as one that plays the trace, so that a statement about all
programs is a statement about lists of steps.
-/

namespace ProjectionPlanner

/-- What a program did: a build, with the innermost sink that was open, or a reset. -/
inductive Step where
  | build (sink : Option Sink) (job : Build)
  | reset

mutual

/-- What is done by an action inside a scope, or outside every scope, and how that ends. -/
def Action.trace (sink : Option Sink) : Action → List Step × Ending
  | .build job => ([.build sink job], .normal)
  | .reset => ([.reset], .normal)
  | .scope inner body => Action.traceAll (some inner) body
  | .raise => ([], .raised)
  | .guarded body => ((Action.traceAll sink body).1, .normal)
termination_by structural action => action

def Action.traceAll (sink : Option Sink) : List Action → List Step × Ending
  | [] => ([], .normal)
  | action :: rest =>
      match Action.trace sink action with
      | (steps, .normal) =>
          (steps ++ (Action.traceAll sink rest).1, (Action.traceAll sink rest).2)
      | (steps, .raised) => (steps, .raised)
termination_by structural actions => actions

end

namespace Recorder

/-- Take all events of a build for the sink that is noted with it, whichever is open. -/
def take (recorder : Recorder) : Step → Recorder
  | .build none job => { recorder with report := recorder.report.countAll job.events }
  | .build (some sink) job =>
      { recorder with delivered := recorder.delivered ++ job.events.map (sink, ·) }
  | .reset => recorder.reset

def play (recorder : Recorder) (steps : List Step) : Recorder :=
  steps.foldl take recorder

variable (recorder : Recorder)

theorem play_append (earlier later : List Step) :
    recorder.play (earlier ++ later) = (recorder.play earlier).play later :=
  List.foldl_append

theorem active_take (step : Step) : (recorder.take step).active = recorder.active := by
  cases step with
  | build sink job => cases sink <;> rfl
  | reset => rfl

theorem active_play (steps : List Step) : (recorder.play steps).active = recorder.active := by
  induction steps generalizing recorder with
  | nil => rfl
  | cons step rest ih =>
      rw [play, List.foldl_cons, ← play, ih, active_take]

/-- Which sink is open plays no part in a trace, since every build has its own noted. -/
theorem play_active (sink : Option Sink) (steps : List Step) :
    ({ recorder with active := sink }).play steps =
      { recorder.play steps with active := sink } := by
  induction steps generalizing recorder with
  | nil => rfl
  | cons step rest ih =>
      have one : ({ recorder with active := sink }).take step =
          { recorder.take step with active := sink } := by
        cases step with
        | build noted job => cases noted <;> rfl
        | reset => rfl
      simp only [play, List.foldl_cons] at ih ⊢
      rw [one, ih]

theorem recordAll_outside (outside : recorder.active = none) (events : List BuildEvent) :
    recorder.recordAll events = { recorder with report := recorder.report.countAll events } := by
  induction events generalizing recorder with
  | nil => rfl
  | cons event rest ih =>
      have one : recorder.record event =
          { recorder with report := recorder.report.count event } := by
        rw [record, outside]
      rw [recordAll, List.foldl_cons, ← recordAll, one]
      exact ih _ outside

theorem recordAll_inside {sink : Sink} (inside : recorder.active = some sink)
    (events : List BuildEvent) :
    recorder.recordAll events =
      { recorder with delivered := recorder.delivered ++ events.map (sink, ·) } := by
  induction events generalizing recorder with
  | nil => simp [recordAll]
  | cons event rest ih =>
      have one : recorder.record event =
          { recorder with delivered := recorder.delivered ++ [(sink, event)] } := by
        rw [record, inside]
      have others := ih { recorder with delivered := recorder.delivered ++ [(sink, event)] } inside
      rw [recordAll, List.foldl_cons, ← recordAll, one, others, List.append_assoc]
      rfl

theorem runBuild_eq_take (job : Build) :
    recorder.runBuild job = recorder.take (.build recorder.active job) := by
  cases status : recorder.active with
  | none => exact recorder.recordAll_outside status job.events
  | some sink => exact recorder.recordAll_inside status job.events

end Recorder

/-! ## A run plays its trace -/

mutual

theorem Action.run_eq_play (recorder : Recorder) (action : Action) :
    action.run recorder =
      (recorder.play (action.trace recorder.active).1, (action.trace recorder.active).2) := by
  cases action with
  | build job => exact congrArg (·, Ending.normal) (recorder.runBuild_eq_take job)
  | reset => rfl
  | raise => rfl
  | scope sink body =>
      -- The body begins with another sink open than the trace, which does not matter to what is
      -- played, and afterwards the one from before is put back.
      rw [Action.run, Recorder.within, Action.runAll_eq_play, Recorder.play_active, Action.trace]
      have kept := recorder.active_play (Action.traceAll (some sink) body).1
      rw [← kept]
  | guarded body => rw [Action.run, Action.runAll_eq_play, Action.trace]
termination_by sizeOf action

theorem Action.runAll_eq_play (recorder : Recorder) (actions : List Action) :
    Action.runAll recorder actions =
      (recorder.play (Action.traceAll recorder.active actions).1,
        (Action.traceAll recorder.active actions).2) := by
  cases actions with
  | nil => rfl
  | cons action rest =>
      rw [Action.runAll, Action.run_eq_play, Action.traceAll]
      cases whole : Action.trace recorder.active action with
      | mk steps ending =>
          cases ending with
          | normal =>
              dsimp only
              rw [Action.runAll_eq_play, Recorder.active_play, Recorder.play_append]
          | raised => rfl
termination_by sizeOf actions

end

/-! ## What stands in the report -/

namespace Step

def isReset : Step → Bool
  | .reset => true
  | .build .. => false

/-- The build, if it was outside every scope. -/
def unscoped? : Step → Option Build
  | .build none job => some job
  | _ => none

end Step

/-- The builds of a trace since its last reset that were outside every scope. -/
def booked (steps : List Step) : List Build :=
  (steps.rtakeWhile fun step => !step.isReset).filterMap Step.unscoped?

theorem booked_concat_reset (steps : List Step) : booked (steps ++ [.reset]) = [] := by
  rw [booked, List.rtakeWhile_concat_neg _ _ _ (by simp [Step.isReset])]
  rfl

theorem booked_concat_build (steps : List Step) (sink : Option Sink) (job : Build) :
    booked (steps ++ [.build sink job]) =
      booked steps ++ (Step.unscoped? (.build sink job)).toList := by
  rw [booked, List.rtakeWhile_concat_pos _ _ _ rfl, List.filterMap_append, ← booked]
  cases sink <;> rfl

/-- From counters that are all zero, a trace counts the events of the booked builds and no
    others. -/
theorem report_play (recorder : Recorder) (steps : List Step) :
    (recorder.reset.play steps).report =
      ({} : Report).countAll ((booked steps).flatMap Build.events) := by
  induction steps using List.reverseRecOn with
  | nil => rfl
  | append_singleton steps step ih =>
      rw [Recorder.play_append]
      cases step with
      | reset =>
          rw [booked_concat_reset]
          rfl
      | build sink job =>
          rw [booked_concat_build]
          cases sink with
          | none =>
              rw [List.flatMap_append, Report.countAll_append, ← ih]
              simp [Recorder.play, Recorder.take, Step.unscoped?]
          | some sink =>
              simpa [Recorder.play, Recorder.take, Step.unscoped?] using ih

end ProjectionPlanner

import ProjectionPlanner.Build.Outcome
import ProjectionPlanner.Report.Basic

/-! # Recorders

A recorder takes the events of builds. As long as no sink is open it counts them; inside a scope
they go to the sink of the scope instead, and to no other. A scope ends in the state in which it
began: whichever sink was open before it is open again after it, also when the scope is left by an
error that nothing inside it catches.
-/

namespace ProjectionPlanner

/-- The label of a sink. Two scopes may use one sink. -/
abbrev Sink := Nat

/-- The counters, the open sink, and what was delivered to sinks so far. -/
structure Recorder where
  report : Report := {}
  active : Option Sink := none
  delivered : List (Sink × BuildEvent) := []

namespace Recorder

/-- Take one event. -/
def record (recorder : Recorder) (event : BuildEvent) : Recorder :=
  match recorder.active with
  | none => { recorder with report := recorder.report.count event }
  | some sink => { recorder with delivered := recorder.delivered ++ [(sink, event)] }

/-- Take events in order. -/
def recordAll (recorder : Recorder) (events : List BuildEvent) : Recorder :=
  events.foldl record recorder

/-- Take the events of a build. -/
def runBuild (recorder : Recorder) (build : Build) : Recorder :=
  recorder.recordAll build.events

/-- Set all counters back. The open sink and what was delivered stay. -/
def reset (recorder : Recorder) : Recorder :=
  { recorder with report := {} }

/-- Run a part of a program with a sink open, and put back the sink that was open before. -/
def within {α : Type} (recorder : Recorder) (sink : Sink) (body : Recorder → Recorder × α) :
    Recorder × α :=
  let (after, value) := body { recorder with active := some sink }
  ({ after with active := recorder.active }, value)

/-- What was delivered to a sink, in order. -/
def deliveredTo (recorder : Recorder) (sink : Sink) : List BuildEvent :=
  recorder.delivered.filterMap fun (receiver, event) =>
    if receiver = sink then some event else none

end Recorder

/-- A step of a program that builds, resets the counters, and opens scopes. -/
inductive Action where
  | build (job : Build)
  | reset
  /-- Run the steps with a sink open. -/
  | scope (sink : Sink) (body : List Action)
  /-- Give up, as far as the nearest `guarded` around this step. -/
  | raise
  /-- Run the steps, and go on behind them even if they give up. -/
  | guarded (body : List Action)

/-- How some steps ended. -/
inductive Ending where
  | normal
  /-- They gave up, and nothing caught that. -/
  | raised
  deriving DecidableEq, Repr

mutual

/-- Run one step. -/
def Action.run (recorder : Recorder) : Action → Recorder × Ending
  | .build job => (recorder.runBuild job, .normal)
  | .reset => (recorder.reset, .normal)
  | .scope sink body => recorder.within sink fun inside => Action.runAll inside body
  | .raise => (recorder, .raised)
  | .guarded body => ((Action.runAll recorder body).1, .normal)
termination_by structural action => action

/-- Run steps one after the other, as far as none gives up. -/
def Action.runAll (recorder : Recorder) : List Action → Recorder × Ending
  | [] => (recorder, .normal)
  | action :: rest =>
      match Action.run recorder action with
      | (after, .normal) => Action.runAll after rest
      | (after, .raised) => (after, .raised)
termination_by structural actions => actions

end

end ProjectionPlanner

import ProjectionPlanner.Proofs.Path.Walk

/-! # Following a path in a loop

The names of a path can also be gone through in a loop, which carries along what it has met and
learns the type at the end when it comes to the last name. Such a loop needs an answer for the case
that it ends without that type. Whatever this answer is, the loop gives what the recursion gives: a
path has at least one name, and so the case does not arise.
-/

namespace ProjectionPlanner

namespace Path

/-- What a loop over the names of a path carries from one round to the next. -/
structure Progress where
  here : ElementKind
  segments : List Segment := []
  /-- Not known before the last name. -/
  terminalType : Option ValueType := none
  hops : Nat := 0

namespace Progress

/-- One round, for a name that stands behind those passed. -/
def step (path : String) (passed : List String) (progress : Progress) (name : String)
    (isLast : Bool) : Except PathError Progress :=
  (fieldOn path passed progress.here name).bind fun field =>
    let (element, layers) := field.kind.element
    if layers != 0 && isLast then
      .error (.endsOnCollection path name)
    else
      .ok
        { here := element
          segments := progress.segments ++ [Segment.ofField progress.here field]
          terminalType := if isLast then some element.valueType else progress.terminalType
          hops := progress.hops + layers }

/-- The rounds for all names. -/
def run (path : String) (passed : List String) (progress : Progress) :
    List String → Except PathError Progress
  | [] => .ok progress
  | name :: rest =>
      (progress.step path passed name rest.isEmpty).bind fun next =>
        next.run path (passed ++ [name]) rest

/-- What is known after the last round, or the fallback if the type at the end is not. -/
def finish (fallback : PathError) (progress : Progress) : Except PathError Walk :=
  match progress.terminalType with
  | some terminalType => .ok ⟨progress.segments, terminalType, progress.hops⟩
  | none => .error fallback

/-- The rest of a walk, put behind what was met before. -/
def before (progress : Progress) (walk : Walk) : Walk :=
  ⟨progress.segments ++ walk.segments, walk.terminalType, progress.hops + walk.hops⟩

variable {path name : String} {passed : List String} {progress : Progress} {field : SourceField}

theorem step_of_undeclared {isLast : Bool} (undeclared : progress.here.field? name = none) :
    progress.step path passed name isLast =
      .error (.notFound path name progress.here.typeName (Text.join "." passed)) := by
  rw [step, fieldOn_of_undeclared undeclared]
  rfl

/-- Before the last name a round goes on, and the type at the end stays open. -/
theorem step_of_declared (declared : progress.here.field? name = some field) :
    progress.step path passed name false =
      .ok
        ⟨field.kind.element.1, progress.segments ++ [Segment.ofField progress.here field],
          progress.terminalType, progress.hops + field.kind.element.2⟩ := by
  simp [step, fieldOn_of_declared declared, Except.bind]

theorem step_of_last (declared : progress.here.field? name = some field) :
    progress.step path passed name true =
      if field.kind.element.2 = 0 then
        .ok
          ⟨field.kind.element.1, progress.segments ++ [Segment.ofField progress.here field],
            some field.kind.element.1.valueType, progress.hops⟩
      else .error (.endsOnCollection path name) := by
  simp only [step, fieldOn_of_declared declared, Except.bind]
  by_cases single : field.kind.element.2 = 0 <;> simp [single]

/-- From anywhere on, the rounds give what following the path gives from there. -/
theorem finish_run (fallback : PathError) (progress : Progress) (passed : List String)
    (name : String) (rest : List String) :
    (progress.run path passed (name :: rest)).bind (finish fallback) =
      (follow path passed progress.here name rest).map progress.before := by
  induction rest generalizing progress passed name with
  | nil =>
      cases declared : progress.here.field? name with
      | none =>
          rw [run, List.isEmpty_nil, step_of_undeclared declared, follow,
            fieldOn_of_undeclared declared]
          rfl
      | some field =>
          rw [run, List.isEmpty_nil, step_of_last declared, follow, fieldOn_of_declared declared]
          simp only [Except.bind]
          by_cases single : field.kind.element.2 = 0
          · rw [if_pos single, if_pos single]
            rfl
          · rw [if_neg single, if_neg single]
            rfl
  | cons next rest ih =>
      cases declared : progress.here.field? name with
      | none =>
          rw [run, step_of_undeclared declared, follow, fieldOn_of_undeclared declared]
          rfl
      | some field =>
          have onward := ih
            ⟨field.kind.element.1, progress.segments ++ [Segment.ofField progress.here field],
              progress.terminalType, progress.hops + field.kind.element.2⟩ (passed ++ [name]) next
          rw [run, List.isEmpty_cons, step_of_declared declared, follow,
            fieldOn_of_declared declared]
          refine onward.trans ?_
          simp only [Except.bind]
          cases follow path (passed ++ [name]) field.kind.element.1 next rest with
          | error error => rfl
          | ok walk => simp [Except.map, before, Walk.after, Nat.add_assoc]

end Progress

end Path

namespace SourceType

/-- Follow a path in a loop. The fallback is answered if the loop ends without a type. -/
def resolveInLoop (source : SourceType) (fallback : PathError) (path : String) :
    Except PathError ResolvedPath :=
  let names := Path.segments path
  if "" ∈ names then
    .error (.emptySegment path)
  else
    ((Path.Progress.run path [] { here := .object source } names).bind
      (Path.Progress.finish fallback)).map (Path.Walk.resolved path)

/-- The loop never answers the fallback on its own account: it gives what the recursion gives. -/
theorem resolveInLoop_eq (source : SourceType) (fallback : PathError) (path : String) :
    source.resolveInLoop fallback path = source.resolve path := by
  cases names : Path.segments path with
  | nil => exact absurd names (Text.pieces_ne_nil _ _)
  | cons first rest =>
      simp only [resolveInLoop, resolve, names]
      split
      · rfl
      · rw [Path.Progress.finish_run]
        cases Path.follow path [] (.object source) first rest with
        | error error => rfl
        | ok walk => simp [Except.map, Path.Progress.before, Path.Walk.resolved]

end SourceType

end ProjectionPlanner

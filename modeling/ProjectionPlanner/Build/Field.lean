import ProjectionPlanner.Diagnostic
import ProjectionPlanner.Plan.Basic
import ProjectionPlanner.Settings

/-! # Planning one target field

Everything a build needs is given at its start, and a target field is planned from that alone: no
field sees what became of another. A copied field is looked up and its type checked. A computed
field goes through stages, each of which needs what the one before it found: the roots of its
dependencies, their paths, their reducers, the method that computes it, and the transformation.
-/

namespace ProjectionPlanner

/-- What a build is given. -/
structure Build where
  settings : Settings := {}
  source : SourceType
  declaration : Declaration
  registry : Registry := {}

/-- The outcome of a step that may search for methods, and what the searches noted. -/
structure Stage (α : Type) where
  result : Except Rejection α
  lines : List ScanLine := []

namespace Build

/-! ## Copied fields -/

/-- Refuse a copy whose type does not fit, unless copies are not checked. -/
def checkProjected (build : Build) (target : TargetField) (found : ValueType) :
    Except Rejection Unit :=
  if build.settings.checkProjectedTypes &&
      !found.isAssignableTo build.settings.numericWidening target.type then
    .error (.single (.typeMismatch target.type found))
  else
    .ok ()

/-- The source field of the same name, as a whole. A collection may be copied so, since no field
    of its elements is chosen. -/
def implicit (build : Build) (target : TargetField) : Except Rejection FieldMapping :=
  match build.source.field? target.name with
  | none => .error (.single (.path (.notFound target.name target.name build.source.name "")))
  | some field =>
      (build.checkProjected target field.kind.valueType).map fun _ =>
        .implicit field.name field.kind.valueType field.nullable

/-- What is found at a path. -/
def explicit (build : Build) (target : TargetField) (path : String) :
    Except Rejection FieldMapping :=
  match build.source.resolve path with
  | .error error => .error (.single (.path error))
  | .ok resolved =>
      (build.checkProjected target resolved.valueType).map fun _ => .explicit resolved

/-! ## The stages of a computed field -/

/-- A dependency that starts at another computed field. One that starts at the field itself is
    looked up in the source, like any other. -/
def circularity? (build : Build) (target : TargetField) (dependency : String) :
    Option PlanErrorKind :=
  let root := Path.root dependency
  if root != target.name && build.declaration.isComputed root then
    some (.circularDependency dependency root)
  else
    none

/-- First stage: no dependency starts at another computed field. -/
def checkRoots (build : Build) (target : TargetField) (dependsOn : List String) :
    Except Rejection Unit :=
  Rejection.whenNone (dependsOn.filterMap (build.circularity? target)) ()

/-- The error of a path that leads nowhere. -/
def pathError? (build : Build) (path : String) : Option PlanErrorKind :=
  match build.source.resolve path with
  | .ok _ => none
  | .error error => some (.path error)

/-- Second stage: every dependency leads somewhere. -/
def resolveDependencies (build : Build) (dependsOn : List String) :
    Except Rejection (List ResolvedPath) :=
  Rejection.whenNone (dependsOn.filterMap build.pathError?)
    (dependsOn.filterMap fun path => (build.source.resolve path).toOption)

/-- A dependency after its reducer was bound. -/
structure Argument where
  type : ValueType
  binding : Option ReducerBinding
  deriving DecidableEq, Repr

/-- Bind reducers to the dependencies that cross collections, from left to right; the others are
    taken as they are. Positions are counted from `index`. -/
def bindReducers (index : Nat) : List ResolvedPath → List Reducer →
    List (Except PlanErrorKind Argument)
  | [], _ => []
  | dependency :: rest, reducers =>
      if dependency.traversesCollection then
        match reducers with
        | [] => bindReducers (index + 1) rest []
        | reducer :: later =>
            (match reducer.outputType dependency.terminalType with
              | .ok type => .ok ⟨type, some ⟨index, dependency.path, reducer, type⟩⟩
              | .error error => .error (.reducer error)) :: bindReducers (index + 1) rest later
      else
        .ok ⟨dependency.terminalType, none⟩ :: bindReducers (index + 1) rest reducers

/-- The error of an argument that has no reducer of its kind. -/
def argumentError? : Except PlanErrorKind Argument → Option PlanErrorKind
  | .ok _ => none
  | .error error => some error

/-- Third and fourth stage: there is one reducer for each dependency that crosses collections, and
    each makes sense for its values. -/
def reduceDependencies (dependencies : List ResolvedPath) (reducers : List Reducer) :
    Except Rejection (List Argument) :=
  let crossing := (dependencies.filter (·.traversesCollection)).length
  if crossing != reducers.length then
    .error (.single (.reducerCountMismatch crossing reducers.length))
  else
    let arguments := bindReducers 0 dependencies reducers
    Rejection.whenNone (arguments.filterMap argumentError?) (arguments.filterMap Except.toOption)

/-- What the computing method has to be. Its return type matters only if nothing transforms the
    value afterwards. -/
def computeQuery (build : Build) (target : TargetField) (computation : Computation)
    (params : List ValueType) : MethodQuery where
  ref := computation.override?
  convention := some (build.settings.methodName target.name)
  params := params
  returns := if computation.transformedBy.isSome then .any else .assignableTo target.type
  widening := build.settings.numericWidening

/-- The single reduced argument may stand in for a computing method: when the settings allow it,
    the field names no method, and the value fits or is transformed afterwards. -/
def identity? (build : Build) (target : TargetField) (computation : Computation)
    (dependencies : List ResolvedPath) (params : List ValueType) : Option ComputeStep :=
  match dependencies, params with
  | [dependency], [type] =>
      if build.settings.identityReduction && computation.override?.isNone &&
          dependency.traversesCollection &&
          (computation.transformedBy.isSome ||
            type.isAssignableTo build.settings.numericWidening target.type) then
        some (.identity type)
      else
        none
  | _, _ => none

/-- Fifth stage: a method computes the field, or its argument stands in for one that is missing. -/
def computeStep (build : Build) (target : TargetField) (computation : Computation)
    (dependencies : List ResolvedPath) (params : List ValueType) : Stage ComputeStep :=
  let lookup := build.registry.search (build.computeQuery target computation params)
  match lookup.result with
  | .ok method => ⟨.ok (.invoke method), lookup.lines⟩
  | .error (.notFound expected searched nearMisses) =>
      match build.identity? target computation dependencies params with
      | some step => ⟨.ok step, lookup.lines⟩
      | none => ⟨.error (.single (.method (.notFound expected searched nearMisses))), lookup.lines⟩
  | .error error => ⟨.error (.single (.method error)), lookup.lines⟩

/-- What the transformation has to be: named by the reference alone, stateless, and taking exactly
    what was computed. -/
def transformQuery (build : Build) (target : TargetField) (ref : MethodRef) (input : ValueType) :
    MethodQuery where
  ref := some ref
  params := [input]
  returns := .assignableTo target.type
  receivers := .statelessOnly
  widening := build.settings.numericWidening

/-- Last stage: a method transforms what was computed. When none is found, a second search finds
    out whether one that needs an instance would have fitted. -/
def transformStep (build : Build) (target : TargetField) (ref : MethodRef) (input : ValueType) :
    Stage ResolvedMethod :=
  let query := build.transformQuery target ref input
  let lookup := build.registry.search query
  match lookup.result with
  | .ok method => ⟨.ok method, lookup.lines⟩
  | .error .nameRequired => ⟨.error (.single .transformationNameRequired), lookup.lines⟩
  | .error (.notFound expected searched nearMisses) =>
      let second := build.registry.search { query with receivers := .instanceOnly }
      match second.result with
      | .ok method =>
          ⟨.error (.single (.transformationMustBeStateless method.provider method.signature.name)),
            lookup.lines ++ second.lines⟩
      | .error _ =>
          ⟨.error (.single (.method (.notFound expected searched nearMisses))),
            lookup.lines ++ second.lines⟩
  | .error error => ⟨.error (.single (.method error)), lookup.lines⟩

/-- The transformation of a computed field, if it has one. -/
def transform? (build : Build) (target : TargetField) (input : ValueType) :
    Option MethodRef → Stage (Option ResolvedMethod)
  | none => ⟨.ok none, []⟩
  | some ref =>
      let stage := build.transformStep target ref input
      ⟨stage.result.map some, stage.lines⟩

/-- The searches of a computed field, whose arguments are known. -/
def methods (build : Build) (target : TargetField) (computation : Computation)
    (dependencies : List ResolvedPath) (arguments : List Argument) : Stage FieldMapping :=
  let params := arguments.map (·.type)
  let compute := build.computeStep target computation dependencies params
  match compute.result with
  | .error rejection => ⟨.error rejection, compute.lines⟩
  | .ok step =>
      let transform := build.transform? target step.returns computation.transformedBy
      { result := transform.result.map fun method =>
          .computed
            { dependencies
              parameterTypes := params
              compute := step
              transform := method
              reducers := arguments.filterMap (·.binding) }
        lines := compute.lines ++ transform.lines }

/-- The dependencies of a computed field and its arguments. -/
def arguments (build : Build) (target : TargetField) (computation : Computation) :
    Except Rejection (List ResolvedPath × List Argument) :=
  (build.checkRoots target computation.dependsOn).bind fun _ =>
    (build.resolveDependencies computation.dependsOn).bind fun dependencies =>
      (reduceDependencies dependencies computation.reducers).map fun arguments =>
        (dependencies, arguments)

/-- A computed field, stage by stage. -/
def computed (build : Build) (target : TargetField) (computation : Computation) :
    Stage FieldMapping :=
  match build.arguments target computation with
  | .error rejection => ⟨.error rejection, []⟩
  | .ok (dependencies, arguments) => build.methods target computation dependencies arguments

/-- Plan one target field by its directive. -/
def run (build : Build) (target : TargetField) : Stage FieldMapping :=
  match target.directive with
  | .implicit => ⟨build.implicit target, []⟩
  | .explicit path => ⟨build.explicit target path, []⟩
  | .computed computation => build.computed target computation

end Build

end ProjectionPlanner

import ProjectionPlanner.Path
import ProjectionPlanner.Search

/-! # Plans

A plan says, for every field of a target record, how its value is taken from the source: copied
from the field of the same name, copied from a path, or computed. It keeps the source type and the
registry it was made for. Plans come from builds, but also from documents, so that nothing here
relies on how a plan was made.
-/

namespace ProjectionPlanner

/-- The three ways to get a value. -/
inductive MappingKind where
  | implicit
  | explicit
  | computed
  deriving DecidableEq, Repr

/-- The written name. -/
def MappingKind.name : MappingKind → String
  | .implicit => "Implicit"
  | .explicit => "Explicit"
  | .computed => "Computed"

/-- The first stage of a computed field. -/
inductive ComputeStep where
  /-- The single argument is passed on as it is. -/
  | identity (valueType : ValueType)
  /-- A method is applied to the arguments. -/
  | invoke (method : ResolvedMethod)
  deriving DecidableEq, Repr

namespace ComputeStep

def returns : ComputeStep → ValueType
  | .identity valueType => valueType
  | .invoke method => method.returns

def isIdentity : ComputeStep → Bool
  | .identity _ => true
  | .invoke _ => false

def text : ComputeStep → String
  | .identity valueType => "identity -> " ++ valueType.text
  | .invoke method => method.text

end ComputeStep

/-- A reducer together with the path that it collapses. -/
structure ReducerBinding where
  /-- The position of the path among the dependencies. -/
  dependency : Nat
  path : String
  reducer : Reducer
  outputType : ValueType
  deriving DecidableEq, Repr

/-- A computed field: read the dependencies, reduce those that cross collections, apply the first
    stage to the arguments, then the transformation to its value. -/
structure ComputedMapping where
  dependencies : List ResolvedPath
  /-- The types of the arguments, one for each dependency. -/
  parameterTypes : List ValueType
  compute : ComputeStep
  transform : Option ResolvedMethod
  reducers : List ReducerBinding
  deriving DecidableEq, Repr

namespace ComputedMapping

/-- The type of the value that the target field gets in the end. -/
def outputType (mapping : ComputedMapping) : ValueType :=
  match mapping.transform with
  | some method => method.returns
  | none => mapping.compute.returns

/-- The reducer of the dependency at a position: the first that is bound there. -/
def reducerFor (mapping : ComputedMapping) (index : Nat) : Option ReducerBinding :=
  mapping.reducers.find? (·.dependency == index)

end ComputedMapping

/-- How one target field gets its value. -/
inductive FieldMapping where
  /-- A copy of a source field. -/
  | implicit (sourceField : String) (valueType : ValueType) (nullable : Bool)
  /-- A copy of what is found at a path. -/
  | explicit (path : ResolvedPath)
  | computed (mapping : ComputedMapping)
  deriving DecidableEq, Repr

namespace FieldMapping

def kind : FieldMapping → MappingKind
  | .implicit .. => .implicit
  | .explicit _ => .explicit
  | .computed _ => .computed

/-- The type of the value that the target field gets. -/
def valueType : FieldMapping → ValueType
  | .implicit _ valueType _ => valueType
  | .explicit path => path.valueType
  | .computed mapping => mapping.outputType

/-- The paths that are read, in the order of the dependencies. -/
def sourcePaths : FieldMapping → List String
  | .implicit sourceField .. => [sourceField]
  | .explicit path => [path.path]
  | .computed mapping => mapping.dependencies.map (·.path)

end FieldMapping

/-- The members of a list without later repetitions, in the order of their first occurrence. -/
def firstOccurrences (seen : List String) : List String → List String
  | [] => []
  | item :: rest =>
      if item ∈ seen then firstOccurrences seen rest
      else item :: firstOccurrences (item :: seen) rest

/-- How every field of a target record gets its value. -/
structure Plan where
  /-- The name of the target record. -/
  target : String
  source : SourceType
  registry : Registry
  /-- The mappings by target field, in the order of the declaration. -/
  fields : Entries String FieldMapping

namespace Plan

def size (plan : Plan) : Nat :=
  plan.fields.size

def isEmpty (plan : Plan) : Bool :=
  plan.fields.isEmpty

/-- The mapping of a target field. -/
def get? (plan : Plan) (field : String) : Option FieldMapping :=
  plan.fields.get? field

/-- Every source path that the plan reads, once each, in the order of first use. -/
def requiredSourcePaths (plan : Plan) : List String :=
  firstOccurrences [] (plan.fields.values.flatMap FieldMapping.sourcePaths)

/-- Both plans say the same, whatever the order in which they say it. -/
def sameAs (left right : Plan) : Bool :=
  left.target == right.target && left.source.sameAs right.source &&
    left.registry == right.registry && left.fields.sameAs (· == ·) right.fields

end Plan

end ProjectionPlanner

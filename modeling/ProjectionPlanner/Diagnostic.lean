import ProjectionPlanner.Path
import ProjectionPlanner.Search

/-! # Diagnostics

Why a target field cannot be planned. Each diagnostic has a stable code, for tools, and a message,
for people. A build that fails reports all its diagnostics together.
-/

namespace ProjectionPlanner

/-- The stable classification of diagnostics. The constructors stand in the order of their names. -/
inductive ErrorCode where
  | circularDependency
  | duplicateTargetField
  | emptyPath
  | invalidCollectionPath
  | methodNotFound
  | pathNotFound
  | providerNotRegistered
  | reducerCountMismatch
  | reducerUnsupported
  | transformationMustBeStateless
  | transformationNameRequired
  | typeMismatch
  deriving DecidableEq, Repr

namespace ErrorCode

/-- Every code, in order. -/
def all : List ErrorCode :=
  [.circularDependency, .duplicateTargetField, .emptyPath, .invalidCollectionPath, .methodNotFound,
    .pathNotFound, .providerNotRegistered, .reducerCountMismatch, .reducerUnsupported,
    .transformationMustBeStateless, .transformationNameRequired, .typeMismatch]

/-- The written name. -/
def name : ErrorCode → String
  | .circularDependency => "CircularDependency"
  | .duplicateTargetField => "DuplicateTargetField"
  | .emptyPath => "EmptyPath"
  | .invalidCollectionPath => "InvalidCollectionPath"
  | .methodNotFound => "MethodNotFound"
  | .pathNotFound => "PathNotFound"
  | .providerNotRegistered => "ProviderNotRegistered"
  | .reducerCountMismatch => "ReducerCountMismatch"
  | .reducerUnsupported => "ReducerUnsupported"
  | .transformationMustBeStateless => "TransformationMustBeStateless"
  | .transformationNameRequired => "TransformationNameRequired"
  | .typeMismatch => "TypeMismatch"

/-- The code with exactly this name. -/
def named? (name : String) : Option ErrorCode :=
  all.find? (·.name == name)

theorem named?_name (code : ErrorCode) : named? code.name = some code := by
  cases code <;> decide

end ErrorCode

/-- What is wrong with a target field. -/
inductive PlanErrorKind where
  | path (error : PathError)
  | method (error : MethodError)
  | reducer (error : ReducerError)
  /-- A computed field depends on another one. -/
  | circularDependency (dependency sibling : String)
  /-- An earlier field has the same name. -/
  | duplicateTargetField
  /-- There are more or fewer reducers than dependencies that cross collections. -/
  | reducerCountMismatch (expected found : Nat)
  /-- The method that would transform the value needs an instance. -/
  | transformationMustBeStateless (provider name : String)
  /-- The reference to the transformation sets no name. -/
  | transformationNameRequired
  /-- A copied value does not fit its target field. -/
  | typeMismatch (expected found : ValueType)
  deriving DecidableEq, Repr

namespace PlanErrorKind

def code : PlanErrorKind → ErrorCode
  | .path (.emptySegment _) => .emptyPath
  | .path (.notFound ..) => .pathNotFound
  | .path (.endsOnCollection ..) => .invalidCollectionPath
  | .method (.providerNotRegistered ..) => .providerNotRegistered
  | .method .nameRequired => .methodNotFound
  | .method (.notFound ..) => .methodNotFound
  | .reducer _ => .reducerUnsupported
  | .circularDependency .. => .circularDependency
  | .duplicateTargetField => .duplicateTargetField
  | .reducerCountMismatch .. => .reducerCountMismatch
  | .transformationMustBeStateless .. => .transformationMustBeStateless
  | .transformationNameRequired => .transformationNameRequired
  | .typeMismatch .. => .typeMismatch

def message : PlanErrorKind → String
  | .path error => error.message
  | .method error => error.message
  | .reducer error => error.message
  | .circularDependency dependency sibling =>
      "dependency '" ++ dependency ++ "' refers to computed field '" ++ sibling ++
        "'; computed fields may only depend on source paths"
  | .duplicateTargetField => "target field is declared more than once"
  | .reducerCountMismatch expected found =>
      "expected " ++ toString expected ++
        " reducer(s), one per collection-traversing dependency, but " ++ toString found ++
        " were declared"
  | .transformationMustBeStateless provider name =>
      "transformation method " ++ provider ++ "." ++ name ++
        " requires a provider instance; transformations must be stateless"
  | .transformationNameRequired => "transformation reference must name a method"
  | .typeMismatch expected found =>
      "source type " ++ found.text ++ " is not assignable to target type " ++ expected.text

end PlanErrorKind

/-- A diagnostic about a target field. -/
structure PlanError where
  field : String
  kind : PlanErrorKind
  deriving DecidableEq, Repr

namespace PlanError

def code (error : PlanError) : ErrorCode :=
  error.kind.code

def message (error : PlanError) : String :=
  "field '" ++ error.field ++ "': " ++ error.kind.message

end PlanError

/-- What is wrong with one target field, at least one thing. -/
structure Rejection where
  first : PlanErrorKind
  others : List PlanErrorKind := []
  deriving DecidableEq, Repr

namespace Rejection

def toList (rejection : Rejection) : List PlanErrorKind :=
  rejection.first :: rejection.others

/-- A single thing is wrong. -/
def single (error : PlanErrorKind) : Rejection :=
  ⟨error, []⟩

/-- The value, unless there are errors. -/
def whenNone {α : Type} (errors : List PlanErrorKind) (value : α) : Except Rejection α :=
  match errors with
  | [] => .ok value
  | first :: others => .error ⟨first, others⟩

end Rejection

/-- All the diagnostics of a build that failed, in declaration order. -/
structure BuildErrors where
  /-- The name of the target record. -/
  projection : String
  errors : List PlanError
  deriving DecidableEq, Repr

namespace BuildErrors

def size (failure : BuildErrors) : Nat :=
  failure.errors.length

def isEmpty (failure : BuildErrors) : Bool :=
  failure.errors.isEmpty

/-- The codes of all diagnostics, in order. -/
def codes (failure : BuildErrors) : List ErrorCode :=
  failure.errors.map PlanError.code

/-- The diagnostics about one target field. -/
def forField (failure : BuildErrors) (field : String) : List PlanError :=
  failure.errors.filter (·.field == field)

def header (failure : BuildErrors) : String :=
  "projection '" ++ failure.projection ++ "' has " ++ toString failure.size ++ " error(s):"

def errorLine (error : PlanError) : String :=
  "  [" ++ error.code.name ++ "] " ++ error.message

/-- A header, and a line for every diagnostic. -/
def message (failure : BuildErrors) : String :=
  Text.join "\n" (failure.header :: failure.errors.map errorLine)

end BuildErrors

end ProjectionPlanner

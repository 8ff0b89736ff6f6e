import ProjectionPlanner.Reducer

/-! # Declarations of targets

A declaration names the fields of the target record and says, for each, where its value comes
from. It is taken as written: whether its paths, methods and types make sense is decided when a
plan is built.
-/

namespace ProjectionPlanner

/-- A reference to a method, either part of which may be left open. Without a provider every
    provider is searched; without a name the name is the conventional one. -/
structure MethodRef where
  provider : Option String := none
  name : Option String := none
  deriving DecidableEq, Repr

namespace MethodRef

/-- The name that the reference sets. An empty name sets none. -/
def name? (ref : MethodRef) : Option String :=
  ref.name.filter (· != "")

/-- Neither part is set, so that the reference says nothing. -/
def isUnset (ref : MethodRef) : Bool :=
  ref.provider.isNone && ref.name?.isNone

end MethodRef

/-- How a computed field gets its value. -/
structure Computation where
  /-- The source paths whose values are the arguments, in order. -/
  dependsOn : List String
  /-- The method to compute with, in place of the conventional one. -/
  computedBy : Option MethodRef := none
  /-- A method to apply to what was computed. -/
  transformedBy : Option MethodRef := none
  /-- One reducer for each path through a collection, from left to right. -/
  reducers : List Reducer := []
  deriving DecidableEq, Repr

/-- The reference that overrides the convention, unless it says nothing. -/
def Computation.override? (computation : Computation) : Option MethodRef :=
  computation.computedBy.filter (! ·.isUnset)

/-- Where the value of a target field comes from. -/
inductive Directive where
  /-- The source field of the same name. -/
  | implicit
  /-- The value at a path. -/
  | explicit (path : String)
  /-- A method applied to the values at some paths. -/
  | computed (computation : Computation)
  deriving DecidableEq, Repr

def Directive.isComputed : Directive → Bool
  | .computed _ => true
  | _ => false

/-- A field of the target record. -/
structure TargetField where
  name : String
  type : ValueType
  directive : Directive
  deriving DecidableEq, Repr

/-- The target record with its fields in declaration order. -/
structure Declaration where
  name : String
  fields : List TargetField := []
  deriving DecidableEq, Repr

namespace Declaration

/-- Declare one more field, after the others. -/
def withField (declaration : Declaration) (field : TargetField) : Declaration :=
  { declaration with fields := declaration.fields ++ [field] }

/-- The first field of a name. -/
def field? (declaration : Declaration) (name : String) : Option TargetField :=
  declaration.fields.find? (·.name == name)

/-- Some field of this name is computed. -/
def isComputed (declaration : Declaration) (name : String) : Bool :=
  declaration.fields.any fun field => field.name == name && field.directive.isComputed

end Declaration

end ProjectionPlanner

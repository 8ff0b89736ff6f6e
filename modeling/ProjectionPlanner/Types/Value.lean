import ProjectionPlanner.Types.Scalar

/-! # Value types

The type of a value on its way from a source record to a target field: a scalar, an object known
by name, or a collection. Assignability says when a value of one type may be stored where another
is expected; the caller decides whether numbers may widen on the way.
-/

namespace ProjectionPlanner

/-- The type of a value. -/
inductive ValueType where
  | scalar (leaf : ScalarType)
  /-- An object type, known by its name only. -/
  | object (name : String)
  | collection (element : ValueType)
  deriving DecidableEq, Repr

namespace ValueType

/-- The top type. -/
abbrev any : ValueType := .scalar .any

/-- The written form; collections are written `Collection<element>`. -/
def text : ValueType → String
  | .scalar leaf => leaf.name
  | .object name => name
  | .collection element => "Collection<" ++ element.text ++ ">"

/-- A parameter list, as it stands between the parentheses of a signature. -/
def paramsText (params : List ValueType) : String :=
  Text.join ", " (params.map text)

def scalar? : ValueType → Option ScalarType
  | .scalar leaf => some leaf
  | _ => none

def isCollection : ValueType → Bool
  | .collection _ => true
  | _ => false

/-- A numeric scalar; a collection of numbers is not numeric. -/
def isNumeric : ValueType → Bool
  | .scalar leaf => leaf.isNumeric
  | _ => false

/-- A scalar whose values have an order. -/
def supportsOrder : ValueType → Bool
  | .scalar leaf => leaf.supportsOrder
  | _ => false

/-- Put a number of collection layers around a type. -/
def layered (type : ValueType) : Nat → ValueType
  | 0 => type
  | layers + 1 => .collection (type.layered layers)

/-- A value of the first type may be stored where the second is expected. Everything may be stored
    as `any`, equal types always fit, and collections fit when their elements do. With `widening`,
    scalars also fit when they widen. -/
def isAssignableTo (widening : Bool) : ValueType → ValueType → Bool
  | _, .scalar .any => true
  | .scalar found, .scalar expected => found == expected || (widening && found.widensTo expected)
  | .object found, .object expected => found == expected
  | .collection found, .collection expected => found.isAssignableTo widening expected
  | _, _ => false

@[simp]
theorem isAssignableTo_any (widening : Bool) (type : ValueType) :
    type.isAssignableTo widening any = true := by
  cases type <;> simp [isAssignableTo]

theorem isAssignableTo_self (widening : Bool) (type : ValueType) :
    type.isAssignableTo widening type = true := by
  induction type with
  | scalar leaf => cases leaf <;> simp [isAssignableTo]
  | object name => simp [isAssignableTo]
  | collection element ih => simpa [isAssignableTo] using ih

/-- What fits without widening fits with it. -/
theorem isAssignableTo_of_strict {widening : Bool} {found expected : ValueType}
    (h : found.isAssignableTo false expected = true) :
    found.isAssignableTo widening expected = true := by
  induction found generalizing expected with
  | scalar leaf =>
      cases expected with
      | scalar target => cases target <;> simp_all [isAssignableTo]
      | object name => simp [isAssignableTo] at h
      | collection element => simp [isAssignableTo] at h
  | object name =>
      cases expected with
      | scalar target => cases target <;> simp_all [isAssignableTo]
      | object other => simpa [isAssignableTo] using h
      | collection element => simp [isAssignableTo] at h
  | collection element ih =>
      cases expected with
      | scalar target => cases target <;> simp_all [isAssignableTo]
      | object name => simp [isAssignableTo] at h
      | collection target => exact ih (by simpa [isAssignableTo] using h)

end ValueType

end ProjectionPlanner

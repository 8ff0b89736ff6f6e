import ProjectionPlanner.Text.Pieces

/-! # Scalar types

The leaf vocabulary shared by source fields, target fields and method signatures, together with
its numeric families and the widening relation between them. Widening is a partial order on the
numeric types: it stays inside a family, except that every number also widens to a decimal.
-/

namespace ProjectionPlanner

/-- A leaf type. The constructors stand in the order in which lists of scalar types are written. -/
inductive ScalarType where
  /-- The top type: whatever is expected to be `any` takes a value of every type. -/
  | any
  | bool
  | date
  | dateTime
  | decimal
  | float32
  | float64
  | int8
  | int16
  | int32
  | int64
  | text
  | uuid
  deriving DecidableEq, Repr

namespace ScalarType

/-- Every scalar type, in order. -/
def all : List ScalarType :=
  [.any, .bool, .date, .dateTime, .decimal, .float32, .float64, .int8, .int16, .int32, .int64,
    .text, .uuid]

/-- The written name. -/
def name : ScalarType → String
  | .any => "Any"
  | .bool => "Bool"
  | .date => "Date"
  | .dateTime => "DateTime"
  | .decimal => "Decimal"
  | .float32 => "Float32"
  | .float64 => "Float64"
  | .int8 => "Int8"
  | .int16 => "Int16"
  | .int32 => "Int32"
  | .int64 => "Int64"
  | .text => "Text"
  | .uuid => "Uuid"

/-- The scalar type with exactly this name. -/
def named? (name : String) : Option ScalarType :=
  all.find? (·.name == name)

/-- Read a name typed by hand: the case of letters does not matter, spaces do. -/
def parse? (name : String) : Option ScalarType :=
  all.find? fun scalar => Text.sameLetters scalar.name name

/-- What is said of a name that `parse?` does not know. -/
def parseFailure : String :=
  "Invalid `ScalarType` string representation"

/-- The scalar types that stand before this one. -/
def before (scalar : ScalarType) : List ScalarType :=
  all.takeWhile (· != scalar)

/-- The width in bits of an integer type. -/
def intWidth? : ScalarType → Option Nat
  | .int8 => some 8
  | .int16 => some 16
  | .int32 => some 32
  | .int64 => some 64
  | _ => none

def isInt (scalar : ScalarType) : Bool :=
  scalar.intWidth?.isSome

def isFloat : ScalarType → Bool
  | .float32 | .float64 => true
  | _ => false

def isDecimal : ScalarType → Bool
  | .decimal => true
  | _ => false

/-- Integers, floats and decimals. -/
def isNumeric (scalar : ScalarType) : Bool :=
  scalar.isInt || scalar.isFloat || scalar.isDecimal

/-- Values of the type have an order, so that they have a least and a greatest one. -/
def supportsOrder (scalar : ScalarType) : Bool :=
  match scalar with
  | .date | .dateTime | .text => true
  | _ => scalar.isNumeric

/-- Every value of the first type is also a value of the second, without loss: a wider or equal
    integer, a wider or equal float, or a decimal for any number. Types that are not numeric widen
    to nothing, not even to themselves. -/
def widensTo (scalar target : ScalarType) : Bool :=
  match scalar.intWidth?, target.intWidth? with
  | some width, some targetWidth => width ≤ targetWidth
  | _, _ =>
      match scalar, target with
      | .float32, .float32 | .float32, .float64 | .float64, .float64 => true
      | _, .decimal => scalar.isNumeric
      | _, _ => false

/-- The scalar types that this one widens to, in order. -/
def widerTypes (scalar : ScalarType) : List ScalarType :=
  all.filter scalar.widensTo

theorem mem_all (scalar : ScalarType) : scalar ∈ all := by
  cases scalar <;> decide

theorem named?_name (scalar : ScalarType) : named? scalar.name = some scalar := by
  cases scalar <;> decide

private theorem widensTo_trans_of_mem :
    ∀ a ∈ all, ∀ b ∈ all, a.widensTo b → ∀ c ∈ all, b.widensTo c → a.widensTo c := by
  decide +kernel

theorem widensTo_trans {a b c : ScalarType} (first : a.widensTo b) (second : b.widensTo c) :
    a.widensTo c :=
  widensTo_trans_of_mem a (mem_all a) b (mem_all b) first c (mem_all c) second

theorem widensTo_antisymm {a b : ScalarType} (up : a.widensTo b) (down : b.widensTo a) :
    a = b := by
  cases a <;> cases b <;> simp_all [widensTo, intWidth?, isNumeric, isInt, isFloat, isDecimal]

end ScalarType

end ProjectionPlanner

import ProjectionPlanner.Types.Value

/-! # Reducers

A reducer collapses the values met along a path through collections into one argument. Which
reducers make sense depends on the type of those values.
-/

namespace ProjectionPlanner

/-- A way to collapse many values into one, in the order in which reducers are listed. -/
inductive Reducer where
  | avg
  | count
  | countDistinct
  | max
  | min
  | sum
  deriving DecidableEq, Repr

/-- Why a reducer cannot be used. -/
inductive ReducerError where
  /-- No reducer has this name. -/
  | unknown (name : String)
  /-- The reducer makes no sense for values of this type. -/
  | unsupported (reducer : Reducer) (leaf : ValueType)
  deriving DecidableEq, Repr

namespace Reducer

/-- Every reducer, in order. -/
def all : List Reducer :=
  [.avg, .count, .countDistinct, .max, .min, .sum]

/-- The written name. -/
def name : Reducer → String
  | .avg => "AVG"
  | .count => "COUNT"
  | .countDistinct => "COUNT_DISTINCT"
  | .max => "MAX"
  | .min => "MIN"
  | .sum => "SUM"

/-- The reducer with exactly this name. -/
def named? (name : String) : Option Reducer :=
  all.find? (·.name == name)

/-- Read a name typed by hand, in whatever case. -/
def parse (name : String) : Except ReducerError Reducer :=
  match all.find? fun reducer => Text.sameLetters reducer.name name with
  | some reducer => .ok reducer
  | none => .error (.unknown name)

/-- The reducer counts, and does not look at what it counts. -/
def counts : Reducer → Bool
  | .count | .countDistinct => true
  | _ => false

/-- The values of a type can be reduced this way: anything is counted, numbers are added up and
    averaged, and what has an order has a least and a greatest value. -/
def supports (reducer : Reducer) (leaf : ValueType) : Bool :=
  match reducer with
  | .count | .countDistinct => true
  | .sum | .avg => leaf.isNumeric
  | .min | .max => leaf.supportsOrder

/-- The type of a count. -/
def countType : ValueType :=
  .scalar .int64

/-- The type of the reduced value. All reducers but the counting ones keep the type they reduce. -/
def outputType (reducer : Reducer) (leaf : ValueType) : Except ReducerError ValueType :=
  if reducer.supports leaf then
    .ok (if reducer.counts then countType else leaf)
  else
    .error (.unsupported reducer leaf)

theorem named?_name (reducer : Reducer) : named? reducer.name = some reducer := by
  cases reducer <;> decide

end Reducer

namespace ReducerError

def message : ReducerError → String
  | .unknown name => "unknown reducer '" ++ name ++ "'"
  | .unsupported reducer leaf =>
      "reducer " ++ reducer.name ++ " cannot be applied to leaf type " ++ leaf.text

end ReducerError

end ProjectionPlanner

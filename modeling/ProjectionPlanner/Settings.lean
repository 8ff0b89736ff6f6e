import ProjectionPlanner.Text.Uppercase

/-! # Settings

The switches of a build. Left alone, they take every directive at its word: types are compared
without widening, copies are checked, and a lone reduced value needs no method.
-/

namespace ProjectionPlanner

/-- The switches of a build. -/
structure Settings where
  /-- What the conventional name of a computing method starts with. -/
  methodLead : String := "get"
  /-- Let numbers widen, in what methods return and in what is copied. Parameters never widen. -/
  numericWidening : Bool := false
  /-- Check that a copied value fits the type of its target field. -/
  checkProjectedTypes : Bool := true
  /-- Let a field with a single reduced argument and no method to compute it take that argument. -/
  identityReduction : Bool := true
  deriving DecidableEq, Repr

/-- The conventional name of the method that computes a field: the lead and the field's name, its
    first letter in upper case. -/
def Settings.methodName (settings : Settings) (field : String) : String :=
  settings.methodLead ++ Text.capitalized field

end ProjectionPlanner

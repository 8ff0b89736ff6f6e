import Mathlib.Order.Defs.Unbundled
import ProjectionPlanner.Types.Value

/-! # Assignability is an order

Whether numbers may widen or not, what may be stored where is an order on the types, with `any` at
its top. Collections compare their elements, and an expected `any` ends the comparison wherever it
stands, so that a whole collection may end up where a single value was expected. What fits is known
from the innermost type that is expected and from the number of collection layers around it.
-/

namespace ProjectionPlanner

/-- The top type is no number, so that it widens to nothing. -/
theorem ScalarType.not_any_widensTo {target : ScalarType} : ¬ any.widensTo target = true := by
  cases target <;> nofun

namespace ValueType

variable {widening : Bool} {found expected : ValueType}

/-- The type fits where the other is expected, without a look into collections. -/
inductive Fits (widening : Bool) : ValueType → ValueType → Prop where
  /-- Where anything is expected, collections fit as well. -/
  | any (found : ValueType) : Fits widening found .any
  | same (type : ValueType) : Fits widening type type
  | widened {leaf wider : ScalarType} (allowed : widening = true)
      (widens : leaf.widensTo wider = true) : Fits widening (.scalar leaf) (.scalar wider)

/-! ## What may be stored as a given type -/

theorem isAssignableTo_scalar_iff {leaf : ScalarType} :
    found.isAssignableTo widening (.scalar leaf) = true ↔ Fits widening found (.scalar leaf) := by
  constructor
  · intro assignable
    by_cases top : leaf = .any
    · subst top
      exact .any found
    · cases found with
      | scalar own =>
          have fits : own = leaf ∨ widening = true ∧ own.widensTo leaf = true := by
            simpa [isAssignableTo, top] using assignable
          rcases fits with rfl | ⟨allowed, widens⟩
          · exact .same _
          · exact .widened allowed widens
      | object name => simp [isAssignableTo, top] at assignable
      | collection element => simp [isAssignableTo, top] at assignable
  · intro fits
    cases fits with
    | any => exact isAssignableTo_any widening found
    | same => exact isAssignableTo_self widening _
    | widened allowed widens => cases leaf <;> simp [isAssignableTo, allowed, widens]

theorem isAssignableTo_object_iff {name : String} :
    found.isAssignableTo widening (.object name) = true ↔ found = .object name := by
  cases found <;> simp [isAssignableTo]

theorem isAssignableTo_collection_iff {element : ValueType} :
    found.isAssignableTo widening (.collection element) = true ↔
      ∃ inside, found = .collection inside ∧ inside.isAssignableTo widening element = true := by
  cases found <;> simp [isAssignableTo]

/-- Outside of collections nothing but the type itself is compared. -/
theorem isAssignableTo_iff_fits (plain : expected.isCollection = false) :
    found.isAssignableTo widening expected = true ↔ Fits widening found expected := by
  cases expected with
  | scalar leaf => exact isAssignableTo_scalar_iff
  | object name =>
      rw [isAssignableTo_object_iff]
      constructor
      · rintro rfl
        exact .same _
      · intro fits
        cases fits
        rfl
  | collection element => cases plain

/-- A collection of some depth takes collections that are at least as deep, and compares what is
    inside of its own layers. -/
theorem isAssignableTo_layered_iff {core : ValueType} (plain : core.isCollection = false)
    {layers : Nat} :
    found.isAssignableTo widening (core.layered layers) = true ↔
      ∃ inside, found = inside.layered layers ∧ Fits widening inside core := by
  induction layers generalizing found with
  | zero => simpa [layered] using isAssignableTo_iff_fits plain
  | succ layers ih =>
      simp only [layered, isAssignableTo_collection_iff, ih]
      constructor
      · rintro ⟨_, rfl, inside, rfl, fits⟩
        exact ⟨inside, rfl, fits⟩
      · rintro ⟨inside, rfl, fits⟩
        exact ⟨_, rfl, inside, rfl, fits⟩

/-- Every type is some number of layers around a type that is no collection. -/
theorem exists_layered : (type : ValueType) →
    ∃ (core : ValueType) (layers : Nat), core.isCollection = false ∧ type = core.layered layers
  | .scalar leaf => ⟨.scalar leaf, 0, rfl, rfl⟩
  | .object name => ⟨.object name, 0, rfl, rfl⟩
  | .collection element => by
      obtain ⟨core, layers, plain, shape⟩ := exists_layered element
      exact ⟨core, layers + 1, plain, congrArg collection shape⟩

/-! ## An order -/

theorem any_isAssignableTo_iff : any.isAssignableTo widening expected = true ↔ expected = any := by
  constructor
  · intro assignable
    cases expected with
    | scalar leaf =>
        rcases isAssignableTo_scalar_iff.mp assignable with _ | _ | ⟨-, widens⟩
        · rfl
        · rfl
        · exact absurd widens ScalarType.not_any_widensTo
    | object name => cases isAssignableTo_object_iff.mp assignable
    | collection element =>
        obtain ⟨_, same, -⟩ := isAssignableTo_collection_iff.mp assignable
        cases same
  · rintro rfl
    exact isAssignableTo_any widening any

theorem isAssignableTo_trans {first second third : ValueType}
    (lower : first.isAssignableTo widening second = true)
    (upper : second.isAssignableTo widening third = true) :
    first.isAssignableTo widening third = true := by
  -- by the uppermost type: what is expected alone decides how far the comparison goes
  induction third generalizing first second with
  | scalar leaf =>
      rcases isAssignableTo_scalar_iff.mp upper with _ | _ | ⟨allowed, widens⟩
      · exact isAssignableTo_any widening first
      · exact lower
      · rcases isAssignableTo_scalar_iff.mp lower with _ | _ | ⟨-, widensFirst⟩
        · exact absurd widens ScalarType.not_any_widensTo
        · exact upper
        · exact isAssignableTo_scalar_iff.mpr
            (.widened allowed (ScalarType.widensTo_trans widensFirst widens))
  | object name =>
      obtain rfl := isAssignableTo_object_iff.mp upper
      exact lower
  | collection element ih =>
      obtain ⟨inside, rfl, upperInside⟩ := isAssignableTo_collection_iff.mp upper
      obtain ⟨innermost, rfl, lowerInside⟩ := isAssignableTo_collection_iff.mp lower
      exact isAssignableTo_collection_iff.mpr ⟨innermost, rfl, ih lowerInside upperInside⟩

theorem isAssignableTo_antisymm {left right : ValueType}
    (up : left.isAssignableTo widening right = true)
    (down : right.isAssignableTo widening left = true) : left = right := by
  induction right generalizing left with
  | scalar leaf =>
      rcases isAssignableTo_scalar_iff.mp up with _ | _ | ⟨-, widens⟩
      · exact any_isAssignableTo_iff.mp down
      · rfl
      · rcases isAssignableTo_scalar_iff.mp down with _ | _ | ⟨-, widensBack⟩
        · exact absurd widens ScalarType.not_any_widensTo
        · rfl
        · rw [ScalarType.widensTo_antisymm widens widensBack]
  | object name => exact isAssignableTo_object_iff.mp up
  | collection element ih =>
      obtain ⟨inside, rfl, upInside⟩ := isAssignableTo_collection_iff.mp up
      have downInside : element.isAssignableTo widening inside = true := by
        simpa [isAssignableTo] using down
      rw [ih upInside downInside]

/-- Under either setting assignability is a partial order in which `any` is the greatest type.
    What fits without widening fits with it. A type that is expected as some layers around a core
    takes what has those layers as well and, inside of them, fits the core. -/
theorem isAssignableTo_partial_order (widening : Bool) :
    IsPartialOrder ValueType
        (fun found expected => found.isAssignableTo widening expected = true) ∧
      (∀ top, (∀ type : ValueType, type.isAssignableTo widening top = true) ↔ top = any) ∧
      (∀ found expected : ValueType, found.isAssignableTo false expected = true →
        found.isAssignableTo widening expected = true) ∧
      (∀ type : ValueType, ∃ (core : ValueType) (layers : Nat),
        core.isCollection = false ∧ type = core.layered layers) ∧
      ∀ (found core : ValueType) (layers : Nat), core.isCollection = false →
        (found.isAssignableTo widening (core.layered layers) = true ↔
          ∃ inside, found = inside.layered layers ∧ Fits widening inside core) := by
  refine ⟨?_, ?_, fun _ _ => isAssignableTo_of_strict, exists_layered,
    fun _ _ _ plain => isAssignableTo_layered_iff plain⟩
  · exact
      { refl := isAssignableTo_self widening
        trans := fun _ _ _ => isAssignableTo_trans
        antisymm := fun _ _ => isAssignableTo_antisymm }
  · intro top
    constructor
    · intro greatest
      exact any_isAssignableTo_iff.mp (greatest any)
    · rintro rfl
      exact isAssignableTo_any widening

/-- Lists of lists of small numbers may be stored as lists of anything, by way of lists of lists of
    decimals, but there is no way back. -/
theorem smallNumbers_assignable :
    ((scalar .int8).layered 2).isAssignableTo true (any.layered 1) = true ∧
      (∃ inside, (scalar .int8).layered 2 = inside.layered 1 ∧ Fits true inside any) ∧
      (any.layered 1).isAssignableTo true ((scalar .int8).layered 2) = false := by
  obtain ⟨order, -, widened, -, layers⟩ := isAssignableTo_partial_order true
  have decimals : ((scalar .int8).layered 2).isAssignableTo true ((scalar .decimal).layered 2) =
      true := (layers _ (scalar .decimal) 2 rfl).mpr ⟨_, rfl, .widened rfl rfl⟩
  have anything : ((scalar .decimal).layered 2).isAssignableTo true (any.layered 1) = true :=
    widened _ _ (by decide)
  have stored := order.trans _ _ _ decimals anything
  exact ⟨stored, (layers _ any 1 rfl).mp stored, by decide⟩

end ValueType

end ProjectionPlanner

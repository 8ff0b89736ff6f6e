import ProjectionPlanner.Source

/-! # The layers of a shape

The shape of a field is an element with a number of collection layers around it. Taking the layers
off one by one, as paths do, finds that element and that number, and there are no others. The type
of the field's value has the same layers, around the type of the element.
-/

namespace ProjectionPlanner

/-- The shape of a field that is the element itself, without layers. -/
def ElementKind.bare : ElementKind → FieldKind
  | .scalar leaf => .scalar leaf
  | .object type => .object type

namespace FieldKind

theorem peel_layered (element : ElementKind) (layers start : Nat) :
    (element.bare.layered layers).peel start = (element, start + layers) := by
  induction layers generalizing start with
  | zero => cases element <;> rfl
  | succ layers ih => rw [layered, peel, ih, Nat.add_right_comm, Nat.add_assoc]

/-- Every shape is some element in some number of layers. -/
theorem exists_layered : (kind : FieldKind) →
    ∃ element layers, kind = (ElementKind.bare element).layered layers
  | .scalar leaf => ⟨.scalar leaf, 0, rfl⟩
  | .object type => ⟨.object type, 0, rfl⟩
  | .collection inner => by
      obtain ⟨element, layers, shape⟩ := exists_layered inner
      exact ⟨element, layers + 1, congrArg collection shape⟩

theorem element_eq_iff {kind : FieldKind} {element : ElementKind} {layers : Nat} :
    kind.element = (element, layers) ↔ kind = element.bare.layered layers := by
  constructor
  · intro found
    obtain ⟨other, count, rfl⟩ := exists_layered kind
    rw [FieldKind.element, peel_layered, Nat.zero_add] at found
    cases found
    rfl
  · rintro rfl
    rw [FieldKind.element, peel_layered, Nat.zero_add]

theorem valueType_layered (element : ElementKind) (layers : Nat) :
    (element.bare.layered layers).valueType = element.valueType.layered layers := by
  induction layers with
  | zero => cases element <;> rfl
  | succ layers ih => exact congrArg ValueType.collection ih

theorem isCollection_layered (element : ElementKind) (layers : Nat) :
    (element.bare.layered layers).isCollection = true ↔ 0 < layers := by
  cases layers with
  | zero => cases element <;> simp [layered, ElementKind.bare, isCollection]
  | succ layers => simp [layered, isCollection]

end FieldKind

end ProjectionPlanner

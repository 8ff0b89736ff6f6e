import ProjectionPlanner.Proofs.Path.Answers

/-! # Two views of a shape

A path takes the layers off a shape one by one and counts them. The type of a field's value is made
by going into the shape instead, and keeps the layers. The two views agree: the type is that of the
element which the first leaves, in as many layers as it counts. So a path that ends on a single
value reports the same type as a copy of that value under its name.
-/

namespace ProjectionPlanner

theorem ElementKind.isCollection_valueType (element : ElementKind) :
    element.valueType.isCollection = false := by
  cases element <;> rfl

theorem ValueType.isCollection_layered {type : ValueType} (plain : type.isCollection = false)
    (layers : Nat) : (type.layered layers).isCollection = true ↔ 0 < layers := by
  cases layers with
  | zero => simp [layered, plain]
  | succ layers => simp [layered, isCollection]

namespace FieldKind

theorem layered_layered (kind : FieldKind) (inner outer : Nat) :
    (kind.layered inner).layered outer = kind.layered (inner + outer) := by
  induction outer with
  | zero => rfl
  | succ outer ih => exact congrArg collection ih

/-- A shape is put together again from what taking off its layers leaves and counts. -/
theorem eq_layered_element (kind : FieldKind) :
    kind = kind.element.1.bare.layered kind.element.2 :=
  element_eq_iff.mp rfl

theorem valueType_eq_layered (kind : FieldKind) :
    kind.valueType = kind.element.1.valueType.layered kind.element.2 := by
  rw [← valueType_layered, ← eq_layered_element]

theorem layers_pos_iff (kind : FieldKind) :
    0 < kind.element.2 ↔ kind.isCollection = true := by
  rw [← isCollection_layered kind.element.1, ← eq_layered_element]

theorem isCollection_valueType_iff (kind : FieldKind) :
    kind.valueType.isCollection = true ↔ 0 < kind.element.2 := by
  rw [valueType_eq_layered]
  exact ValueType.isCollection_layered kind.element.1.isCollection_valueType kind.element.2

/-- Further layers are counted and change nothing else. -/
theorem element_layered (kind : FieldKind) (count : Nat) :
    (kind.layered count).element = (kind.element.1, kind.element.2 + count) := by
  rw [element_eq_iff, ← layered_layered, ← eq_layered_element]

end FieldKind

/-! ## The end of a path -/

namespace Path

/-- The path leads through declared fields, to this one as the last. -/
def EndsOn (source : SourceType) (path : String) (field : SourceField) : Prop :=
  ∃ names hops there last, Text.Splits separator path names ∧ "" ∉ names ∧
    Walks (.object source) names hops there ∧ hops.getLast? = some last ∧ last.field = field

/-- Behind its last hop a walk is at the element of the field that was looked up last. -/
theorem Walks.shape_of_last {here there : ElementKind} {names : List String} {hops : List Hop}
    {last : Hop} (walks : Walks here names hops there) (ends : hops.getLast? = some last) :
    last.field.kind.element = (there, last.layers) := by
  induction walks with
  | nil => cases ends
  | cons declared shape onward ih =>
      cases onward with
      | nil =>
          cases ends
          exact FieldKind.element_eq_iff.mpr shape
      | cons _ _ _ => exact ih ends

theorem EndsOn.exists_resolved {source : SourceType} {path : String} {field : SourceField}
    (ends : EndsOn source path field) (single : field.kind.element.2 = 0) :
    ∃ resolved, source.resolve path = .ok resolved ∧
      resolved.terminalType = field.kind.valueType := by
  obtain ⟨names, hops, there, last, splits, proper, walks, isLast, rfl⟩ := ends
  have shape := walks.shape_of_last isLast
  rw [shape] at single
  have describes := describes_ofHops path hops there
  refine ⟨_, SourceType.resolve_of_answers splits (.resolved proper walks isLast single describes),
    ?_⟩
  rw [describes.terminalType, FieldKind.valueType_eq_layered, shape]
  exact congrArg there.valueType.layered single.symm

end Path

/-- Taking the layers off a shape and going into it give the same view of it. The type of its value
    is that of its element, which is no collection, in as many layers as are counted; there are
    layers exactly if the shape is a collection, and exactly if its type is one. Further layers
    around the shape are added to the count and leave the element as it is. And a path that ends on
    a field of this shape, if it has no layers, leads to the type of the whole shape. -/
theorem FieldKind.views_agree (kind : FieldKind) :
    kind.valueType = kind.element.1.valueType.layered kind.element.2 ∧
      kind.element.1.valueType.isCollection = false ∧
      (0 < kind.element.2 ↔ kind.isCollection = true) ∧
      (kind.isCollection = true ↔ kind.valueType.isCollection = true) ∧
      (∀ count, (kind.layered count).element = (kind.element.1, kind.element.2 + count)) ∧
      ∀ source path field, Path.EndsOn source path field → field.kind = kind →
        kind.element.2 = 0 →
          ∃ resolved, source.resolve path = .ok resolved ∧
            resolved.terminalType = kind.valueType := by
  refine ⟨kind.valueType_eq_layered, kind.element.1.isCollection_valueType, kind.layers_pos_iff, ?_,
    kind.element_layered, ?_⟩
  · rw [kind.isCollection_valueType_iff, kind.layers_pos_iff]
  · intro source path field ends shape single
    subst shape
    exact ends.exists_resolved single

/-- The price of an item. -/
def itemPrice : SourceField :=
  ⟨"price", .scalar .decimal, false⟩

/-- An order whose items come in batches, so that there are two layers on the way to a price. -/
def batchedOrder : SourceType :=
  ⟨"Order",
    [("batches", ⟨"batches",
      .collection (.collection (.object ⟨"Item", [("price", itemPrice)]⟩)), false⟩)]⟩

theorem batchedOrder_price_type :
    Path.EndsOn batchedOrder "batches.price" itemPrice ∧
      ∃ resolved, batchedOrder.resolve "batches.price" = .ok resolved ∧
        resolved.terminalType = itemPrice.kind.valueType := by
  have ends : Path.EndsOn batchedOrder "batches.price" itemPrice :=
    ⟨["batches", "price"], _, _, _, Text.splits_iff.mpr rfl, by decide,
      .cons rfl (FieldKind.element_eq_iff.mp rfl)
        (.cons rfl (FieldKind.element_eq_iff.mp rfl) .nil),
      rfl, rfl⟩
  obtain ⟨-, -, -, -, -, resolves⟩ := FieldKind.views_agree itemPrice.kind
  exact ⟨ends, resolves batchedOrder _ itemPrice ends rfl rfl⟩

end ProjectionPlanner

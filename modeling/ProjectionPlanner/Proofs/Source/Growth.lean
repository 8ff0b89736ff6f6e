import ProjectionPlanner.Proofs.Path.Walk

/-! # Types that grow

A source type grows when fields are added to it or to the types nested in it. What was declared
stays: under its key, with its name and its flag, and in a shape that may itself have grown. The
order of the fields does not matter. A path that could be followed still can be, and all that is
known of it afterwards is the same, since only names, flags and layers are recorded on the way.
-/

namespace ProjectionPlanner

mutual

/-- The shape is kept, with perhaps more declared in the types inside it. -/
def FieldKind.growsTo : FieldKind → FieldKind → Bool
  | .scalar leaf, .scalar other => leaf == other
  | .object type, .object grown => type.growsTo grown
  | .collection element, .collection grown => element.growsTo grown
  | _, _ => false
termination_by structural kind => kind

/-- The name is kept, and each field under its key. -/
def SourceType.growsTo : SourceType → SourceType → Bool
  | ⟨name, fields⟩, grown => grown.name == name && grown.keeps fields
termination_by structural type => type

/-- The type has a field under each of the keys, of the same name and flag and of a shape that has
    perhaps grown. -/
def SourceType.keeps (grown : SourceType) : List (String × SourceField) → Bool
  | [] => true
  | (key, ⟨name, kind, nullable⟩) :: rest =>
      (match grown.field? key with
        | some kept => kept.name == name && kept.nullable == nullable && kind.growsTo kept.kind
        | none => false) && grown.keeps rest
termination_by structural fields => fields

end

theorem SourceType.keeps_iff {grown : SourceType} {fields : List (String × SourceField)} :
    grown.keeps fields = true ↔
      ∀ key field, (key, field) ∈ fields → ∃ kind,
        grown.field? key = some ⟨field.name, kind, field.nullable⟩ ∧
          field.kind.growsTo kind = true := by
  induction fields with
  | nil => simp [keeps]
  | cons entry rest ih =>
      obtain ⟨key, name, kind, nullable⟩ := entry
      have here : (match grown.field? key with
          | some kept => kept.name == name && kept.nullable == nullable && kind.growsTo kept.kind
          | none => false) = true ↔
            ∃ other, grown.field? key = some ⟨name, other, nullable⟩ ∧
              kind.growsTo other = true := by
        cases grown.field? key with
        | none => simp
        | some kept =>
            obtain ⟨keptName, keptKind, keptNullable⟩ := kept
            simp only [Bool.and_eq_true, beq_iff_eq, Option.some.injEq, SourceField.mk.injEq]
            constructor
            · intro same
              obtain ⟨⟨rfl, rfl⟩, grows⟩ := same
              exact ⟨keptKind, ⟨rfl, rfl, rfl⟩, grows⟩
            · intro same
              obtain ⟨_, ⟨rfl, rfl, rfl⟩, grows⟩ := same
              exact ⟨⟨rfl, rfl⟩, grows⟩
      rw [keeps, Bool.and_eq_true, here, ih]
      constructor
      · intro kept otherKey field member
        rcases List.mem_cons.mp member with first | later
        · cases first
          exact kept.1
        · exact kept.2 otherKey field later
      · intro kept
        exact ⟨kept key _ List.mem_cons_self,
          fun otherKey field later => kept otherKey field (List.mem_cons_of_mem _ later)⟩

/-- A type has grown when its name is the same and each field is kept. -/
theorem SourceType.growsTo_iff {type grown : SourceType} :
    type.growsTo grown = true ↔
      grown.name = type.name ∧ ∀ key field, (key, field) ∈ type.fields → ∃ kind,
        grown.field? key = some ⟨field.name, kind, field.nullable⟩ ∧
          field.kind.growsTo kind = true := by
  obtain ⟨name, fields⟩ := type
  rw [growsTo, Bool.and_eq_true, beq_iff_eq, keeps_iff]

theorem SourceType.exists_field?_of_growsTo {type grown : SourceType} {key : String}
    {field : SourceField} (grows : type.growsTo grown = true)
    (found : type.field? key = some field) :
    ∃ kind, grown.field? key = some ⟨field.name, kind, field.nullable⟩ ∧
      field.kind.growsTo kind = true := by
  obtain ⟨before, after, split, -⟩ := List.lookup_eq_some_iff.mp found
  have member : (key, field) ∈ type.fields := by
    rw [split]
    exact List.mem_append_right before List.mem_cons_self
  exact (growsTo_iff.mp grows).2 key field member

/-! ## What is seen of a field -/

theorem FieldKind.valueType_of_growsTo {kind grown : FieldKind}
    (grows : kind.growsTo grown = true) : grown.valueType = kind.valueType := by
  fun_induction FieldKind.valueType kind generalizing grown with
  | case1 leaf => cases grown <;> simp_all [growsTo, valueType]
  | case2 type =>
      cases grown with
      | object other =>
          rw [growsTo] at grows
          rw [valueType, (SourceType.growsTo_iff.mp grows).1]
      | scalar _ | collection _ => simp [growsTo] at grows
  | case3 element ih =>
      cases grown with
      | collection other =>
          rw [growsTo] at grows
          rw [valueType, ih grows]
      | scalar _ | object _ => simp [growsTo] at grows

namespace ElementKind

/-- The element is the same scalar, or a type that has perhaps grown. -/
def growsTo : ElementKind → ElementKind → Bool
  | .scalar leaf, .scalar other => leaf == other
  | .object type, .object grown => type.growsTo grown
  | _, _ => false

variable {here grown : ElementKind}

theorem typeName_of_growsTo (grows : here.growsTo grown = true) :
    grown.typeName = here.typeName := by
  cases here <;> cases grown <;> simp_all [growsTo, typeName, SourceType.growsTo_iff]

theorem valueType_of_growsTo (grows : here.growsTo grown = true) :
    grown.valueType = here.valueType := by
  cases here <;> cases grown <;> simp_all [growsTo, valueType, SourceType.growsTo_iff]

theorem exists_field?_of_growsTo {name : String} {field : SourceField}
    (grows : here.growsTo grown = true) (found : here.field? name = some field) :
    ∃ kind, grown.field? name = some ⟨field.name, kind, field.nullable⟩ ∧
      field.kind.growsTo kind = true := by
  cases here with
  | scalar leaf => cases found
  | object type =>
      cases grown with
      | scalar leaf => cases grows
      | object grown => exact SourceType.exists_field?_of_growsTo grows found

end ElementKind

theorem FieldKind.peel_of_growsTo {kind grown : FieldKind} (layers : Nat)
    (grows : kind.growsTo grown = true) :
    (kind.peel layers).1.growsTo (grown.peel layers).1 = true ∧
      (grown.peel layers).2 = (kind.peel layers).2 := by
  fun_induction FieldKind.peel layers kind generalizing grown with
  | case1 layers leaf =>
      cases grown with
      | scalar other =>
          rw [growsTo] at grows
          exact ⟨grows, rfl⟩
      | object _ | collection _ => simp [growsTo] at grows
  | case2 layers type =>
      cases grown with
      | object other =>
          rw [growsTo] at grows
          exact ⟨grows, rfl⟩
      | scalar _ | collection _ => simp [growsTo] at grows
  | case3 layers element ih =>
      cases grown with
      | collection other =>
          rw [growsTo] at grows
          exact ih grows
      | scalar _ | object _ => simp [growsTo] at grows

theorem FieldKind.element_of_growsTo {kind grown : FieldKind} (grows : kind.growsTo grown = true) :
    kind.element.1.growsTo grown.element.1 = true ∧ grown.element.2 = kind.element.2 :=
  peel_of_growsTo 0 grows

/-! ## Paths -/

theorem Segment.ofField_of_growsTo {here grown : ElementKind} {field : SourceField}
    {kind : FieldKind} (grows : here.growsTo grown = true)
    (kindGrows : field.kind.growsTo kind = true) :
    Segment.ofField grown ⟨field.name, kind, field.nullable⟩ = Segment.ofField here field := by
  obtain ⟨inside, layers⟩ := FieldKind.element_of_growsTo kindGrows
  simp only [ofField, ElementKind.typeName_of_growsTo grows]
  rcases before : field.kind.element with ⟨element, depth⟩
  rcases after : kind.element with ⟨grownElement, grownDepth⟩
  rw [before, after] at inside layers
  cases layers
  -- of the elements nothing is recorded but which of the two kinds they are of
  cases element with
  | scalar leaf =>
      cases grownElement with
      | scalar other => cases depth <;> rfl
      | object type => cases inside
  | object type =>
      cases grownElement with
      | scalar leaf => cases inside
      | object other => cases depth <;> rfl

namespace Path

/-- The names lead to the same end, from a type that has grown. -/
theorem Leads.of_growsTo {here grown : ElementKind} {names : List String} {walk : Walk}
    (leads : Leads here names walk) (grows : here.growsTo grown = true) :
    Leads grown names walk := by
  induction leads generalizing grown with
  | last declared single =>
      obtain ⟨kind, kept, kindGrows⟩ := ElementKind.exists_field?_of_growsTo grows declared
      obtain ⟨inside, layers⟩ := FieldKind.element_of_growsTo kindGrows
      rw [← Segment.ofField_of_growsTo grows kindGrows, ← ElementKind.valueType_of_growsTo inside]
      exact .last kept (layers.trans single)
  | step declared _ ih =>
      obtain ⟨kind, kept, kindGrows⟩ := ElementKind.exists_field?_of_growsTo grows declared
      obtain ⟨inside, layers⟩ := FieldKind.element_of_growsTo kindGrows
      rw [← Segment.ofField_of_growsTo grows kindGrows, ← layers]
      exact .step kept (ih inside)

end Path

theorem SourceType.resolve_of_growsTo {type grown : SourceType} {path : String}
    {resolved : ResolvedPath} (grows : type.growsTo grown = true)
    (accepted : type.resolve path = .ok resolved) : grown.resolve path = .ok resolved := by
  obtain ⟨whole, walk, leads, rfl⟩ := resolve_eq_ok_iff.mp accepted
  have inside : (ElementKind.object type).growsTo (.object grown) = true := grows
  exact resolve_eq_ok_iff.mpr ⟨whole, walk, leads.of_growsTo inside, rfl⟩

end ProjectionPlanner

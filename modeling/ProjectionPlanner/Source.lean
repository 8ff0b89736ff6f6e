import ProjectionPlanner.Entries
import ProjectionPlanner.Types.Value

/-! # Source types

The record type that a projection reads: named fields in declaration order, whose shapes are
scalars, nested source types, or collections of any depth. A field is found by the key it is
declared under; the name it carries is the name that plans and messages show. The constructors of
this module use the name as the key, a type that was read from a document need not.

A source type keeps its fields in a plain list of pairs, since a recursive type cannot hold a proof
about itself. `KeysDistinct` is the promise that every type made by `withField` keeps.
-/

namespace ProjectionPlanner

mutual

/-- The shape of a source field. -/
inductive FieldKind where
  | scalar (leaf : ScalarType)
  | object (type : SourceType)
  | collection (element : FieldKind)

/-- A declared field. -/
structure SourceField where
  name : String
  kind : FieldKind
  /-- The value may be absent. -/
  nullable : Bool

/-- A record type with its fields by key, in declaration order. -/
structure SourceType where
  name : String
  fields : List (String × SourceField)

end

/-- What is left of a field's shape when its collection layers are taken off. -/
inductive ElementKind where
  | scalar (leaf : ScalarType)
  | object (type : SourceType)

namespace ElementKind

def valueType : ElementKind → ValueType
  | .scalar leaf => .scalar leaf
  | .object type => .object type.name

/-- The name of the type, for messages. -/
def typeName : ElementKind → String
  | .scalar leaf => leaf.name
  | .object type => type.name

/-- The field declared under a key; a scalar has no fields. -/
def field? : ElementKind → String → Option SourceField
  | .scalar _, _ => none
  | .object type, key => type.fields.lookup key

end ElementKind

namespace FieldKind

def isCollection : FieldKind → Bool
  | .collection _ => true
  | _ => false

/-- Take off the collection layers, counting on from `layers`. -/
def peel (layers : Nat) : FieldKind → ElementKind × Nat
  | .scalar leaf => (.scalar leaf, layers)
  | .object type => (.object type, layers)
  | .collection element => element.peel (layers + 1)

/-- The shape under all collection layers, and how many layers there are. -/
def element (kind : FieldKind) : ElementKind × Nat :=
  kind.peel 0

/-- The type of the field's value, in the vocabulary that targets and methods use. -/
def valueType : FieldKind → ValueType
  | .scalar leaf => .scalar leaf
  | .object type => .object type.name
  | .collection element => .collection element.valueType

/-- Put a number of collection layers around a shape. -/
def layered (kind : FieldKind) : Nat → FieldKind
  | 0 => kind
  | layers + 1 => .collection (kind.layered layers)

end FieldKind

namespace SourceType

/-- A type without fields. -/
def empty (name : String) : SourceType :=
  ⟨name, []⟩

/-- The field declared under a key. -/
def field? (type : SourceType) (key : String) : Option SourceField :=
  type.fields.lookup key

/-- The fields by declaration order. -/
def fieldList (type : SourceType) : List SourceField :=
  type.fields.map Prod.snd

/-- Declare a field under its own name. A field of that name is replaced where it stands. -/
def declare (type : SourceType) (field : SourceField) : SourceType :=
  { type with fields := putEntry field.name field type.fields }

/-- Declare a field that always has a value. -/
def withField (type : SourceType) (name : String) (kind : FieldKind) : SourceType :=
  type.declare ⟨name, kind, false⟩

/-- Declare a field whose value may be absent. -/
def withNullableField (type : SourceType) (name : String) (kind : FieldKind) : SourceType :=
  type.declare ⟨name, kind, true⟩

theorem field?_declare (type : SourceType) (field : SourceField) (key : String) :
    (type.declare field).field? key = if key = field.name then some field else type.field? key :=
  lookup_putEntry ..

end SourceType

mutual

/-- No source type inside the shape declares a key twice. -/
def FieldKind.KeysDistinct : FieldKind → Prop
  | .scalar _ => True
  | .object type => type.KeysDistinct
  | .collection element => element.KeysDistinct
termination_by structural kind => kind

/-- No key is declared twice, here or in a nested type. -/
def SourceType.KeysDistinct : SourceType → Prop
  | ⟨_, fields⟩ => (entryKeys fields).Nodup ∧ entriesKeysDistinct fields
termination_by structural type => type

/-- No source type inside the fields declares a key twice. -/
def entriesKeysDistinct : List (String × SourceField) → Prop
  | [] => True
  | (_, ⟨_, kind, _⟩) :: rest => kind.KeysDistinct ∧ entriesKeysDistinct rest
termination_by structural fields => fields

end

mutual

/-- Two shapes declare the same, whatever the order of the fields. -/
def FieldKind.sameAs : FieldKind → FieldKind → Bool
  | .scalar left, .scalar right => left == right
  | .object left, .object right => left.sameAs right
  | .collection left, .collection right => left.sameAs right
  | _, _ => false
termination_by structural kind => kind

/-- Two types have the same name and declare the same under the same keys, whatever the order. -/
def SourceType.sameAs : SourceType → SourceType → Bool
  | ⟨name, fields⟩, other =>
      name == other.name && fields.length == other.fields.length && entriesSame fields other.fields
termination_by structural type => type

/-- Every entry of the first list has its like under the same key of the second. -/
def entriesSame : List (String × SourceField) → List (String × SourceField) → Bool
  | [], _ => true
  | (key, ⟨name, kind, nullable⟩) :: rest, others =>
      (match others.lookup key with
        | some other => name == other.name && nullable == other.nullable && kind.sameAs other.kind
        | none => false) && entriesSame rest others
termination_by structural fields => fields

end

mutual

/-- The shape with every nested type declared anew. -/
def FieldKind.redeclared : FieldKind → FieldKind
  | .scalar leaf => .scalar leaf
  | .object type => .object type.redeclared
  | .collection element => .collection element.redeclared
termination_by structural kind => kind

/-- The type with all its fields declared anew, in order, so that each is keyed by its own name. -/
def SourceType.redeclared : SourceType → SourceType
  | ⟨name, fields⟩ => redeclareEntries (SourceType.empty name) fields
termination_by structural type => type

/-- Declare the fields of a list on a type, one after the other. -/
def redeclareEntries (type : SourceType) : List (String × SourceField) → SourceType
  | [] => type
  | (_, ⟨name, kind, nullable⟩) :: rest =>
      redeclareEntries (type.declare ⟨name, kind.redeclared, nullable⟩) rest
termination_by structural fields => fields

end

end ProjectionPlanner

import ProjectionPlanner.Document.Types
import ProjectionPlanner.Source

/-! # Source types as documents

The fields of a source type are written as a list of pairs, since their order matters. A key that
is given twice keeps its first place and gets the last value.
-/

namespace ProjectionPlanner

mutual

def FieldKind.document : FieldKind → Document
  | .scalar leaf => .tagged "Scalar" leaf.document
  | .object type => .tagged "Object" type.document
  | .collection element => .tagged "Collection" element.document
termination_by structural kind => kind

def SourceField.document : SourceField → Document
  | ⟨name, kind, nullable⟩ =>
      .object [("name", .text name), ("kind", kind.document), ("nullable", .flag nullable)]
termination_by structural field => field

def SourceType.document : SourceType → Document
  | ⟨name, fields⟩ =>
      .object [("name", .text name), ("fields", .list (entryDocuments fields))]
termination_by structural type => type

/-- The pairs of the fields of a source type. -/
def entryDocuments : List (String × SourceField) → List Document
  | [] => []
  | (key, field) :: rest => .list [.text key, field.document] :: entryDocuments rest
termination_by structural fields => fields

end

mutual

def FieldKind.ofDocument? : Document → Option FieldKind
  | .object [(tag, data)] =>
      if tag = "Scalar" then
        (ScalarType.ofDocument? data).map .scalar
      else if tag = "Object" then
        (SourceType.ofDocument? data).map .object
      else if tag = "Collection" then
        (FieldKind.ofDocument? data).map .collection
      else
        none
  | _ => none
termination_by structural document => document

def SourceType.ofDocument? : Document → Option SourceType
  | .object members =>
      (Document.Members.required members "name" Document.text?).bind fun name =>
        (fieldsMember? members).map (⟨name, ·⟩)
  | _ => none
termination_by structural document => document

/-- The member that holds the fields of a source type. -/
def fieldsMember? : List (String × Document) → Option (List (String × SourceField))
  | [] => none
  | (name, document) :: rest =>
      if name = "fields" then fieldEntries? document else fieldsMember? rest
termination_by structural members => members

/-- The fields of a source type, by key. -/
def fieldEntries? : Document → Option (List (String × SourceField))
  | .list items => readEntries [] items
  | _ => none
termination_by structural document => document

/-- Read the pairs of the fields and add them, one after the other, to those that are known. -/
def readEntries (known : List (String × SourceField)) :
    List Document → Option (List (String × SourceField))
  | [] => some known
  | .list [.text key, field] :: rest =>
      (SourceField.ofDocument? field).bind fun value => readEntries (putEntry key value known) rest
  | _ => none
termination_by structural items => items

def SourceField.ofDocument? : Document → Option SourceField
  | .object members =>
      (Document.Members.required members "name" Document.text?).bind fun name =>
        (kindMember? members).bind fun kind =>
          (Document.Members.withDefault members "nullable" false Document.flag?).map
            (⟨name, kind, ·⟩)
  | _ => none
termination_by structural document => document

/-- The member that holds the shape of a field. -/
def kindMember? : List (String × Document) → Option FieldKind
  | [] => none
  | (name, document) :: rest =>
      if name = "kind" then FieldKind.ofDocument? document else kindMember? rest
termination_by structural members => members

end

/-- The fields are written in their order. -/
theorem entryDocuments_eq_map (fields : List (String × SourceField)) :
    entryDocuments fields = fields.map fun (key, field) => .list [.text key, field.document] := by
  induction fields with
  | nil => rfl
  | cons entry rest ih => rw [entryDocuments, ih, List.map_cons]

mutual

theorem FieldKind.ofDocument?_document {kind : FieldKind} (distinct : kind.KeysDistinct) :
    FieldKind.ofDocument? kind.document = some kind := by
  cases kind with
  | scalar leaf => simp [FieldKind.document, Document.tagged, FieldKind.ofDocument?]
  | object type =>
      have inner : type.KeysDistinct := distinct
      simp [FieldKind.document, Document.tagged, FieldKind.ofDocument?,
        SourceType.ofDocument?_document inner]
  | collection element =>
      have inner : element.KeysDistinct := distinct
      simp [FieldKind.document, Document.tagged, FieldKind.ofDocument?,
        FieldKind.ofDocument?_document inner]
termination_by structural kind

theorem SourceField.ofDocument?_document {field : SourceField}
    (distinct : field.kind.KeysDistinct) :
    SourceField.ofDocument? field.document = some field := by
  obtain ⟨name, kind, nullable⟩ := field
  simp [SourceField.document, SourceField.ofDocument?, kindMember?,
    FieldKind.ofDocument?_document distinct]
termination_by structural field

/-- A type is read back if its keys differ. Of a key that stands twice the reader keeps one. -/
theorem SourceType.ofDocument?_document {type : SourceType} (distinct : type.KeysDistinct) :
    SourceType.ofDocument? type.document = some type := by
  obtain ⟨name, fields⟩ := type
  have read : readEntries [] (entryDocuments fields) = some ([] ++ fields) :=
    readEntries_entryDocuments distinct.1 distinct.2
  simp [SourceType.document, SourceType.ofDocument?, fieldsMember?, fieldEntries?, read]
termination_by structural type

theorem readEntries_entryDocuments {known fields : List (String × SourceField)}
    (fresh : (entryKeys known ++ entryKeys fields).Nodup) (distinct : entriesKeysDistinct fields) :
    readEntries known (entryDocuments fields) = some (known ++ fields) := by
  cases fields with
  | nil => simp [entryDocuments, readEntries]
  | cons entry rest =>
      obtain ⟨key, field⟩ := entry
      have absent : key ∉ entryKeys known := by
        intro stands
        rw [List.nodup_append] at fresh
        exact fresh.2.2 key stands key List.mem_cons_self rfl
      have inner : field.kind.KeysDistinct ∧ entriesKeysDistinct rest := by
        cases field
        exact distinct
      have later : readEntries (known ++ [(key, field)]) (entryDocuments rest) =
          some (known ++ [(key, field)] ++ rest) :=
        readEntries_entryDocuments (by simpa using fresh) inner.2
      simp [entryDocuments, readEntries, SourceField.ofDocument?_document inner.1,
        Entries.putEntry_of_not_mem absent, later]
termination_by structural fields

end

end ProjectionPlanner

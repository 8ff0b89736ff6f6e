import ProjectionPlanner.Entries

/-! # Documents

The written form of values: a tree of texts, flags, numbers, lists and named members, as JSON has
it. Reading is strict about the kind of each part and gives nothing when a part has another one.
This module holds the tree and the readers of its parts; what each type looks like as a document is
said in the modules below this one, a writer and a reader side by side.
-/

namespace ProjectionPlanner

/-- A tree of data. -/
inductive Document where
  | null
  | flag (value : Bool)
  /-- A natural number without fraction or exponent. -/
  | count (value : Nat)
  /-- Any other number, `mantissa / 10 ^ scale`. Nothing here is written so. -/
  | number (mantissa : Int) (scale : Nat)
  | text (value : String)
  | list (items : List Document)
  /-- Named members. Their order means nothing. -/
  | object (members : List (String × Document))
  deriving Inhabited

namespace Document

/-- Counts are below this number. -/
def countRange : Nat := UInt64.size

/-! ## Parts -/

def text? : Document → Option String
  | .text value => some value
  | _ => none

def flag? : Document → Option Bool
  | .flag value => some value
  | _ => none

/-- A count that is in range. -/
def count? : Document → Option Nat
  | .count value => if value < countRange then some value else none
  | _ => none

/-- Read every item of a list of documents. -/
def readAll {α : Type} (read : Document → Option α) : List Document → Option (List α)
  | [] => some []
  | item :: rest => (read item).bind fun value => (readAll read rest).map (value :: ·)

/-- Read a list. -/
def list? {α : Type} (read : Document → Option α) : Document → Option (List α)
  | .list items => readAll read items
  | _ => none

/-- Read a list whose items are pairs of a key and a value. -/
def pairs? {α : Type} (read : Document → Option α) : Document → Option (List (String × α)) :=
  list? fun
    | .list [.text key, value] => (read value).map (key, ·)
    | _ => none

/-- A list of keyed values as a list of pairs. -/
def ofPairs {α : Type} (write : α → Document) (pairs : List (String × α)) : Document :=
  .list (pairs.map fun (key, value) => .list [.text key, write value])

/-- A list. -/
def ofList {α : Type} (write : α → Document) (values : List α) : Document :=
  .list (values.map write)

/-! ## Members -/

/-- The members of an object, by name. -/
abbrev Members := List (String × Document)

def members? : Document → Option Members
  | .object members => some members
  | _ => none

/-- Read a member that has to be there. -/
def Members.required {α : Type} (members : Members) (name : String)
    (read : Document → Option α) : Option α :=
  (members.lookup name).bind read

/-- Read a member that may be left out, but not be null. -/
def Members.withDefault {α : Type} (members : Members) (name : String) (value : α)
    (read : Document → Option α) : Option α :=
  match members.lookup name with
  | some document => read document
  | none => some value

/-- Read a member that may be left out or be null. -/
def Members.optional {α : Type} (members : Members) (name : String)
    (read : Document → Option α) : Option (Option α) :=
  match members.lookup name with
  | none => some none
  | some .null => some none
  | some document => (read document).map some

/-- A member that is left out when there is no value. -/
def optionalMember {α : Type} (name : String) (write : α → Document) : Option α → Members
  | none => []
  | some value => [(name, write value)]

/-- A value that may be missing; null stands for none. -/
def ofOption {α : Type} (write : α → Document) : Option α → Document
  | none => .null
  | some value => write value

/-! ## Alternatives

A choice between alternatives is written as the name of the one chosen, or, if that one carries
data, as an object whose only member has this name. -/

/-- An alternative with its data. -/
def tagged (tag : String) (data : Document) : Document :=
  .object [(tag, data)]

/-! ## Reading what was written -/

theorem readAll_map {α : Type} {write : α → Document} {read : Document → Option α}
    {values : List α} (same : ∀ value ∈ values, read (write value) = some value) :
    readAll read (values.map write) = some values := by
  induction values with
  | nil => rfl
  | cons value rest ih =>
      have first := same value List.mem_cons_self
      have later := ih fun other member => same other (List.mem_cons_of_mem value member)
      simp [readAll, first, later]

theorem list?_ofList {α : Type} {write : α → Document} {read : Document → Option α}
    {values : List α} (same : ∀ value ∈ values, read (write value) = some value) :
    list? read (ofList write values) = some values :=
  readAll_map same

theorem count?_count {value : Nat} : count? (.count value) = some value ↔ value < countRange := by
  simp [count?]

theorem pairs?_ofPairs {α : Type} {write : α → Document} {read : Document → Option α}
    {pairs : List (String × α)} (same : ∀ pair ∈ pairs, read (write pair.2) = some pair.2) :
    pairs? read (ofPairs write pairs) = some pairs :=
  readAll_map fun pair member => by simp [same pair member]

@[simp]
theorem text?_text (value : String) : text? (.text value) = some value := rfl

@[simp]
theorem list?_texts (values : List String) : list? text? (ofList .text values) = some values :=
  list?_ofList fun value _ => text?_text value

@[simp]
theorem flag?_flag (value : Bool) : flag? (.flag value) = some value := rfl

@[simp]
theorem members?_object (members : Members) : members? (.object members) = some members := rfl

namespace Members

variable {α : Type} {rest : Members} {name other : String} {document : Document}
  {read : Document → Option α}

@[simp]
theorem required_cons :
    required ((other, document) :: rest) name read =
      if name = other then read document else required rest name read := by
  rw [required, lookup_entry_cons]
  split <;> rfl

@[simp]
theorem withDefault_nil {value : α} : withDefault [] name value read = some value := rfl

@[simp]
theorem withDefault_cons {value : α} :
    withDefault ((other, document) :: rest) name value read =
      if name = other then read document else withDefault rest name value read := by
  rw [withDefault, lookup_entry_cons]
  by_cases same : name = other
  · rw [if_pos same, if_pos same]
  · rw [if_neg same, if_neg same]
    rfl

@[simp]
theorem optional_nil : optional [] name read = some none := rfl

@[simp]
theorem optional_cons_null : optional ((name, .null) :: rest) name read = some none := by
  rw [optional, lookup_entry_cons, if_pos rfl]

theorem optional_cons_self (written : document ≠ .null) :
    optional ((name, document) :: rest) name read = (read document).map some := by
  rw [optional, lookup_entry_cons, if_pos rfl]
  cases document <;> first | rfl | exact absurd rfl written

theorem optional_cons_of_ne (apart : name ≠ other) :
    optional ((other, document) :: rest) name read = optional rest name read := by
  rw [optional, lookup_entry_cons, if_neg apart]
  rfl

end Members

end Document

end ProjectionPlanner

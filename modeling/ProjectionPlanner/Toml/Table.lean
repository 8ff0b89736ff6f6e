import ProjectionPlanner.Document.Basic

/-! # Tables

What a TOML text says, put together from its statements. A table can be started by a header, by a
key with dots, or inside braces, and how it was started decides what may still be added to it:
a table is stated once, a table in braces is closed, and keys with dots add only to tables that
they started themselves. Arrays of tables are left out: no setting has such a value, so that a text
that holds one is refused either way.
-/

namespace ProjectionPlanner.Toml

/-- How a table was started. -/
inductive TableOrigin where
  /-- By the header of a table inside it. -/
  | implied
  /-- By its own header. -/
  | header
  /-- By a key with dots. -/
  | dotted
  /-- In braces. -/
  | braces
  deriving DecidableEq

/-- A value. -/
inductive Value where
  | text (value : String)
  | flag (value : Bool)
  /-- A number, as it is written but for its underscores. -/
  | number (written : String)
  /-- A date, a time, or both, as it is written. -/
  | moment (written : String)
  | list (items : List Value)
  | table (origin : TableOrigin) (entries : List (String × Value))

/-- The entries of a table, by key. -/
abbrev Table := List (String × Value)

/-- Change what stands under a key, which may be nothing yet. -/
def Table.alter (table : Table) (key : String) (change : Option Value → Option Value) :
    Option Table :=
  (change (table.lookup key)).map fun value => putEntry key value table

/-- Add a value under a key with dots, none of whose parts may name anything but a table that such
    a key started. -/
def Table.add (value : Value) : List String → Table → Option Table
  | [], _ => none
  | [key], table =>
      table.alter key fun
        | none => some value
        | some _ => none
  | key :: rest, table =>
      table.alter key fun
        | none => (Table.add value rest []).map (.table .dotted)
        | some (.table .dotted inner) => (Table.add value rest inner).map (.table .dotted)
        | some _ => none

/-- Add values in order. -/
def Table.addAll (pairs : List (List String × Value)) (table : Table) : Option Table :=
  pairs.foldlM (fun known (path, value) => known.add value path) table

/-- Add the table under a header. It may have been started by the headers of tables inside it, but
    not in any other way. -/
def Table.addSection (pairs : List (List String × Value)) : List String → Table → Option Table
  | [], _ => none
  | [key], table =>
      table.alter key fun
        | none => (Table.addAll pairs []).map (.table .header)
        | some (.table .implied inner) => (Table.addAll pairs inner).map (.table .header)
        | some _ => none
  | key :: rest, table =>
      table.alter key fun
        | none => (Table.addSection pairs rest []).map (.table .implied)
        | some (.table .braces _) => none
        | some (.table origin inner) => (Table.addSection pairs rest inner).map (.table origin)
        | some _ => none

/-- A text or a flag as a document. Settings have no other values. -/
def Value.document? : Value → Option Document
  | .text value => some (.text value)
  | .flag value => some (.flag value)
  | _ => none

/-- Keyed values as the members of a document. -/
def documentMembers? (entries : List (String × Value)) : Option Document.Members :=
  entries.mapM fun (key, value) => value.document?.map (key, ·)

end ProjectionPlanner.Toml

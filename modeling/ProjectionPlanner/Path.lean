import ProjectionPlanner.Source

/-! # Paths through a source type

A path is a text whose segments are separated by dots. Every segment is looked up in the type that
the segments before it lead to; collections are stepped into and their layers counted. A path may
cross any number of collections, but it must not end on one.
-/

namespace ProjectionPlanner

/-- Why a path leads nowhere. -/
inductive PathError where
  /-- The path is empty, or two of its dots stand side by side or at an end. -/
  | emptySegment (path : String)
  /-- The type reached so far declares no such field. -/
  | notFound (path segment owner resolved : String)
  /-- The last segment is a collection, and no field of its elements is chosen. -/
  | endsOnCollection (path segment : String)
  deriving DecidableEq, Repr

namespace PathError

/-- The path that was to be followed. -/
def path : PathError → String
  | .emptySegment path => path
  | .notFound path .. => path
  | .endsOnCollection path _ => path

def message : PathError → String
  | .emptySegment path => "path '" ++ path ++ "' contains an empty segment"
  | .notFound path segment owner resolved =>
      "path '" ++ path ++ "': no field '" ++ segment ++ "' on type '" ++ owner ++
        "' (resolved so far: '" ++ resolved ++ "')"
  | .endsOnCollection path segment =>
      "path '" ++ path ++ "' terminates on collection '" ++ segment ++
        "'; select a field of its elements"

end PathError

/-- What a segment is, seen from the type that declares it. -/
inductive SegmentKind where
  | scalar
  /-- A single object. -/
  | nested
  /-- A collection with this many layers. -/
  | collection (depth : Nat)
  deriving DecidableEq, Repr

/-- One segment of a path that was followed: the declaring type and the declared field. -/
structure Segment where
  owner : String
  name : String
  kind : SegmentKind
  nullable : Bool
  deriving DecidableEq, Repr

/-- The segment that stands for a field of a type. -/
def Segment.ofField (owner : ElementKind) (field : SourceField) : Segment where
  owner := owner.typeName
  name := field.name
  kind :=
    match field.kind.element with
    | (.scalar _, 0) => .scalar
    | (.object _, 0) => .nested
    | (_, layers) => .collection layers
  nullable := field.nullable

/-- A path that was followed to its end. -/
structure ResolvedPath where
  path : String
  segments : List Segment
  /-- The type of a single value at the end of the path. -/
  terminalType : ValueType
  traversesCollection : Bool
  /-- The collection layers on the way, all counted together. -/
  collectionHops : Nat
  deriving DecidableEq, Repr

namespace ResolvedPath

/-- The field of the source type at which the path starts. -/
def root (resolved : ResolvedPath) : String :=
  match resolved.segments with
  | first :: _ => first.name
  | [] => resolved.path

/-- Some value on the way may be absent. -/
def isNullable (resolved : ResolvedPath) : Bool :=
  resolved.segments.any (·.nullable)

/-- The type of all that is found at the end of the path. However many collections the path
    crosses, their values come as one flat collection. -/
def valueType (resolved : ResolvedPath) : ValueType :=
  if resolved.traversesCollection then .collection resolved.terminalType else resolved.terminalType

end ResolvedPath

namespace Path

/-- The character between two segments. -/
def separator : Char := '.'

/-- The segments of a path, at least one. -/
def segments (path : String) : List String :=
  Text.pieces separator path

/-- The text before the first separator. -/
def root (path : String) : String :=
  (segments path).headD path

/-- What was met on the way: the segments, the type at the end, and the collection layers. -/
structure Walk where
  segments : List Segment
  terminalType : ValueType
  hops : Nat
  deriving DecidableEq, Repr

/-- Put a step before a walk. -/
def Walk.after (segment : Segment) (layers : Nat) (walk : Walk) : Walk :=
  { walk with segments := segment :: walk.segments, hops := layers + walk.hops }

/-- The field that a segment names on the type reached through the segments `passed`. -/
def fieldOn (path : String) (passed : List String) (here : ElementKind) (name : String) :
    Except PathError SourceField :=
  match here.field? name with
  | some field => .ok field
  | none => .error (.notFound path name here.typeName (Text.join "." passed))

/-- Follow a path from a type to its end, one segment and then the rest. `passed` holds the
    segments that led to the type. -/
def follow (path : String) (passed : List String) (here : ElementKind) (name : String) :
    List String → Except PathError Walk
  | [] =>
      (fieldOn path passed here name).bind fun field =>
        if field.kind.element.2 = 0 then
          .ok ⟨[Segment.ofField here field], field.kind.element.1.valueType, 0⟩
        else
          .error (.endsOnCollection path name)
  | next :: rest =>
      (fieldOn path passed here name).bind fun field =>
        (follow path (passed ++ [name]) field.kind.element.1 next rest).map
          (Walk.after (Segment.ofField here field) field.kind.element.2)

end Path

/-- Follow a path from a source type. An empty segment is refused before any field is looked up. -/
def SourceType.resolve (source : SourceType) (path : String) : Except PathError ResolvedPath :=
  match Path.segments path with
  | [] => .error (.emptySegment path)
  | first :: rest =>
      if "" ∈ first :: rest then
        .error (.emptySegment path)
      else
        (Path.follow path [] (.object source) first rest).map fun walk =>
          { path
            segments := walk.segments
            terminalType := walk.terminalType
            traversesCollection := walk.hops != 0
            collectionHops := walk.hops }

end ProjectionPlanner

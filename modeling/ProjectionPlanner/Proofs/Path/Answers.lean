import Mathlib.Algebra.Order.Ring.Nat
import ProjectionPlanner.Proofs.Path.Walk
import ProjectionPlanner.Proofs.Source.Layers
import ProjectionPlanner.Proofs.Text.Splitting

/-! # What becomes of a path

A path is split at its dots, and its names are looked up one after the other, each in the type that
the names before it lead to. The names either lead through declared fields to the last of them, or
there is a first one that its type does not declare. Together with the empty names, which are
refused before anything is looked up, and the collections that no path may end on, these are all the
answers there are.
-/

namespace ProjectionPlanner

namespace Path

/-- A name that was looked up: the type that declares it, the field, and the shape of the field,
    its element and its collection layers. -/
structure Hop where
  owner : ElementKind
  field : SourceField
  element : ElementKind
  layers : Nat

/-- The hop as a segment of a path that was followed. -/
def Hop.segment (hop : Hop) : Segment where
  owner := hop.owner.typeName
  name := hop.field.name
  kind :=
    match hop.layers, hop.element with
    | 0, .scalar _ => .scalar
    | 0, .object _ => .nested
    | layers + 1, _ => .collection (layers + 1)
  nullable := hop.field.nullable

/-- The names lead through declared fields, one hop for each, from a type to another. Collections
    are stepped into through all their layers. -/
inductive Walks : ElementKind → List String → List Hop → ElementKind → Prop where
  | nil {here : ElementKind} : Walks here [] [] here
  | cons {here element there : ElementKind} {name : String} {rest : List String}
      {field : SourceField} {layers : Nat} {hops : List Hop}
      (declared : here.field? name = some field) (shape : field.kind = element.bare.layered layers)
      (onward : Walks element rest hops there) :
      Walks here (name :: rest) (⟨here, field, element, layers⟩ :: hops) there

/-- What is known of a path from the hops along it and from the type behind the last one. -/
structure Describes (path : String) (hops : List Hop) (there : ElementKind)
    (resolved : ResolvedPath) : Prop where
  path : resolved.path = path
  segments : resolved.segments = hops.map Hop.segment
  terminalType : resolved.terminalType = there.valueType
  collectionHops : resolved.collectionHops = (hops.map Hop.layers).sum
  traversesCollection : resolved.traversesCollection = true ↔ ∃ hop ∈ hops, 0 < hop.layers
  isNullable : resolved.isNullable = true ↔ ∃ hop ∈ hops, hop.field.nullable = true
  valueType :
    resolved.valueType =
      if ∃ hop ∈ hops, 0 < hop.layers then .collection there.valueType else there.valueType

/-- The answer to a path that is made up of some names. -/
inductive Answers (source : SourceType) (path : String) (names : List String) :
    Except PathError ResolvedPath → Prop where
  /-- Some name is empty, and nothing is looked up. -/
  | emptySegment (gap : "" ∈ names) : Answers source path names (.error (.emptySegment path))
  /-- The names before this one were found, and this one is not declared. -/
  | notFound {before after : List String} {name : String} {hops : List Hop} {there : ElementKind}
      (proper : "" ∉ names) (position : names = before ++ name :: after)
      (walks : Walks (.object source) before hops there) (undeclared : there.field? name = none) :
      Answers source path names
        (.error (.notFound path name there.typeName (Text.join "." before)))
  /-- All names were found, and the last is a collection. -/
  | endsOnCollection {hops : List Hop} {there : ElementKind} {last : Hop} {name : String}
      (proper : "" ∉ names) (walks : Walks (.object source) names hops there)
      (ends : hops.getLast? = some last) (named : names.getLast? = some name)
      (layered : 0 < last.layers) :
      Answers source path names (.error (.endsOnCollection path name))
  | resolved {hops : List Hop} {there : ElementKind} {last : Hop} {resolved : ResolvedPath}
      (proper : "" ∉ names) (walks : Walks (.object source) names hops there)
      (ends : hops.getLast? = some last) (single : last.layers = 0)
      (describes : Describes path hops there resolved) :
      Answers source path names (.ok resolved)

/-! ## Hops -/

theorem Hop.segment_eq {here element : ElementKind} {field : SourceField} {layers : Nat}
    (shape : field.kind = element.bare.layered layers) :
    Hop.segment ⟨here, field, element, layers⟩ = .ofField here field := by
  have found := FieldKind.element_eq_iff.mpr shape
  cases layers <;> cases element <;> simp [segment, Segment.ofField, found]

theorem exists_walks_or_undeclared (here : ElementKind) (names : List String) :
    (∃ hops there, Walks here names hops there) ∨
      ∃ before name after hops there, names = before ++ name :: after ∧
        Walks here before hops there ∧ there.field? name = none := by
  induction names generalizing here with
  | nil => exact .inl ⟨_, _, .nil⟩
  | cons name rest ih =>
      cases declared : here.field? name with
      | none => exact .inr ⟨[], name, rest, [], here, rfl, .nil, declared⟩
      | some field =>
          obtain ⟨element, layers, shape⟩ := field.kind.exists_layered
          rcases ih element with ⟨hops, there, onward⟩ | ⟨before, missing, after, hops, there,
            position, onward, undeclared⟩
          · exact .inl ⟨_, _, .cons declared shape onward⟩
          · exact .inr ⟨name :: before, missing, after, _, there, by rw [position]; rfl,
              .cons declared shape onward, undeclared⟩

theorem Walks.exists_last {here there : ElementKind} {name : String} {rest : List String}
    {hops : List Hop} (walks : Walks here (name :: rest) hops there) :
    ∃ last, hops.getLast? = some last := by
  cases walks with
  | cons declared shape onward => exact ⟨_, List.getLast?_eq_some_getLast (List.cons_ne_nil _ _)⟩

def Walk.ofHops (hops : List Hop) (there : ElementKind) : Walk :=
  ⟨hops.map Hop.segment, there.valueType, (hops.map Hop.layers).sum⟩

theorem describes_ofHops (path : String) (hops : List Hop) (there : ElementKind) :
    Describes path hops there ((Walk.ofHops hops there).resolved path) := by
  have crosses : ((Walk.ofHops hops there).resolved path).traversesCollection = true ↔
      ∃ hop ∈ hops, 0 < hop.layers := by
    simp only [Walk.resolved, Walk.ofHops, bne_iff_ne, ← Nat.pos_iff_ne_zero,
      List.sum_pos_iff_exists_pos_nat, List.mem_map]
    constructor
    · rintro ⟨_, ⟨hop, member, rfl⟩, layered⟩
      exact ⟨hop, member, layered⟩
    · rintro ⟨hop, member, layered⟩
      exact ⟨_, ⟨hop, member, rfl⟩, layered⟩
  exact
    { path := rfl
      segments := rfl
      terminalType := rfl
      collectionHops := rfl
      traversesCollection := crosses
      isNullable := by
        simp [ResolvedPath.isNullable, Walk.resolved, Walk.ofHops, Hop.segment, Function.comp_def]
      valueType := by
        simp only [← crosses]
        rfl }

theorem Describes.unique {path : String} {hops : List Hop} {there : ElementKind}
    {left right : ResolvedPath} (first : Describes path hops there left)
    (second : Describes path hops there right) : left = right := by
  have traverses : left.traversesCollection = right.traversesCollection :=
    Bool.eq_iff_iff.mpr (first.traversesCollection.trans second.traversesCollection.symm)
  cases left
  cases right
  simp only [ResolvedPath.mk.injEq]
  exact ⟨first.path.trans second.path.symm, first.segments.trans second.segments.symm,
    first.terminalType.trans second.terminalType.symm, traverses,
    first.collectionHops.trans second.collectionHops.symm⟩

/-! ## Following the names -/

theorem follow_of_undeclared {path missing : String} {before after : List String}
    {here there : ElementKind} {hops : List Hop} {name : String} {rest : List String}
    (passed : List String) (walks : Walks here before hops there)
    (undeclared : there.field? missing = none)
    (position : name :: rest = before ++ missing :: after) :
    follow path passed here name rest =
      .error (.notFound path missing there.typeName (Text.join "." (passed ++ before))) := by
  induction walks generalizing passed name rest with
  | nil =>
      cases position
      rw [List.append_nil]
      cases after <;> simp [follow, fieldOn_of_undeclared undeclared, Except.bind]
  | @cons here element there first others field layers hops declared shape onward ih =>
      obtain ⟨rfl, onwards⟩ := List.cons.inj position
      have found := FieldKind.element_eq_iff.mpr shape
      cases rest with
      | nil => simp at onwards
      | cons next rest =>
          have later := ih (passed ++ [name]) undeclared onwards
          simp only [follow, fieldOn_of_declared declared, Except.bind, found, later,
            List.append_assoc]
          rfl

theorem follow_of_walks {path name lastName : String} {rest : List String}
    {here there : ElementKind} {hops : List Hop} {last : Hop} (passed : List String)
    (walks : Walks here (name :: rest) hops there) (ends : hops.getLast? = some last)
    (named : (name :: rest).getLast? = some lastName) :
    follow path passed here name rest =
      if last.layers = 0 then .ok (Walk.ofHops hops there)
      else .error (.endsOnCollection path lastName) := by
  induction rest generalizing passed here name hops with
  | nil =>
      cases walks with
      | @cons _ element _ _ _ field layers _ declared shape onward =>
          cases onward
          simp only [List.getLast?_singleton, Option.some.injEq] at ends named
          subst ends named
          have found := FieldKind.element_eq_iff.mpr shape
          simp only [follow, fieldOn_of_declared declared, Except.bind, found]
          by_cases single : layers = 0
          · subst single
            simp [Walk.ofHops, Hop.segment_eq shape]
          · simp [single]
  | cons next rest ih =>
      cases walks with
      | @cons _ element _ _ _ field layers hops declared shape onward =>
          have found := FieldKind.element_eq_iff.mpr shape
          have endsOnward : hops.getLast? = some last := by
            cases onward
            exact ends
          have later := ih (passed ++ [name]) onward endsOnward named
          rw [follow, fieldOn_of_declared declared, Except.bind, found, later]
          split
          · simp [Except.map, Walk.after, Walk.ofHops, Hop.segment_eq shape]
          · rfl

end Path

open ProjectionPlanner.Path

namespace SourceType

variable {source : SourceType} {path : String} {answer : Except PathError ResolvedPath}

theorem resolve_of_answers {names : List String} (splits : Text.Splits separator path names)
    (answers : Answers source path names answer) : source.resolve path = answer := by
  have cut : Path.segments path = names := (Text.splits_iff.mp splits).symm
  cases names with
  | nil => exact absurd rfl splits.nonempty
  | cons first rest =>
      simp only [resolve, cut]
      cases answers with
      | emptySegment gap => exact if_pos gap
      | notFound proper position walks undeclared =>
          rw [if_neg proper, follow_of_undeclared [] walks undeclared position]
          rfl
      | endsOnCollection proper walks ends named layered =>
          rw [if_neg proper, follow_of_walks [] walks ends named,
            if_neg (Nat.pos_iff_ne_zero.mp layered)]
          rfl
      | @resolved hops there last resolved proper walks ends single describes =>
          obtain ⟨name, named⟩ : ∃ name, (first :: rest).getLast? = some name :=
            ⟨_, List.getLast?_eq_some_getLast (List.cons_ne_nil _ _)⟩
          rw [if_neg proper, follow_of_walks [] walks ends named, if_pos single]
          exact congrArg Except.ok ((describes_ofHops path hops there).unique describes)

theorem exists_answers {names : List String} (splits : Text.Splits separator path names) :
    ∃ answer, Answers source path names answer := by
  by_cases gap : "" ∈ names
  · exact ⟨_, .emptySegment gap⟩
  rcases exists_walks_or_undeclared (.object source) names with
    ⟨hops, there, walks⟩ | ⟨before, name, after, hops, there, position, walks, undeclared⟩
  · cases names with
    | nil => exact absurd rfl splits.nonempty
    | cons first rest =>
        obtain ⟨last, ends⟩ := walks.exists_last
        by_cases single : last.layers = 0
        · exact ⟨_, .resolved gap walks ends single (describes_ofHops path hops there)⟩
        · exact ⟨_, .endsOnCollection gap walks ends
            (List.getLast?_eq_some_getLast (List.cons_ne_nil _ _)) (Nat.pos_of_ne_zero single)⟩
  · exact ⟨_, .notFound gap position walks undeclared⟩

/-- Whatever is answered to a path is the answer to its names. -/
theorem answers_resolve (source : SourceType) (path : String) :
    Answers source path (Text.pieces separator path) (source.resolve path) := by
  have splits := Text.splits_pieces separator path
  obtain ⟨answer, answers⟩ : ∃ answer, Answers source path (Text.pieces separator path) answer :=
    exists_answers splits
  rwa [resolve_of_answers splits answers]

/-- A path has the answer that its names have, and no other. -/
theorem resolve_eq_iff_answers :
    source.resolve path = answer ↔
      ∃ names, Text.Splits separator path names ∧ Answers source path names answer := by
  constructor
  · intro answered
    have splits := Text.splits_pieces separator path
    obtain ⟨other, answers⟩ : ∃ other, Answers source path (Text.pieces separator path) other :=
      exists_answers splits
    rw [← answered, resolve_of_answers splits answers]
    exact ⟨_, splits, answers⟩
  · rintro ⟨names, splits, answers⟩
    exact resolve_of_answers splits answers

end SourceType

end ProjectionPlanner

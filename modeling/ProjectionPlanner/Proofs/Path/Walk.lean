import ProjectionPlanner.Path

/-! # Where paths lead

Following a path stops at the first segment that fails. Here is what it means that none does: the
names lead from one type into the next, and the last of them to a field outside of collections.
Paths that lead nowhere are not described.
-/

namespace ProjectionPlanner

namespace Path

/-- What a walk along a whole path makes known about the path. -/
def Walk.resolved (path : String) (walk : Walk) : ResolvedPath where
  path := path
  segments := walk.segments
  terminalType := walk.terminalType
  traversesCollection := walk.hops != 0
  collectionHops := walk.hops

/-- The names lead from a type to the end of a walk. -/
inductive Leads : ElementKind → List String → Walk → Prop where
  /-- The last field has no collection layers. -/
  | last {here : ElementKind} {name : String} {field : SourceField}
      (declared : here.field? name = some field) (single : field.kind.element.2 = 0) :
      Leads here [name] ⟨[Segment.ofField here field], field.kind.element.1.valueType, 0⟩
  /-- A field before the last is stepped into, through all its collection layers. -/
  | step {here : ElementKind} {name next : String} {rest : List String} {field : SourceField}
      {walk : Walk} (declared : here.field? name = some field)
      (later : Leads field.kind.element.1 (next :: rest) walk) :
      Leads here (name :: next :: rest)
        (walk.after (Segment.ofField here field) field.kind.element.2)

theorem fieldOn_of_declared {path name : String} {passed : List String} {here : ElementKind}
    {field : SourceField} (declared : here.field? name = some field) :
    fieldOn path passed here name = .ok field := by
  simp [fieldOn, declared]

theorem fieldOn_of_undeclared {path name : String} {passed : List String} {here : ElementKind}
    (undeclared : here.field? name = none) :
    fieldOn path passed here name =
      .error (.notFound path name here.typeName (Text.join "." passed)) := by
  simp [fieldOn, undeclared]

/-- A path is followed to its end exactly when its names lead there. -/
theorem follow_eq_ok_iff {path name : String} {passed rest : List String} {here : ElementKind}
    {walk : Walk} :
    follow path passed here name rest = .ok walk ↔ Leads here (name :: rest) walk := by
  induction rest generalizing passed here name walk with
  | nil =>
      cases declared : here.field? name with
      | none =>
          simp only [follow, fieldOn_of_undeclared declared, Except.bind, reduceCtorEq, false_iff]
          intro leads
          cases leads with
          | last found _ => rw [declared] at found; cases found
      | some field =>
          simp only [follow, fieldOn_of_declared declared, Except.bind]
          constructor
          · intro followed
            split at followed
            · rename_i single
              cases followed
              exact .last declared single
            · cases followed
          · intro leads
            cases leads with
            | last found single =>
                cases declared.symm.trans found
                rw [if_pos single]
  | cons next rest ih =>
      cases declared : here.field? name with
      | none =>
          simp only [follow, fieldOn_of_undeclared declared, Except.bind, reduceCtorEq, false_iff]
          intro leads
          cases leads with
          | step found _ => rw [declared] at found; cases found
      | some field =>
          simp only [follow, fieldOn_of_declared declared, Except.bind]
          constructor
          · intro followed
            cases onward : follow path (passed ++ [name]) field.kind.element.1 next rest with
            | error error => rw [onward] at followed; cases followed
            | ok later =>
                rw [onward] at followed
                cases followed
                exact .step declared (ih.mp onward)
          · intro leads
            cases leads with
            | step found later =>
                cases declared.symm.trans found
                rw [ih.mpr later]
                rfl

end Path

theorem SourceType.resolve_eq_ok_iff {source : SourceType} {path : String}
    {resolved : ResolvedPath} :
    source.resolve path = .ok resolved ↔
      "" ∉ Path.segments path ∧
        ∃ walk, Path.Leads (.object source) (Path.segments path) walk ∧
          resolved = walk.resolved path := by
  cases pieces : Path.segments path with
  | nil => exact absurd pieces (Text.pieces_ne_nil _ _)
  | cons first rest =>
      simp only [resolve, pieces]
      split
      · rename_i gap
        simp [gap]
      · rename_i whole
        have leads : ∀ walk, Path.Leads (.object source) (first :: rest) walk ↔
            Path.follow path [] (.object source) first rest = .ok walk :=
          fun _ => Path.follow_eq_ok_iff.symm
        simp only [whole, not_false_eq_true, true_and, leads]
        cases Path.follow path [] (.object source) first rest with
        | error error => simp [Except.map]
        | ok walk => simp [Except.map, Path.Walk.resolved, eq_comm]

theorem SourceType.path_of_resolve {source : SourceType} {path : String} {resolved : ResolvedPath}
    (leads : source.resolve path = .ok resolved) : resolved.path = path := by
  obtain ⟨-, walk, -, rfl⟩ := resolve_eq_ok_iff.mp leads
  rfl

end ProjectionPlanner

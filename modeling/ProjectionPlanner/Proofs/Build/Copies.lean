import ProjectionPlanner.Proofs.Build.SourcePaths
import ProjectionPlanner.Proofs.Path.Answers

/-! # Copying by name and copying by path

A field can be copied by its own name, or by a path that consists of that name alone. The two go
different ways: the name is looked up at once, the path is followed. They come to the same end, with
the same mapping or with the same diagnostic, unless the source field is a collection. No path ends
on a collection, but a collection may be copied as a whole.
-/

namespace ProjectionPlanner

/-! ## Paths of one segment -/

/-- A text without separators is a path of one segment. -/
theorem Path.splits_of_single {name : String} (single : separator ∉ name.toList) :
    Text.Splits separator name [name] where
  nonempty := List.cons_ne_nil _ _
  unmarked := by
    intro part member
    rw [List.mem_singleton.mp member]
    exact single
  joined := rfl

namespace SourceType

variable {source : SourceType} {name : String} {field : SourceField}

theorem resolve_of_undeclared (proper : name ≠ "") (single : Path.separator ∉ name.toList)
    (missing : source.field? name = none) :
    source.resolve name = .error (.notFound name name source.name "") :=
  resolve_of_answers (Path.splits_of_single single)
    (.notFound (by simpa using Ne.symm proper) (List.nil_append _).symm .nil missing)

theorem resolve_of_collection (proper : name ≠ "") (single : Path.separator ∉ name.toList)
    (declared : source.field? name = some field) (layered : field.kind.isCollection = true) :
    source.resolve name = .error (.endsOnCollection name name) := by
  obtain ⟨element, layers, shape⟩ := field.kind.exists_layered
  rw [shape, FieldKind.isCollection_layered] at layered
  exact resolve_of_answers (Path.splits_of_single single)
    (.endsOnCollection (by simpa using Ne.symm proper) (.cons declared shape .nil) rfl rfl
      layered)

/-- A path to a field outside of collections leads to the field itself. -/
theorem exists_resolve_of_plain (proper : name ≠ "") (single : Path.separator ∉ name.toList)
    (declared : source.field? name = some field) (plain : field.kind.isCollection = false) :
    ∃ resolved, source.resolve name = .ok resolved ∧
      resolved.valueType = field.kind.valueType ∧ resolved.isNullable = field.nullable := by
  obtain ⟨element, layers, shape⟩ := field.kind.exists_layered
  have bare : layers = 0 := by
    rw [shape, ← Bool.not_eq_true, FieldKind.isCollection_layered] at plain
    exact Nat.eq_zero_of_not_pos plain
  subst bare
  have describes := Path.describes_ofHops name [⟨.object source, field, element, 0⟩] element
  refine ⟨_, resolve_of_answers (Path.splits_of_single single)
    (.resolved (by simpa using Ne.symm proper) (.cons declared shape .nil) rfl rfl describes),
    ?_, ?_⟩
  · rw [describes.valueType, shape, FieldKind.valueType_layered]
    simp [ValueType.layered]
  · rw [Bool.eq_iff_iff, describes.isNullable]
    simp

end SourceType

namespace FieldMapping

/-- Whether a copied value may be absent. -/
def copyIsNullable? : FieldMapping → Option Bool
  | .implicit _ _ nullable => some nullable
  | .explicit path => some path.isNullable
  | .computed _ => none

/-- The mappings copy a value of the same type from the same place. -/
structure CopiesAlike (left right : FieldMapping) : Prop where
  valueType : left.valueType = right.valueType
  sourcePaths : left.sourcePaths = right.sourcePaths
  nullability : left.copyIsNullable? = right.copyIsNullable?

end FieldMapping

namespace Build

/-! ## Builds of one field -/

/-- The build with this target field and no other. -/
def only (build : Build) (target : TargetField) : Build :=
  { build with declaration := ⟨build.declaration.name, [target]⟩ }

/-- The plan of one field. -/
def planOf (build : Build) (name : String) (mapping : FieldMapping) : Plan where
  target := build.declaration.name
  source := build.source
  registry := build.registry
  fields := .ofList [(name, mapping)]

/-- One diagnostic about one field. -/
def refusal (build : Build) (name : String) (kind : PlanErrorKind) : BuildErrors :=
  ⟨build.declaration.name, [⟨name, kind⟩]⟩

/-- A copy of this type passes the check, or is not checked. -/
def TakesCopy (build : Build) (type found : ValueType) : Prop :=
  build.settings.checkProjectedTypes = true →
    found.isAssignableTo build.settings.numericWidening type = true

instance (build : Build) (type found : ValueType) : Decidable (build.TakesCopy type found) :=
  inferInstanceAs (Decidable (_ → _))

variable {build : Build} {target : TargetField} {name : String} {type : ValueType}
  {field : SourceField}

theorem outcomes_only (build : Build) (target : TargetField) :
    (build.only target).outcomes = [⟨target, (build.only target).run target⟩] :=
  outcomes_of_distinct (by simp [only, Declaration.names])

theorem result_only_of_ok {mapping : FieldMapping}
    (resolves : (build.only target).Resolves target mapping) :
    (build.only target).result = .ok (build.planOf target.name mapping) := by
  unfold Resolves at resolves
  simp only [result, Build.errors, mappings, outcomes_only, List.flatMap_cons, List.flatMap_nil,
    FieldOutcome.errors, List.filterMap_cons, List.filterMap_nil, FieldOutcome.entry?, resolves]
  rfl

theorem result_only_of_error (build : Build) (target : TargetField) {kind : PlanErrorKind}
    (fails : ((build.only target).run target).result = .error (.single kind)) :
    (build.only target).result = .error (build.refusal target.name kind) := by
  simp only [result, Build.errors, outcomes_only, List.flatMap_cons, List.flatMap_nil,
    FieldOutcome.errors, fails]
  rfl

/-- A copy that was found is planned if it passes the check, and a mismatch otherwise. -/
theorem result_only_of_copied (build : Build) (target : TargetField) {mapping : FieldMapping}
    {found : ValueType}
    (copied : ((build.only target).run target).result =
      (build.checkProjected target found).map fun _ => mapping) :
    (build.only target).result =
      if build.TakesCopy target.type found then .ok (build.planOf target.name mapping)
      else .error (build.refusal target.name (.typeMismatch target.type found)) := by
  split
  · rename_i fits
    rw [checkProjected_eq_ok_iff.mpr fits] at copied
    exact result_only_of_ok copied
  · rename_i unfit
    have refused : build.checkProjected target found =
        .error (.single (.typeMismatch target.type found)) := by
      simpa [checkProjected, TakesCopy] using unfit
    rw [refused] at copied
    exact result_only_of_error build target copied

theorem result_only_implicit (declared : build.source.field? name = some field) :
    (build.only ⟨name, type, .implicit⟩).result =
      if build.TakesCopy type field.kind.valueType then
        .ok (build.planOf name (.implicit field.name field.kind.valueType field.nullable))
      else .error (build.refusal name (.typeMismatch type field.kind.valueType)) := by
  refine result_only_of_copied build ⟨name, type, .implicit⟩ ?_
  change (build.implicit ⟨name, type, .implicit⟩) = _
  simp only [implicit, declared]

theorem result_only_implicit_of_undeclared (missing : build.source.field? name = none) :
    (build.only ⟨name, type, .implicit⟩).result =
      .error (build.refusal name (.path (.notFound name name build.source.name ""))) := by
  refine result_only_of_error build ⟨name, type, .implicit⟩ ?_
  change (build.implicit ⟨name, type, .implicit⟩) = _
  simp only [implicit, missing]

theorem result_only_explicit {path : String} {resolved : ResolvedPath}
    (leads : build.source.resolve path = .ok resolved) :
    (build.only ⟨name, type, .explicit path⟩).result =
      if build.TakesCopy type resolved.valueType then .ok (build.planOf name (.explicit resolved))
      else .error (build.refusal name (.typeMismatch type resolved.valueType)) := by
  refine result_only_of_copied build ⟨name, type, .explicit path⟩ ?_
  change (build.explicit ⟨name, type, .explicit path⟩ path) = _
  simp only [explicit, leads]

theorem result_only_explicit_of_error {path : String} {error : PathError}
    (fails : build.source.resolve path = .error error) :
    (build.only ⟨name, type, .explicit path⟩).result =
      .error (build.refusal name (.path error)) := by
  refine result_only_of_error build ⟨name, type, .explicit path⟩ ?_
  change (build.explicit ⟨name, type, .explicit path⟩ path) = _
  simp only [explicit, fails]

/-! ## The same end -/

/-- What is wrong with a copy of a field that is no collection, be it by name or by path. -/
inductive CopyFault (build : Build) (name : String) (type : ValueType) : PlanErrorKind → Prop where
  | undeclared (missing : build.source.field? name = none) :
      CopyFault build name type (.path (.notFound name name build.source.name ""))
  | mismatch {field : SourceField} (declared : build.source.field? name = some field)
      (unfit : ¬ build.TakesCopy type field.kind.valueType) :
      CopyFault build name type (.typeMismatch type field.kind.valueType)

/-- The build that copies by name and the build that copies by path come to the same end. -/
inductive SameEnd (build : Build) (name : String) (type : ValueType) :
    Except BuildErrors Plan → Except BuildErrors Plan → Prop where
  | refused {kind : PlanErrorKind} (fault : build.CopyFault name type kind) :
      SameEnd build name type (.error (build.refusal name kind)) (.error (build.refusal name kind))
  | planned {field : SourceField} {resolved : ResolvedPath}
      (declared : build.source.field? name = some field)
      (fits : build.TakesCopy type field.kind.valueType)
      (alike : FieldMapping.CopiesAlike
        (.implicit name field.kind.valueType field.nullable) (.explicit resolved)) :
      SameEnd build name type
        (.ok (build.planOf name (.implicit name field.kind.valueType field.nullable)))
        (.ok (build.planOf name (.explicit resolved)))

theorem sameEnd_of_plain (proper : name ≠ "") (single : Path.separator ∉ name.toList)
    (keyed : build.source.KeyedByName name)
    (plain : ∀ field, build.source.field? name = some field → field.kind.isCollection = false) :
    build.SameEnd name type (build.only ⟨name, type, .implicit⟩).result
      (build.only ⟨name, type, .explicit name⟩).result := by
  cases declared : build.source.field? name with
  | none =>
      rw [result_only_implicit_of_undeclared declared, result_only_explicit_of_error
        (SourceType.resolve_of_undeclared proper single declared)]
      exact .refused (.undeclared declared)
  | some field =>
      obtain ⟨resolved, leads, sameType, sameNullability⟩ :=
        SourceType.exists_resolve_of_plain proper single declared (plain field declared)
      rw [result_only_implicit declared, result_only_explicit leads, sameType, keyed field declared]
      split
      · rename_i fits
        exact .planned declared fits
          { valueType := sameType.symm
            sourcePaths := by
              rw [FieldMapping.sourcePaths, FieldMapping.sourcePaths,
                SourceType.path_of_resolve leads]
            nullability := congrArg some sameNullability.symm }
      · rename_i unfit
        exact .refused (.mismatch declared unfit)

/-- A field that the source type keys by its name can be copied by that name and, if the name can
    stand in a path, by the path. Both come to the same end, with the one exception of a collection,
    on which no path may end, while by name it is copied as a whole. -/
theorem copies_by_name_and_path (proper : name ≠ "") (single : Path.separator ∉ name.toList)
    (keyed : build.source.KeyedByName name) (type : ValueType) :
    (∀ field, build.source.field? name = some field → field.kind.isCollection = true →
      (build.only ⟨name, type, .explicit name⟩).result =
          .error (build.refusal name (.path (.endsOnCollection name name))) ∧
        (build.only ⟨name, type, .implicit⟩).result =
          if build.TakesCopy type field.kind.valueType then
            .ok (build.planOf name (.implicit name field.kind.valueType field.nullable))
          else .error (build.refusal name (.typeMismatch type field.kind.valueType))) ∧
    ((∀ field, build.source.field? name = some field → field.kind.isCollection = false) →
      build.SameEnd name type (build.only ⟨name, type, .implicit⟩).result
        (build.only ⟨name, type, .explicit name⟩).result) := by
  constructor
  · intro field declared layered
    have ends := SourceType.resolve_of_collection proper single declared layered
    refine ⟨result_only_explicit_of_error ends, ?_⟩
    rw [result_only_implicit declared, keyed field declared]
  · intro plain
    exact sameEnd_of_plain proper single keyed plain

/-- The number of the small order is copied alike, and where it does not fit it is refused alike.
    Its items can be copied by name alone. -/
theorem orderBuild_copies :
    orderBuild.SameEnd "id" (.scalar .int64)
        (.ok (orderBuild.planOf "id" (.implicit "id" (.scalar .int64) false)))
        (.ok (orderBuild.planOf "id" (.explicit
          ⟨"id", [⟨"Order", "id", .scalar, false⟩], .scalar .int64, false, 0⟩))) ∧
      orderBuild.SameEnd "id" (.scalar .text)
        (.error (orderBuild.refusal "id" (.typeMismatch (.scalar .text) (.scalar .int64))))
        (.error (orderBuild.refusal "id" (.typeMismatch (.scalar .text) (.scalar .int64)))) ∧
      (orderBuild.only ⟨"items", .any, .explicit "items"⟩).result =
        .error (orderBuild.refusal "items" (.path (.endsOnCollection "items" "items"))) ∧
      (orderBuild.only ⟨"items", .any, .implicit⟩).result =
        .ok
          (orderBuild.planOf "items" (.implicit "items" (.collection (.object "Item")) false)) := by
  have idKeyed : orderBuild.source.KeyedByName "id" := by
    intro field found
    cases found
    rfl
  have idPlain : ∀ field, orderBuild.source.field? "id" = some field →
      field.kind.isCollection = false := by
    intro field found
    cases found
    rfl
  have itemsKeyed : orderBuild.source.KeyedByName "items" := by
    intro field found
    cases found
    rfl
  refine ⟨?_, ?_, ?_⟩
  · exact (copies_by_name_and_path (by decide) (by decide) idKeyed (.scalar .int64)).2 idPlain
  · exact (copies_by_name_and_path (by decide) (by decide) idKeyed (.scalar .text)).2 idPlain
  · exact (copies_by_name_and_path (by decide) (by decide) itemsKeyed .any).1 _ rfl rfl

end Build

end ProjectionPlanner

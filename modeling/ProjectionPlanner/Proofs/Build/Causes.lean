import ProjectionPlanner.Proofs.Build.RequiredPaths
import ProjectionPlanner.Proofs.Build.Verdict
import ProjectionPlanner.Proofs.Path.Answers
import ProjectionPlanner.Proofs.Path.Loop
import ProjectionPlanner.Proofs.Search.Precedence

/-! # What the diagnostics of a build rest on

The types of diagnostics allow more than a build reports. A build gives every search for a computing
method a name, tells a transformation without a name in a diagnostic of its own, and is given its
reducers by what they are and not by how they are called. And some diagnostics can be checked
against what they say: a path with an empty segment has one, numbers that differ do differ, and a
type that does not fit is not assignable. This is shown stage by stage, for every field that is
planned.
-/

namespace ProjectionPlanner

namespace Path

/-- One of the names between the dots of a path is empty. -/
def HasEmptySegment (path : String) : Prop :=
  ∃ names, Text.Splits separator path names ∧ "" ∈ names

end Path

theorem SourceType.resolve_eq_emptySegment_iff {source : SourceType} {path other : String} :
    source.resolve path = .error (.emptySegment other) ↔
      other = path ∧ Path.HasEmptySegment path := by
  rw [resolve_eq_iff_answers]
  constructor
  · intro refused
    obtain ⟨names, splits, answers⟩ := refused
    cases answers with
    | emptySegment gap => exact ⟨rfl, names, splits, gap⟩
  · intro empty
    obtain ⟨rfl, names, splits, gap⟩ := empty
    exact ⟨names, splits, .emptySegment gap⟩

/-- The code of an empty path is that of one diagnostic alone. -/
theorem PlanErrorKind.eq_emptySegment_of_code {kind : PlanErrorKind}
    (code : kind.code = .emptyPath) : ∃ path, kind = .path (.emptySegment path) := by
  unfold PlanErrorKind.code at code
  split at code
  · exact ⟨_, rfl⟩
  all_goals cases code

/-- A search that is given a name does not ask for one. -/
theorem Registry.ne_nameRequired_of_named {registry : Registry} {query : MethodQuery}
    {name : String} {error : MethodError} (named : query.name? = some name)
    (missed : (registry.search query).result = .error error) : error ≠ .nameRequired := by
  intro unnamed
  rw [unnamed, search_eq_nameRequired_iff] at missed
  exact missed name (MethodQuery.wants_iff.mpr named)

namespace Build

variable {build : Build} {target : TargetField} {computation : Computation}

/-- What has to be so where a diagnostic about a field is reported. -/
def Justifies (build : Build) (target : TargetField) : PlanErrorKind → Prop
  | .path (.emptySegment path) => path ∈ target.paths ∧ Path.HasEmptySegment path
  | .method error => error ≠ .nameRequired
  | .reducer error => ∀ name, error ≠ .unknown name
  | .reducerCountMismatch expected found => expected ≠ found
  | .typeMismatch expected found =>
      found.isAssignableTo build.settings.numericWidening expected = false
  | _ => True

/-! ## Copied fields -/

theorem justifies_of_refused {path : String} {error : PathError} (named : path ∈ target.paths)
    (refused : build.source.resolve path = .error error) :
    build.Justifies target (.path error) := by
  cases error with
  | emptySegment other =>
      obtain ⟨rfl, gap⟩ := SourceType.resolve_eq_emptySegment_iff.mp refused
      exact ⟨named, gap⟩
  | notFound path segment owner resolved => trivial
  | endsOnCollection path segment => trivial

theorem justified_checkProjected (found : ValueType) :
    ∀ kind ∈ reasons (build.checkProjected target found), build.Justifies target kind := by
  unfold checkProjected
  split
  · rename_i refused
    rw [Bool.and_eq_true, Bool.not_eq_true'] at refused
    intro kind member
    cases List.mem_singleton.mp member
    exact refused.2
  · exact List.forall_mem_nil _

theorem justified_implicit :
    ∀ kind ∈ reasons (build.implicit target), build.Justifies target kind := by
  unfold implicit
  cases build.source.field? target.name with
  | none =>
      intro kind member
      cases List.mem_singleton.mp member
      trivial
  | some field =>
      rw [reasons_map]
      exact justified_checkProjected field.kind.valueType

theorem justified_explicit {path : String} (named : path ∈ target.paths) :
    ∀ kind ∈ reasons (build.explicit target path), build.Justifies target kind := by
  unfold explicit
  cases answer : build.source.resolve path with
  | error error =>
      intro kind member
      cases List.mem_singleton.mp member
      exact justifies_of_refused named answer
  | ok resolved =>
      rw [reasons_map]
      exact justified_checkProjected resolved.valueType

/-! ## Computed fields -/

theorem justified_circularDependencies (dependsOn : List String) :
    ∀ kind ∈ build.circularDependencies target dependsOn, build.Justifies target kind := by
  intro kind member
  obtain ⟨dependency, -, rfl⟩ := List.mem_map.mp member
  trivial

theorem justified_pathErrors {dependsOn : List String} (named : dependsOn ⊆ target.paths) :
    ∀ kind ∈ build.pathErrors dependsOn, build.Justifies target kind := by
  intro kind member
  obtain ⟨path, listed, refused⟩ := List.mem_filterMap.mp member
  unfold pathError? at refused
  cases answer : build.source.resolve path with
  | ok resolved => simp [answer] at refused
  | error error =>
      simp only [answer, Option.some.injEq] at refused
      subst refused
      exact justifies_of_refused (named listed) answer

theorem justified_unsupportedPairs (dependencies : List ResolvedPath) (reducers : List Reducer) :
    ∀ kind ∈ unsupportedPairs dependencies reducers, build.Justifies target kind := by
  intro kind member
  obtain ⟨pair, -, refused⟩ := List.mem_filterMap.mp member
  unfold unsupportedPair? at refused
  split at refused
  · cases refused
  · cases refused
    exact fun name => ReducerError.noConfusion

/-- The convention names every computing method that is searched for, if only by an empty name. -/
theorem exists_name?_computeQuery (build : Build) (target : TargetField)
    (computation : Computation) (params : List ValueType) :
    ∃ name, (build.computeQuery target computation params).name? = some name := by
  unfold MethodQuery.name? computeQuery
  cases computation.override?.bind MethodRef.name? <;> simp

theorem TransformFault.justified {query : MethodQuery} {error : PlanErrorKind}
    (fault : build.TransformFault query error) : build.Justifies target error := by
  cases fault with
  | unnamed nameless => trivial
  | unregistered named restricted unknown => exact MethodError.noConfusion
  | needsInstance found => trivial
  | notFound missing missed => exact MethodError.noConfusion

theorem Verdict.justified {errors : List PlanErrorKind}
    (verdict : build.Verdict target computation errors)
    (named : computation.dependsOn ⊆ target.paths) :
    ∀ kind ∈ errors, build.Justifies target kind := by
  cases verdict with
  | circular fails => exact justified_circularDependencies computation.dependsOn
  | path roots fails => exact justified_pathErrors named
  | count roots read fails => exact List.forall_mem_singleton.mpr fails
  | reducer roots read paired fails => exact justified_unsupportedPairs _ _
  | method reduces missing impassable missed =>
      obtain ⟨name, named⟩ := build.exists_name?_computeQuery target computation _
      exact List.forall_mem_singleton.mpr (Registry.ne_nameRequired_of_named named missed)
  | transform reduces computes asked missing fault =>
      exact List.forall_mem_singleton.mpr fault.justified
  | accepted reduces computes transforms => exact List.forall_mem_nil _

/-! ## Whole builds -/

theorem justified_run (build : Build) (target : TargetField) :
    ∀ kind ∈ reasons (build.run target).result, build.Justifies target kind := by
  unfold run
  cases directive : target.directive with
  | implicit => exact justified_implicit
  | explicit path =>
      apply justified_explicit
      simp [TargetField.paths, directive]
  | computed computation =>
      apply Verdict.justified (verdict_iff.mpr rfl)
      simp [TargetField.paths, directive]

theorem exists_justified_of_reported {failure : BuildErrors} {error : PlanError}
    (failed : build.result = .error failure) (reported : error ∈ failure.errors) :
    ∃ target ∈ build.declaration.fields, error.field = target.name ∧
      build.Justifies target error.kind := by
  obtain ⟨target, declared, about, cause⟩ := exists_reason_of_reported failed reported
  refine ⟨target, declared, about, ?_⟩
  cases cause with
  | inl repeated =>
      rw [repeated]
      trivial
  | inr reason => exact build.justified_run target error.kind reason

/-- No diagnostic of a build asks for the name of a method or refuses the name of a reducer. Where
    the code tells of an empty path, the field names a path that has an empty segment. Where numbers
    of reducers are told they differ, and where a type is told not to fit it is not assignable under
    the settings. And following a path of the source in a loop never comes to its fallback. -/
theorem reported_for_cause (build : Build) :
    (∀ failure, build.result = .error failure → ∀ error ∈ failure.errors,
      error.kind ≠ .method .nameRequired ∧
        (∀ name, error.kind ≠ .reducer (.unknown name)) ∧
        (error.code = .emptyPath →
          ∃ target ∈ build.declaration.fields, error.field = target.name ∧
            ∃ path ∈ target.paths, error.kind = .path (.emptySegment path) ∧
              Path.HasEmptySegment path) ∧
        (∀ expected found,
          error.kind = .reducerCountMismatch expected found → expected ≠ found) ∧
        ∀ expected found, error.kind = .typeMismatch expected found →
          found.isAssignableTo build.settings.numericWidening expected = false) ∧
      ∀ fallback path, build.source.resolveInLoop fallback path = build.source.resolve path := by
  refine ⟨?_, build.source.resolveInLoop_eq⟩
  intro failure failed error reported
  obtain ⟨target, declared, about, justified⟩ := exists_justified_of_reported failed reported
  refine ⟨?_, ?_, ?_, ?_, ?_⟩
  · intro kind
    rw [kind] at justified
    exact justified rfl
  · intro name kind
    rw [kind] at justified
    exact justified name rfl
  · intro code
    obtain ⟨path, kind⟩ := PlanErrorKind.eq_emptySegment_of_code code
    rw [kind] at justified
    exact ⟨target, declared, about, path, justified.1, kind, justified.2⟩
  · intro expected found kind
    rw [kind] at justified
    exact justified
  · intro expected found kind
    rw [kind] at justified
    exact justified

/-- Names are missing throughout: a method is to compute the field without a name, and another to
    transform the total, whose reference is empty. The path to the price skips a name. -/
def namelessBuild : Build :=
  { orderBuild with
    settings := { methodLead := "" }
    declaration := ⟨"OrderView",
      [⟨"id", .scalar .text, .implicit⟩,
        ⟨"price", .scalar .decimal, .explicit "items..price"⟩,
        ⟨"size", .scalar .int64, .computed { dependsOn := ["items.price"] }⟩,
        ⟨"", .scalar .text, .computed { dependsOn := ["id"] }⟩,
        ⟨"total", .scalar .text, .computed { orderTotal with transformedBy := some {} }⟩]⟩ }

theorem namelessBuild_reported :
    ∃ failure, namelessBuild.result = .error failure ∧
      failure.codes =
        [.typeMismatch, .emptyPath, .reducerCountMismatch, .methodNotFound,
          .transformationNameRequired] ∧
      (∀ error ∈ failure.errors,
        error.kind ≠ .method .nameRequired ∧ ∀ name, error.kind ≠ .reducer (.unknown name)) ∧
      Path.HasEmptySegment "items..price" := by
  have failed : namelessBuild.result = .error _ := rfl
  have caused := (reported_for_cause namelessBuild).1 _ failed
  refine ⟨_, failed, by decide, ?_, ?_⟩
  · intro error reported
    obtain ⟨named, known, -⟩ := caused error reported
    exact ⟨named, known⟩
  · have reported :
        ⟨"price", .path (.emptySegment "items..price")⟩ ∈ namelessBuild.errors := by decide
    obtain ⟨-, -, emptyPath, -⟩ := caused _ reported
    obtain ⟨target, -, -, path, -, same, gap⟩ := emptyPath rfl
    cases same
    exact gap

end Build

end ProjectionPlanner

import Mathlib.Data.List.Nodup
import ProjectionPlanner.Proofs.Build.Outcomes

/-! # What siblings mean to each other

A field is planned from the settings, the source type, the registry and its own directive. Of its
siblings it sees only which names are computed, and only where its own dependencies start. So the
order of the fields matters to the order of entries and diagnostics alone, and copies do not matter
to any other field. Where a name is declared twice its fields do depend on each other: all but the
first are refused. That is left out here, apart from whether there is a plan at all.
-/

namespace ProjectionPlanner

/-- Entries that answer alike are the same entries, perhaps in another order. -/
theorem Entries.perm_toList {κ α : Type} [DecidableEq κ] {left right : Entries κ α}
    (alike : ∀ key value, left.get? key = some value ↔ right.get? key = some value) :
    left.toList.Perm right.toList := by
  have once : ∀ entries : Entries κ α, entries.toList.Nodup :=
    fun entries => List.Nodup.of_map Prod.fst entries.distinct
  refine (List.perm_ext_iff_of_nodup (once left) (once right)).mpr fun (key, value) => ?_
  rw [← get?_eq_some_iff, ← get?_eq_some_iff]
  exact alike key value

namespace Declaration

/-- Wherever a dependency of the field starts, other than at the field itself, both declarations
    say alike whether that name is computed. -/
def AgreesFor (left right : Declaration) (target : TargetField) : Prop :=
  ∀ computation, target.directive = .computed computation →
    ∀ dependency ∈ computation.dependsOn, Path.lead dependency ≠ target.name →
      left.isComputed (Path.lead dependency) = right.isComputed (Path.lead dependency)

/-- The fields that are not copies, in order. -/
def computedFields (declaration : Declaration) : List TargetField :=
  declaration.fields.filter (·.directive.isComputed)

variable {left right : Declaration}

theorem isComputed_eq_any (declaration : Declaration) (name : String) :
    declaration.isComputed name = declaration.computedFields.any (·.name == name) := by
  simp only [isComputed, computedFields, List.any_filter, Bool.and_comm]

theorem AgreesFor.of_isComputed (alike : ∀ name, left.isComputed name = right.isComputed name)
    (target : TargetField) : left.AgreesFor right target :=
  fun _ _ _ _ _ => alike _

theorem agreesFor_of_computedFields (same : left.computedFields = right.computedFields)
    (target : TargetField) : left.AgreesFor right target := by
  refine .of_isComputed (fun name => ?_) target
  rw [isComputed_eq_any, isComputed_eq_any, same]

theorem agreesFor_of_perm (moved : left.fields.Perm right.fields) (target : TargetField) :
    left.AgreesFor right target :=
  .of_isComputed (fun _ => moved.any_eq) target

theorem nodup_names_of_perm (moved : left.fields.Perm right.fields) :
    left.names.Nodup ↔ right.names.Nodup :=
  (moved.map TargetField.name).nodup_iff

end Declaration

namespace Build

variable {build : Build} {other : Declaration} {target : TargetField}
  {computation : Computation}

/-- The build of another declaration. -/
def declaring (build : Build) (declaration : Declaration) : Build :=
  { build with declaration }

/-! ## One field -/

theorem circularity?_declaring {dependency : String}
    (alike : Path.lead dependency ≠ target.name →
      other.isComputed (Path.lead dependency) =
        build.declaration.isComputed (Path.lead dependency)) :
    (build.declaring other).circularity? target dependency =
      build.circularity? target dependency := by
  simp only [circularity?, Path.root_eq_lead]
  by_cases own : Path.lead dependency = target.name
  · simp [own]
  · rw [show (build.declaring other).declaration = other from rfl, alike own]

theorem checkRoots_declaring (agrees : other.AgreesFor build.declaration target)
    (directive : target.directive = .computed computation) :
    (build.declaring other).checkRoots target computation.dependsOn =
      build.checkRoots target computation.dependsOn := by
  have same : ∀ dependency ∈ computation.dependsOn,
      (build.declaring other).circularity? target dependency =
        build.circularity? target dependency :=
    fun dependency listed => circularity?_declaring (agrees computation directive dependency listed)
  rw [checkRoots, checkRoots, List.filterMap_congr same]

/-- The first stage of a computed field is the only one that looks at the declaration. -/
theorem run_declaring (agrees : other.AgreesFor build.declaration target) :
    (build.declaring other).run target = build.run target := by
  cases directive : target.directive with
  | implicit => simp only [run, directive]; rfl
  | explicit path => simp only [run, directive]; rfl
  | computed computation =>
      have arguments : (build.declaring other).arguments target computation =
          build.arguments target computation := by
        rw [Build.arguments, Build.arguments, checkRoots_declaring agrees directive]
        rfl
      simp only [run, directive, computed, arguments]
      rfl

/-- Both builds say the same of the field of this name: they report the same about it, and if both
    make a plan they map it in the same way. -/
structure SameFor (left right : Build) (name : String) : Prop where
  diagnostics : left.diagnosticsFor name = right.diagnosticsFor name
  mapping : ∀ leftPlan rightPlan, left.result = .ok leftPlan → right.result = .ok rightPlan →
    leftPlan.get? name = rightPlan.get? name

theorem sameFor_declaring (distinct : build.declaration.names.Nodup)
    (otherDistinct : other.names.Nodup) (declared : target ∈ build.declaration.fields)
    (otherDeclared : target ∈ other.fields) (agrees : other.AgreesFor build.declaration target) :
    SameFor build (build.declaring other) target.name where
  diagnostics := by
    have there : target ∈ (build.declaring other).declaration.fields := otherDeclared
    rw [diagnosticsFor_of_declared distinct declared,
      diagnosticsFor_of_declared otherDistinct there, run_declaring agrees]
  mapping := by
    intro plan otherPlan made otherMade
    have there : target ∈ (build.declaring other).declaration.fields := otherDeclared
    obtain ⟨mapping, stored, resolves⟩ := exists_get?_of_result made declared
    obtain ⟨otherMapping, otherStored, otherResolves⟩ := exists_get?_of_result otherMade there
    rw [Resolves, run_declaring agrees] at otherResolves
    cases Except.ok.inj (resolves.symm.trans otherResolves)
    rw [stored, otherStored]

/-! ## All fields in another order -/

/-- Where names differ the diagnostics are those of the fields, one after the other. -/
theorem errors_of_distinct (distinct : build.declaration.names.Nodup) :
    build.errors =
      build.declaration.fields.flatMap fun target => build.diagnosticsFor target.name := by
  have blocks : build.errors = build.declaration.fields.flatMap fun target =>
      (reasons (build.run target).result).map (⟨target.name, ·⟩) := by
    rw [Build.errors, outcomes_of_distinct distinct, List.flatMap_map]
    refine List.flatMap_congr fun target _ => ?_
    exact errors_stageAfter [] target
  rw [blocks]
  exact List.flatMap_congr fun target declared =>
    (diagnosticsFor_of_declared distinct declared).symm

/-- The builds of the same fields in two orders give the same, in two orders. -/
structure Reordered (left right : Build) : Prop where
  same : ∀ target ∈ left.declaration.fields, SameFor left right target.name
  plans : ∀ leftPlan rightPlan, left.result = .ok leftPlan → right.result = .ok rightPlan →
    leftPlan.target = rightPlan.target ∧ leftPlan.source = rightPlan.source ∧
      leftPlan.registry = rightPlan.registry ∧
      leftPlan.fields.toList.Perm rightPlan.fields.toList
  /-- Each side reports the same blocks, in the order of its own fields. -/
  failures : ∀ leftFailure rightFailure,
    left.result = .error leftFailure → right.result = .error rightFailure →
    leftFailure.projection = rightFailure.projection ∧
      ∃ block : TargetField → List PlanError,
        (∀ target ∈ left.declaration.fields, block target = left.diagnosticsFor target.name) ∧
          leftFailure.errors = left.declaration.fields.flatMap block ∧
          rightFailure.errors = right.declaration.fields.flatMap block

theorem exists_result_of_perm (moved : other.fields.Perm build.declaration.fields) :
    (∃ plan, build.result = .ok plan) ↔ ∃ plan, (build.declaring other).result = .ok plan := by
  have resolves : ∀ target mapping,
      (build.declaring other).Resolves target mapping ↔ build.Resolves target mapping := by
    intro target mapping
    rw [Resolves, Resolves, run_declaring (Declaration.agreesFor_of_perm moved target)]
  rw [exists_result_eq_ok_iff, exists_result_eq_ok_iff]
  simp only [resolves]
  exact and_congr (Declaration.nodup_names_of_perm moved).symm
    ⟨fun all target declared => all target (moved.mem_iff.mp declared),
      fun all target declared => all target (moved.mem_iff.mpr declared)⟩

theorem sameFor_of_perm (moved : other.fields.Perm build.declaration.fields)
    (distinct : build.declaration.names.Nodup) :
    ∀ target ∈ build.declaration.fields, SameFor build (build.declaring other) target.name :=
  fun target declared =>
    sameFor_declaring distinct ((Declaration.nodup_names_of_perm moved).mpr distinct) declared
      (moved.mem_iff.mpr declared) (Declaration.agreesFor_of_perm moved target)

theorem entries_perm {left right : Build} {leftPlan rightPlan : Plan}
    (leftMade : left.result = .ok leftPlan) (rightMade : right.result = .ok rightPlan)
    (moved : right.declaration.fields.Perm left.declaration.fields)
    (same : ∀ target ∈ left.declaration.fields, SameFor left right target.name) :
    leftPlan.fields.toList.Perm rightPlan.fields.toList := by
  refine Entries.perm_toList fun name mapping => ?_
  constructor
  · intro stored
    obtain ⟨target, declared, rfl, -⟩ := exists_declared_of_get? leftMade stored
    exact ((same target declared).mapping _ _ leftMade rightMade).symm.trans stored
  · intro stored
    obtain ⟨target, declared, rfl, -⟩ := exists_declared_of_get? rightMade stored
    exact ((same target (moved.mem_iff.mp declared)).mapping _ _ leftMade rightMade).trans stored

theorem reordered_of_perm (sameName : other.name = build.declaration.name)
    (moved : other.fields.Perm build.declaration.fields)
    (distinct : build.declaration.names.Nodup) : Reordered build (build.declaring other) := by
  have same := sameFor_of_perm moved distinct
  refine ⟨same, ?_, ?_⟩
  · intro plan otherPlan made otherMade
    obtain ⟨-, target, source, registry, -⟩ := result_eq_ok_iff.mp made
    obtain ⟨-, otherTarget, otherSource, otherRegistry, -⟩ := result_eq_ok_iff.mp otherMade
    exact ⟨target.trans (otherTarget.trans sameName).symm, source.trans otherSource.symm,
      registry.trans otherRegistry.symm, entries_perm made otherMade moved same⟩
  · intro failure otherFailure failed otherFailed
    obtain ⟨-, rfl⟩ := result_eq_error_iff.mp failed
    obtain ⟨-, rfl⟩ := result_eq_error_iff.mp otherFailed
    have otherDistinct : (build.declaring other).declaration.names.Nodup :=
      (Declaration.nodup_names_of_perm moved).mpr distinct
    refine ⟨sameName.symm, fun target => build.diagnosticsFor target.name, fun _ _ => rfl,
      errors_of_distinct distinct, ?_⟩
    rw [errors_of_distinct otherDistinct]
    exact List.flatMap_congr fun target declared =>
      (same target (moved.mem_iff.mp declared)).diagnostics.symm

/-- Siblings meet only in the names that are computed. A field of two declarations without repeated
    names fares alike in both if they agree on the names at which its dependencies start. So it
    does when the fields are put in another order, and nothing but the order of entries and of
    diagnostics changes then; and so it does whatever happens to copies beside it. -/
theorem siblings_meet_in_computed_names (build : Build) (other : Declaration) :
    (build.declaration.names.Nodup → other.names.Nodup →
      ∀ target ∈ build.declaration.fields, target ∈ other.fields →
        other.AgreesFor build.declaration target →
          SameFor build (build.declaring other) target.name) ∧
    (other.name = build.declaration.name → other.fields.Perm build.declaration.fields →
      ((∃ plan, build.result = .ok plan) ↔ ∃ plan, (build.declaring other).result = .ok plan) ∧
        (build.declaration.names.Nodup → Reordered build (build.declaring other))) ∧
    (build.declaration.names.Nodup → other.names.Nodup →
      other.computedFields = build.declaration.computedFields →
        ∀ target ∈ build.declaration.fields, target ∈ other.fields →
          SameFor build (build.declaring other) target.name) := by
  refine ⟨?_, ?_, ?_⟩
  · intro distinct otherDistinct target declared otherDeclared agrees
    exact sameFor_declaring distinct otherDistinct declared otherDeclared agrees
  · intro sameName moved
    exact ⟨exists_result_of_perm moved, reordered_of_perm sameName moved⟩
  · intro distinct otherDistinct sameComputed target declared otherDeclared
    exact sameFor_declaring distinct otherDistinct declared otherDeclared
      (Declaration.agreesFor_of_computedFields sameComputed target)

/-- A view of the order in which the total has another sibling, and that one is computed. -/
def ownedTotal : Declaration :=
  ⟨"OwnedTotal",
    [⟨"owner", .scalar .text, .computed { dependsOn := ["total"] }⟩,
      ⟨"total", .scalar .text, .computed orderTotal⟩]⟩

/-- The view of the order with a copy that does not fit. -/
def misfitView : Declaration :=
  ⟨"OrderView", ⟨"id", .scalar .text, .explicit "id"⟩ :: orderBuild.declaration.fields.tail⟩

/-- The view of the order, backwards. -/
def backwardView : Declaration :=
  ⟨"OrderView", orderBuild.declaration.fields.reverse⟩

/-- The total has a new sibling, or all fields go backwards, or the copy beside it is wrong. -/
theorem orderBuild_siblings :
    (ownedTotal.AgreesFor orderBuild.declaration ⟨"total", .scalar .text, .computed orderTotal⟩ ∧
      SameFor orderBuild (orderBuild.declaring ownedTotal) "total") ∧
    Reordered orderBuild (orderBuild.declaring backwardView) ∧
    (misfitView.computedFields = orderBuild.declaration.computedFields ∧
      (orderBuild.declaring misfitView).diagnosticsFor "id" ≠ [] ∧
      SameFor orderBuild (orderBuild.declaring misfitView) "total") := by
  have distinct : orderBuild.declaration.names.Nodup := by decide
  have declared :
      ⟨"total", .scalar .text, .computed orderTotal⟩ ∈ orderBuild.declaration.fields :=
    .tail _ (.tail _ (.head _))
  have agrees : ownedTotal.AgreesFor orderBuild.declaration
      ⟨"total", .scalar .text, .computed orderTotal⟩ := by
    intro computation directive dependency listed _
    cases directive
    cases List.mem_singleton.mp listed
    decide
  have sameComputed : misfitView.computedFields = orderBuild.declaration.computedFields := by
    decide
  refine ⟨⟨agrees, ?_⟩, ?_, sameComputed, by decide, ?_⟩
  · exact (siblings_meet_in_computed_names orderBuild ownedTotal).1 distinct (by decide) _ declared
      (.tail _ (.head _)) agrees
  · exact ((siblings_meet_in_computed_names orderBuild backwardView).2.1 rfl
      (List.reverse_perm _)).2 distinct
  · exact (siblings_meet_in_computed_names orderBuild misfitView).2.2 distinct (by decide)
      sameComputed _ declared (.tail _ (.tail _ (.head _)))

end Build

end ProjectionPlanner

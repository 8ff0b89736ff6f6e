import ProjectionPlanner.Proofs.Build.Outcomes

/-! # The verdict on a computed field

A computed field passes through six stages, and is judged by the first that it fails. The stages
are described here by what they look for, not by how they go about it: which dependencies start
at a sibling, which reducer belongs to which dependency, whether the registry has a method to
take. `Verdict` puts them in order, and the build is shown to report exactly that.
-/

namespace ProjectionPlanner

namespace Build

variable {build : Build} {target : TargetField} {computation : Computation}

/-- Why a transformation that is asked for cannot be had. -/
inductive TransformFault (build : Build) (query : MethodQuery) : PlanErrorKind → Prop where
  /-- Nobody says what it is called. -/
  | unnamed (nameless : query.name? = none) :
      TransformFault build query .transformationNameRequired
  | unregistered {name id : String} (named : query.name? = some name)
      (restricted : query.provider? = some id) (unknown : build.registry.get? id = none) :
      TransformFault build query (.method (.providerNotRegistered id build.registry.ids))
  /-- The first method that would do needs an instance. -/
  | needsInstance {method : ResolvedMethod}
      (found : (build.registry.search { query with receivers := .instanceOnly }).result =
        .ok method) :
      TransformFault build query
        (.transformationMustBeStateless method.provider method.signature.name)
  | notFound {expected : ExpectedSignature} {searched : List String} {nearMisses : List NearMiss}
      (missing : ¬ build.Served { query with receivers := .instanceOnly })
      (missed : (build.registry.search query).result =
        .error (.notFound expected searched nearMisses)) :
      TransformFault build query (.method (.notFound expected searched nearMisses))

/-- The stages of a computed field in their order, with the diagnostics of the first that fails.
    A stage is reached only if those before it are passed. -/
inductive Verdict (build : Build) (target : TargetField) (computation : Computation) :
    List PlanErrorKind → Prop where
  | circular (fails : build.circularDependencies target computation.dependsOn ≠ []) :
      Verdict build target computation
        (build.circularDependencies target computation.dependsOn)
  | path (roots : build.circularDependencies target computation.dependsOn = [])
      (fails : build.pathErrors computation.dependsOn ≠ []) :
      Verdict build target computation (build.pathErrors computation.dependsOn)
  | count {dependencies : List ResolvedPath}
      (roots : build.circularDependencies target computation.dependsOn = [])
      (read : build.Reads computation.dependsOn dependencies)
      (fails : crossings dependencies ≠ computation.reducers.length) :
      Verdict build target computation
        [.reducerCountMismatch (crossings dependencies) computation.reducers.length]
  | reducer {dependencies : List ResolvedPath}
      (roots : build.circularDependencies target computation.dependsOn = [])
      (read : build.Reads computation.dependsOn dependencies)
      (paired : crossings dependencies = computation.reducers.length)
      (fails : unsupportedPairs dependencies computation.reducers ≠ []) :
      Verdict build target computation (unsupportedPairs dependencies computation.reducers)
  | method {dependencies : List ResolvedPath} {error : MethodError}
      (reduces : build.Reduces target computation dependencies)
      (missing : ¬ build.Served (build.computeQuery target computation
        (parameterTypes dependencies computation.reducers)))
      (impassable : ¬ ∃ type, build.PassesOn target computation dependencies
        (parameterTypes dependencies computation.reducers) type)
      (missed : (build.registry.search (build.computeQuery target computation
        (parameterTypes dependencies computation.reducers))).result = .error error) :
      Verdict build target computation [.method error]
  | transform {dependencies : List ResolvedPath} {step : ComputeStep} {ref : MethodRef}
      {error : PlanErrorKind} (reduces : build.Reduces target computation dependencies)
      (computes : build.Computes target computation dependencies step)
      (asked : computation.transformedBy = some ref)
      (missing : ¬ build.Served (build.transformQuery target ref step.returns))
      (fault : build.TransformFault (build.transformQuery target ref step.returns) error) :
      Verdict build target computation [error]
  | accepted {dependencies : List ResolvedPath} {step : ComputeStep}
      (reduces : build.Reduces target computation dependencies)
      (computes : build.Computes target computation dependencies step)
      (transforms : ∀ ref, computation.transformedBy = some ref →
        build.Served (build.transformQuery target ref step.returns)) :
      Verdict build target computation []

/-! ## Stages that stop a field -/

theorem reasons_bind {α β : Type} {first : Except Rejection α} (fails : reasons first ≠ [])
    (next : α → Except Rejection β) : reasons (first.bind next) = reasons first := by
  cases first with
  | ok value => exact absurd rfl fails
  | error rejection => rfl

theorem reasons_map {α β : Type} (first : Except Rejection α) (image : α → β) :
    reasons (first.map image) = reasons first := by
  cases first <;> rfl

/-- What stops a field before its searches is all that is reported about it. -/
theorem reasons_computed_of_arguments (fails : reasons (build.arguments target computation) ≠ []) :
    reasons (build.computed target computation).result =
      reasons (build.arguments target computation) := by
  unfold computed
  cases reduced : build.arguments target computation with
  | error rejection => rfl
  | ok pair => rw [reduced] at fails; exact absurd rfl fails

theorem reasons_arguments_of_roots
    (fails : build.circularDependencies target computation.dependsOn ≠ []) :
    reasons (build.arguments target computation) =
      build.circularDependencies target computation.dependsOn := by
  have roots : reasons (build.checkRoots target computation.dependsOn) =
      build.circularDependencies target computation.dependsOn := by
    rw [checkRoots_eq, reasons_whenNone]
  rw [Build.arguments, reasons_bind (roots ▸ fails), roots]

theorem arguments_of_roots (roots : build.circularDependencies target computation.dependsOn = []) :
    build.arguments target computation =
      (build.resolveDependencies computation.dependsOn).bind fun dependencies =>
        (reduceDependencies dependencies computation.reducers).map fun arguments =>
          (dependencies, arguments) := by
  have passed : build.checkRoots target computation.dependsOn = .ok () := by
    rw [checkRoots_eq]
    exact whenNone_eq_ok_iff.mpr ⟨roots, rfl⟩
  rw [Build.arguments, passed]
  rfl

theorem reasons_arguments_of_paths
    (roots : build.circularDependencies target computation.dependsOn = [])
    (fails : build.pathErrors computation.dependsOn ≠ []) :
    reasons (build.arguments target computation) = build.pathErrors computation.dependsOn := by
  have paths : reasons (build.resolveDependencies computation.dependsOn) =
      build.pathErrors computation.dependsOn := by
    rw [resolveDependencies, reasons_whenNone]
    rfl
  rw [arguments_of_roots roots, reasons_bind (paths ▸ fails), paths]

theorem reasons_arguments_of_read {dependencies : List ResolvedPath}
    (roots : build.circularDependencies target computation.dependsOn = [])
    (read : build.Reads computation.dependsOn dependencies) :
    reasons (build.arguments target computation) =
      reasons (reduceDependencies dependencies computation.reducers) := by
  rw [arguments_of_roots roots, resolveDependencies_eq_ok_iff.mpr read]
  exact reasons_map _ _

/-- With its arguments known, a field stands and falls with its searches. -/
theorem computed_of_reduces {dependencies : List ResolvedPath}
    (reduces : build.Reduces target computation dependencies) :
    build.computed target computation =
      build.methods target computation dependencies
        (argumentsByRank dependencies computation.reducers) := by
  rw [computed, arguments_eq_ok_iff.mpr ⟨reduces, rfl⟩]

theorem computeStep_of_missed {dependencies : List ResolvedPath} {params : List ValueType}
    {error : MethodError}
    (impassable : ¬ ∃ type, build.PassesOn target computation dependencies params type)
    (missed : (build.registry.search (build.computeQuery target computation params)).result =
      .error error) :
    (build.computeStep target computation dependencies params).result =
      .error (.single (.method error)) := by
  have stays : build.identity? target computation dependencies params = none := by
    cases identity : build.identity? target computation dependencies params with
    | none => rfl
    | some step =>
        obtain ⟨type, passes, -⟩ := identity?_eq_some_iff.mp identity
        exact absurd ⟨type, passes⟩ impassable
  simp only [computeStep, missed]
  cases error <;> simp [stays]

theorem reasons_methods_of_compute {dependencies : List ResolvedPath} {rejection : Rejection}
    (fails : (build.computeStep target computation dependencies
      (parameterTypes dependencies computation.reducers)).result = .error rejection) :
    reasons (build.methods target computation dependencies
      (argumentsByRank dependencies computation.reducers)).result = rejection.toList := by
  unfold parameterTypes at fails
  simp only [methods, fails]
  rfl

theorem reasons_methods_of_step {dependencies : List ResolvedPath} {step : ComputeStep}
    (computes : build.Computes target computation dependencies step) :
    reasons (build.methods target computation dependencies
      (argumentsByRank dependencies computation.reducers)).result =
      reasons (build.transform? target step.returns computation.transformedBy).result := by
  have computes := computeStep_eq_ok_iff.mpr computes
  unfold parameterTypes at computes
  simp only [methods, computes, reasons_map]

theorem transformStep_of_fault {ref : MethodRef} {input : ValueType} {error : PlanErrorKind}
    (missing : ¬ build.Served (build.transformQuery target ref input))
    (fault : build.TransformFault (build.transformQuery target ref input) error) :
    (build.transformStep target ref input).result = .error (.single error) := by
  simp only [transformStep]
  cases fault with
  | unnamed nameless => simp [Registry.search, nameless]
  | unregistered named restricted unknown =>
      simp [Registry.search, Registry.scope, named, restricted, unknown]
  | needsInstance found =>
      obtain ⟨error, missed⟩ := not_served_iff.mp missing
      -- both searches go by the same name and scope, so that neither of these is amiss
      obtain ⟨expected, searched, nearMisses, rfl⟩ :=
        Registry.notFound_of_other_found found missed rfl rfl
      simp [missed, found]
  | notFound noInstance missed =>
      obtain ⟨error, others⟩ := not_served_iff.mp noInstance
      simp [missed, others]

/-- Every transformation that is asked for and missing is missing for some reason. -/
theorem exists_fault {query : MethodQuery} (missing : ¬ build.Served query) :
    ∃ error, build.TransformFault query error := by
  obtain ⟨error, missed⟩ := not_served_iff.mp missing
  cases named : query.name? with
  | none => exact ⟨_, .unnamed named⟩
  | some name =>
      cases reachable : build.registry.scope query.provider? with
      | ok scope =>
          by_cases other : build.Served { query with receivers := .instanceOnly }
          · obtain ⟨method, found⟩ := Registry.exists_search_eq_ok_iff.mpr other
            exact ⟨_, .needsInstance found⟩
          · obtain ⟨_, _, _, rfl⟩ := Registry.notFound_of_scope named reachable missed
            exact ⟨_, .notFound other missed⟩
      | error error =>
          cases restricted : query.provider? with
          | none => rw [restricted] at reachable; cases reachable
          | some id =>
              cases known : build.registry.get? id with
              | none => exact ⟨_, .unregistered named restricted known⟩
              | some provider => simp [restricted, Registry.scope, known] at reachable

/-! ## The verdict is what is reported -/

theorem reasons_of_verdict {errors : List PlanErrorKind}
    (verdict : build.Verdict target computation errors) :
    reasons (build.computed target computation).result = errors := by
  -- the first four stages stop a field before its searches, the last two in the course of them
  cases verdict with
  | circular fails =>
      have stops := reasons_arguments_of_roots fails
      rw [reasons_computed_of_arguments (stops ▸ fails), stops]
  | path roots fails =>
      have stops := reasons_arguments_of_paths roots fails
      rw [reasons_computed_of_arguments (stops ▸ fails), stops]
  | count roots read fails =>
      have stops := reasons_arguments_of_read roots read
      rw [reduceDependencies_of_mismatch fails] at stops
      rw [reasons_computed_of_arguments (by rw [stops]; simp [reasons, Rejection.toList]), stops]
      rfl
  | reducer roots read paired fails =>
      have stops := reasons_arguments_of_read roots read
      rw [reduceDependencies_of_paired paired, reasons_whenNone] at stops
      rw [reasons_computed_of_arguments (stops ▸ fails), stops]
  | method reduces missing impassable missed =>
      rw [computed_of_reduces reduces,
        reasons_methods_of_compute (computeStep_of_missed impassable missed)]
      rfl
  | transform reduces computes asked missing fault =>
      rw [computed_of_reduces reduces, reasons_methods_of_step computes, asked]
      simp only [transform?, transformStep_of_fault missing fault]
      rfl
  | @accepted _ step reduces computes transforms =>
      rw [computed_of_reduces reduces, reasons_methods_of_step computes, reasons_eq_nil_iff]
      cases asked : computation.transformedBy with
      | none => exact ⟨_, rfl⟩
      | some ref =>
          obtain ⟨method, found⟩ := Registry.exists_search_eq_ok_iff.mpr (transforms ref asked)
          exact ⟨_, transform?_eq_ok_iff.mpr (.inr ⟨ref, method, rfl, rfl, found⟩)⟩

theorem verdict_of_reduces {dependencies : List ResolvedPath}
    (reduces : build.Reduces target computation dependencies) :
    ∃ errors, build.Verdict target computation errors := by
  by_cases computable : ∃ step, build.Computes target computation dependencies step
  · obtain ⟨step, computes⟩ := computable
    by_cases transforms : ∀ ref, computation.transformedBy = some ref →
        build.Served (build.transformQuery target ref step.returns)
    · exact ⟨_, .accepted reduces computes transforms⟩
    · push Not at transforms
      obtain ⟨ref, asked, missing⟩ := transforms
      obtain ⟨error, fault⟩ := exists_fault missing
      exact ⟨_, .transform reduces computes asked missing fault⟩
  · have missing : ¬ build.Served (build.computeQuery target computation
        (parameterTypes dependencies computation.reducers)) := by
      intro served
      obtain ⟨method, found⟩ := Registry.exists_search_eq_ok_iff.mpr served
      exact computable ⟨_, .method found⟩
    obtain ⟨error, missed⟩ := not_served_iff.mp missing
    have impassable : ¬ ∃ type, build.PassesOn target computation dependencies
        (parameterTypes dependencies computation.reducers) type := by
      intro passable
      obtain ⟨type, passes⟩ := passable
      exact computable ⟨_, .argument missing passes⟩
    exact ⟨_, .method reduces missing impassable missed⟩

/-- Every computed field gets a verdict. -/
theorem exists_verdict (build : Build) (target : TargetField) (computation : Computation) :
    ∃ errors, build.Verdict target computation errors := by
  by_cases roots : build.circularDependencies target computation.dependsOn = []
  · by_cases paths : build.pathErrors computation.dependsOn = []
    · have read := reads_of_pathErrors_eq_nil paths
      by_cases paired : crossings (computation.dependsOn.filterMap
          fun path => (build.source.resolve path).toOption) = computation.reducers.length
      · by_cases supported : unsupportedPairs (computation.dependsOn.filterMap
            fun path => (build.source.resolve path).toOption) computation.reducers = []
        · exact verdict_of_reduces ⟨roots, read, paired, supported⟩
        · exact ⟨_, .reducer roots read paired supported⟩
      · exact ⟨_, .count roots read paired⟩
    · exact ⟨_, .path roots paths⟩
  · exact ⟨_, .circular roots⟩

theorem verdict_iff {errors : List PlanErrorKind} :
    build.Verdict target computation errors ↔
      reasons (build.computed target computation).result = errors := by
  constructor
  · exact reasons_of_verdict
  · rintro rfl
    obtain ⟨errors, verdict⟩ := build.exists_verdict target computation
    rw [reasons_of_verdict verdict]
    exact verdict

/-- What a build reports about the first field of a name, if it is computed, is the verdict on it,
    that is, the diagnostics of the first stage that fails; the further fields of the name add a
    repetition each. The field is planned exactly when no stage fails. -/
theorem diagnosticsFor_computed {before after : List TargetField}
    (position : build.declaration.fields = before ++ target :: after)
    (first : ∀ earlier ∈ before, earlier.name ≠ target.name)
    (directive : target.directive = .computed computation) (errors : List PlanErrorKind) :
    (build.Verdict target computation errors ↔
      build.diagnosticsFor target.name =
        errors.map (⟨target.name, ·⟩) ++
          (after.filter (·.name == target.name)).map
            fun _ => ⟨target.name, .duplicateTargetField⟩) ∧
    (build.Verdict target computation [] ↔ ∃ mapping, build.Resolves target mapping) := by
  have run : build.run target = build.computed target computation := by
    rw [Build.run, directive]
  constructor
  · rw [diagnosticsFor_of_first position first, run, verdict_iff, List.append_cancel_right_eq]
    have kinds : Function.Injective (PlanError.mk target.name) := by
      rintro _ _ ⟨⟩
      rfl
    exact kinds.list_map.eq_iff.symm
  · rw [verdict_iff, reasons_eq_nil_iff, ← run]
    rfl

/-- The total without its reducer. -/
def bareTotal : TargetField :=
  ⟨"total", .scalar .text, .computed { orderTotal with reducers := [] }⟩

/-- The name of a field that is not planned is declared again. -/
def bareBuild : Build :=
  { orderBuild with declaration := ⟨"OrderView", [bareTotal, ⟨"total", .scalar .text, .implicit⟩]⟩ }

theorem bareTotal_reported :
    bareBuild.diagnosticsFor "total" =
      [⟨"total", .reducerCountMismatch 1 0⟩, ⟨"total", .duplicateTargetField⟩] := by
  have position : bareBuild.declaration.fields =
      [] ++ bareTotal :: [⟨"total", .scalar .text, .implicit⟩] := rfl
  have verdict : bareBuild.Verdict bareTotal { orderTotal with reducers := [] }
      [.reducerCountMismatch 1 0] := verdict_iff.mpr rfl
  exact (diagnosticsFor_computed position (by simp) rfl _).1.mp verdict

end Build

end ProjectionPlanner

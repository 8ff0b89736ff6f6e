import ProjectionPlanner.Proofs.Build.Outcomes

/-! # Relaxed settings

Settings are relaxed by letting numbers widen, by not checking copies, or by letting a lone
argument stand in for a method. A search takes the first method that fits, and a relaxed search may
find an earlier one, so that a relaxed build need not make the same plan. It still makes one: what
is found fits as well as what was found before, and the stages that follow look at nothing else.
-/

namespace ProjectionPlanner

/-- The first settings allow whatever the second allow, and name methods alike. -/
structure Settings.Relaxes (relaxed strict : Settings) : Prop where
  lead : relaxed.methodLead = strict.methodLead
  widening : strict.numericWidening = true → relaxed.numericWidening = true
  checks : relaxed.checkProjectedTypes = true → strict.checkProjectedTypes = true
  identity : strict.identityReduction = true → relaxed.identityReduction = true

theorem ValueType.isAssignableTo_mono {strict relaxed : Bool} {found expected : ValueType}
    (widens : strict = true → relaxed = true)
    (fits : found.isAssignableTo strict expected = true) :
    found.isAssignableTo relaxed expected = true := by
  cases strict with
  | false => exact isAssignableTo_of_strict fits
  | true => rw [widens rfl]; exact fits

namespace MethodQuery

variable {query : MethodQuery} {widening : Bool}

theorem fits_widened (widens : query.widening = true → widening = true) {provider : Provider}
    {method : MethodSignature} (fits : query.fits provider method = true) :
    { query with widening }.fits provider method = true := by
  obtain ⟨admitted, params, accepted⟩ := fits_iff.mp fits
  refine fits_iff.mpr ⟨admitted, params, ?_⟩
  cases returns : query.returns with
  | any => rfl
  | assignableTo type =>
      rw [returns] at accepted
      exact ValueType.isAssignableTo_mono widens accepted

/-- A query that takes every return type does not ask whether they widen. -/
theorem fits_widened_of_any (free : query.returns = .any) (provider : Provider)
    (method : MethodSignature) :
    { query with widening }.fits provider method = query.fits provider method := by
  simp only [fits, free, ReturnConstraint.accepts]

end MethodQuery

namespace Registry

variable {registry : Registry} {query : MethodQuery} {widening : Bool}

theorem Serves.widened (widens : query.widening = true → widening = true) {provider : Provider}
    {method : MethodSignature} (serves : registry.Serves query provider method) :
    registry.Serves { query with widening } provider method where
  reached := serves.reached
  declared := serves.declared
  named := serves.named
  fits := MethodQuery.fits_widened widens serves.fits

theorem search_widened_of_any (free : query.returns = .any) :
    registry.search { query with widening } = registry.search query := by
  have scans : ∀ name providers,
      { query with widening }.scan name providers = query.scan name providers :=
    MethodQuery.scan_congr (MethodQuery.fits_widened_of_any free)
  simp only [search, scans]
  rfl

end Registry

namespace Build

variable {build : Build} {settings : Settings} {target : TargetField} {computation : Computation}
  {dependencies : List ResolvedPath}

/-- The build with other settings. -/
def under (build : Build) (settings : Settings) : Build :=
  { build with settings }

/-! ## What the searches still find -/

theorem computeQuery_under (relaxes : settings.Relaxes build.settings) (params : List ValueType) :
    (build.under settings).computeQuery target computation params =
      { build.computeQuery target computation params with
        widening := settings.numericWidening } := by
  simp only [computeQuery, under, Settings.methodName, relaxes.lead]

theorem Served.under {query : MethodQuery} (relaxes : settings.Relaxes build.settings)
    (sameWidening : query.widening = build.settings.numericWidening) (served : build.Served query) :
    (build.under settings).Served { query with widening := settings.numericWidening } := by
  obtain ⟨provider, method, serves⟩ := served
  refine ⟨provider, method, serves.widened ?_⟩
  rw [sameWidening]
  exact relaxes.widening

theorem PassesOn.under {params : List ValueType} {type : ValueType}
    (relaxes : settings.Relaxes build.settings)
    (passes : build.PassesOn target computation dependencies params type) :
    (build.under settings).PassesOn target computation dependencies params type where
  allowed := relaxes.identity passes.allowed
  unnamed := passes.unnamed
  single := passes.single
  argument := passes.argument
  fits := passes.fits.imp_right (ValueType.isAssignableTo_mono relaxes.widening)

/-- Where a transformation follows, the search for a computing method is the same. -/
theorem search_computeQuery_under (relaxes : settings.Relaxes build.settings)
    (followed : computation.transformedBy.isSome = true) (params : List ValueType) :
    (build.under settings).registry.search
        ((build.under settings).computeQuery target computation params) =
      build.registry.search (build.computeQuery target computation params) := by
  rw [computeQuery_under relaxes]
  exact Registry.search_widened_of_any (by simp [computeQuery, followed])

/-- A step that a transformation follows does not change. -/
theorem Computes.under_of_followed {step : ComputeStep} (relaxes : settings.Relaxes build.settings)
    (followed : computation.transformedBy.isSome = true)
    (computes : build.Computes target computation dependencies step) :
    (build.under settings).Computes target computation dependencies step := by
  have same : (build.under settings).registry.search
        ((build.under settings).computeQuery target computation
          (parameterTypes dependencies computation.reducers)) =
      build.registry.search (build.computeQuery target computation
        (parameterTypes dependencies computation.reducers)) :=
    search_computeQuery_under relaxes followed _
  cases computes with
  | method found =>
      rw [← same] at found
      exact .method found
  | argument missing passes =>
      refine .argument ?_ (passes.under relaxes)
      rw [served_iff, ← same, ← served_iff] at missing
      exact missing

/-- A last step may change, but there is still one. -/
theorem exists_computes_under {step : ComputeStep} (relaxes : settings.Relaxes build.settings)
    (computes : build.Computes target computation dependencies step) :
    ∃ relaxedStep, (build.under settings).Computes target computation dependencies relaxedStep := by
  by_cases served : (build.under settings).Served ((build.under settings).computeQuery target
      computation (parameterTypes dependencies computation.reducers))
  · obtain ⟨method, found⟩ := served_iff.mp served
    exact ⟨_, .method found⟩
  · cases computes with
    | method found =>
        have still := (served_iff.mpr ⟨_, found⟩).under relaxes rfl
        rw [← computeQuery_under relaxes] at still
        exact absurd still served
    | argument _ passes => exact ⟨_, .argument served (passes.under relaxes)⟩

/-! ## What becomes of the mappings -/

/-- How the mapping of a field may change when settings are relaxed. -/
structure Carries (target : TargetField) (strict relaxed : FieldMapping) : Prop where
  kind : relaxed.kind = strict.kind
  copied : strict.kind ≠ .computed → relaxed = strict
  /-- What a computed field reads and how it is reduced stays; only what was searched for may
      change. -/
  computed : ∀ before, strict = .computed before → ∃ after, relaxed = .computed after ∧
    after.dependencies = before.dependencies ∧ after.parameterTypes = before.parameterTypes ∧
    after.reducers = before.reducers ∧
    ∀ computation, target.directive = .computed computation →
      computation.transformedBy.isSome = true → after.compute = before.compute

theorem Carries.of_copied {mapping : FieldMapping} (copied : mapping.kind ≠ .computed) :
    Carries target mapping mapping where
  kind := rfl
  copied _ := rfl
  computed := by
    intro before same
    cases same
    exact absurd rfl copied

theorem Carries.of_computed {step relaxedStep : ComputeStep}
    {transform relaxedTransform : Option ResolvedMethod}
    (directive : target.directive = .computed computation)
    (same : computation.transformedBy.isSome = true → relaxedStep = step) :
    Carries target (.computed (mappingOf computation dependencies step transform))
      (.computed (mappingOf computation dependencies relaxedStep relaxedTransform)) where
  kind := rfl
  copied := by
    intro copied
    exact absurd rfl copied
  computed := by
    intro before same
    cases same
    refine ⟨_, rfl, rfl, rfl, rfl, ?_⟩
    intro other otherDirective followed
    rw [directive] at otherDirective
    cases otherDirective
    exact same followed

theorem checkProjected_under {found : ValueType} (relaxes : settings.Relaxes build.settings)
    (fits : build.checkProjected target found = .ok ()) :
    (build.under settings).checkProjected target found = .ok () := by
  rw [checkProjected_eq_ok_iff] at fits ⊢
  intro checked
  exact ValueType.isAssignableTo_mono relaxes.widening (fits (relaxes.checks checked))

theorem exists_computed_under {mapping : FieldMapping} (relaxes : settings.Relaxes build.settings)
    (directive : target.directive = .computed computation)
    (accepted : (build.computed target computation).result = .ok mapping) :
    ∃ relaxed, ((build.under settings).computed target computation).result = .ok relaxed ∧
      Carries target mapping relaxed := by
  obtain ⟨dependencies, step, transform, reduces, computes, transforms, rfl⟩ :=
    computed_eq_ok_iff.mp accepted
  -- the stages before the searches do not look at the settings
  have reduces : (build.under settings).Reduces target computation dependencies :=
    ⟨reduces.roots, reduces.read, reduces.paired, reduces.supported⟩
  rcases transform?_eq_ok_iff.mp transforms with ⟨last, rfl⟩ | ⟨ref, method, asked, rfl, found⟩
  · obtain ⟨relaxedStep, relaxedComputes⟩ := exists_computes_under relaxes computes
    have relaxedTransforms : ((build.under settings).transform? target relaxedStep.returns
        computation.transformedBy).result = .ok none :=
      transform?_eq_ok_iff.mpr (.inl ⟨last, rfl⟩)
    refine ⟨_, computed_eq_ok_iff.mpr
      ⟨_, _, _, reduces, relaxedComputes, relaxedTransforms, rfl⟩, .of_computed directive ?_⟩
    intro followed
    rw [last] at followed
    cases followed
  · have followed : computation.transformedBy.isSome = true := by rw [asked]; rfl
    -- the step before it is the same, and so is what the transformation is to take
    have stillComputes := computes.under_of_followed relaxes followed
    have stillServed := (served_iff.mpr ⟨_, found⟩).under relaxes rfl
    obtain ⟨relaxedMethod, relaxedFound⟩ := served_iff.mp stillServed
    have relaxedTransforms : ((build.under settings).transform? target step.returns
        computation.transformedBy).result = .ok (some relaxedMethod) :=
      transform?_eq_ok_iff.mpr (.inr ⟨ref, relaxedMethod, asked, rfl, relaxedFound⟩)
    exact ⟨_, computed_eq_ok_iff.mpr
      ⟨_, _, _, reduces, stillComputes, relaxedTransforms, rfl⟩,
      .of_computed directive fun _ => rfl⟩

/-- A field that resolves still resolves under relaxed settings. -/
theorem Resolves.exists_under {mapping : FieldMapping} (relaxes : settings.Relaxes build.settings)
    (resolves : build.Resolves target mapping) :
    ∃ relaxed, (build.under settings).Resolves target relaxed ∧ Carries target mapping relaxed := by
  unfold Resolves run at resolves ⊢
  cases directive : target.directive with
  | implicit =>
      rw [directive] at resolves
      obtain ⟨field, found, fits, rfl⟩ := implicit_eq_ok_iff.mp resolves
      exact ⟨_, implicit_eq_ok_iff.mpr ⟨field, found, checkProjected_under relaxes fits, rfl⟩,
        .of_copied (by simp [FieldMapping.kind])⟩
  | explicit path =>
      rw [directive] at resolves
      obtain ⟨resolved, leads, fits, rfl⟩ := explicit_eq_ok_iff.mp resolves
      exact ⟨_, explicit_eq_ok_iff.mpr ⟨resolved, leads, checkProjected_under relaxes fits, rfl⟩,
        .of_copied (by simp [FieldMapping.kind])⟩
  | computed computation =>
      rw [directive] at resolves
      exact exists_computed_under relaxes directive resolves

/-- Relaxed settings never break a build. The relaxed plan has the same names in the same order;
    its copies are the same, and its computed fields read and reduce the same dependencies. -/
theorem result_of_relaxes {plan : Plan} (relaxes : settings.Relaxes build.settings)
    (made : build.result = .ok plan) :
    ∃ relaxedPlan, (build.under settings).result = .ok relaxedPlan ∧
      relaxedPlan.fields.keys = plan.fields.keys ∧
      ∀ target ∈ build.declaration.fields, ∃ mapping relaxed,
        plan.get? target.name = some mapping ∧ relaxedPlan.get? target.name = some relaxed ∧
          Carries target mapping relaxed := by
  obtain ⟨distinct, resolve⟩ := exists_result_eq_ok_iff.mp ⟨plan, made⟩
  have stillResolve : ∀ target ∈ build.declaration.fields,
      ∃ relaxed, (build.under settings).Resolves target relaxed := by
    intro target declared
    obtain ⟨mapping, resolves⟩ := resolve target declared
    obtain ⟨relaxed, stillResolves, -⟩ := resolves.exists_under relaxes
    exact ⟨relaxed, stillResolves⟩
  have stillMade : ∃ relaxedPlan, (build.under settings).result = .ok relaxedPlan :=
    exists_result_eq_ok_iff.mpr ⟨distinct, stillResolve⟩
  obtain ⟨relaxedPlan, relaxedMade⟩ := stillMade
  obtain ⟨-, -, -, -, plans⟩ := result_eq_ok_iff.mp made
  obtain ⟨-, -, -, -, relaxedPlans⟩ := result_eq_ok_iff.mp relaxedMade
  refine ⟨relaxedPlan, relaxedMade, ?_, ?_⟩
  · rw [keys_of_plans plans, keys_of_plans relaxedPlans]
    rfl
  · intro target declared
    obtain ⟨mapping, stored, resolves⟩ := exists_get?_of_result made declared
    have stillDeclared : target ∈ (build.under settings).declaration.fields := declared
    obtain ⟨relaxed, relaxedStored, stillResolves⟩ :=
      exists_get?_of_result relaxedMade stillDeclared
    obtain ⟨other, otherResolves, carries⟩ := resolves.exists_under relaxes
    -- a field is planned in one way only
    cases Except.ok.inj (stillResolves.symm.trans otherResolves)
    exact ⟨mapping, relaxed, stored, relaxedStored, carries⟩

/-- The widened plan takes another method for the size, one that comes earlier. -/
theorem orderBuild_relaxed :
    ∃ plan relaxedPlan, orderBuild.result = .ok plan ∧
      (orderBuild.under { numericWidening := true }).result = .ok relaxedPlan ∧
      relaxedPlan.fields.keys = plan.fields.keys ∧ relaxedPlan.get? "size" ≠ plan.get? "size" ∧
      ∃ mapping relaxed, plan.get? "total" = some mapping ∧
        relaxedPlan.get? "total" = some relaxed ∧
          Carries ⟨"total", .scalar .text, .computed orderTotal⟩ mapping relaxed := by
  have made : orderBuild.result = .ok ⟨_, _, _, _⟩ := rfl
  have relaxes : Settings.Relaxes { numericWidening := true } orderBuild.settings := by
    constructor <;> decide
  obtain ⟨relaxedPlan, relaxedMade, sameNames, carried⟩ := result_of_relaxes relaxes made
  refine ⟨_, relaxedPlan, made, relaxedMade, sameNames, ?_, ?_⟩
  · have other : (orderBuild.under { numericWidening := true }).result = .ok ⟨_, _, _, _⟩ := rfl
    cases Except.ok.inj (relaxedMade.symm.trans other)
    decide
  · exact carried _ (.tail _ (.tail _ (.head _)))

end Build

end ProjectionPlanner

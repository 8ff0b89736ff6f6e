import ProjectionPlanner.Proofs.Build.Outcomes

/-! # Plans are well typed

The stages of a computed field hand types to each other: paths end in types, reducers change some
of them, a method takes exactly these and returns another, which a transformation takes in turn.
An accepted mapping carries all these types, and here they are shown to meet at every joint, and
at the end to fit the target field. Copies fit too, where the settings have them checked.
-/

namespace ProjectionPlanner

namespace Build

variable {build : Build} {target : TargetField} {computation : Computation}

/-- Every part of a computed mapping has the type that the next part takes. -/
structure WellTyped (build : Build) (target : TargetField) (computation : Computation)
    (mapping : ComputedMapping) : Prop where
  /-- There is one dependency for each path, and it is where the path leads. -/
  read : List.Forall₂ (fun path resolved => build.source.resolve path = .ok resolved)
    computation.dependsOn mapping.dependencies
  arity : mapping.parameterTypes.length = mapping.dependencies.length
  /-- A method that computes the field takes exactly the arguments. -/
  invoked : ∀ method, mapping.compute = .invoke method →
    method.signature.params = mapping.parameterTypes
  /-- An argument that is passed on is the only one. -/
  passed : ∀ type, mapping.compute = .identity type → mapping.parameterTypes = [type]
  transformed : mapping.transform.isSome = computation.transformedBy.isSome
  /-- A transformation needs no instance, and takes exactly what was computed. -/
  stateless : ∀ method, mapping.transform = some method →
    method.signature.receiver = .static ∧ method.invocation = .stateless ∧
      method.signature.params = [mapping.compute.returns]
  /-- What comes out in the end may be stored in the target field. -/
  fits : mapping.outputType.isAssignableTo build.settings.numericWidening target.type = true

/-! ## What the searches promise -/

theorem params_of_search {query : MethodQuery} {method : ResolvedMethod}
    (found : (build.registry.search query).result = .ok method) :
    method.signature.params = query.params := by
  obtain ⟨provider, signature, serves, rfl⟩ := Registry.serves_of_search found
  exact (MethodQuery.fits_iff.mp serves.fits).2.1

theorem accepts_of_search {query : MethodQuery} {method : ResolvedMethod}
    (found : (build.registry.search query).result = .ok method) :
    query.returns.accepts query.widening method.returns = true := by
  obtain ⟨provider, signature, serves, rfl⟩ := Registry.serves_of_search found
  exact (MethodQuery.fits_iff.mp serves.fits).2.2

theorem stateless_of_search {query : MethodQuery} {method : ResolvedMethod}
    (stateless : query.receivers = .statelessOnly)
    (found : (build.registry.search query).result = .ok method) :
    method.signature.receiver = .static ∧ method.invocation = .stateless := by
  obtain ⟨provider, signature, serves, rfl⟩ := Registry.serves_of_search found
  have admitted := (MethodQuery.fits_iff.mp serves.fits).1
  rw [stateless] at admitted
  have free : signature.isStateless = true := admitted
  have static : signature.receiver = .static := by simpa [MethodSignature.isStateless] using free
  exact ⟨static, by simp [ResolvedMethod.ofEntry, Invocation.ofMethod, free]⟩

/-- What computes the field takes the arguments, and fits the field if nothing follows. -/
theorem Computes.well_typed {dependencies : List ResolvedPath} {step : ComputeStep}
    (computes : build.Computes target computation dependencies step) :
    (∀ method, step = .invoke method →
        method.signature.params = parameterTypes dependencies computation.reducers) ∧
      (∀ type, step = .identity type →
        parameterTypes dependencies computation.reducers = [type]) ∧
      (computation.transformedBy = none →
        step.returns.isAssignableTo build.settings.numericWidening target.type = true) := by
  cases computes with
  | method found =>
      refine ⟨?_, ?_, ?_⟩
      · intro _ same
        cases same
        exact params_of_search found
      · intro _ other
        cases other
      · intro last
        have accepted := accepts_of_search found
        simpa [computeQuery, last, ReturnConstraint.accepts, ComputeStep.returns] using accepted
  | argument _ passes =>
      refine ⟨?_, ?_, ?_⟩
      · intro _ other
        cases other
      · intro _ same
        cases same
        exact passes.argument
      · intro last
        simpa [last, ComputeStep.returns] using passes.fits

theorem computed_well_typed {mapping : FieldMapping}
    (accepted : (build.computed target computation).result = .ok mapping) :
    ∃ parts, mapping = .computed parts ∧ build.WellTyped target computation parts := by
  obtain ⟨dependencies, step, transform, reduces, computes, transforms, rfl⟩ :=
    computed_eq_ok_iff.mp accepted
  obtain ⟨invoked, passed, fits⟩ := computes.well_typed
  refine ⟨_, rfl, ?_⟩
  rcases transform?_eq_ok_iff.mp transforms with ⟨last, rfl⟩ | ⟨named, method, some, rfl, found⟩
  · exact
      { read := reduces.read
        arity := length_parameterTypes dependencies computation.reducers
        invoked := invoked
        passed := passed
        transformed := by simp [mappingOf, last]
        stateless := by
          intro _ transforms
          cases transforms
        fits := fits last }
  · have free := stateless_of_search rfl found
    exact
      { read := reduces.read
        arity := length_parameterTypes dependencies computation.reducers
        invoked := invoked
        passed := passed
        transformed := by simp [mappingOf, some]
        stateless := by
          intro _ transforms
          cases transforms
          exact ⟨free.1, free.2, params_of_search found⟩
        fits := accepts_of_search found }

/-! ## Copies -/

/-- A copy that is checked fits its target field. -/
theorem copied_fits {mapping : FieldMapping} (resolves : build.Resolves target mapping)
    (copied : mapping.kind ≠ .computed) (checked : build.settings.checkProjectedTypes = true) :
    mapping.valueType.isAssignableTo build.settings.numericWidening target.type = true := by
  have kind := resolves.kind_eq
  unfold Resolves run at resolves
  cases directive : target.directive with
  | implicit =>
      rw [directive] at resolves
      obtain ⟨_, -, fits, rfl⟩ := implicit_eq_ok_iff.mp resolves
      exact checkProjected_eq_ok_iff.mp fits checked
  | explicit path =>
      rw [directive] at resolves
      obtain ⟨_, -, fits, rfl⟩ := explicit_eq_ok_iff.mp resolves
      exact checkProjected_eq_ok_iff.mp fits checked
  | computed computation =>
      rw [directive] at kind
      exact absurd kind copied

/-- Where names differ, the field of a name is the only one. -/
theorem field?_eq_some_of_mem {declaration : Declaration} (distinct : declaration.names.Nodup)
    (declared : target ∈ declaration.fields) : declaration.field? target.name = some target :=
  find?_of_distinct_keys distinct declared

/-- A plan that was made is well typed from end to end: every computed field has a mapping whose
    parts meet, and every copy fits its target field if copies are checked. -/
theorem plan_well_typed {plan : Plan} (made : build.result = .ok plan) :
    (∀ target ∈ build.declaration.fields,
      ∀ computation, target.directive = .computed computation →
        ∃ mapping, plan.get? target.name = some (.computed mapping) ∧
          build.WellTyped target computation mapping) ∧
    (build.settings.checkProjectedTypes = true →
      ∀ name mapping, plan.get? name = some mapping → mapping.kind ≠ .computed →
        ∃ target, build.declaration.field? name = some target ∧
          mapping.valueType.isAssignableTo build.settings.numericWidening target.type = true) := by
  constructor
  · intro target declared computation directive
    obtain ⟨mapping, stored, resolves⟩ := exists_get?_of_result made declared
    unfold Resolves run at resolves
    rw [directive] at resolves
    obtain ⟨parts, rfl, typed⟩ := computed_well_typed resolves
    exact ⟨parts, stored, typed⟩
  · intro checked name mapping stored copied
    obtain ⟨distinct, -, -, -, plans⟩ := result_eq_ok_iff.mp made
    obtain ⟨target, declared, sameName, resolves⟩ :=
      exists_left_of_mem plans (Entries.get?_eq_some_iff.mp stored)
    cases sameName
    exact ⟨target, field?_eq_some_of_mem distinct declared, copied_fits resolves copied checked⟩

theorem orderBuild_well_typed :
    ∃ plan, orderBuild.result = .ok plan ∧
      (∃ mapping, plan.get? "total" = some (.computed mapping) ∧
        orderBuild.WellTyped ⟨"total", .scalar .text, .computed orderTotal⟩ orderTotal mapping) ∧
      ∃ mapping, plan.get? "id" = some mapping ∧ mapping.kind = .implicit ∧
        ∃ target, orderBuild.declaration.field? "id" = some target ∧
          mapping.valueType.isAssignableTo false target.type = true := by
  have made : orderBuild.result = .ok ⟨_, _, _, _⟩ := rfl
  obtain ⟨computed, copied⟩ := plan_well_typed made
  refine ⟨_, made, ?_, _, rfl, rfl, ?_⟩
  · exact computed _ (.tail _ (.tail _ (.head _))) _ rfl
  · exact copied rfl "id" _ rfl (by decide)

end Build

end ProjectionPlanner

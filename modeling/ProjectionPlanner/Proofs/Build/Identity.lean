import ProjectionPlanner.Proofs.Build.Outcomes
import ProjectionPlanner.Proofs.Search.NearMisses

/-! # When an argument stands in for a method

A computed field whose single argument was reduced may take that argument as it is, if no method
computes the field and the settings allow it. The conditions are spread over the search for a method
and over what is done when it fails; here they are put together, and the search is replaced by what
the providers declare. Then the switch for it is shown to have no other effect: without it exactly
the fields that took their argument are rejected, each because its method is missing, and all
other fields fare as before.
-/

namespace ProjectionPlanner

theorem Computation.override?_eq_none_iff {computation : Computation} :
    computation.override? = none ↔
      ∀ ref, computation.computedBy = some ref →
        ref.provider = none ∧ (ref.name = none ∨ ref.name = some "") := by
  simp only [override?, Option.filter_eq_none_iff, MethodRef.isUnset, ← MethodRef.name?_eq_none_iff]
  simp

namespace Build

/-- A method of the provider computes the field from a single argument of this type. It has the
    conventional name and can be called, and it returns what fits the target field, or anything if a
    transformation follows. -/
structure ComputesFrom (build : Build) (target : TargetField) (computation : Computation)
    (type : ValueType) (provider : Provider) (method : MethodSignature) : Prop where
  declared : method ∈ provider.methods
  named : method.name = build.settings.methodName target.name
  params : method.params = [type]
  invocable : method.receiver = .static ∨ provider.mode ≠ .stateless
  returns : computation.transformedBy.isSome = true ∨
    method.returns.isAssignableTo build.settings.numericWidening target.type = true

/-- All that it takes for the argument of this type to stand in for a method. -/
structure StandsIn (build : Build) (target : TargetField) (computation : Computation)
    (dependencies : List ResolvedPath) (params : List ValueType) (type : ValueType) : Prop where
  allowed : build.settings.identityReduction = true
  /-- A reference that sets neither a provider nor a name is as good as none. -/
  unnamed : ∀ ref, computation.computedBy = some ref →
    ref.provider = none ∧ (ref.name = none ∨ ref.name = some "")
  single : ∃ dependency, dependencies = [dependency] ∧ dependency.traversesCollection = true
  argument : params = [type]
  fits : computation.transformedBy.isSome = true ∨
    type.isAssignableTo build.settings.numericWidening target.type = true
  missing : ∀ provider ∈ build.registry.providers, ∀ method,
    ¬ build.ComputesFrom target computation type provider method

variable {build : Build} {target : TargetField} {computation : Computation}
  {dependencies : List ResolvedPath} {params : List ValueType} {type : ValueType}

theorem computesFrom_iff {provider : Provider} {method : MethodSignature} :
    build.ComputesFrom target computation type provider method ↔
      method ∈ provider.methods ∧ method.name = build.settings.methodName target.name ∧
        (build.computeQuery target computation [type]).fits provider method = true := by
  have invocable : (build.computeQuery target computation [type]).receivers.admits provider method =
        true ↔ method.receiver = .static ∨ provider.mode ≠ .stateless := by
    simp [computeQuery, ReceiverFilter.admits, Provider.canInvoke, MethodSignature.isStateless]
  have returns : (build.computeQuery target computation [type]).returns.accepts
        build.settings.numericWidening method.returns = true ↔
      computation.transformedBy.isSome = true ∨
        method.returns.isAssignableTo build.settings.numericWidening target.type = true := by
    cases followed : computation.transformedBy.isSome <;>
      simp [computeQuery, followed, ReturnConstraint.accepts]
  rw [MethodQuery.fits_iff, invocable]
  constructor
  · intro computes
    exact ⟨computes.declared, computes.named, computes.invocable, computes.params,
      returns.mpr computes.returns⟩
  · rintro ⟨declared, named, callable, params, accepted⟩
    exact ⟨declared, named, params, callable, returns.mp accepted⟩

theorem served_computeQuery_iff (unnamed : computation.override? = none) :
    build.Served (build.computeQuery target computation [type]) ↔
      ∃ provider ∈ build.registry.providers, ∃ method,
        build.ComputesFrom target computation type provider method := by
  have name := build.name?_computeQuery target unnamed [type]
  have reaches : ∀ provider,
      build.registry.Reaches (build.computeQuery target computation [type]) provider ↔
        provider ∈ build.registry.providers := by
    intro provider
    simp only [Registry.Reaches, build.provider?_computeQuery target unnamed]
  simp only [computesFrom_iff]
  constructor
  · rintro ⟨provider, method, serves⟩
    have named : method.name = build.settings.methodName target.name :=
      Option.some.inj (serves.named.symm.trans name)
    exact ⟨provider, (reaches provider).mp serves.reached, method, serves.declared, named,
      serves.fits⟩
  · rintro ⟨provider, listed, method, declared, named, fits⟩
    exact ⟨provider, method,
      { reached := (reaches provider).mpr listed
        declared := declared
        named := by rw [name, named]
        fits := fits }⟩

/-- The argument is taken exactly where it may stand in and the search has nothing to find. -/
theorem computes_identity_iff :
    build.Computes target computation dependencies (.identity type) ↔
      build.StandsIn target computation dependencies
        (parameterTypes dependencies computation.reducers) type := by
  constructor
  · intro computes
    cases computes with
    | argument missing passes =>
        rw [passes.argument, served_computeQuery_iff passes.unnamed] at missing
        push Not at missing
        exact
          { allowed := passes.allowed
            unnamed := Computation.override?_eq_none_iff.mp passes.unnamed
            single := passes.single
            argument := passes.argument
            fits := passes.fits
            missing := missing }
  · intro stands
    have unnamed := Computation.override?_eq_none_iff.mpr stands.unnamed
    refine .argument ?_
      { allowed := stands.allowed
        unnamed := unnamed
        single := stands.single
        argument := stands.argument
        fits := stands.fits }
    rw [stands.argument, served_computeQuery_iff unnamed]
    rintro ⟨provider, listed, method, computes⟩
    exact stands.missing provider listed method computes

/-! ## The switch -/

/-- The build in which an argument may or may not stand in for a method. -/
def withIdentity (build : Build) (allowed : Bool) : Build :=
  { build with settings := { build.settings with identityReduction := allowed } }

/-- The field passes the stages before its searches, and its argument is chosen in place of a
    method. What a transformation then makes of it does not matter. -/
def ChoosesIdentity (build : Build) (target : TargetField) (computation : Computation)
    (type : ValueType) : Prop :=
  target.directive = .computed computation ∧
    ∃ dependencies arguments, build.arguments target computation = .ok (dependencies, arguments) ∧
      (build.computeStep target computation dependencies (arguments.map (·.type))).result =
        .ok (.identity type)

theorem identity?_withoutIdentity :
    (build.withIdentity false).identity? target computation dependencies params = none := by
  cases taken : (build.withIdentity false).identity? target computation dependencies params with
  | none => rfl
  | some step =>
      obtain ⟨type, passes, -⟩ := identity?_eq_some_iff.mp taken
      cases passes.allowed

/-- Unless the argument is chosen, the step does not depend on the switch. -/
theorem computeStep_withoutIdentity
    (kept : ∀ type,
      ((build.withIdentity true).computeStep target computation dependencies params).result ≠
        .ok (.identity type)) :
    (build.withIdentity false).computeStep target computation dependencies params =
      (build.withIdentity true).computeStep target computation dependencies params := by
  have sameSearch : (build.withIdentity false).registry.search
        ((build.withIdentity false).computeQuery target computation params) =
      (build.withIdentity true).registry.search
        ((build.withIdentity true).computeQuery target computation params) := rfl
  simp only [computeStep, sameSearch, identity?_withoutIdentity] at kept ⊢
  cases lookup : ((build.withIdentity true).registry.search
      ((build.withIdentity true).computeQuery target computation params)).result with
  | ok method => rfl
  | error error =>
      cases error with
      | nameRequired | providerNotRegistered _ _ => rfl
      | notFound expected searched nearMisses =>
          cases taken : (build.withIdentity true).identity? target computation dependencies
              params with
          | none => rfl
          | some step =>
              obtain ⟨type, -, rfl⟩ := identity?_eq_some_iff.mp taken
              simp [lookup, taken] at kept

theorem exists_missed_of_chosen
    (chosen : (build.computeStep target computation dependencies params).result =
      .ok (.identity type)) :
    build.PassesOn target computation dependencies params type ∧
      ∃ expected searched nearMisses,
        (build.registry.search (build.computeQuery target computation params)).result =
          .error (.notFound expected searched nearMisses) := by
  simp only [computeStep] at chosen
  split at chosen
  · cases chosen
  · rename_i expected searched nearMisses missed
    split at chosen
    · rename_i step taken
      obtain ⟨other, passes, rfl⟩ := identity?_eq_some_iff.mp taken
      cases chosen
      exact ⟨passes, expected, searched, nearMisses, missed⟩
    · cases chosen
  · cases chosen

/-- What is reported of a field when it may not take its argument: the conventional method is
    missing, wherever one looks. -/
def Misses (build : Build) (target : TargetField) (computation : Computation) (type : ValueType)
    (rejection : Rejection) : Prop :=
  ∃ nearMisses, rejection = .single (.method (.notFound
    { name := build.settings.methodName target.name
      params := [type]
      returns := if computation.transformedBy.isSome then .any else .assignableTo target.type }
    (build.registry.providers.map (·.id)) nearMisses))

/-- Where the argument was chosen the search had found nothing, and without the switch that is
    what is reported. -/
theorem computeStep_withoutIdentity_of_chosen
    (chosen : ((build.withIdentity true).computeStep target computation dependencies
      params).result = .ok (.identity type)) :
    ∃ rejection, build.Misses target computation type rejection ∧
      ((build.withIdentity false).computeStep target computation dependencies params).result =
        .error rejection := by
  obtain ⟨passes, expected, searched, nearMisses, missed⟩ := exists_missed_of_chosen chosen
  have sameMiss : ((build.withIdentity false).registry.search
      ((build.withIdentity false).computeQuery target computation params)).result =
        .error (.notFound expected searched nearMisses) := missed
  obtain ⟨name, scope, named, reachable, -, rfl, rfl, -⟩ :=
    Registry.search_eq_notFound_iff.mp sameMiss
  rw [name?_computeQuery _ _ passes.unnamed, Option.some.injEq] at named
  rw [provider?_computeQuery _ _ passes.unnamed] at reachable
  cases named
  cases reachable
  cases passes.argument
  refine ⟨_, ⟨nearMisses, rfl⟩, ?_⟩
  simp only [computeStep, sameMiss, identity?_withoutIdentity]
  rfl

/-! ## Whole fields -/

theorem arguments_withIdentity (build : Build) (target : TargetField) (computation : Computation)
    (allowed : Bool) :
    (build.withIdentity allowed).arguments target computation =
      build.arguments target computation := rfl

theorem run_withoutIdentity
    (kept : ∀ computation type,
      ¬ (build.withIdentity true).ChoosesIdentity target computation type) :
    (build.withIdentity false).run target = (build.withIdentity true).run target := by
  cases directive : target.directive with
  | implicit | explicit _ =>
      simp only [run, directive]
      rfl
  | computed computation =>
      simp only [run, directive, computed, arguments_withIdentity]
      cases reduced : build.arguments target computation with
      | error rejection => rfl
      | ok pair =>
          obtain ⟨dependencies, arguments⟩ := pair
          have sameStep := computeStep_withoutIdentity fun type chosen =>
            kept computation type ⟨directive, dependencies, arguments, reduced, chosen⟩
          simp only [methods, sameStep]
          rfl

theorem run_withoutIdentity_of_chosen
    (chosen : (build.withIdentity true).ChoosesIdentity target computation type) :
    ∃ rejection, build.Misses target computation type rejection ∧
      ((build.withIdentity false).run target).result = .error rejection := by
  obtain ⟨directive, dependencies, arguments, reduced, chosen⟩ := chosen
  obtain ⟨rejection, misses, missed⟩ := computeStep_withoutIdentity_of_chosen chosen
  refine ⟨rejection, misses, ?_⟩
  rw [arguments_withIdentity] at reduced
  simp only [run, directive, computed, arguments_withIdentity, reduced, methods, missed]

/-- At this position a name is declared for the first time, and the field takes its argument. -/
def TakesArgument (build : Build) (position : Nat) (computation : Computation) (type : ValueType) :
    Prop :=
  ∃ target, build.declaration.fields[position]? = some target ∧
    target.name ∉ (build.declaration.fields.take position).map (·.name) ∧
    build.ChoosesIdentity target computation type

theorem computeStep_eq_identity_iff {arguments : List Argument}
    (reduced : build.arguments target computation = .ok (dependencies, arguments)) :
    (build.computeStep target computation dependencies (arguments.map (·.type))).result =
        .ok (.identity type) ↔
      build.StandsIn target computation dependencies (arguments.map (·.type)) type := by
  obtain ⟨-, rfl⟩ := arguments_eq_ok_iff.mp reduced
  exact computeStep_eq_ok_iff.trans computes_identity_iff

/-! ## Whole builds -/

theorem getElem?_outcomes_withIdentity (build : Build) (allowed : Bool) (position : Nat) :
    (build.withIdentity allowed).outcomes[position]? =
      build.declaration.fields[position]?.map fun target =>
        ⟨target, (build.withIdentity allowed).stageAfter
          ((build.declaration.fields.take position).map (·.name)) target⟩ :=
  (build.withIdentity allowed).getElem?_outcomes position

theorem stageAfter_withoutIdentity {earlier : List String}
    (kept : target.name ∉ earlier → ∀ computation type,
      ¬ (build.withIdentity true).ChoosesIdentity target computation type) :
    (build.withIdentity false).stageAfter earlier target =
      (build.withIdentity true).stageAfter earlier target := by
  unfold stageAfter
  split
  · rfl
  · rename_i fresh
    exact run_withoutIdentity (kept fresh)

theorem outcomes_withoutIdentity
    (kept : ∀ position computation type,
      ¬ (build.withIdentity true).TakesArgument position computation type) :
    (build.withIdentity false).outcomes = (build.withIdentity true).outcomes := by
  apply List.ext_getElem?
  intro position
  simp only [getElem?_outcomes_withIdentity]
  cases there : build.declaration.fields[position]? with
  | none => rfl
  | some target =>
      have sameStage := stageAfter_withoutIdentity fun fresh computation type chosen =>
        kept position computation type ⟨target, there, fresh, chosen⟩
      exact congrArg (fun stage => some (FieldOutcome.mk target stage)) sameStage

theorem result_withoutIdentity
    (kept : ∀ position computation type,
      ¬ (build.withIdentity true).TakesArgument position computation type) :
    (build.withIdentity false).result = (build.withIdentity true).result := by
  simp only [result, Build.errors, mappings, outcomes_withoutIdentity kept]
  rfl

/-- The argument stands in for a method exactly where the settings, the directive and the argument
    allow it and no provider declares a method that computes the field. If it may not, the fields
    that took it are rejected, each with the one diagnostic that its conventional method is missing;
    what becomes of the others is the same, and so is the whole result if no field took it. -/
theorem identity_applies_where_intended (build : Build) :
    (∀ target computation dependencies arguments type,
      build.arguments target computation = .ok (dependencies, arguments) →
        ((build.computeStep target computation dependencies (arguments.map (·.type))).result =
            .ok (.identity type) ↔
          build.StandsIn target computation dependencies (arguments.map (·.type)) type)) ∧
    (∀ position target, build.declaration.fields[position]? = some target →
      ∃ before after,
        (build.withIdentity true).outcomes[position]? = some ⟨target, before⟩ ∧
        (build.withIdentity false).outcomes[position]? = some ⟨target, after⟩ ∧
        (∀ computation type, (build.withIdentity true).TakesArgument position computation type →
          ∃ rejection, build.Misses target computation type rejection ∧
            after.result = .error rejection) ∧
        ((∀ computation type,
            ¬ (build.withIdentity true).TakesArgument position computation type) →
          after = before)) ∧
    ((∀ position computation type,
        ¬ (build.withIdentity true).TakesArgument position computation type) →
      (build.withIdentity false).result = (build.withIdentity true).result) := by
  refine ⟨?_, ?_, result_withoutIdentity⟩
  · intro target computation dependencies arguments type reduced
    exact computeStep_eq_identity_iff reduced
  · intro position target there
    simp only [getElem?_outcomes_withIdentity, there, Option.map_some]
    refine ⟨_, _, rfl, rfl, ?_, ?_⟩
    · rintro computation type ⟨other, otherThere, fresh, chosen⟩
      cases there.symm.trans otherThere
      have alone : (build.withIdentity false).stageAfter
          ((build.declaration.fields.take position).map (·.name)) target =
            (build.withIdentity false).run target := if_neg fresh
      rw [alone]
      exact run_withoutIdentity_of_chosen chosen
    · intro kept
      exact stageAfter_withoutIdentity fun fresh computation type chosen =>
        kept computation type ⟨target, there, fresh, chosen⟩

/-- The total takes its sum. The size has a method, so that without the total nothing changes. -/
theorem orderBuild_withoutIdentity :
    (∃ dependencies arguments,
      orderBuild.arguments ⟨"total", .scalar .text, .computed orderTotal⟩ orderTotal =
          .ok (dependencies, arguments) ∧
        orderBuild.StandsIn ⟨"total", .scalar .text, .computed orderTotal⟩ orderTotal dependencies
          (arguments.map (·.type)) (.scalar .decimal)) ∧
      (orderBuild.withIdentity true).TakesArgument 2 orderTotal (.scalar .decimal) ∧
      (∃ after, (orderBuild.withIdentity false).outcomes[2]? =
          some ⟨⟨"total", .scalar .text, .computed orderTotal⟩, after⟩ ∧
        ∃ rejection, orderBuild.Misses ⟨"total", .scalar .text, .computed orderTotal⟩ orderTotal
          (.scalar .decimal) rejection ∧ after.result = .error rejection) ∧
      (sizeBuild.withIdentity false).result = (sizeBuild.withIdentity true).result := by
  obtain ⟨chosen, switched, -⟩ := identity_applies_where_intended orderBuild
  have taken : (orderBuild.withIdentity true).TakesArgument 2 orderTotal (.scalar .decimal) :=
    ⟨_, rfl, by decide, rfl, _, _, rfl, rfl⟩
  refine ⟨⟨_, _, rfl, (chosen _ _ _ _ _ rfl).mp rfl⟩, taken, ?_, ?_⟩
  · obtain ⟨-, after, -, there, rejected, -⟩ := switched 2 _ rfl
    exact ⟨after, there, rejected _ _ taken⟩
  · refine (identity_applies_where_intended sizeBuild).2.2 ?_
    rintro position computation type
      ⟨target, there, -, directive, dependencies, arguments, reduced, chosen⟩
    match position with
    | 0 =>
        cases there
        cases directive
    | 1 =>
        cases there
        cases directive
        cases reduced
        cases chosen
    | _ + 2 => cases there

end Build

end ProjectionPlanner

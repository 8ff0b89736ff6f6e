import ProjectionPlanner.Proofs.Build.Verdict
import ProjectionPlanner.Proofs.Search.NearMisses

/-! # Why a value is not transformed

A transformation is named by its reference alone and has to be stateless. When no stateless method
fits, a second search tells a method that needs an instance from one that is missing altogether.
This second search does not ask whether an instance can be had, so that it finds methods which no
other search would take. Here both searches are put together: the stage ends in one of five ways,
and each of them is described by what the registry declares.
-/

namespace ProjectionPlanner

/-- The filter that takes the methods called in this way, and no others. -/
def Receiver.only : Receiver → ReceiverFilter
  | .static => .statelessOnly
  | .needsInstance => .instanceOnly

theorem Receiver.admits_only {receiver called : Receiver} {mode : InvocationMode} :
    receiver.only.Admits mode called ↔ called = receiver := by
  constructor
  · intro admitted
    cases receiver <;> cases admitted <;> rfl
  · rintro rfl
    cases called with
    | static => exact .statelessOnly
    | needsInstance => exact .instanceOnly

theorem ResolvedMethod.ofEntry_of_static {provider : Provider} {method : MethodSignature}
    (static : method.receiver = .static) :
    ofEntry provider method = ⟨provider.id, method, .stateless⟩ := by
  simp [ofEntry, Invocation.ofMethod, MethodSignature.isStateless, static]

namespace Build

/-- At this place, within reach of the reference, a method stands that could transform the input:
    it has the name that the reference sets, takes the input and nothing else, and returns what fits
    the target field. How it is called does not matter yet. -/
structure TransformsAt (build : Build) (target : TargetField) (ref : MethodRef) (input : ValueType)
    (i j : Nat) (provider : Provider) (method : MethodSignature) : Prop where
  listed : build.registry.providers[i]? = some provider
  inScope : ∀ id, ref.provider = some id → provider.id = id ∧
    ∀ earlier ∈ build.registry.providers.take i, earlier.id ≠ id
  declared : provider.methods[j]? = some method
  named : ref.name = some method.name
  proper : method.name ≠ ""
  params : method.params = [input]
  returns : method.returns.isAssignableTo build.settings.numericWidening target.type = true

/-- Of the methods that could transform the input and are called in this way, the one here is
    the first. -/
structure FirstAt (build : Build) (target : TargetField) (ref : MethodRef) (input : ValueType)
    (receiver : Receiver) (i j : Nat) (provider : Provider) (method : MethodSignature) : Prop
    extends build.TransformsAt target ref input i j provider method where
  called : method.receiver = receiver
  least : ∀ {i' j' : Nat} {other : Provider} {signature : MethodSignature},
    build.TransformsAt target ref input i' j' other signature → signature.receiver = receiver →
      i < i' ∨ i = i' ∧ j ≤ j'

/-- No static method could transform the input. -/
def NoneStatic (build : Build) (target : TargetField) (ref : MethodRef) (input : ValueType) :
    Prop :=
  ∀ i j provider method,
    build.TransformsAt target ref input i j provider method → method.receiver ≠ .static

/-- How the stage can end. -/
inductive TransformEnds (build : Build) (target : TargetField) (ref : MethodRef)
    (input : ValueType) : Except Rejection ResolvedMethod → Prop where
  /-- The reference sets no name. Whether its provider is known does not matter then. -/
  | nameless (unset : ref.name = none ∨ ref.name = some "") :
      TransformEnds build target ref input (.error (.single .transformationNameRequired))
  | unregistered {name id : String} (named : ref.name = some name) (proper : name ≠ "")
      (restricted : ref.provider = some id)
      (unknown : ∀ provider ∈ build.registry.providers, provider.id ≠ id) :
      TransformEnds build target ref input
        (.error (.single (.method
          (.providerNotRegistered id (build.registry.providers.map (·.id))))))
  /-- Methods that need an instance may stand before this one. -/
  | found {i j : Nat} {provider : Provider} {method : MethodSignature}
      (first : build.FirstAt target ref input .static i j provider method) :
      TransformEnds build target ref input (.ok ⟨provider.id, method, .stateless⟩)
  /-- Nothing is asked of the mode of the provider. -/
  | needsInstance {i j : Nat} {provider : Provider} {method : MethodSignature}
      (noneStatic : build.NoneStatic target ref input)
      (first : build.FirstAt target ref input .needsInstance i j provider method) :
      TransformEnds build target ref input
        (.error (.single (.transformationMustBeStateless provider.id method.name)))
  | notFound {name : String} {searched : List String} {nearMisses : List NearMiss}
      (named : ref.name = some name) (proper : name ≠ "")
      (known : ∀ id, ref.provider = some id →
        ∃ provider ∈ build.registry.providers, provider.id = id)
      (nowhere : ∀ i j provider method,
        ¬ build.TransformsAt target ref input i j provider method)
      (missed : (build.registry.search (build.transformQuery target ref input)).result =
        .error (.notFound ⟨name, [input], .assignableTo target.type⟩ searched nearMisses)) :
      TransformEnds build target ref input
        (.error (.single (.method
          (.notFound ⟨name, [input], .assignableTo target.type⟩ searched nearMisses))))

variable {build : Build} {target : TargetField} {ref : MethodRef} {input : ValueType}
  {receiver : Receiver} {i j : Nat} {provider : Provider} {method : MethodSignature}

/-! ## The two searches -/

theorem name?_transformQuery (build : Build) (target : TargetField) (ref : MethodRef)
    (input : ValueType) : (build.transformQuery target ref input).name? = ref.name? := by
  simp [MethodQuery.name?, transformQuery]

/-- The search for methods that are called in one way: the first search for static ones, the second
    for the others. -/
def transformQueryFor (build : Build) (target : TargetField) (ref : MethodRef) (input : ValueType)
    (receiver : Receiver) : MethodQuery :=
  { build.transformQuery target ref input with receivers := receiver.only }

theorem wants_transformQueryFor {name : String} :
    (build.transformQueryFor target ref input receiver).Wants name ↔
      ref.name = some name ∧ name ≠ "" := by
  have sameName : (build.transformQueryFor target ref input receiver).name? = ref.name? :=
    build.name?_transformQuery target ref input
  rw [MethodQuery.wants_iff, sameName, MethodRef.name?_eq_some_iff]

theorem restrictedTo_transformQueryFor {id : String} :
    (build.transformQueryFor target ref input receiver).RestrictedTo id ↔
      ref.provider = some id := by
  rw [MethodQuery.restrictedTo_iff]
  rfl

theorem stands_transformQueryFor :
    build.registry.Stands (build.transformQueryFor target ref input receiver) i j provider method ↔
      build.TransformsAt target ref input i j provider method ∧ method.receiver = receiver := by
  constructor
  · intro stands
    obtain ⟨named, proper⟩ := wants_transformQueryFor.mp stands.wanted
    exact
      ⟨{ listed := stands.listed
         inScope := fun id restricted =>
          stands.inScope id (restrictedTo_transformQueryFor.mpr restricted)
         declared := stands.declared
         named := named
         proper := proper
         params := stands.params
         returns := stands.returns },
        Receiver.admits_only.mp stands.receiver⟩
  · rintro ⟨fits, called⟩
    exact
      { listed := fits.listed
        inScope := fun id restricted =>
          fits.inScope id (restrictedTo_transformQueryFor.mp restricted)
        declared := fits.declared
        wanted := wants_transformQueryFor.mpr ⟨fits.named, fits.proper⟩
        params := fits.params
        returns := fits.returns
        receiver := Receiver.admits_only.mpr called }

theorem first_transformQueryFor :
    build.registry.First (build.transformQueryFor target ref input receiver) i j provider method ↔
      build.FirstAt target ref input receiver i j provider method := by
  constructor
  · intro first
    obtain ⟨fits, called⟩ := stands_transformQueryFor.mp first.toStands
    exact { fits with
      called := called
      least := fun rival sameCall => first.least (stands_transformQueryFor.mpr ⟨rival, sameCall⟩) }
  · intro first
    exact
      { stands_transformQueryFor.mpr ⟨first.toTransformsAt, first.called⟩ with
        least := fun rival =>
          have ⟨fits, called⟩ := stands_transformQueryFor.mp rival
          first.least fits called }

theorem served_transformQueryFor (receiver : Receiver) :
    build.Served (build.transformQueryFor target ref input receiver) ↔
      ∃ i j provider method, build.TransformsAt target ref input i j provider method ∧
        method.receiver = receiver := by
  rw [served_iff, Registry.exists_ok_iff_stands]
  simp only [stands_transformQueryFor]

theorem search_transformQueryFor_eq_ok_iff (receiver : Receiver) {found : ResolvedMethod} :
    (build.registry.search (build.transformQueryFor target ref input receiver)).result =
        .ok found ↔
      ∃ i j provider method, build.FirstAt target ref input receiver i j provider method ∧
        found = .ofEntry provider method := by
  rw [Registry.search_eq_ok_iff_first]
  simp only [first_transformQueryFor]

/-! ## Five endings -/

theorem not_served_transformQuery_iff :
    ¬ build.Served (build.transformQuery target ref input) ↔
      build.NoneStatic target ref input := by
  have served : build.Served (build.transformQuery target ref input) ↔
      ∃ i j provider method, build.TransformsAt target ref input i j provider method ∧
        method.receiver = .static := served_transformQueryFor .static
  rw [served, NoneStatic]
  push Not
  rfl

theorem TransformEnds.of_fault {error : PlanErrorKind}
    (missing : ¬ build.Served (build.transformQuery target ref input))
    (fault : build.TransformFault (build.transformQuery target ref input) error) :
    build.TransformEnds target ref input (.error (.single error)) := by
  have noneStatic := not_served_transformQuery_iff.mp missing
  cases fault with
  | unnamed nameless =>
      rw [name?_transformQuery] at nameless
      exact .nameless (MethodRef.name?_eq_none_iff.mp nameless)
  | unregistered named restricted unknown =>
      rw [name?_transformQuery] at named
      obtain ⟨named, proper⟩ := MethodRef.name?_eq_some_iff.mp named
      exact .unregistered named proper restricted (Registry.get?_eq_none_iff.mp unknown)
  | needsInstance found =>
      obtain ⟨i, j, provider, method, first, rfl⟩ :=
        (search_transformQueryFor_eq_ok_iff .needsInstance).mp found
      exact .needsInstance noneStatic first
  | notFound noInstance missed =>
      obtain ⟨name, scope, named, reachable, -, rfl, -, -⟩ :=
        Registry.search_eq_notFound_iff.mp missed
      rw [name?_transformQuery] at named
      obtain ⟨named, proper⟩ := MethodRef.name?_eq_some_iff.mp named
      have known := Registry.knows_of_scope reachable
      refine .notFound named proper
        (fun id restricted => known id (MethodQuery.restrictedTo_iff.mpr restricted)) ?_ missed
      intro i j provider method fits
      cases called : method.receiver with
      | static => exact noneStatic i j provider method fits called
      | needsInstance =>
          exact noInstance ((served_transformQueryFor .needsInstance).mpr
            ⟨i, j, provider, method, fits, called⟩)

theorem ends_transformStep (build : Build) (target : TargetField) (ref : MethodRef)
    (input : ValueType) :
    build.TransformEnds target ref input (build.transformStep target ref input).result := by
  by_cases served : build.Served (build.transformQuery target ref input)
  · obtain ⟨found, success⟩ := served_iff.mp served
    rw [transformStep_eq_ok_iff.mpr success]
    obtain ⟨i, j, provider, method, first, rfl⟩ :=
      (search_transformQueryFor_eq_ok_iff .static).mp success
    rw [ResolvedMethod.ofEntry_of_static first.called]
    exact .found first
  · obtain ⟨error, fault⟩ := exists_fault served
    rw [transformStep_of_fault served fault]
    exact .of_fault served fault

theorem TransformEnds.result_eq {outcome : Except Rejection ResolvedMethod}
    (ends : build.TransformEnds target ref input outcome) :
    (build.transformStep target ref input).result = outcome := by
  cases ends with
  | nameless unset =>
      have noneStatic : build.NoneStatic target ref input := by
        intro i j provider method fits _
        rcases unset with unset | unset
        · cases unset.symm.trans fits.named
        · exact fits.proper (Option.some.inj (fits.named.symm.trans unset))
      refine transformStep_of_fault (not_served_transformQuery_iff.mpr noneStatic) (.unnamed ?_)
      rw [name?_transformQuery]
      exact MethodRef.name?_eq_none_iff.mpr unset
  | @unregistered name id named proper restricted unknown =>
      have noneStatic : build.NoneStatic target ref input := by
        intro i j provider method fits _
        exact unknown provider (List.mem_of_getElem? fits.listed) (fits.inScope id restricted).1
      have wanted : (build.transformQuery target ref input).name? = some name := by
        rw [name?_transformQuery]
        exact MethodRef.name?_eq_some_iff.mpr ⟨named, proper⟩
      exact transformStep_of_fault (not_served_transformQuery_iff.mpr noneStatic)
        (.unregistered wanted restricted (Registry.get?_eq_none_iff.mpr unknown))
  | @found i j provider method first =>
      have found := (search_transformQueryFor_eq_ok_iff .static).mpr
        ⟨i, j, provider, method, first, rfl⟩
      rw [ResolvedMethod.ofEntry_of_static first.called] at found
      exact transformStep_eq_ok_iff.mpr found
  | @needsInstance i j provider method noneStatic first =>
      have found := (search_transformQueryFor_eq_ok_iff .needsInstance).mpr
        ⟨i, j, provider, method, first, rfl⟩
      exact transformStep_of_fault (not_served_transformQuery_iff.mpr noneStatic)
        (.needsInstance found)
  | notFound named proper known nowhere missed =>
      have noneStatic : build.NoneStatic target ref input :=
        fun i j provider method fits _ => nowhere i j provider method fits
      refine transformStep_of_fault (not_served_transformQuery_iff.mpr noneStatic)
        (.notFound (fun served => ?_) missed)
      obtain ⟨i, j, provider, method, fits, -⟩ :=
        (served_transformQueryFor .needsInstance).mp served
      exact nowhere i j provider method fits

theorem exists_transformStep_eq_ok_iff :
    (∃ method, (build.transformStep target ref input).result = .ok method) ↔
      ∃ i j provider method, build.TransformsAt target ref input i j provider method ∧
        method.receiver = .static := by
  simp only [transformStep_eq_ok_iff]
  rw [← served_iff]
  exact served_transformQueryFor .static

theorem exists_mustBeStateless_iff :
    (∃ provider name, (build.transformStep target ref input).result =
        .error (.single (.transformationMustBeStateless provider name))) ↔
      build.NoneStatic target ref input ∧
        ∃ i j provider method, build.TransformsAt target ref input i j provider method ∧
          method.receiver = .needsInstance := by
  constructor
  · rintro ⟨provider, name, refused⟩
    have ends := build.ends_transformStep target ref input
    generalize (build.transformStep target ref input).result = outcome at ends refused
    cases ends with
    | needsInstance noneStatic first =>
        exact ⟨noneStatic, _, _, _, _, first.toTransformsAt, first.called⟩
    | found first => cases refused
    | nameless | unregistered | notFound => simp [Rejection.single] at refused
  · rintro ⟨noneStatic, fits⟩
    obtain ⟨method, found⟩ := served_iff.mp ((served_transformQueryFor .needsInstance).mpr fits)
    obtain ⟨i, j, provider, method, first, -⟩ :=
      (search_transformQueryFor_eq_ok_iff .needsInstance).mp found
    exact ⟨_, _, (TransformEnds.needsInstance noneStatic first).result_eq⟩

/-- The transformation in a plan needs no instance. -/
theorem static_of_result {plan : Plan} {name : String} {mapping : ComputedMapping}
    {found : ResolvedMethod} (made : build.result = .ok plan)
    (stored : plan.get? name = some (.computed mapping))
    (transforms : mapping.transform = some found) :
    found.signature.receiver = .static ∧ found.invocation = .stateless := by
  obtain ⟨target, -, -, resolves⟩ := exists_declared_of_get? made stored
  obtain ⟨computation, dependencies, step, transform, -, -, -, transformed, rfl⟩ :=
    resolves.exists_parts
  cases transforms
  rcases transform?_eq_ok_iff.mp transformed with ⟨-, none⟩ | ⟨ref, _, -, some, success⟩
  · cases none
  · cases some
    obtain ⟨i, j, provider, method, first, rfl⟩ :=
      (search_transformQueryFor_eq_ok_iff .static).mp success
    rw [ResolvedMethod.ofEntry_of_static first.called]
    exact ⟨first.called, rfl⟩

/-- The stage ends in exactly one of five ways. Whenever a static method could transform the input
    the first of these is found, and failing that the first method that needs an instance is
    named. So no plan that is made has a transformation that needs one. -/
theorem transformation_ends (build : Build) :
    (∀ target ref input,
      (∀ outcome, (build.transformStep target ref input).result = outcome ↔
        build.TransformEnds target ref input outcome) ∧
      ((∃ method, (build.transformStep target ref input).result = .ok method) ↔
        ∃ i j provider method, build.TransformsAt target ref input i j provider method ∧
          method.receiver = .static) ∧
      ((∃ provider name, (build.transformStep target ref input).result =
          .error (.single (.transformationMustBeStateless provider name))) ↔
        build.NoneStatic target ref input ∧
          ∃ i j provider method, build.TransformsAt target ref input i j provider method ∧
            method.receiver = .needsInstance)) ∧
    ∀ plan, build.result = .ok plan →
      ∀ name mapping method, plan.get? name = some (.computed mapping) →
        mapping.transform = some method →
          method.signature.receiver = .static ∧ method.invocation = .stateless := by
  constructor
  · intro target ref input
    refine ⟨fun outcome => ⟨?_, TransformEnds.result_eq⟩, exists_transformStep_eq_ok_iff,
      exists_mustBeStateless_iff⟩
    rintro rfl
    exact build.ends_transformStep target ref input
  · intro plan made name mapping method stored transforms
    exact static_of_result made stored transforms

/-- A provider without instances, whose only method needs one. -/
def strayFormats : Provider where
  id := "Stray"
  mode := .stateless
  methods := [⟨"format", [.scalar .decimal], .scalar .text, .needsInstance⟩]

/-- The small order with that provider before all others. -/
def strayBuild : Build :=
  { orderBuild with registry := ⟨strayFormats :: orderBuild.registry.providers⟩ }

/-- The small order with that provider alone. -/
def loneBuild : Build :=
  { orderBuild with registry := ⟨[strayFormats]⟩ }

/-- The method that needs an instance is passed over where another fits, and is named otherwise. -/
theorem strayBuild_transforms :
    strayBuild.TransformEnds ⟨"total", .scalar .text, .computed orderTotal⟩
        { name := some "format" } (.scalar .decimal)
        (.ok ⟨"Texts", ⟨"format", [.scalar .decimal], .scalar .text, .static⟩, .stateless⟩) ∧
      loneBuild.TransformEnds ⟨"total", .scalar .text, .computed orderTotal⟩
        { name := some "format" } (.scalar .decimal)
        (.error (.single (.transformationMustBeStateless "Stray" "format"))) ∧
      ∃ plan mapping method, strayBuild.result = .ok plan ∧
        plan.get? "total" = some (.computed mapping) ∧ mapping.transform = some method ∧
        method.signature.receiver = .static ∧ method.invocation = .stateless := by
  refine ⟨?_, ?_, ?_⟩
  · exact (((transformation_ends strayBuild).1 _ _ _).1 _).mp rfl
  · exact (((transformation_ends loneBuild).1 _ _ _).1 _).mp rfl
  · have made : strayBuild.result = .ok ⟨_, _, _, _⟩ := rfl
    exact ⟨_, _, _, made, rfl, rfl, (transformation_ends strayBuild).2 _ made "total" _ _ rfl rfl⟩

end Build

end ProjectionPlanner

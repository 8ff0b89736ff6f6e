import ProjectionPlanner.Proofs.Build.Log
import ProjectionPlanner.Proofs.Search.Precedence

/-! # Instances can be had where they are asked for

A plan says of every method how it is called, and of a method that needs an instance where the
instance comes from. Some providers have no instances, and yet there is a search that takes their
methods all the same: it finds out why a transformation is missing. Here every search of a build is
followed to the plan, and what the one search finds is shown not to get there.
-/

namespace ProjectionPlanner

/-- A computed field calls the method that computes it and the one that transforms it. Copies call
    nothing. -/
inductive FieldMapping.Calls : FieldMapping → ResolvedMethod → Prop where
  | computes {mapping : ComputedMapping} {method : ResolvedMethod}
      (step : mapping.compute = .invoke method) : Calls (.computed mapping) method
  | transforms {mapping : ComputedMapping} {method : ResolvedMethod}
      (step : mapping.transform = some method) : Calls (.computed mapping) method

theorem FieldMapping.Calls.exists_computed {mapping : FieldMapping} {method : ResolvedMethod}
    (calls : mapping.Calls method) :
    ∃ computed, mapping = .computed computed ∧
      (computed.compute = .invoke method ∨ computed.transform = some method) := by
  cases calls with
  | computes called => exact ⟨_, rfl, .inl called⟩
  | transforms called => exact ⟨_, rfl, .inr called⟩

/-- Some field of the plan calls the method. -/
def Plan.Calls (plan : Plan) (method : ResolvedMethod) : Prop :=
  ∃ name mapping, plan.get? name = some mapping ∧ mapping.Calls method

namespace Provider

/-- The method needs an instance, and the provider has none. An invocation that is made for such a
    method looks for the provider's type, where nothing is to be found. -/
def LacksInstanceFor (provider : Provider) (method : MethodSignature) : Prop :=
  method.receiver = .needsInstance ∧ provider.mode = .stateless

/-- The method is one of the provider, and it is called in the way that the provider allows. -/
structure Supplies (provider : Provider) (method : ResolvedMethod) : Prop where
  id : provider.id = method.provider
  declared : method.signature ∈ provider.methods
  stateless : method.invocation = .stateless ↔ method.signature.receiver = .static
  instances : method.signature.receiver = .needsInstance → provider.mode ≠ .stateless
  byType : method.signature.receiver = .needsInstance → provider.mode = .instanceByType →
    method.invocation = .instanceByType provider.id
  byName : method.signature.receiver = .needsInstance → ∀ key,
    provider.mode = .instanceByName key → method.invocation = .instanceByName key

variable {provider : Provider} {method : MethodSignature}

theorem supplies_ofEntry (declared : method ∈ provider.methods)
    (instances : ¬ provider.LacksInstanceFor method) :
    provider.Supplies (.ofEntry provider method) where
  id := rfl
  declared := declared
  stateless := by
    cases called : method.receiver with
    | static =>
        simp [ResolvedMethod.ofEntry, Invocation.ofMethod, MethodSignature.isStateless, called]
    | needsInstance =>
        cases mode : provider.mode <;>
          simp [ResolvedMethod.ofEntry, Invocation.ofMethod, MethodSignature.isStateless, called,
            mode]
  instances called mode := instances ⟨called, mode⟩
  byType called mode := by
    have called : method.receiver = .needsInstance := called
    simp [ResolvedMethod.ofEntry, Invocation.ofMethod, MethodSignature.isStateless, called, mode]
  byName called key mode := by
    have called : method.receiver = .needsInstance := called
    simp [ResolvedMethod.ofEntry, Invocation.ofMethod, MethodSignature.isStateless, called, mode]

end Provider

/-! ## Searches that go by instances -/

namespace Registry

variable {registry : Registry} {query : MethodQuery}

theorem mem_of_reaches {provider : Provider} (reached : registry.Reaches query provider) :
    provider ∈ registry.providers := by
  simp only [Reaches] at reached
  cases restriction : query.provider? with
  | none => rwa [restriction] at reached
  | some id =>
      rw [restriction] at reached
      exact List.mem_of_find?_eq_some reached

/-- Only the search for methods that need an instance takes them without asking for one. -/
theorem Serves.not_lacksInstance {provider : Provider} {method : MethodSignature}
    (asks : query.receivers ≠ .instanceOnly) (serves : registry.Serves query provider method) :
    ¬ provider.LacksInstanceFor method := by
  rintro ⟨called, mode⟩
  have admitted := ReceiverFilter.admits_iff.mp (MethodQuery.fits_iff.mp serves.fits).1
  rw [called, mode] at admitted
  generalize query.receivers = filter at asks admitted
  cases admitted with
  | invocable instances => exact instances rfl
  | instanceOnly => exact asks rfl

theorem supplies_of_search {found : ResolvedMethod} (asks : query.receivers ≠ .instanceOnly)
    (success : (registry.search query).result = .ok found) :
    ∃ provider ∈ registry.providers, provider.Supplies found := by
  obtain ⟨provider, method, serves, rfl⟩ := serves_of_search success
  exact ⟨provider, mem_of_reaches serves.reached,
    Provider.supplies_ofEntry serves.declared (serves.not_lacksInstance asks)⟩

end Registry

namespace Build

variable {build : Build} {target : TargetField} {computation : Computation}
  {dependencies : List ResolvedPath} {step : ComputeStep} {transform : Option ResolvedMethod}

/-- A computed field that is planned was searched for with one query for each of its methods. There
    was no second search for the transformation, since the first was successful. -/
theorem lookups_of_parts (directive : target.directive = .computed computation)
    (reduces : build.Reduces target computation dependencies)
    (computes : build.Computes target computation dependencies step)
    (transforms : (build.transform? target step.returns computation.transformedBy).result =
      .ok transform) :
    build.lookups target =
      build.computeQuery target computation (parameterTypes dependencies computation.reducers) ::
        (computation.transformedBy.map (build.transformQuery target · step.returns)).toList := by
  have arguments := arguments_eq_ok_iff.mpr ⟨reduces, rfl⟩
  have computed := computeStep_eq_ok_iff.mpr computes
  rw [parameterTypes] at computed ⊢
  simp only [lookups, directive, arguments, computed]
  rcases transform?_eq_ok_iff.mp transforms with ⟨last, -⟩ | ⟨ref, method, asked, -, found⟩
  · simp [last]
  · simp [asked, transformLookups, found]

/-- No search for a field that is planned passes over what it takes to get an instance. -/
theorem Resolves.receivers_of_mem_lookups {mapping : FieldMapping}
    (resolves : build.Resolves target mapping) {query : MethodQuery}
    (searched : query ∈ build.lookups target) : query.receivers ≠ .instanceOnly := by
  cases directive : target.directive with
  | implicit | explicit path => simp [lookups, directive] at searched
  | computed computation =>
      unfold Resolves run at resolves
      rw [directive] at resolves
      obtain ⟨dependencies, step, transform, reduces, computes, transforms, -⟩ :=
        computed_eq_ok_iff.mp resolves
      rw [lookups_of_parts directive reduces computes transforms, List.mem_cons] at searched
      rcases searched with rfl | later
      · exact nofun
      · obtain ⟨ref, -, rfl⟩ := Option.map_eq_some_iff.mp (Option.mem_toList.mp later)
        exact nofun

/-- What a planned field calls was found by one of the searches for the field. -/
theorem Resolves.exists_search_of_calls {mapping : FieldMapping} {method : ResolvedMethod}
    (resolves : build.Resolves target mapping) (calls : mapping.Calls method) :
    ∃ query ∈ build.lookups target, (build.registry.search query).result = .ok method := by
  obtain ⟨mapping, rfl, called⟩ := calls.exists_computed
  obtain ⟨computation, dependencies, step, transform, directive, reduces, computes, transforms,
    rfl⟩ := resolves.exists_parts
  rw [lookups_of_parts directive reduces computes transforms]
  rcases called with rfl | rfl
  · cases computes with
    | method found => exact ⟨_, List.mem_cons_self, found⟩
  · rcases transform?_eq_ok_iff.mp transforms with ⟨-, none⟩ | ⟨ref, _, asked, some, found⟩
    -- a field that is not transformed does not call the method
    · cases none
    · cases some
      exact ⟨_, by rw [asked]; exact .tail _ (.head _), found⟩

/-- Every method that a plan calls is supplied by a provider of the registry. On the way to a plan
    no search ever meets a method that it could take but whose provider has no instance for it. -/
theorem plan_calls_are_supplied {plan : Plan} (made : build.result = .ok plan) :
    (∀ method, plan.Calls method →
      ∃ provider ∈ build.registry.providers, provider.Supplies method) ∧
    ∀ target ∈ build.declaration.fields, ∀ query ∈ build.lookups target, ∀ provider method,
      build.registry.Serves query provider method → ¬ provider.LacksInstanceFor method := by
  constructor
  · rintro method ⟨name, mapping, stored, calls⟩
    obtain ⟨target, -, -, resolves⟩ := exists_declared_of_get? made stored
    obtain ⟨query, searched, found⟩ := resolves.exists_search_of_calls calls
    exact Registry.supplies_of_search (resolves.receivers_of_mem_lookups searched) found
  · intro target declared query searched provider method serves
    obtain ⟨mapping, -, resolves⟩ := exists_get?_of_result made declared
    exact serves.not_lacksInstance (resolves.receivers_of_mem_lookups searched)

/-- A provider without instances, whose only method needs one. -/
def draftFormats : Provider where
  id := "Drafts"
  mode := .stateless
  methods := [⟨"format", [.scalar .decimal], .scalar .text, .needsInstance⟩]

/-- The small order with that provider, and with one whose instances are known by a name. -/
def suppliedBuild : Build :=
  { orderBuild with
    registry := ⟨
      [{ id := "Counts",
         mode := .instanceByName "counts",
         methods := [⟨"getSize", [.scalar .int64], .scalar .int64, .needsInstance⟩] },
        draftFormats,
        { id := "Texts",
          mode := .stateless,
          methods := [⟨"format", [.scalar .decimal], .scalar .text, .static⟩] }]⟩ }

/-- The method that needs an instance gets it by name, and the one that could not get it is never
    up for the total, although it comes first. -/
theorem suppliedBuild_calls_are_supplied :
    ∃ plan sizes formats, suppliedBuild.result = .ok plan ∧
      plan.Calls sizes ∧ sizes.invocation = .instanceByName "counts" ∧
      (∃ provider ∈ suppliedBuild.registry.providers, provider.Supplies sizes) ∧
      plan.Calls formats ∧ formats.invocation = .stateless ∧
      (∃ provider ∈ suppliedBuild.registry.providers, provider.Supplies formats) ∧
      ∀ query ∈ suppliedBuild.lookups ⟨"total", .scalar .text, .computed orderTotal⟩,
        ∀ method, ¬ suppliedBuild.registry.Serves query draftFormats method := by
  have made : suppliedBuild.result = .ok ⟨_, _, _, _⟩ := rfl
  obtain ⟨supplied, neverLacks⟩ := plan_calls_are_supplied made
  have sizes := supplied _ ⟨"size", _, rfl, .computes rfl⟩
  have formats := supplied _ ⟨"total", _, rfl, .transforms rfl⟩
  refine ⟨_, _, _, made, ⟨"size", _, rfl, .computes rfl⟩, rfl, sizes,
    ⟨"total", _, rfl, .transforms rfl⟩, rfl, formats, ?_⟩
  intro query searched method serves
  have called : method.receiver = .needsInstance := by
    obtain rfl := List.mem_singleton.mp serves.declared
    rfl
  exact neverLacks _ (.tail _ (.tail _ (.head _))) query searched _ _ serves ⟨called, rfl⟩

end Build

end ProjectionPlanner

import ProjectionPlanner.Proofs.Build.Outcomes
import ProjectionPlanner.Proofs.Path.Walk

/-! # Reducers in mappings

A mapping lists its reducers apart from its dependencies, each with the position of the dependency
that it collapses. Here it is shown that what is found by position is what rank assigns: the
positions increase, so that no look-up is ambiguous, they are those of the dependencies that cross
collections, and the reducers are the declared ones, each used once.
-/

namespace ProjectionPlanner

/-- The reducers of the mapping stand at the dependencies that cross collections, by rank. -/
structure PairsByRank (computation : Computation) (mapping : ComputedMapping) : Prop where
  /-- A dependency that crosses no collection is an argument as it is. -/
  plain : ∀ position dependency, mapping.dependencies[position]? = some dependency →
    dependency.traversesCollection = false →
      mapping.reducerFor position = none ∧
        mapping.parameterTypes[position]? = some dependency.terminalType
  /-- Before any other as many reducers are taken as dependencies before it cross collections. -/
  crossing : ∀ position dependency, mapping.dependencies[position]? = some dependency →
    dependency.traversesCollection = true →
      ∃ reducer path type,
        computation.reducers[crossings (mapping.dependencies.take position)]? = some reducer ∧
        computation.dependsOn[position]? = some path ∧
        reducer.outputType dependency.terminalType = .ok type ∧
        mapping.reducerFor position = some ⟨position, path, reducer, type⟩ ∧
        mapping.parameterTypes[position]? = some type
  bound : ∀ position, position ∈ mapping.reducers.map (·.dependency) ↔
    ∃ dependency, mapping.dependencies[position]? = some dependency ∧
      dependency.traversesCollection = true
  increasing : (mapping.reducers.map (·.dependency)).Pairwise (· < ·)
  /-- Every declared reducer is used once, in order. -/
  used : mapping.reducers.map (·.reducer) = computation.reducers

/-- Where positions increase, what stands at a position is found there. -/
theorem ComputedMapping.reducerFor_eq_some_iff {mapping : ComputedMapping}
    (increasing : (mapping.reducers.map (·.dependency)).Pairwise (· < ·)) {position : Nat}
    {binding : ReducerBinding} :
    mapping.reducerFor position = some binding ↔
      binding ∈ mapping.reducers ∧ binding.dependency = position := by
  unfold reducerFor
  constructor
  · intro found
    have carries := List.find?_some found
    exact ⟨List.mem_of_find?_eq_some found, beq_iff_eq.mp carries⟩
  · rintro ⟨listed, rfl⟩
    exact find?_of_distinct_keys (increasing.imp Nat.ne_of_lt) listed

theorem ComputedMapping.reducerFor_eq_none_iff {mapping : ComputedMapping} {position : Nat} :
    mapping.reducerFor position = none ↔ position ∉ mapping.reducers.map (·.dependency) := by
  simp [reducerFor, List.find?_eq_none]

namespace Build

variable {build : Build} {target : TargetField} {computation : Computation}
  {dependencies : List ResolvedPath} {reducers : List Reducer}

/-! ## Arguments by position -/

theorem getElem?_argumentsByRank (dependencies : List ResolvedPath) (reducers : List Reducer)
    (position : Nat) :
    (argumentsByRank dependencies reducers)[position]? =
      dependencies[position]?.map fun dependency =>
        argumentOf position dependency (reducerAt dependencies reducers position) :=
  List.getElem?_mapIdx

theorem reducer_binding_argumentOf (position : Nat) (dependency : ResolvedPath)
    (reducer : Option Reducer) :
    (argumentOf position dependency reducer).binding.map (·.reducer) = reducer := by
  cases reducer <;> rfl

theorem binding_argumentOf_eq_some_iff {position : Nat} {dependency : ResolvedPath}
    {taken : Option Reducer} {binding : ReducerBinding} :
    (argumentOf position dependency taken).binding = some binding ↔
      ∃ reducer, taken = some reducer ∧
        binding = ⟨position, dependency.path, reducer,
          reducer.typeOver dependency.terminalType⟩ := by
  cases taken <;> simp [argumentOf, eq_comm]

theorem dependency_of_binding {position : Nat} {argument : Argument} {binding : ReducerBinding}
    (there : (argumentsByRank dependencies reducers)[position]? = some argument)
    (binds : argument.binding = some binding) : binding.dependency = position := by
  rw [getElem?_argumentsByRank, Option.map_eq_some_iff] at there
  obtain ⟨dependency, -, rfl⟩ := there
  obtain ⟨reducer, -, rfl⟩ := binding_argumentOf_eq_some_iff.mp binds
  rfl

/-- The bindings of all arguments, in order. -/
def bindingsByRank (dependencies : List ResolvedPath) (reducers : List Reducer) :
    List ReducerBinding :=
  (argumentsByRank dependencies reducers).filterMap (·.binding)

theorem mem_bindingsByRank {binding : ReducerBinding} :
    binding ∈ bindingsByRank dependencies reducers ↔
      ∃ position dependency reducer, dependencies[position]? = some dependency ∧
        reducerAt dependencies reducers position = some reducer ∧
        binding = ⟨position, dependency.path, reducer,
          reducer.typeOver dependency.terminalType⟩ := by
  rw [bindingsByRank, List.mem_filterMap]
  constructor
  · rintro ⟨argument, listed, binds⟩
    obtain ⟨position, there⟩ := List.mem_iff_getElem?.mp listed
    rw [getElem?_argumentsByRank, Option.map_eq_some_iff] at there
    obtain ⟨dependency, depends, rfl⟩ := there
    obtain ⟨reducer, taken, rfl⟩ := binding_argumentOf_eq_some_iff.mp binds
    exact ⟨position, dependency, reducer, depends, taken, rfl⟩
  · rintro ⟨position, dependency, reducer, depends, taken, rfl⟩
    refine ⟨argumentOf position dependency (some reducer), ?_, rfl⟩
    refine List.mem_iff_getElem?.mpr ⟨position, ?_⟩
    rw [getElem?_argumentsByRank, depends, taken]
    rfl

theorem increasing_bindingsByRank (dependencies : List ResolvedPath) (reducers : List Reducer) :
    ((bindingsByRank dependencies reducers).map (·.dependency)).Pairwise (· < ·) := by
  rw [List.pairwise_map, bindingsByRank, List.pairwise_filterMap, List.pairwise_iff_getElem]
  intro first second firstInside secondInside before left leftBinds right rightBinds
  rw [dependency_of_binding (List.getElem?_eq_getElem firstInside) leftBinds,
    dependency_of_binding (List.getElem?_eq_getElem secondInside) rightBinds]
  exact before

theorem map_reducer_bindingsByRank (paired : crossings dependencies = reducers.length) :
    (bindingsByRank dependencies reducers).map (·.reducer) = reducers := by
  rw [bindingsByRank, List.map_filterMap, argumentsByRank]
  conv_rhs => rw [← reducersByRank_eq paired, List.reduceOption]
  simp only [List.mapIdx_eq_zipIdx_map, List.filterMap_map]
  congr 1
  funext pair
  exact reducer_binding_argumentOf _ _ _

/-! ## Accepted fields -/

theorem Reads.getElem?_eq_path {paths : List String} (read : build.Reads paths dependencies)
    {position : Nat} {dependency : ResolvedPath}
    (there : dependencies[position]? = some dependency) :
    paths[position]? = some dependency.path := by
  induction read generalizing position with
  | nil => cases there
  | cons leads _ ih =>
      cases position with
      | zero =>
          cases there
          rw [List.getElem?_cons_zero, SourceType.path_of_resolve leads]
      | succ position => exact ih there

theorem getElem?_parameterTypes {position : Nat} {dependency : ResolvedPath}
    (there : dependencies[position]? = some dependency) (reducers : List Reducer) :
    (parameterTypes dependencies reducers)[position]? =
      some (argumentOf position dependency (reducerAt dependencies reducers position)).type := by
  rw [parameterTypes, List.getElem?_map, getElem?_argumentsByRank, there]
  rfl

theorem mem_map_dependency_bindingsByRank (enough : crossings dependencies ≤ reducers.length)
    (position : Nat) :
    position ∈ (bindingsByRank dependencies reducers).map (·.dependency) ↔
      ∃ dependency, dependencies[position]? = some dependency ∧
        dependency.traversesCollection = true := by
  rw [List.mem_map]
  constructor
  · rintro ⟨binding, listed, rfl⟩
    obtain ⟨position, dependency, reducer, there, taken, rfl⟩ := mem_bindingsByRank.mp listed
    refine ⟨dependency, there, ?_⟩
    cases crosses : dependency.traversesCollection with
    | true => rfl
    | false =>
        rw [reducerAt_of_plain there crosses] at taken
        cases taken
  · rintro ⟨dependency, there, crosses⟩
    obtain ⟨reducer, -, taken⟩ := exists_reducerAt_of_crossing enough there crosses
    exact ⟨_, mem_bindingsByRank.mpr ⟨position, dependency, reducer, there, taken, rfl⟩, rfl⟩

/-- The first four stages pair by rank, whatever is computed afterwards. -/
theorem Reduces.pairsByRank (reduces : build.Reduces target computation dependencies)
    (step : ComputeStep) (transform : Option ResolvedMethod) :
    PairsByRank computation (mappingOf computation dependencies step transform) := by
  have enough := Nat.le_of_eq reduces.paired
  have increasing := increasing_bindingsByRank dependencies computation.reducers
  have bound := mem_map_dependency_bindingsByRank enough
  refine ⟨?_, ?_, bound, increasing, map_reducer_bindingsByRank reduces.paired⟩
  · intro position dependency (there : dependencies[position]? = some dependency) plain
    have unbound : position ∉
        (bindingsByRank dependencies computation.reducers).map (·.dependency) := by
      rw [bound]
      rintro ⟨other, otherThere, crosses⟩
      cases there.symm.trans otherThere
      rw [plain] at crosses
      cases crosses
    have type := getElem?_parameterTypes there computation.reducers
    rw [reducerAt_of_plain there plain] at type
    exact ⟨ComputedMapping.reducerFor_eq_none_iff.mpr unbound, type⟩
  · intro position dependency (there : dependencies[position]? = some dependency) crosses
    obtain ⟨reducer, ranked, taken⟩ := exists_reducerAt_of_crossing enough there crosses
    have fits := supports_of_reducerAt enough reduces.supported there taken
    have listed := mem_bindingsByRank.mpr ⟨position, dependency, reducer, there, taken, rfl⟩
    have found : (mappingOf computation dependencies step transform).reducerFor position = some _ :=
      (ComputedMapping.reducerFor_eq_some_iff increasing).mpr ⟨listed, rfl⟩
    have type := getElem?_parameterTypes there computation.reducers
    rw [taken] at type
    exact ⟨reducer, dependency.path, reducer.typeOver dependency.terminalType, ranked,
      reduces.read.getElem?_eq_path there, Reducer.outputType_of_supports fits, found, type⟩

theorem Resolves.pairsByRank {mapping : ComputedMapping}
    (directive : target.directive = .computed computation)
    (resolves : build.Resolves target (.computed mapping)) : PairsByRank computation mapping := by
  obtain ⟨_, dependencies, step, transform, sameDirective, reduces, -, -, rfl⟩ :=
    resolves.exists_parts
  cases directive.symm.trans sameDirective
  exact reduces.pairsByRank step transform

/-- Reducers pair with the dependencies that cross collections by rank, in every computed field
    that is accepted by itself, and so in those of every plan that is made. -/
theorem reducers_pair_by_rank (build : Build) :
    (∀ target computation mapping, target.directive = .computed computation →
      build.Resolves target (.computed mapping) → PairsByRank computation mapping) ∧
    (∀ plan, build.result = .ok plan → ∀ target ∈ build.declaration.fields,
      ∀ computation, target.directive = .computed computation →
        ∃ mapping, plan.get? target.name = some (.computed mapping) ∧
          PairsByRank computation mapping) := by
  constructor
  · intro target computation mapping directive resolves
    exact resolves.pairsByRank directive
  · intro plan made target declared computation directive
    obtain ⟨mapping, stored, resolves⟩ := exists_computed_of_result made declared directive
    exact ⟨mapping, stored, resolves.pairsByRank directive⟩

/-- Of the four dependencies the second and the last cross a collection. -/
def interleaved : Computation where
  dependsOn := ["id", "items.price", "id", "items.price"]
  reducers := [.sum, .count]

/-- A build of one field, which a method computes from all four. -/
def interleavedBuild : Build where
  source := orderBuild.source
  declaration := ⟨"Digest", [⟨"digest", .scalar .text, .computed interleaved⟩]⟩
  registry := ⟨
    [{ id := "Digests",
       methods := [⟨"getDigest",
        [.scalar .int64, .scalar .decimal, .scalar .int64, .scalar .int64], .scalar .text,
        .static⟩] }]⟩

theorem interleavedBuild_pairs_by_rank :
    (∃ mapping, interleavedBuild.Resolves ⟨"digest", .scalar .text, .computed interleaved⟩
        (.computed mapping) ∧ PairsByRank interleaved mapping) ∧
      ∃ plan mapping, interleavedBuild.result = .ok plan ∧
        plan.get? "digest" = some (.computed mapping) ∧ PairsByRank interleaved mapping ∧
        mapping.reducerFor 2 = none ∧
        mapping.reducerFor 3 = some ⟨3, "items.price", .count, .scalar .int64⟩ := by
  obtain ⟨resolved, planned⟩ := reducers_pair_by_rank interleavedBuild
  constructor
  · exact ⟨_, rfl, resolved ⟨"digest", .scalar .text, .computed interleaved⟩ _ _ rfl rfl⟩
  · have made : interleavedBuild.result = .ok ⟨_, _, _, _⟩ := rfl
    obtain ⟨mapping, stored, pairs⟩ := planned _ made _ (.head _) interleaved rfl
    refine ⟨_, mapping, made, stored, pairs, ?_, ?_⟩ <;> cases stored <;> rfl

end Build

end ProjectionPlanner

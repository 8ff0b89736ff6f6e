import Mathlib.Data.List.Forall2
import ProjectionPlanner.Proofs.Build.Reduction
import ProjectionPlanner.Proofs.Search.Offers

/-! # The stages of a target field

What each stage accepts, said once for every stage: which values come out of it, and under which
condition. Statements about whole fields, plans and builds are put together from these. What a
stage reports when it fails is said here only for the stages that gather several diagnostics.
-/

namespace ProjectionPlanner

/-- The diagnostics of a step, none if it succeeds. -/
def reasons {α : Type} : Except Rejection α → List PlanErrorKind
  | .ok _ => []
  | .error rejection => rejection.toList

theorem reasons_eq_nil_iff {α : Type} {result : Except Rejection α} :
    reasons result = [] ↔ ∃ value, result = .ok value := by
  cases result <;> simp [reasons, Rejection.toList]

theorem reasons_whenNone {α : Type} (errors : List PlanErrorKind) (value : α) :
    reasons (Rejection.whenNone errors value) = errors := by
  cases errors <;> rfl

theorem whenNone_eq_ok_iff {α : Type} {errors : List PlanErrorKind} {value result : α} :
    Rejection.whenNone errors value = .ok result ↔ errors = [] ∧ value = result := by
  cases errors <;> simp [Rejection.whenNone]

theorem bind_eq_ok_iff {ε α β : Type} {first : Except ε α} {next : α → Except ε β} {result : β} :
    first.bind next = .ok result ↔ ∃ value, first = .ok value ∧ next value = .ok result := by
  cases first <;> simp [Except.bind]

theorem map_eq_ok_iff {ε α β : Type} {first : Except ε α} {image : α → β} {result : β} :
    first.map image = .ok result ↔ ∃ value, first = .ok value ∧ image value = result := by
  cases first <;> simp [Except.map]

theorem exists_right_of_mem {α β : Type} {related : α → β → Prop} {left : List α} {right : List β}
    (all : List.Forall₂ related left right) {item : α} (member : item ∈ left) :
    ∃ other ∈ right, related item other := by
  induction all with
  | nil => cases member
  | cons here _ ih =>
      rcases List.mem_cons.mp member with rfl | later
      · exact ⟨_, List.mem_cons_self, here⟩
      · obtain ⟨other, listed, there⟩ := ih later
        exact ⟨other, List.mem_cons_of_mem _ listed, there⟩

theorem exists_left_of_mem {α β : Type} {related : α → β → Prop} {left : List α} {right : List β}
    (all : List.Forall₂ related left right) {other : β} (member : other ∈ right) :
    ∃ item ∈ left, related item other :=
  exists_right_of_mem all.flip member

/-- The text of a path before its first dot. -/
def Path.lead (path : String) : String :=
  String.ofList (path.toList.takeWhile (· != '.'))

theorem Path.root_eq_lead (path : String) : Path.root path = Path.lead path := by
  simp only [root, segments, Text.pieces, List.headD_eq_head?_getD, List.head?_map, Text.head?_cut]
  rfl

namespace Build

variable {build : Build} {target : TargetField} {computation : Computation}

/-! ## Copied fields -/

theorem checkProjected_eq_ok_iff {found : ValueType} :
    build.checkProjected target found = .ok () ↔
      (build.settings.checkProjectedTypes = true →
        found.isAssignableTo build.settings.numericWidening target.type = true) := by
  unfold checkProjected
  split
  · rename_i refused
    rw [Bool.and_eq_true, Bool.not_eq_true'] at refused
    simp [refused.1, refused.2]
  · rename_i accepted
    simpa using accepted

theorem implicit_eq_ok_iff {mapping : FieldMapping} :
    build.implicit target = .ok mapping ↔
      ∃ field, build.source.field? target.name = some field ∧
        build.checkProjected target field.kind.valueType = .ok () ∧
        mapping = .implicit field.name field.kind.valueType field.nullable := by
  unfold implicit
  cases build.source.field? target.name with
  | none => simp
  | some field =>
      constructor
      · intro copied
        obtain ⟨_, fits, rfl⟩ := map_eq_ok_iff.mp copied
        exact ⟨field, rfl, fits, rfl⟩
      · intro copied
        obtain ⟨_, found, fits, rfl⟩ := copied
        cases found
        exact map_eq_ok_iff.mpr ⟨(), fits, rfl⟩

theorem explicit_eq_ok_iff {path : String} {mapping : FieldMapping} :
    build.explicit target path = .ok mapping ↔
      ∃ resolved, build.source.resolve path = .ok resolved ∧
        build.checkProjected target resolved.valueType = .ok () ∧
        mapping = .explicit resolved := by
  unfold explicit
  cases build.source.resolve path with
  | error error => simp
  | ok resolved =>
      constructor
      · intro copied
        obtain ⟨_, fits, rfl⟩ := map_eq_ok_iff.mp copied
        exact ⟨resolved, rfl, fits, rfl⟩
      · intro copied
        obtain ⟨_, leads, fits, rfl⟩ := copied
        cases leads
        exact map_eq_ok_iff.mpr ⟨(), fits, rfl⟩

/-! ## Dependencies and their arguments -/

/-- The dependency starts at another field of the target record, and that field is computed. -/
def StartsAtSibling (build : Build) (target : TargetField) (dependency : String) : Prop :=
  Path.lead dependency ≠ target.name ∧
    ∃ sibling ∈ build.declaration.fields,
      sibling.name = Path.lead dependency ∧ sibling.directive.isComputed = true

instance (build : Build) (target : TargetField) (dependency : String) :
    Decidable (build.StartsAtSibling target dependency) :=
  inferInstanceAs (Decidable (_ ∧ _))

/-- One diagnostic for each dependency that starts at a computed sibling, in order. -/
def circularDependencies (build : Build) (target : TargetField) (dependsOn : List String) :
    List PlanErrorKind :=
  (dependsOn.filter fun dependency => build.StartsAtSibling target dependency).map
    fun dependency => .circularDependency dependency (Path.lead dependency)

theorem startsAtSibling_iff {dependency : String} :
    build.StartsAtSibling target dependency ↔
      (Path.root dependency != target.name &&
        build.declaration.isComputed (Path.root dependency)) = true := by
  unfold StartsAtSibling Declaration.isComputed
  rw [Path.root_eq_lead]
  simp only [bne_iff_ne, Bool.and_eq_true, List.any_eq_true, beq_iff_eq]

theorem circularity?_eq (dependency : String) :
    build.circularity? target dependency =
      if build.StartsAtSibling target dependency then
        some (.circularDependency dependency (Path.lead dependency))
      else none := by
  simp only [circularity?]
  by_cases starts : build.StartsAtSibling target dependency
  · rw [if_pos starts, if_pos (startsAtSibling_iff.mp starts), Path.root_eq_lead]
  · rw [if_neg starts, if_neg (starts ∘ startsAtSibling_iff.mpr)]

/-- The first stage is passed when no dependency starts at a computed sibling. -/
theorem checkRoots_eq (dependsOn : List String) :
    build.checkRoots target dependsOn =
      Rejection.whenNone (build.circularDependencies target dependsOn) () := by
  have same : dependsOn.filterMap (build.circularity? target) =
      build.circularDependencies target dependsOn := by
    unfold circularDependencies
    induction dependsOn with
    | nil => rfl
    | cons dependency rest ih =>
        rw [List.filterMap_cons, circularity?_eq, ih, List.filter_cons]
        by_cases starts : build.StartsAtSibling target dependency <;> simp [starts]
  rw [checkRoots, same]

/-- The diagnostics of the second stage. -/
def pathErrors (build : Build) (dependsOn : List String) : List PlanErrorKind :=
  dependsOn.filterMap build.pathError?

/-- The paths lead to these ends, one for one. -/
def Reads (build : Build) (paths : List String) (dependencies : List ResolvedPath) : Prop :=
  List.Forall₂ (fun path resolved => build.source.resolve path = .ok resolved) paths dependencies

theorem pathError?_eq_none_iff {path : String} :
    build.pathError? path = none ↔ ∃ resolved, build.source.resolve path = .ok resolved := by
  unfold pathError?
  cases build.source.resolve path <;> simp

/-- Paths of which none is refused are read one for one. -/
theorem reads_of_pathErrors_eq_nil {paths : List String} (clean : build.pathErrors paths = []) :
    build.Reads paths (paths.filterMap fun path => (build.source.resolve path).toOption) := by
  induction paths with
  | nil => exact .nil
  | cons path rest ih =>
      have clean := List.filterMap_eq_nil_iff.mp clean
      obtain ⟨resolved, leads⟩ := pathError?_eq_none_iff.mp (clean path List.mem_cons_self)
      have restClean : build.pathErrors rest = [] :=
        List.filterMap_eq_nil_iff.mpr fun other later => clean other (List.mem_cons_of_mem _ later)
      simp only [List.filterMap_cons, leads, Except.toOption]
      exact .cons leads (ih restClean)

theorem Reads.pathErrors_eq_nil {paths : List String} {dependencies : List ResolvedPath}
    (read : build.Reads paths dependencies) : build.pathErrors paths = [] := by
  induction read with
  | nil => rfl
  | cons leads _ ih =>
      rw [pathErrors, List.filterMap_cons, pathError?_eq_none_iff.mpr ⟨_, leads⟩]
      exact ih

theorem Reads.unique {paths : List String} {left right : List ResolvedPath}
    (leftRead : build.Reads paths left) (rightRead : build.Reads paths right) : left = right :=
  List.right_unique_forall₂'
    (fun _ _ _ first second => Except.ok.inj (first.symm.trans second)) leftRead rightRead

theorem resolveDependencies_eq_ok_iff {paths : List String} {dependencies : List ResolvedPath} :
    build.resolveDependencies paths = .ok dependencies ↔ build.Reads paths dependencies := by
  rw [resolveDependencies, whenNone_eq_ok_iff]
  constructor
  · intro accepted
    obtain ⟨clean, rfl⟩ := accepted
    exact reads_of_pathErrors_eq_nil clean
  · intro read
    have clean := read.pathErrors_eq_nil
    exact ⟨clean, (reads_of_pathErrors_eq_nil clean).unique read⟩

/-- The arguments' types, each from the reducer at its own position. -/
def parameterTypes (dependencies : List ResolvedPath) (reducers : List Reducer) : List ValueType :=
  (argumentsByRank dependencies reducers).map (·.type)

theorem length_parameterTypes (dependencies : List ResolvedPath) (reducers : List Reducer) :
    (parameterTypes dependencies reducers).length = dependencies.length := by
  rw [parameterTypes, List.length_map, length_argumentsByRank]

theorem crossings_eq_length_filter (dependencies : List ResolvedPath) :
    crossings dependencies = (dependencies.filter (·.traversesCollection)).length :=
  List.countP_eq_length_filter

theorem filterMap_toOption_map_ok {α ε : Type} (values : List α) :
    (values.map (Except.ok (ε := ε))).filterMap Except.toOption = values := by
  induction values with
  | nil => rfl
  | cons value rest ih => simpa [Except.toOption] using ih

theorem reduceDependencies_of_mismatch {dependencies : List ResolvedPath} {reducers : List Reducer}
    (mismatch : crossings dependencies ≠ reducers.length) :
    reduceDependencies dependencies reducers =
      .error (.single (.reducerCountMismatch (crossings dependencies) reducers.length)) := by
  rw [crossings_eq_length_filter] at mismatch ⊢
  simp [reduceDependencies, mismatch]

theorem reduceDependencies_of_paired {dependencies : List ResolvedPath} {reducers : List Reducer}
    (paired : crossings dependencies = reducers.length) :
    reduceDependencies dependencies reducers =
      Rejection.whenNone (unsupportedPairs dependencies reducers)
        ((bindReducers 0 dependencies reducers).filterMap Except.toOption) := by
  rw [← filterMap_argumentError?_bindReducers 0]
  rw [crossings_eq_length_filter] at paired
  simp [reduceDependencies, paired]

theorem reduceDependencies_eq_ok_iff {dependencies : List ResolvedPath} {reducers : List Reducer}
    {arguments : List Argument} :
    reduceDependencies dependencies reducers = .ok arguments ↔
      crossings dependencies = reducers.length ∧ unsupportedPairs dependencies reducers = [] ∧
        arguments = argumentsByRank dependencies reducers := by
  by_cases paired : crossings dependencies = reducers.length
  · rw [reduceDependencies_of_paired paired, whenNone_eq_ok_iff]
    constructor
    · intro accepted
      obtain ⟨supported, rfl⟩ := accepted
      refine ⟨paired, supported, ?_⟩
      rw [bindReducers_eq_argumentsByRank (Nat.le_of_eq paired) supported,
        filterMap_toOption_map_ok]
    · intro accepted
      obtain ⟨-, supported, rfl⟩ := accepted
      refine ⟨supported, ?_⟩
      rw [bindReducers_eq_argumentsByRank (Nat.le_of_eq paired) supported,
        filterMap_toOption_map_ok]
  · simp [reduceDependencies_of_mismatch paired, paired]

/-- The first four stages are passed with these dependencies. -/
structure Reduces (build : Build) (target : TargetField) (computation : Computation)
    (dependencies : List ResolvedPath) : Prop where
  roots : build.circularDependencies target computation.dependsOn = []
  read : build.Reads computation.dependsOn dependencies
  paired : crossings dependencies = computation.reducers.length
  supported : unsupportedPairs dependencies computation.reducers = []

theorem arguments_eq_ok_iff {dependencies : List ResolvedPath} {arguments : List Argument} :
    build.arguments target computation = .ok (dependencies, arguments) ↔
      build.Reduces target computation dependencies ∧
        arguments = argumentsByRank dependencies computation.reducers := by
  simp only [Build.arguments, bind_eq_ok_iff, map_eq_ok_iff, checkRoots_eq, whenNone_eq_ok_iff,
    resolveDependencies_eq_ok_iff, reduceDependencies_eq_ok_iff, Prod.mk.injEq]
  constructor
  · intro accepted
    obtain ⟨_, ⟨roots, -⟩, _, read, _, ⟨paired, supported, rfl⟩, rfl, rfl⟩ := accepted
    exact ⟨⟨roots, read, paired, supported⟩, rfl⟩
  · intro passed
    obtain ⟨reduces, rfl⟩ := passed
    exact ⟨(), ⟨reduces.roots, trivial⟩, dependencies, reduces.read, _,
      ⟨reduces.paired, reduces.supported, rfl⟩, rfl, rfl⟩

/-! ## Methods -/

/-- The registry has a method that serves the query. -/
def Served (build : Build) (query : MethodQuery) : Prop :=
  ∃ provider method, build.registry.Serves query provider method

theorem served_iff {query : MethodQuery} :
    build.Served query ↔ ∃ method, (build.registry.search query).result = .ok method :=
  Registry.exists_search_eq_ok_iff.symm

theorem not_served_iff {query : MethodQuery} :
    ¬ build.Served query ↔ ∃ error, (build.registry.search query).result = .error error := by
  rw [served_iff]
  cases (build.registry.search query).result <;> simp

/-- The single reduced argument, of this type, may stand in for a computing method. -/
structure PassesOn (build : Build) (target : TargetField) (computation : Computation)
    (dependencies : List ResolvedPath) (params : List ValueType) (type : ValueType) : Prop where
  allowed : build.settings.identityReduction = true
  unnamed : computation.override? = none
  single : ∃ dependency, dependencies = [dependency] ∧ dependency.traversesCollection = true
  argument : params = [type]
  fits : computation.transformedBy.isSome = true ∨
    type.isAssignableTo build.settings.numericWidening target.type = true

theorem identity?_eq_some_iff {dependencies : List ResolvedPath} {params : List ValueType}
    {step : ComputeStep} :
    build.identity? target computation dependencies params = some step ↔
      ∃ type, build.PassesOn target computation dependencies params type ∧
        step = .identity type := by
  unfold identity?
  split
  · rename_i dependency type
    simp only [Option.ite_none_right_eq_some, Bool.and_eq_true, Bool.or_eq_true,
      Option.isNone_iff_eq_none, Option.some.injEq]
    constructor
    · intro taken
      obtain ⟨⟨⟨⟨allowed, unnamed⟩, crosses⟩, fits⟩, rfl⟩ := taken
      exact ⟨type, ⟨allowed, unnamed, ⟨dependency, rfl, crosses⟩, rfl, fits⟩, rfl⟩
    · intro taken
      obtain ⟨_, ⟨allowed, unnamed, ⟨_, same, crosses⟩, argument, fits⟩, rfl⟩ := taken
      cases same
      cases argument
      exact ⟨⟨⟨⟨allowed, unnamed⟩, crosses⟩, fits⟩, rfl⟩
  · rename_i several
    constructor
    · intro none
      cases none
    · intro taken
      obtain ⟨type, passes, -⟩ := taken
      obtain ⟨dependency, rfl, -⟩ := passes.single
      exact absurd passes.argument (several dependency type rfl)

/-- Without a reference the conventional name is wanted. -/
theorem name?_computeQuery (build : Build) (target : TargetField)
    (unnamed : computation.override? = none) (params : List ValueType) :
    (build.computeQuery target computation params).name? =
      some (build.settings.methodName target.name) := by
  simp [MethodQuery.name?, computeQuery, unnamed]

/-- Without a reference all providers are searched. -/
theorem provider?_computeQuery (build : Build) (target : TargetField)
    (unnamed : computation.override? = none) (params : List ValueType) :
    (build.computeQuery target computation params).provider? = none := by
  simp [MethodQuery.provider?, computeQuery, unnamed]

theorem notFound_of_unnamed {params : List ValueType} {error : MethodError}
    (unnamed : computation.override? = none)
    (missed : (build.registry.search (build.computeQuery target computation params)).result =
      .error error) :
    ∃ expected searched nearMisses, error = .notFound expected searched nearMisses :=
  Registry.notFound_of_scope (build.name?_computeQuery target unnamed params)
    (by rw [build.provider?_computeQuery target unnamed]; rfl) missed

/-- What computes the field: the method that a search finds, or the argument that is passed on
    when there is none to find. -/
inductive Computes (build : Build) (target : TargetField) (computation : Computation)
    (dependencies : List ResolvedPath) : ComputeStep → Prop where
  | method {method : ResolvedMethod}
      (found : (build.registry.search (build.computeQuery target computation
        (parameterTypes dependencies computation.reducers))).result = .ok method) :
      Computes build target computation dependencies (.invoke method)
  | argument {type : ValueType}
      (missing : ¬ build.Served (build.computeQuery target computation
        (parameterTypes dependencies computation.reducers)))
      (passes : build.PassesOn target computation dependencies
        (parameterTypes dependencies computation.reducers) type) :
      Computes build target computation dependencies (.identity type)

theorem computeStep_eq_ok_iff {dependencies : List ResolvedPath} {step : ComputeStep} :
    (build.computeStep target computation dependencies
        (parameterTypes dependencies computation.reducers)).result = .ok step ↔
      build.Computes target computation dependencies step := by
  simp only [computeStep]
  cases lookup : (build.registry.search (build.computeQuery target computation
      (parameterTypes dependencies computation.reducers))).result with
  | ok method =>
      simp only [Except.ok.injEq]
      constructor
      · rintro rfl
        exact .method lookup
      · intro computes
        cases computes with
        | method found => rw [lookup] at found; cases found; rfl
        | argument missing _ => exact absurd (served_iff.mpr ⟨method, lookup⟩) missing
  | error error =>
      have missing := not_served_iff.mpr ⟨error, lookup⟩
      constructor
      · intro passed
        cases identity : build.identity? target computation dependencies
            (parameterTypes dependencies computation.reducers) with
        | none => rw [identity] at passed; cases error <;> cases passed
        | some found =>
            obtain ⟨type, passes, rfl⟩ := identity?_eq_some_iff.mp identity
            rw [identity] at passed
            cases error <;> cases passed
            exact .argument missing passes
      · intro computes
        cases computes with
        | method found => rw [lookup] at found; cases found
        | argument _ passes =>
            -- passing on excludes a reference, so that the search can only have missed
            obtain ⟨_, _, _, rfl⟩ := notFound_of_unnamed passes.unnamed lookup
            simp only [identity?_eq_some_iff.mpr ⟨_, passes, rfl⟩]

theorem transformStep_eq_ok_iff {ref : MethodRef} {input : ValueType} {method : ResolvedMethod} :
    (build.transformStep target ref input).result = .ok method ↔
      (build.registry.search (build.transformQuery target ref input)).result = .ok method := by
  simp only [transformStep]
  split
  · rename_i lookup
    simp [lookup]
  · rename_i lookup
    simp [lookup]
  · rename_i lookup
    split <;> simp [lookup]
  · rename_i lookup
    simp [lookup]

/-- A transformation is found exactly when one is asked for. -/
theorem transform?_eq_ok_iff {input : ValueType} {ref : Option MethodRef}
    {transform : Option ResolvedMethod} :
    (build.transform? target input ref).result = .ok transform ↔
      (ref = none ∧ transform = none) ∨
      ∃ named method, ref = some named ∧ transform = some method ∧
        (build.registry.search (build.transformQuery target named input)).result = .ok method := by
  cases ref with
  | none => simp [transform?, eq_comm]
  | some named =>
      simp only [transform?, map_eq_ok_iff, transformStep_eq_ok_iff]
      constructor
      · intro found
        obtain ⟨method, found, rfl⟩ := found
        exact .inr ⟨named, method, rfl, rfl, found⟩
      · rintro (⟨⟨⟩, -⟩ | ⟨_, method, ⟨⟩, rfl, found⟩)
        exact ⟨method, found, rfl⟩

/-- What a computed field becomes when its stages have found all its parts. -/
def mappingOf (computation : Computation) (dependencies : List ResolvedPath) (step : ComputeStep)
    (transform : Option ResolvedMethod) : ComputedMapping where
  dependencies := dependencies
  parameterTypes := parameterTypes dependencies computation.reducers
  compute := step
  transform := transform
  reducers := (argumentsByRank dependencies computation.reducers).filterMap (·.binding)

/-- The searches of a computed field succeed exactly when a step and, if asked for, a
    transformation are found. -/
theorem methods_eq_ok_iff {dependencies : List ResolvedPath} {mapping : FieldMapping} :
    (build.methods target computation dependencies
        (argumentsByRank dependencies computation.reducers)).result = .ok mapping ↔
      ∃ step transform, build.Computes target computation dependencies step ∧
        (build.transform? target step.returns computation.transformedBy).result = .ok transform ∧
        mapping = .computed (mappingOf computation dependencies step transform) := by
  simp only [← computeStep_eq_ok_iff]
  unfold methods parameterTypes
  dsimp only
  split
  · rename_i rejection fails
    simp [fails]
  · rename_i step computes
    simp only [map_eq_ok_iff, computes, Except.ok.injEq]
    constructor
    · intro accepted
      obtain ⟨transform, transforms, rfl⟩ := accepted
      exact ⟨step, transform, rfl, transforms, rfl⟩
    · intro accepted
      obtain ⟨_, transform, rfl, transforms, rfl⟩ := accepted
      exact ⟨transform, transforms, rfl⟩

/-- A computed field is accepted exactly when every stage is passed. -/
theorem computed_eq_ok_iff {mapping : FieldMapping} :
    (build.computed target computation).result = .ok mapping ↔
      ∃ dependencies step transform, build.Reduces target computation dependencies ∧
        build.Computes target computation dependencies step ∧
        (build.transform? target step.returns computation.transformedBy).result = .ok transform ∧
        mapping = .computed (mappingOf computation dependencies step transform) := by
  simp only [computed]
  cases reduced : build.arguments target computation with
  | error rejection =>
      simp only [reduceCtorEq, false_iff]
      intro accepted
      obtain ⟨dependencies, _, _, reduces, -⟩ := accepted
      have passed := arguments_eq_ok_iff.mpr ⟨reduces, rfl⟩
      simp [reduced] at passed
  | ok pair =>
      obtain ⟨dependencies, arguments⟩ := pair
      obtain ⟨reduces, rfl⟩ := arguments_eq_ok_iff.mp reduced
      simp only [methods_eq_ok_iff]
      constructor
      · intro accepted
        obtain ⟨step, transform, found⟩ := accepted
        exact ⟨dependencies, step, transform, reduces, found⟩
      · intro accepted
        obtain ⟨others, step, transform, otherReduces, found⟩ := accepted
        cases reduces.read.unique otherReduces.read
        exact ⟨step, transform, found⟩

end Build

end ProjectionPlanner

import ProjectionPlanner.Proofs.Build.Invocation
import ProjectionPlanner.Proofs.Build.Verdict
import ProjectionPlanner.Proofs.Lines.Messages
import ProjectionPlanner.Proofs.Path.Answers
import ProjectionPlanner.Proofs.Search.NearMisses

/-! # Where the strings in a failure come from

Whatever a build reports, it found in what it was given: names that its source declares or that its
paths ask for, identifiers and signatures of its registry, names of its declaration. Some are put
together from these, such as conventional method names and the part of a path that was resolved, and
some are cut out of them, such as the segments of paths, but no line feed comes in on the way. So as
long as nothing that a build is given holds one, neither does anything in its failure.
-/

namespace ProjectionPlanner

open Text

/-! ## From the source -/

theorem oneLines_entriesStrings {fields : List (String × SourceField)} :
    OneLines (entriesStrings fields) ↔
      ∀ entry ∈ fields, OneLine entry.1 ∧ OneLine entry.2.name ∧ OneLines entry.2.kind.strings := by
  induction fields with
  | nil => simp [entriesStrings]
  | cons first rest ih =>
      obtain ⟨key, name, kind, nullable⟩ := first
      simp only [entriesStrings, oneLines_append, oneLines_cons, ih, List.forall_mem_cons,
        and_assoc]

theorem SourceType.oneLines_field? {type : SourceType} {key : String} {field : SourceField}
    (oneLine : OneLines type.strings) (declared : type.field? key = some field) :
    OneLines field.kind.strings := by
  cases type with
  | mk name fields =>
      obtain ⟨before, after, split, -⟩ := List.lookup_eq_some_iff.mp declared
      have listed : (key, field) ∈ before ++ (key, field) :: after := by simp
      have entries := oneLines_entriesStrings.mp (oneLines_cons.mp oneLine).2
      exact (entries _ (split ▸ listed)).2.2

/-- The names of the type that is left when all layers are taken off. -/
def ElementKind.strings : ElementKind → List String
  | .scalar _ => []
  | .object type => type.strings

namespace ElementKind

variable {element : ElementKind}

theorem oneLine_typeName (oneLine : OneLines element.strings) : OneLine element.typeName := by
  cases element with
  | scalar leaf => exact leaf.oneLine_name
  | object type => exact type.oneLine_name oneLine

theorem oneLines_valueType (oneLine : OneLines element.strings) :
    OneLines element.valueType.strings := by
  cases element with
  | scalar leaf => exact oneLines_nil
  | object type => exact oneLines_cons.mpr ⟨type.oneLine_name oneLine, oneLines_nil⟩

theorem oneLines_field? {key : String} {field : SourceField} (oneLine : OneLines element.strings)
    (declared : element.field? key = some field) : OneLines field.kind.strings := by
  cases element with
  | scalar leaf => cases declared
  | object type => exact type.oneLines_field? oneLine declared

end ElementKind

namespace FieldKind

theorem strings_layered (element : ElementKind) (layers : Nat) :
    (element.bare.layered layers).strings = element.strings := by
  induction layers with
  | zero => cases element <;> rfl
  | succ layers ih => exact ih

theorem oneLines_valueType : (kind : FieldKind) → OneLines kind.strings →
    OneLines kind.valueType.strings
  | .scalar _, _ => oneLines_nil
  | .object type, oneLine => oneLines_cons.mpr ⟨type.oneLine_name oneLine, oneLines_nil⟩
  | .collection element, oneLine => oneLines_valueType element oneLine

end FieldKind

/-- Names lead from type to type inside the source. -/
theorem Path.Walks.oneLines {here there : ElementKind} {names : List String} {hops : List Hop}
    (walks : Walks here names hops there) (oneLine : OneLines here.strings) :
    OneLines there.strings := by
  induction walks with
  | nil => exact oneLine
  | cons declared shape _ ih =>
      have inside := ElementKind.oneLines_field? oneLine declared
      rw [shape, FieldKind.strings_layered] at inside
      exact ih inside

namespace SourceType

variable {source : SourceType} {path : String}

theorem oneLines_of_refused {error : PathError} (oneLine : OneLines source.strings)
    (asked : OneLine path) (refused : source.resolve path = .error error) :
    OneLines error.strings := by
  have answers := source.answers_resolve path
  have segments := (splits_pieces Path.separator path).oneLines (by decide) asked
  rw [refused] at answers
  cases answers with
  | emptySegment _ => exact oneLines_cons.mpr ⟨asked, oneLines_nil⟩
  | notFound _ position walks _ =>
      simp only [position, oneLines_append, oneLines_cons] at segments
      -- what was resolved so far is joined again from the segments before this one
      have owner := ElementKind.oneLine_typeName (walks.oneLines oneLine)
      have dot : OneLine "." := by decide
      have resolved := (oneLine_join dot).mpr segments.1
      simp only [PathError.strings, oneLines_cons, asked, segments, owner, resolved, oneLines_nil,
        and_self]
  | endsOnCollection _ _ _ named _ =>
      have last := segments _ (List.mem_of_getLast? named)
      simp only [PathError.strings, oneLines_cons, asked, last, oneLines_nil, and_self]

theorem oneLines_of_resolved {resolved : ResolvedPath} (oneLine : OneLines source.strings)
    (leads : source.resolve path = .ok resolved) : OneLines resolved.terminalType.strings := by
  have answers := source.answers_resolve path
  rw [leads] at answers
  cases answers with
  | resolved _ walks _ _ describes =>
      rw [describes.terminalType]
      exact ElementKind.oneLines_valueType (walks.oneLines oneLine)

end SourceType

/-! ## From the registry -/

namespace MethodQuery

/-- What a query asks for. -/
def strings (query : MethodQuery) : List String :=
  query.ref.toList.flatMap MethodRef.strings ++ query.convention.toList ++
    query.params.flatMap ValueType.strings ++ query.returns.strings

variable {query : MethodQuery}

theorem oneLine_name? {name : String} (asked : OneLines query.strings)
    (named : query.name? = some name) : OneLine name := by
  simp only [strings, oneLines_append, oneLines_flatMap] at asked
  obtain ⟨⟨⟨ref, convention⟩, -⟩, -⟩ := asked
  cases wants_iff.mpr named with
  | @set set _ refers sets _ =>
      have inside := ref set (by simp [refers])
      exact inside name (by simp [MethodRef.strings, sets])
  | conventional _ agreed => exact convention name (by simp [agreed])

theorem oneLine_provider? {id : String} (asked : OneLines query.strings)
    (restricted : query.provider? = some id) : OneLine id := by
  simp only [strings, oneLines_append, oneLines_flatMap] at asked
  obtain ⟨set, refers, sets⟩ := restrictedTo_iff.mpr restricted
  have inside := asked.1.1.1 set (by simp [refers])
  exact inside id (by simp [MethodRef.strings, sets])

end MethodQuery

theorem Provider.oneLines_parts {provider : Provider} (oneLine : OneLines provider.strings) :
    OneLine provider.id ∧ ∀ method ∈ provider.methods, OneLines method.strings := by
  simp only [strings, oneLines_append, oneLines_cons, oneLines_flatMap] at oneLine
  exact ⟨oneLine.1.1, oneLine.2⟩

namespace Registry

variable {registry : Registry} {query : MethodQuery}

theorem oneLines_ids (known : OneLines registry.strings) : OneLines registry.ids := by
  refine oneLines_map.mpr fun provider listed => ?_
  exact (Provider.oneLines_parts (oneLines_flatMap.mp known provider listed)).1

theorem oneLines_of_missed {error : MethodError} (known : OneLines registry.strings)
    (asked : OneLines query.strings) (missed : (registry.search query).result = .error error) :
    OneLines error.strings := by
  cases error with
  | nameRequired => exact oneLines_nil
  | providerNotRegistered id available =>
      obtain ⟨-, named, -, rfl⟩ := search_eq_providerNotRegistered_iff.mp missed
      have wanted := MethodQuery.oneLine_provider? asked (MethodQuery.restrictedTo_iff.mp named)
      exact oneLines_cons.mpr ⟨wanted, oneLines_ids known⟩
  | notFound expected searched nearMisses =>
      obtain ⟨name, scope, named, reachable, -, rfl, rfl, rfl⟩ := search_eq_notFound_iff.mp missed
      have inScope : ∀ provider ∈ scope, OneLines provider.strings := by
        intro provider listed
        have reached := (mem_scope reachable provider).mp listed
        exact oneLines_flatMap.mp known provider (mem_of_reaches reached)
      have wanted := MethodQuery.oneLine_name? asked named
      simp only [MethodQuery.strings, oneLines_append] at asked
      simp only [MethodError.strings, ExpectedSignature.strings, oneLines_append, oneLines_cons,
        oneLines_map, oneLines_flatMap, List.forall_mem_map]
      refine ⟨⟨⟨⟨wanted, oneLines_flatMap.mp asked.1.2⟩, asked.2⟩, fun provider listed => ?_⟩,
        fun offer offered => ?_⟩
      · exact (Provider.oneLines_parts (inScope provider listed)).1
      · obtain ⟨listed, declared, -⟩ := mem_offers.mp offered
        obtain ⟨id, methods⟩ := Provider.oneLines_parts (inScope offer.1 listed)
        exact oneLines_cons.mpr ⟨id, methods offer.2 declared⟩

/-- A method that is found is described as its provider describes it. -/
theorem oneLines_of_found {method : ResolvedMethod} (known : OneLines registry.strings)
    (found : (registry.search query).result = .ok method) :
    OneLine method.provider ∧ OneLines method.signature.strings := by
  obtain ⟨provider, signature, serves, rfl⟩ := serves_of_search found
  have listed := oneLines_flatMap.mp known provider (mem_of_reaches serves.reached)
  obtain ⟨id, methods⟩ := Provider.oneLines_parts listed
  exact ⟨id, methods signature serves.declared⟩

end Registry

/-! ## Through the stages of a field -/

theorem Path.oneLine_lead {path : String} (oneLine : OneLine path) : OneLine (Path.lead path) := by
  unfold OneLine lead
  rw [String.toList_ofList]
  exact fun feed => oneLine ((List.takeWhile_sublist _).subset feed)

namespace Build

variable {build : Build} {target : TargetField} {computation : Computation}

/-- Nothing that a build is given for one of its fields holds a line feed. -/
structure OneLineFor (build : Build) (target : TargetField) : Prop where
  lead : OneLine build.settings.methodLead
  source : OneLines build.source.strings
  registry : OneLines build.registry.strings
  name : OneLine target.name
  type : OneLines target.type.strings
  directive : OneLines target.directive.strings

theorem oneLines_checkProjected {found : ValueType} (wanted : OneLines target.type.strings)
    (given : OneLines found.strings) :
    ∀ kind ∈ reasons (build.checkProjected target found), OneLines kind.strings := by
  unfold checkProjected
  split
  · intro kind member
    cases List.mem_singleton.mp member
    exact oneLines_append.mpr ⟨wanted, given⟩
  · exact List.forall_mem_nil _

theorem oneLines_implicit (given : build.OneLineFor target) :
    ∀ kind ∈ reasons (build.implicit target), OneLines kind.strings := by
  unfold implicit
  cases declared : build.source.field? target.name with
  | none =>
      intro kind member
      obtain rfl := List.mem_singleton.mp member
      have owner := SourceType.oneLine_name given.source
      have resolved : OneLine "" := by decide
      simp only [Rejection.single, PlanErrorKind.strings, PathError.strings, oneLines_cons,
        given.name, owner, resolved, oneLines_nil, and_self]
  | some field =>
      rw [reasons_map]
      have shape := SourceType.oneLines_field? given.source declared
      exact oneLines_checkProjected given.type (FieldKind.oneLines_valueType _ shape)

theorem oneLines_explicit {path : String} (given : build.OneLineFor target) (asked : OneLine path) :
    ∀ kind ∈ reasons (build.explicit target path), OneLines kind.strings := by
  unfold explicit
  cases answer : build.source.resolve path with
  | error error =>
      intro kind member
      cases List.mem_singleton.mp member
      exact SourceType.oneLines_of_refused given.source asked answer
  | ok resolved =>
      rw [reasons_map]
      have ends := SourceType.oneLines_of_resolved given.source answer
      exact oneLines_checkProjected given.type (ResolvedPath.oneLines_valueType ends)

theorem oneLines_circularDependencies {dependsOn : List String} (asked : OneLines dependsOn) :
    ∀ kind ∈ build.circularDependencies target dependsOn, OneLines kind.strings := by
  intro kind member
  obtain ⟨dependency, listed, rfl⟩ := List.mem_map.mp member
  have path := asked dependency (List.mem_of_mem_filter listed)
  exact oneLines_cons.mpr ⟨path, oneLines_cons.mpr ⟨Path.oneLine_lead path, oneLines_nil⟩⟩

theorem oneLines_pathErrors {dependsOn : List String} (source : OneLines build.source.strings)
    (asked : OneLines dependsOn) :
    ∀ kind ∈ build.pathErrors dependsOn, OneLines kind.strings := by
  intro kind member
  obtain ⟨path, listed, refused⟩ := List.mem_filterMap.mp member
  unfold pathError? at refused
  cases answer : build.source.resolve path with
  | ok resolved => simp [answer] at refused
  | error error =>
      simp only [answer, Option.some.injEq] at refused
      subst refused
      exact SourceType.oneLines_of_refused source (asked path listed) answer

theorem Reads.oneLines {paths : List String} {dependencies : List ResolvedPath}
    (read : build.Reads paths dependencies) (source : OneLines build.source.strings) :
    ∀ dependency ∈ dependencies, OneLines dependency.terminalType.strings := by
  intro dependency listed
  obtain ⟨path, -, leads⟩ := exists_left_of_mem read listed
  exact SourceType.oneLines_of_resolved source leads

section Dependencies

variable {dependencies : List ResolvedPath} {reducers : List Reducer}
  (ends : ∀ dependency ∈ dependencies, OneLines dependency.terminalType.strings)

include ends

theorem oneLines_unsupportedPairs :
    ∀ kind ∈ unsupportedPairs dependencies reducers, OneLines kind.strings := by
  intro kind member
  obtain ⟨⟨dependency, reducer⟩, zipped, refused⟩ := List.mem_filterMap.mp member
  have listed := List.mem_of_mem_filter (List.of_mem_zip zipped).1
  unfold unsupportedPair? at refused
  split at refused
  · cases refused
  · cases refused
    exact ends dependency listed

theorem oneLines_parameterTypes :
    ∀ type ∈ parameterTypes dependencies reducers, OneLines type.strings := by
  intro type member
  unfold parameterTypes argumentsByRank at member
  simp only [List.mem_map, List.mem_mapIdx] at member
  obtain ⟨_, ⟨position, inside, rfl⟩, rfl⟩ := member
  have there := ends _ (List.getElem_mem inside)
  unfold argumentOf
  split
  · exact there
  · dsimp only [Reducer.typeOver]
    split
    · exact oneLines_nil
    · exact there

end Dependencies

theorem oneLines_computeQuery {params : List ValueType} (given : build.OneLineFor target)
    (asked : OneLines computation.strings) (inputs : ∀ type ∈ params, OneLines type.strings) :
    OneLines (build.computeQuery target computation params).strings := by
  simp only [Computation.strings, oneLines_append, oneLines_flatMap] at asked
  have ref : ∀ ref ∈ computation.override?.toList, OneLines ref.strings := by
    intro ref member
    have chosen := Option.filter_eq_some_iff.mp (Option.mem_toList.mp member)
    exact asked.1.2 ref (Option.mem_toList.mpr chosen.1)
  have convention : OneLine (build.settings.methodName target.name) :=
    oneLine_append.mpr ⟨given.lead, oneLine_capitalized given.name⟩
  have returns : OneLines (build.computeQuery target computation params).returns.strings := by
    unfold computeQuery
    dsimp only
    split
    · exact oneLines_nil
    · exact given.type
  simp only [MethodQuery.strings, oneLines_append, oneLines_flatMap]
  exact ⟨⟨⟨ref, oneLines_cons.mpr ⟨convention, oneLines_nil⟩⟩, inputs⟩, returns⟩

theorem oneLines_transformQuery {ref : MethodRef} {input : ValueType}
    (given : build.OneLineFor target) (asked : OneLines ref.strings)
    (computed : OneLines input.strings) :
    OneLines (build.transformQuery target ref input).strings := by
  simp only [MethodQuery.strings, oneLines_append, oneLines_flatMap]
  refine ⟨⟨⟨?_, oneLines_nil⟩, ?_⟩, given.type⟩
  · exact List.forall_mem_singleton.mpr asked
  · exact List.forall_mem_singleton.mpr computed

theorem Computes.oneLines {dependencies : List ResolvedPath} {step : ComputeStep}
    (computes : build.Computes target computation dependencies step)
    (known : OneLines build.registry.strings)
    (inputs : ∀ type ∈ parameterTypes dependencies computation.reducers, OneLines type.strings) :
    OneLines step.returns.strings := by
  cases computes with
  | method found =>
      have signature := (Registry.oneLines_of_found known found).2
      exact (oneLines_append.mp signature).2
  | @argument type _ passes => exact inputs type (passes.argument ▸ List.mem_singleton_self type)

theorem TransformFault.oneLines {query : MethodQuery} {error : PlanErrorKind}
    (fault : build.TransformFault query error) (known : OneLines build.registry.strings)
    (asked : OneLines query.strings) : OneLines error.strings := by
  cases fault with
  | unnamed _ => exact oneLines_nil
  | unregistered _ restricted _ =>
      have wanted := MethodQuery.oneLine_provider? asked restricted
      exact oneLines_cons.mpr ⟨wanted, Registry.oneLines_ids known⟩
  | needsInstance found =>
      obtain ⟨provider, signature⟩ := Registry.oneLines_of_found known found
      have name := (oneLines_cons.mp (oneLines_append.mp signature).1).1
      exact oneLines_cons.mpr ⟨provider, oneLines_cons.mpr ⟨name, oneLines_nil⟩⟩
  | notFound _ missed => exact Registry.oneLines_of_missed known asked missed

/-- Whichever stage stops a computed field, its diagnostics hold no line feed. -/
theorem Verdict.oneLines {errors : List PlanErrorKind}
    (verdict : build.Verdict target computation errors) (given : build.OneLineFor target)
    (asked : OneLines computation.strings) : ∀ kind ∈ errors, OneLines kind.strings := by
  have parts := asked
  simp only [Computation.strings, oneLines_append, oneLines_flatMap] at parts
  obtain ⟨⟨paths, -⟩, transformation⟩ := parts
  -- both searches ask for types that earlier stages have found in the source
  have inputs : ∀ {dependencies}, build.Reads computation.dependsOn dependencies →
      ∀ type ∈ parameterTypes dependencies computation.reducers, OneLines type.strings :=
    fun read => oneLines_parameterTypes (read.oneLines given.source)
  cases verdict with
  | circular _ => exact oneLines_circularDependencies paths
  | path _ _ => exact oneLines_pathErrors given.source paths
  | count _ _ _ => exact List.forall_mem_singleton.mpr oneLines_nil
  | reducer _ read _ _ => exact oneLines_unsupportedPairs (read.oneLines given.source)
  | method reduces _ _ missed =>
      have query := oneLines_computeQuery given asked (inputs reduces.read)
      exact List.forall_mem_singleton.mpr
        (Registry.oneLines_of_missed given.registry query missed)
  | @transform _ _ ref _ reduces computes sets _ fault =>
      have computed := computes.oneLines given.registry (inputs reduces.read)
      have named : OneLines ref.strings := transformation ref (by simp [sets])
      have query := oneLines_transformQuery given named computed
      exact List.forall_mem_singleton.mpr (fault.oneLines given.registry query)
  | accepted _ _ _ => exact List.forall_mem_nil _

/-! ## Whole builds -/

theorem oneLines_run (given : build.OneLineFor target) :
    ∀ kind ∈ reasons (build.run target).result, OneLines kind.strings := by
  have asked := given.directive
  unfold run
  cases directive : target.directive with
  | implicit => exact oneLines_implicit given
  | explicit path =>
      rw [directive] at asked
      exact oneLines_explicit given (oneLines_cons.mp asked).1
  | computed computation =>
      rw [directive] at asked
      exact (verdict_iff.mpr rfl).oneLines given asked

theorem oneLineFor_of_declared (oneLine : OneLines build.strings)
    (declared : target ∈ build.declaration.fields) : build.OneLineFor target := by
  simp only [Build.strings, Declaration.strings, oneLines_append, oneLines_cons,
    oneLines_flatMap] at oneLine
  obtain ⟨lead, ⟨source, -, fields⟩, registry⟩ := oneLine
  obtain ⟨front, directive⟩ := oneLines_append.mp (fields target declared)
  obtain ⟨name, type⟩ := oneLines_cons.mp front
  exact { lead, source, registry, name, type, directive }

theorem oneLines_of_failed {failure : BuildErrors} (oneLine : OneLines build.strings)
    (failed : build.result = .error failure) : OneLines failure.strings := by
  obtain ⟨-, rfl⟩ := result_eq_error_iff.mp failed
  have projection : OneLine build.declaration.name := by
    simp only [Build.strings, Declaration.strings, oneLines_append, oneLines_cons] at oneLine
    exact oneLine.2.1.2.1
  refine oneLines_cons.mpr ⟨projection, oneLines_flatMap.mpr fun error reported => ?_⟩
  obtain ⟨outcome, planned, about⟩ := List.mem_flatMap.mp reported
  obtain ⟨position, there⟩ := List.getElem?_of_mem planned
  rw [getElem?_outcomes] at there
  obtain ⟨target, stands, rfl⟩ := Option.map_eq_some_iff.mp there
  have given := oneLineFor_of_declared oneLine (List.mem_of_getElem? stands)
  rw [errors_stageAfter] at about
  obtain ⟨kind, wrong, rfl⟩ := List.mem_map.mp about
  refine oneLines_cons.mpr ⟨given.name, ?_⟩
  unfold stageAfter at wrong
  split at wrong
  · cases List.mem_singleton.mp wrong
    exact oneLines_nil
  · exact oneLines_run given kind wrong

/-- Unless it is given a line feed, a build that fails reports one diagnostic on each line. -/
theorem failure_line_by_line {failure : BuildErrors} (oneLine : OneLines build.strings)
    (failed : build.result = .error failure) :
    failure.projection = build.declaration.name ∧
      failure.ListedBy (pieces '\n' failure.message) := by
  have reported := oneLines_of_failed oneLine failed
  obtain ⟨-, rfl⟩ := result_eq_error_iff.mp failed
  exact ⟨rfl, BuildErrors.listedBy_lines reported⟩

/-- Nothing fits in this view: not the type of the identifier, none of the methods that could format
    the total or transform it, and not the path to the cost. -/
def unfitBuild : Build :=
  { orderBuild with
    declaration := ⟨"OrderView",
      [⟨"id", .scalar .text, .implicit⟩,
        ⟨"label", .scalar .text, .computed
          { dependsOn := ["items.price"], computedBy := some { name := some "format" },
            reducers := [.sum] }⟩,
        ⟨"total", .scalar .text, .computed orderTotal⟩,
        ⟨"cost", .scalar .decimal, .explicit "items.cost"⟩]⟩
    registry := Registry.misfits }

theorem unfitBuild_line_by_line :
    OneLines unfitBuild.strings ∧
      ∃ failure, unfitBuild.result = .error failure ∧
        failure.codes =
          [.typeMismatch, .methodNotFound, .transformationMustBeStateless, .pathNotFound] ∧
        failure.projection = "OrderView" ∧ failure.ListedBy (pieces '\n' failure.message) := by
  have oneLine : OneLines unfitBuild.strings := by decide
  have failed : unfitBuild.result = .error _ := rfl
  obtain ⟨projection, listed⟩ := failure_line_by_line oneLine failed
  exact ⟨oneLine, _, failed, by decide, projection, listed⟩

end Build

end ProjectionPlanner

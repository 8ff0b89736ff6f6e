import ProjectionPlanner.Proofs.Build.Siblings
import ProjectionPlanner.Proofs.Search.Precedence

/-! # References that say nothing

A reference to a method may leave out its provider, its name or both, and an empty name counts as
none. So there are several ways to write the same reference, and several places that look at it: the
search for a method, the decision whether an argument may stand in for one, and the transformation,
which has to be named. Here a declaration is trimmed: empty names are left out and overrides that
say nothing are dropped, wherever one likes, and the build does not change. The reference to a
transformation is never dropped. It is an error if it sets no name, whereas a field that has no such
reference is not transformed.
-/

namespace ProjectionPlanner

/-! ## Trimming -/

namespace MethodRef

/-- Neither part is set. -/
structure SaysNothing (ref : MethodRef) : Prop where
  provider : ref.provider = none
  name : ref.name = none ∨ ref.name = some ""

/-- If the name is empty it may be left out. The provider stays. -/
inductive TrimsTo : MethodRef → MethodRef → Prop where
  | kept (ref : MethodRef) : TrimsTo ref ref
  | unnamed (provider : Option String) : TrimsTo ⟨provider, some ""⟩ ⟨provider, none⟩

/-- What may become of the reference to the method that computes a field. -/
inductive OverrideTrimsTo : Option MethodRef → Option MethodRef → Prop where
  | none : OverrideTrimsTo none none
  | some {ref other : MethodRef} (trims : ref.TrimsTo other) :
      OverrideTrimsTo (some ref) (some other)
  | dropped {ref : MethodRef} (nothing : ref.SaysNothing) : OverrideTrimsTo (some ref) none

end MethodRef

structure Computation.TrimsTo (computation other : Computation) : Prop where
  dependsOn : other.dependsOn = computation.dependsOn
  computedBy : MethodRef.OverrideTrimsTo computation.computedBy other.computedBy
  transformedBy : Option.Rel MethodRef.TrimsTo computation.transformedBy other.transformedBy
  reducers : other.reducers = computation.reducers

inductive Directive.TrimsTo : Directive → Directive → Prop where
  | kept (directive : Directive) : TrimsTo directive directive
  | computed {computation other : Computation} (trims : computation.TrimsTo other) :
      TrimsTo (.computed computation) (.computed other)

structure TargetField.TrimsTo (target other : TargetField) : Prop where
  name : other.name = target.name
  type : other.type = target.type
  directive : target.directive.TrimsTo other.directive

/-- Field by field, references are trimmed or kept as they are. -/
structure Declaration.TrimsTo (declaration other : Declaration) : Prop where
  name : other.name = declaration.name
  fields : List.Forall₂ TargetField.TrimsTo declaration.fields other.fields

/-! ## References that are alike -/

namespace MethodRef

/-- Both set the same name and the same provider, as far as they set any. -/
structure Alike (left right : Option MethodRef) : Prop where
  name : left.bind name? = right.bind name?
  provider : left.bind provider = right.bind provider

variable {ref other : MethodRef}

theorem TrimsTo.name?_eq (trims : ref.TrimsTo other) : other.name? = ref.name? := by
  cases trims with
  | kept => rfl
  | unnamed provider => rfl

theorem TrimsTo.provider_eq (trims : ref.TrimsTo other) : other.provider = ref.provider := by
  cases trims <;> rfl

theorem TrimsTo.alike (trims : ref.TrimsTo other) : Alike (some other) (some ref) where
  name := trims.name?_eq
  provider := trims.provider_eq

theorem TrimsTo.isUnset_eq (trims : ref.TrimsTo other) : other.isUnset = ref.isUnset := by
  rw [isUnset, isUnset, trims.name?_eq, trims.provider_eq]

theorem SaysNothing.name?_eq (nothing : ref.SaysNothing) : ref.name? = none :=
  name?_eq_none_iff.mpr nothing.name

theorem SaysNothing.isUnset_eq (nothing : ref.SaysNothing) : ref.isUnset = true := by
  simp [isUnset, nothing.provider, nothing.name?_eq]

theorem SaysNothing.alike (nothing : ref.SaysNothing) : Alike (some ref) none where
  name := nothing.name?_eq
  provider := nothing.provider

end MethodRef

/-- A search looks at a reference only for its name and its provider. -/
theorem Registry.search_of_alike {left right : Option MethodRef}
    (alike : MethodRef.Alike left right) (registry : Registry) (query : MethodQuery) :
    registry.search { query with ref := left } = registry.search { query with ref := right } := by
  have sameName : ({ query with ref := left } : MethodQuery).name? =
      ({ query with ref := right } : MethodQuery).name? := by
    simp only [MethodQuery.name?, alike.name]
  have sameProvider : ({ query with ref := left } : MethodQuery).provider? =
      ({ query with ref := right } : MethodQuery).provider? := alike.provider
  have sameFits : ∀ provider method,
      ({ query with ref := left } : MethodQuery).fits provider method =
        ({ query with ref := right } : MethodQuery).fits provider method := fun _ _ => rfl
  simp only [search, sameName, sameProvider, MethodQuery.scan_congr sameFits]

namespace Computation

variable {computation other : Computation}

/-- The overrides are alike, and the one is there if the other is. -/
theorem TrimsTo.override?_alike (trims : computation.TrimsTo other) :
    MethodRef.Alike other.override? computation.override? ∧
      other.override?.isNone = computation.override?.isNone := by
  have computedBy := trims.computedBy
  unfold override?
  generalize computation.computedBy = before at computedBy ⊢
  generalize other.computedBy = after at computedBy ⊢
  cases computedBy with
  | none => exact ⟨⟨rfl, rfl⟩, rfl⟩
  | @dropped ref nothing =>
      have silent : (some ref).filter (! ·.isUnset) = none := by simp [nothing.isUnset_eq]
      rw [silent]
      exact ⟨⟨rfl, rfl⟩, rfl⟩
  | some kept =>
      simp only [Option.filter, kept.isUnset_eq]
      split
      · exact ⟨kept.alike, rfl⟩
      · exact ⟨⟨rfl, rfl⟩, rfl⟩

theorem TrimsTo.isSome_transformedBy (trims : computation.TrimsTo other) :
    other.transformedBy.isSome = computation.transformedBy.isSome := by
  have transformedBy := trims.transformedBy
  generalize computation.transformedBy = before at transformedBy ⊢
  generalize other.transformedBy = after at transformedBy ⊢
  cases transformedBy <;> rfl

end Computation

/-! ## Stages -/

namespace Build

variable {build : Build} {target : TargetField} {computation trimmed : Computation}

theorem computeStep_of_trimsTo (trims : computation.TrimsTo trimmed)
    (dependencies : List ResolvedPath) (params : List ValueType) :
    build.computeStep target trimmed dependencies params =
      build.computeStep target computation dependencies params := by
  obtain ⟨alike, sameNone⟩ := trims.override?_alike
  have sameSearch : build.registry.search (build.computeQuery target trimmed params) =
      build.registry.search (build.computeQuery target computation params) := by
    have same := build.registry.search_of_alike alike (build.computeQuery target computation params)
    simpa only [computeQuery, trims.isSome_transformedBy] using same
  have sameIdentity : build.identity? target trimmed dependencies params =
      build.identity? target computation dependencies params := by
    simp only [identity?, sameNone, trims.isSome_transformedBy]
  simp only [computeStep, sameSearch, sameIdentity]

theorem transformStep_of_trimsTo {ref other : MethodRef} (trims : ref.TrimsTo other)
    (input : ValueType) :
    build.transformStep target other input = build.transformStep target ref input := by
  have sameSearch : build.registry.search (build.transformQuery target other input) =
      build.registry.search (build.transformQuery target ref input) :=
    build.registry.search_of_alike trims.alike (build.transformQuery target ref input)
  have sameSecond : build.registry.search
        { build.transformQuery target other input with receivers := .instanceOnly } =
      build.registry.search
        { build.transformQuery target ref input with receivers := .instanceOnly } :=
    build.registry.search_of_alike trims.alike
      { build.transformQuery target ref input with receivers := .instanceOnly }
  simp only [transformStep, sameSearch, sameSecond]

theorem transform?_of_trimsTo {ref other : Option MethodRef}
    (trims : Option.Rel MethodRef.TrimsTo ref other) (input : ValueType) :
    build.transform? target input other = build.transform? target input ref := by
  cases trims with
  | none => rfl
  | some trims => simp only [transform?, transformStep_of_trimsTo trims]

theorem computed_of_trimsTo (trims : computation.TrimsTo trimmed) :
    build.computed target trimmed = build.computed target computation := by
  have sameArguments : build.arguments target trimmed = build.arguments target computation := by
    simp only [Build.arguments, trims.dependsOn, trims.reducers]
  simp only [computed, methods, sameArguments, computeStep_of_trimsTo trims,
    transform?_of_trimsTo trims.transformedBy]

theorem run_of_trimsTo {other : TargetField} (trims : target.TrimsTo other) :
    build.run other = build.run target := by
  obtain ⟨name, type, directive⟩ := target
  obtain ⟨otherName, otherType, otherDirective⟩ := other
  obtain ⟨rfl, rfl, directiveTrims⟩ := trims
  cases directiveTrims with
  | kept => rfl
  | computed trims => exact computed_of_trimsTo trims

end Build

/-! ## Whole builds -/

theorem Directive.TrimsTo.isComputed_eq {directive other : Directive}
    (trims : directive.TrimsTo other) : other.isComputed = directive.isComputed := by
  cases trims <;> rfl

theorem any_isComputed_of_trimsTo {fields others : List TargetField}
    (trims : List.Forall₂ TargetField.TrimsTo fields others) (name : String) :
    (others.any fun field => field.name == name && field.directive.isComputed) =
      fields.any fun field => field.name == name && field.directive.isComputed := by
  induction trims with
  | nil => rfl
  | cons first _ ih =>
      rw [List.any_cons, List.any_cons, ih, first.name, first.directive.isComputed_eq]

theorem Declaration.TrimsTo.isComputed_eq {declaration other : Declaration}
    (trims : declaration.TrimsTo other) (name : String) :
    other.isComputed name = declaration.isComputed name :=
  any_isComputed_of_trimsTo trims.fields name

/-- The same became of both fields, whatever their directives are. -/
structure FieldOutcome.Alike (left right : FieldOutcome) : Prop where
  name : left.target.name = right.target.name
  stage : left.stage = right.stage

/-- What is made of outcomes by their names and stages alone is the same where these are. -/
theorem FieldOutcome.map_eq_of_alike {α : Type} {left right : List FieldOutcome}
    (all : List.Forall₂ FieldOutcome.Alike left right) {image : FieldOutcome → α}
    (same : ∀ {one other : FieldOutcome}, one.Alike other → image one = image other) :
    left.map image = right.map image := by
  induction all with
  | nil => rfl
  | cons first _ ih => rw [List.map_cons, List.map_cons, same first, ih]

namespace Build

variable {build : Build} {other : Declaration}

theorem outcomesAfter_of_trimsTo (alike : ∀ name,
      other.isComputed name = build.declaration.isComputed name)
    {fields trimmed : List TargetField} (trims : List.Forall₂ TargetField.TrimsTo fields trimmed)
    (seen : List String) :
    List.Forall₂ FieldOutcome.Alike ((build.declaring other).outcomesAfter seen trimmed)
      (build.outcomesAfter seen fields) := by
  induction trims generalizing seen with
  | nil => exact .nil
  | @cons target trimmed _ _ first _ ih =>
      have sameRun : (build.declaring other).run trimmed = build.run target :=
        (run_declaring (.of_isComputed alike trimmed)).trans (run_of_trimsTo first)
      rw [outcomesAfter_cons, outcomesAfter_cons, first.name]
      refine .cons ⟨first.name, ?_⟩ (ih (target.name :: seen))
      simp only [stageAfter, first.name, sameRun]

theorem result_of_trimsTo (trims : build.declaration.TrimsTo other) :
    (build.declaring other).result = build.result := by
  have alike : List.Forall₂ FieldOutcome.Alike (build.declaring other).outcomes build.outcomes :=
    outcomesAfter_of_trimsTo trims.isComputed_eq trims.fields []
  have sameErrors : (build.declaring other).errors = build.errors := by
    rw [Build.errors, Build.errors, List.flatMap_def, List.flatMap_def]
    refine congrArg List.flatten (FieldOutcome.map_eq_of_alike alike fun same => ?_)
    simp only [FieldOutcome.errors, same.name, same.stage]
  have sameEntries : (build.declaring other).outcomes.filterMap FieldOutcome.entry? =
      build.outcomes.filterMap FieldOutcome.entry? := by
    have byMap : ∀ outcomes : List FieldOutcome,
        outcomes.filterMap FieldOutcome.entry? = (outcomes.map FieldOutcome.entry?).reduceOption :=
      fun outcomes => by rw [List.reduceOption, List.filterMap_map, Function.id_comp]
    rw [byMap, byMap]
    refine congrArg List.reduceOption (FieldOutcome.map_eq_of_alike alike fun same => ?_)
    simp only [FieldOutcome.entry?, same.name, same.stage]
  have sameName : (build.declaring other).declaration.name = build.declaration.name := trims.name
  simp only [result, mappings, sameErrors, sameEntries, sameName]
  rfl

/-- References that say nothing are as good as none. Empty names may be left out of all references,
    and overrides without a name and a provider may be dropped: the build makes the same plan or
    reports the same diagnostics. To a search, too, a reference that says nothing is none. -/
theorem unset_references_are_inert :
    (∀ (build : Build) (other : Declaration), build.declaration.TrimsTo other →
      (build.declaring other).result = build.result) ∧
    ∀ (registry : Registry) (query : MethodQuery) (ref : MethodRef),
      query.ref = some ref → ref.SaysNothing →
        registry.search query = registry.search { query with ref := none } := by
  constructor
  · intro build other trims
    exact result_of_trimsTo trims
  · intro registry query ref refers nothing
    have same := registry.search_of_alike nothing.alike query
    rwa [← refers] at same

/-- The computed fields of the order with empty names in all their references. -/
def wordyView : Declaration :=
  ⟨"OrderView",
    [⟨"size", .scalar .int64, .computed
        { dependsOn := ["items.price"]
          computedBy := some ⟨some "Texts", some ""⟩
          reducers := [.count] }⟩,
      ⟨"total", .scalar .text, .computed
        { dependsOn := ["items.price"]
          computedBy := some ⟨none, some ""⟩
          transformedBy := some ⟨some "Texts", some ""⟩
          reducers := [.sum] }⟩]⟩

/-- The same fields with no more than there is to say. -/
def terseView : Declaration :=
  ⟨"OrderView",
    [⟨"size", .scalar .int64, .computed
        { dependsOn := ["items.price"]
          computedBy := some ⟨some "Texts", none⟩
          reducers := [.count] }⟩,
      ⟨"total", .scalar .text, .computed
        { dependsOn := ["items.price"]
          transformedBy := some ⟨some "Texts", none⟩
          reducers := [.sum] }⟩]⟩

/-- The size is computed and the total takes its argument either way, and either way the
    transformation has no name. -/
theorem wordyView_trimmed :
    wordyView.TrimsTo terseView ∧
      (orderBuild.declaring wordyView).result =
        .error ⟨"OrderView", [⟨"total", .transformationNameRequired⟩]⟩ ∧
      (orderBuild.declaring terseView).result = (orderBuild.declaring wordyView).result ∧
      orderBuild.registry.search
          { ref := some ⟨none, some ""⟩, params := [.scalar .decimal], returns := .any } =
        orderBuild.registry.search { params := [.scalar .decimal], returns := .any } := by
  have silent : MethodRef.SaysNothing ⟨none, some ""⟩ := ⟨rfl, .inr rfl⟩
  have trims : wordyView.TrimsTo terseView :=
    { name := rfl
      fields := .cons ⟨rfl, rfl, .computed ⟨rfl, .some (.unnamed _), .none, rfl⟩⟩
        (.cons ⟨rfl, rfl, .computed ⟨rfl, .dropped silent, .some (.unnamed _), rfl⟩⟩ .nil) }
  refine ⟨trims, rfl, ?_, ?_⟩
  · exact unset_references_are_inert.1 (orderBuild.declaring wordyView) terseView trims
  · exact unset_references_are_inert.2 _ _ _ rfl silent

end Build

end ProjectionPlanner

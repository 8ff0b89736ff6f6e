import ProjectionPlanner.Document.Declaration
import ProjectionPlanner.Plan.Explain
import ProjectionPlanner.Projection
import ProjectionPlanner.Proofs.Build.Outcomes
import ProjectionPlanner.Proofs.Document.WellFormed

/-! # Reading back what was written

Whatever is written as a document is read back as it was, with the order of its entries, what it
leaves open and its empty lists. Source types and plans have to be well formed for that. Those that
came from a document are, so that nothing more is lost however often a value is written and read.
-/

namespace ProjectionPlanner

theorem SegmentKind.ofDocument?_document {kind : SegmentKind} (inRange : kind.InRange) :
    ofDocument? kind.document = some kind := by
  cases kind with
  | scalar => rfl
  | nested => rfl
  | collection depth =>
      simp [document, ofDocument?, Document.tagged, Document.count?_count.mpr inRange]

theorem Segment.ofDocument?_document {segment : Segment} (inRange : segment.kind.InRange) :
    ofDocument? segment.document = some segment := by
  simp [document, ofDocument?, SegmentKind.ofDocument?_document inRange]

theorem ResolvedPath.ofDocument?_document {resolved : ResolvedPath}
    (inRange : resolved.InRange) : ofDocument? resolved.document = some resolved := by
  have segments : Document.list? Segment.ofDocument? (.ofList Segment.document resolved.segments) =
      some resolved.segments :=
    Document.list?_ofList fun segment member =>
      Segment.ofDocument?_document (inRange.segments segment member)
  simp [document, ofDocument?, segments, Document.count?_count.mpr inRange.collectionHops]

theorem ComputeStep.ofDocument?_document (step : ComputeStep) :
    ofDocument? step.document = some step := by
  cases step with
  | identity valueType => simp [document, ofDocument?, Document.tagged]
  | invoke method => simp [document, ofDocument?, Document.tagged]

theorem ReducerBinding.ofDocument?_document {binding : ReducerBinding}
    (inRange : binding.dependency < Document.countRange) :
    ofDocument? binding.document = some binding := by
  simp [document, ofDocument?, Document.count?_count.mpr inRange]

/-- A transformation that is missing is written as a null, and read as missing. -/
theorem optional_transform (transform : Option ResolvedMethod) (rest : Document.Members) :
    Document.Members.optional (("transform", .ofOption ResolvedMethod.document transform) :: rest)
      "transform" ResolvedMethod.ofDocument? = some transform := by
  cases transform with
  | none => exact Document.Members.optional_cons_null
  | some method =>
      rw [Document.ofOption, Document.Members.optional_cons_self method.document_ne_null,
        method.ofDocument?_document]
      rfl

theorem ComputedMapping.ofDocument?_document {mapping : ComputedMapping}
    (inRange : mapping.InRange) : ofDocument? mapping.document = some mapping := by
  have dependencies : Document.list? ResolvedPath.ofDocument?
      (.ofList ResolvedPath.document mapping.dependencies) = some mapping.dependencies :=
    Document.list?_ofList fun dependency member =>
      ResolvedPath.ofDocument?_document (inRange.dependencies dependency member)
  have reducers : Document.list? ReducerBinding.ofDocument?
      (.ofList ReducerBinding.document mapping.reducers) = some mapping.reducers :=
    Document.list?_ofList fun binding member =>
      ReducerBinding.ofDocument?_document (inRange.reducers binding member)
  simp [document, ofDocument?, dependencies, reducers, ComputeStep.ofDocument?_document,
    Document.list?_ofList, Document.Members.optional_cons_of_ne, optional_transform]

theorem FieldMapping.ofDocument?_document {mapping : FieldMapping} (inRange : mapping.InRange) :
    ofDocument? mapping.document = some mapping := by
  cases mapping with
  | implicit sourceField valueType nullable => simp [document, ofDocument?, Document.tagged]
  | explicit path =>
      have inner : path.InRange := inRange
      simp [document, ofDocument?, Document.tagged, ResolvedPath.ofDocument?_document inner]
  | computed mapping =>
      have inner : mapping.InRange := inRange
      simp [document, ofDocument?, Document.tagged, ComputedMapping.ofDocument?_document inner]

theorem Plan.ofDocument?_document {plan : Plan} (wellFormed : plan.WellFormed) :
    ofDocument? plan.document = some plan := by
  have fields : Document.pairs? FieldMapping.ofDocument?
      (.ofPairs FieldMapping.document plan.fields.toList) = some plan.fields.toList :=
    Document.pairs?_ofPairs fun entry member =>
      FieldMapping.ofDocument?_document (wellFormed.mappings _ (List.mem_map_of_mem member))
  simp [document, ofDocument?, SourceType.ofDocument?_document wellFormed.source, fields,
    Entries.ofList_toList]

/-- Every value is read back from its document as it was. A plan that was read back is explained as
    before and needs the same paths of its source. The entries of plans and of source types are
    written in their order, as pairs of a key and a value. The well-formed ones are all that can be
    read from any document. -/
theorem documents_read_back :
    (∀ plan : Plan, plan.WellFormed →
      ∃ decoded, Plan.ofDocument? plan.document = some decoded ∧ decoded = plan ∧
        decoded.explain = plan.explain ∧
        decoded.requiredSourcePaths = plan.requiredSourcePaths) ∧
    (∀ plan : Plan, (∃ document, Plan.ofDocument? document = some plan) ↔ plan.WellFormed) ∧
    (∀ plan : Plan, plan.document.members?.bind (·.lookup "fields") =
      some (.list (plan.fields.toList.map fun (key, mapping) =>
        .list [.text key, mapping.document]))) ∧
    (∀ source : SourceType, source.KeysDistinct →
      SourceType.ofDocument? source.document = some source) ∧
    (∀ source : SourceType,
      (∃ document, SourceType.ofDocument? document = some source) ↔ source.KeysDistinct) ∧
    (∀ source : SourceType, source.document.members?.bind (·.lookup "fields") =
      some (.list (source.fields.map fun (key, field) => .list [.text key, field.document]))) ∧
    (∀ declaration : Declaration,
      Declaration.ofDocument? declaration.document = some declaration) ∧
    (∀ registry : Registry, Registry.ofDocument? registry.document = some registry) ∧
    (∀ settings : Settings, Settings.ofDocument? settings.document = some settings) ∧
    (∀ report : Report, Report.ofDocument? report.document = some report) ∧
    (∀ failure : Failure, Failure.ofDocument? failure.document = some failure) := by
  refine ⟨?plans, ?readPlans, fun plan => rfl, fun _ => SourceType.ofDocument?_document,
    ?readSources, ?sourceFields, Declaration.ofDocument?_document, Registry.ofDocument?_document,
    Settings.ofDocument?_document, Report.ofDocument?_document, Failure.ofDocument?_document⟩
  case plans =>
    intro plan wellFormed
    exact ⟨plan, Plan.ofDocument?_document wellFormed, rfl, rfl, rfl⟩
  case readPlans =>
    intro plan
    exact ⟨fun ⟨_, read⟩ => Plan.wellFormed_of_read read,
      fun wellFormed => ⟨_, Plan.ofDocument?_document wellFormed⟩⟩
  case readSources =>
    intro source
    exact ⟨fun ⟨_, read⟩ => SourceType.keysDistinct_of_read read,
      fun distinct => ⟨_, SourceType.ofDocument?_document distinct⟩⟩
  case sourceFields =>
    intro source
    obtain ⟨name, fields⟩ := source
    rw [← entryDocuments_eq_map]
    rfl

/-- The plan of the order. Its total is transformed, its count is not. -/
def orderPlan : Plan where
  target := Build.orderBuild.declaration.name
  source := Build.orderBuild.source
  registry := Build.orderBuild.registry
  fields := Build.orderBuild.mappings

theorem orderPlan_read_back :
    orderPlan.WellFormed ∧ Plan.ofDocument? orderPlan.document = some orderPlan ∧
      orderPlan.source.KeysDistinct ∧
      SourceType.ofDocument? orderPlan.source.document = some orderPlan.source := by
  have wellFormed : orderPlan.WellFormed :=
    { source := ⟨by decide, trivial, ⟨by decide, trivial, trivial⟩, trivial⟩
      mappings := by decide }
  obtain ⟨plans, -, -, sources, -⟩ := documents_read_back
  obtain ⟨decoded, read, same, -, -⟩ := plans orderPlan wellFormed
  exact ⟨wellFormed, same ▸ read, wellFormed.source, sources orderPlan.source wellFormed.source⟩

end ProjectionPlanner

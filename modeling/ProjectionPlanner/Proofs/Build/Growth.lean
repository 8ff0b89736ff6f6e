import ProjectionPlanner.Proofs.Build.Outcomes
import ProjectionPlanner.Proofs.Source.Growth

/-! # Plans outlive the growth of their source

A plan that was made for a source type is made again, field by field the same, when the source type
has grown. The converse does not hold: a path that leads nowhere may lead somewhere later on.
-/

namespace ProjectionPlanner

namespace Build

variable {build : Build} {grown : SourceType} {target : TargetField} {computation : Computation}

/-- The build for another source type. -/
def reading (build : Build) (source : SourceType) : Build :=
  { build with source }

theorem Reads.of_growsTo {paths : List String} {dependencies : List ResolvedPath}
    (grows : build.source.growsTo grown = true) (read : build.Reads paths dependencies) :
    (build.reading grown).Reads paths dependencies :=
  read.imp fun _ _ leads => SourceType.resolve_of_growsTo grows leads

/-- What computes a field is found in the registry, whatever the source type. -/
theorem Computes.reading {dependencies : List ResolvedPath} {step : ComputeStep}
    (computes : build.Computes target computation dependencies step) (source : SourceType) :
    (build.reading source).Computes target computation dependencies step := by
  cases computes with
  | method found => exact .method found
  | argument missing passes =>
      exact .argument missing
        ⟨passes.allowed, passes.unnamed, passes.single, passes.argument, passes.fits⟩

theorem implicit_of_growsTo {mapping : FieldMapping} (grows : build.source.growsTo grown = true)
    (accepted : build.implicit target = .ok mapping) :
    (build.reading grown).implicit target = .ok mapping := by
  obtain ⟨field, found, fits, rfl⟩ := implicit_eq_ok_iff.mp accepted
  obtain ⟨kind, kept, kindGrows⟩ := SourceType.exists_field?_of_growsTo grows found
  have sameType := FieldKind.valueType_of_growsTo kindGrows
  refine implicit_eq_ok_iff.mpr ⟨_, kept, ?_, ?_⟩
  · rw [sameType]
    exact fits
  · rw [sameType]

theorem explicit_of_growsTo {path : String} {mapping : FieldMapping}
    (grows : build.source.growsTo grown = true)
    (accepted : build.explicit target path = .ok mapping) :
    (build.reading grown).explicit target path = .ok mapping := by
  obtain ⟨resolved, leads, fits, rfl⟩ := explicit_eq_ok_iff.mp accepted
  exact explicit_eq_ok_iff.mpr
    ⟨resolved, SourceType.resolve_of_growsTo grows leads, fits, rfl⟩

theorem computed_of_growsTo {mapping : FieldMapping} (grows : build.source.growsTo grown = true)
    (accepted : (build.computed target computation).result = .ok mapping) :
    ((build.reading grown).computed target computation).result = .ok mapping := by
  obtain ⟨dependencies, step, transform, reduces, computes, transforms, rfl⟩ :=
    computed_eq_ok_iff.mp accepted
  -- only the dependencies are looked up in the source type, what follows goes by their types
  have reduces : (build.reading grown).Reduces target computation dependencies :=
    ⟨reduces.roots, reduces.read.of_growsTo grows, reduces.paired, reduces.supported⟩
  exact computed_eq_ok_iff.mpr
    ⟨dependencies, step, transform, reduces, computes.reading grown, transforms, rfl⟩

theorem Resolves.of_growsTo {mapping : FieldMapping} (grows : build.source.growsTo grown = true)
    (resolves : build.Resolves target mapping) :
    (build.reading grown).Resolves target mapping := by
  unfold Resolves run at resolves ⊢
  cases directive : target.directive with
  | implicit =>
      rw [directive] at resolves
      exact implicit_of_growsTo grows resolves
  | explicit path =>
      rw [directive] at resolves
      exact explicit_of_growsTo grows resolves
  | computed computation =>
      rw [directive] at resolves
      exact computed_of_growsTo grows resolves

/-- A plan is made again when its source type has grown, with the same mapping for each field. -/
theorem result_of_growsTo {plan : Plan} (grows : build.source.growsTo grown = true)
    (made : build.result = .ok plan) :
    ∃ grownPlan, (build.reading grown).result = .ok grownPlan ∧
      grownPlan.fields = plan.fields :=
  exists_result_of_carried made rfl fun _ _ _ resolves => resolves.of_growsTo grows

/-- An order with more to it: other fields come first, and items have a name. -/
def grownOrder : SourceType where
  name := "Order"
  fields :=
    [("size", ⟨"size", .scalar .text, true⟩),
      ("items", ⟨"items",
        .collection (.object ⟨"Item",
          [("name", ⟨"name", .scalar .text, false⟩),
            ("price", ⟨"price", .scalar .decimal, false⟩)]⟩), false⟩),
      ("id", ⟨"id", .scalar .int64, false⟩)]

theorem orderBuild_grown :
    orderBuild.source.growsTo grownOrder = true ∧ grownOrder.growsTo orderBuild.source = false ∧
      ∃ plan grownPlan, orderBuild.result = .ok plan ∧
        (orderBuild.reading grownOrder).result = .ok grownPlan ∧
          grownPlan.fields = plan.fields := by
  have grows : orderBuild.source.growsTo grownOrder = true := by decide
  have made : orderBuild.result = .ok ⟨_, _, _, _⟩ := rfl
  obtain ⟨grownPlan, grownMade, sameFields⟩ := result_of_growsTo grows made
  exact ⟨grows, by decide, _, grownPlan, made, grownMade, sameFields⟩

end Build

end ProjectionPlanner

import ProjectionPlanner.Proofs.Build.Outcomes
import ProjectionPlanner.Proofs.Path.Walk

/-! # The paths that a plan reads

Whoever fetches what a plan reads goes by the paths that its mappings list. A path that was
resolved is listed as it was given, so that it leads in the source type of the plan to the very end
that the plan stores. A copied field is looked up by the name of the target field, but listed by the
name that it carries itself. The two are one as long as the source type keys the field by its name,
as the constructors do; a type that was read from a document may not.
-/

namespace ProjectionPlanner

namespace SourceType

variable {source : SourceType} {key : String}

/-- A field that is found under the key carries the key as its name. -/
def KeyedByName (source : SourceType) (key : String) : Prop :=
  ∀ field, source.field? key = some field → field.name = key

theorem keyedByName_of_fields (named : ∀ entry ∈ source.fields, entry.2.name = entry.1)
    (key : String) : source.KeyedByName key := by
  intro field found
  obtain ⟨before, after, split, -⟩ := List.lookup_eq_some_iff.mp found
  exact named (key, field) (by rw [split]; exact List.mem_append_right before List.mem_cons_self)

end SourceType

/-- In the source type of the plan the path leads to what the mapping says of it: to a field of the
    type and the flag that are copied, or to the end that is stored for the path. -/
def Plan.Follows (plan : Plan) (path : String) : FieldMapping → Prop
  | .implicit _ valueType nullable =>
      ∃ field, plan.source.field? path = some field ∧
        field.kind.valueType = valueType ∧ field.nullable = nullable
  | .explicit resolved => plan.source.resolve path = .ok resolved
  | .computed mapping =>
      ∀ resolved ∈ mapping.dependencies, resolved.path = path →
        plan.source.resolve path = .ok resolved

namespace Build

variable {build : Build} {target : TargetField} {plan : Plan} {mapping : FieldMapping}

/-- The dependencies of a computed field are stored for the paths they were found at. -/
theorem Reads.resolve_path {paths : List String} {dependencies : List ResolvedPath}
    (read : build.Reads paths dependencies) {resolved : ResolvedPath}
    (listed : resolved ∈ dependencies) : build.source.resolve resolved.path = .ok resolved := by
  obtain ⟨path, -, leads⟩ := exists_left_of_mem read listed
  rw [SourceType.path_of_resolve leads]
  exact leads

/-- A copied field stands under the name of the target field, and is listed by its own. -/
theorem Resolves.copies (resolves : build.Resolves target mapping)
    (copied : mapping.kind = .implicit) :
    ∃ field, build.source.field? target.name = some field ∧
      mapping = .implicit field.name field.kind.valueType field.nullable := by
  have kind := resolves.kind_eq.symm.trans copied
  unfold Resolves run at resolves
  cases directive : target.directive with
  | implicit =>
      rw [directive] at resolves
      obtain ⟨field, found, -, rfl⟩ := implicit_eq_ok_iff.mp resolves
      exact ⟨field, found, rfl⟩
  | explicit _ | computed _ => rw [directive] at kind; cases kind

theorem Resolves.follows (resolves : build.Resolves target mapping)
    (sameSource : plan.source = build.source) (uncopied : mapping.kind ≠ .implicit) {path : String}
    (listed : path ∈ mapping.sourcePaths) : plan.Follows path mapping := by
  have kind := resolves.kind_eq
  unfold Resolves run at resolves
  cases directive : target.directive with
  | implicit =>
      rw [directive] at kind
      exact absurd kind uncopied
  | explicit given =>
      rw [directive] at resolves
      obtain ⟨stored, leads, -, rfl⟩ := explicit_eq_ok_iff.mp resolves
      have samePath : path = stored.path := List.mem_singleton.mp listed
      rw [Plan.Follows, sameSource, samePath, SourceType.path_of_resolve leads]
      exact leads
  | computed computation =>
      rw [directive] at resolves
      obtain ⟨dependencies, _, _, reduces, -, -, rfl⟩ := computed_eq_ok_iff.mp resolves
      intro stored dependency samePath
      rw [sameSource, ← samePath]
      exact reduces.read.resolve_path dependency

/-- What a plan stores for a target field can be followed in the source type of the plan: a copied
    field under the name of the target field, and the other paths as they are listed. The path that
    is listed for a copied field can be followed if the source type keys that field by its name. -/
theorem plan_follows_sourcePaths {name path : String} (made : build.result = .ok plan)
    (stored : plan.get? name = some mapping) (listed : path ∈ mapping.sourcePaths) :
    (mapping.kind = .implicit → plan.Follows name mapping) ∧
      ((mapping.kind = .implicit → plan.source.KeyedByName name) → plan.Follows path mapping) := by
  obtain ⟨-, -, sameSource, -, -⟩ := result_eq_ok_iff.mp made
  obtain ⟨target, -, rfl, resolves⟩ := exists_declared_of_get? made stored
  by_cases copied : mapping.kind = .implicit
  · obtain ⟨field, found, rfl⟩ := resolves.copies copied
    have follows : plan.Follows target.name
        (.implicit field.name field.kind.valueType field.nullable) :=
      ⟨field, by rw [sameSource]; exact found, rfl, rfl⟩
    refine ⟨fun _ => follows, fun keyed => ?_⟩
    -- What is listed is the field's own name, and the field was found by the target's.
    have samePath : path = field.name := List.mem_singleton.mp listed
    rw [← sameSource] at found
    rw [samePath, keyed copied field found]
    exact follows
  · exact ⟨fun implicit => absurd implicit copied,
      fun _ => resolves.follows sameSource copied listed⟩

theorem orderBuild_follows_sourcePaths :
    ∃ plan copied computed, orderBuild.result = .ok plan ∧
      plan.get? "id" = some copied ∧ "id" ∈ copied.sourcePaths ∧ plan.Follows "id" copied ∧
      plan.get? "total" = some computed ∧ "items.price" ∈ computed.sourcePaths ∧
        plan.Follows "items.price" computed := by
  obtain ⟨plan, copied, parts, made, id, listsId, total, listsPrice⟩ :
      ∃ plan copied parts, orderBuild.result = .ok plan ∧
        plan.get? "id" = some copied ∧ "id" ∈ copied.sourcePaths ∧
        plan.get? "total" = some (.computed parts) ∧
        "items.price" ∈ (FieldMapping.computed parts).sourcePaths :=
    ⟨_, _, _, rfl, rfl, .head _, rfl, .head _⟩
  obtain ⟨-, -, sameSource, -, -⟩ := result_eq_ok_iff.mp made
  have keyed : plan.source.KeyedByName "id" := by
    intro field found
    rw [sameSource] at found
    cases found
    rfl
  have followsId := (plan_follows_sourcePaths made id listsId).2 fun _ => keyed
  have followsPrice := (plan_follows_sourcePaths made total listsPrice).2 nofun
  exact ⟨plan, copied, _, made, id, listsId, followsId, total, listsPrice, followsPrice⟩

/-- A source type that keys its only field by another name than its own, and a copy of that
    field. -/
def renamedBuild : Build where
  source := ⟨"Order", [("id", ⟨"number", .scalar .int64, false⟩)]⟩
  declaration := ⟨"OrderView", [⟨"id", .scalar .int64, .implicit⟩]⟩

/-- The copy is planned, but the path that is listed for it leads nowhere. -/
theorem renamedBuild_not_follows :
    ∃ plan mapping, renamedBuild.result = .ok plan ∧ plan.get? "id" = some mapping ∧
      "number" ∈ mapping.sourcePaths ∧ plan.source.field? "number" = none ∧
      ¬ plan.Follows "number" mapping := by
  refine ⟨_, .implicit "number" (.scalar .int64) false, rfl, rfl, .head _, rfl, ?_⟩
  rintro ⟨_, found, -⟩
  cases found

end Build

end ProjectionPlanner

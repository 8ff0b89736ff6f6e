import Mathlib.Data.List.Sort
import ProjectionPlanner.Proofs.Build.SourcePaths

/-! # What has to be fetched

A plan lists every path that it reads, for whoever fetches the data. The list is described here by
what it says of the reading, the paths of all mappings one after the other: each path stands in it
once, in the order in which the paths are met first. There is only one such list. A plan that was
made reads the paths that its declaration names, so that its list depends neither on methods nor on
settings.
-/

namespace ProjectionPlanner

/-! ## First occurrences -/

/-- The items of a reading, each of them once, in the order in which they are met first. -/
structure FirstOccurrences (reading listed : List String) : Prop where
  once : listed.Nodup
  mem_iff : ∀ item, item ∈ listed ↔ item ∈ reading
  inOrder : listed.Pairwise fun earlier later => reading.idxOf earlier < reading.idxOf later

/-- Of every reading there is one such list. -/
theorem FirstOccurrences.unique {reading left right : List String}
    (first : FirstOccurrences reading left) (second : FirstOccurrences reading right) :
    left = right := by
  have irreflexive : Std.Irrefl fun earlier later =>
      reading.idxOf earlier < reading.idxOf later := ⟨fun _ => Nat.lt_irrefl _⟩
  have antisymmetric : Std.Antisymm fun earlier later =>
      reading.idxOf earlier < reading.idxOf later :=
    ⟨fun _ _ before after => absurd before (Nat.lt_asymm after)⟩
  exact first.inOrder.eq_of_mem_iff second.inOrder fun item =>
    (first.mem_iff item).trans (second.mem_iff item).symm

theorem mem_firstOccurrences {seen items : List String} {item : String} :
    item ∈ firstOccurrences seen items ↔ item ∈ items ∧ item ∉ seen := by
  induction items generalizing seen with
  | nil => simp [firstOccurrences]
  | cons first rest ih =>
      rw [firstOccurrences]
      split
      · rename_i known
        rw [ih, List.mem_cons]
        constructor
        · rintro ⟨later, fresh⟩
          exact ⟨.inr later, fresh⟩
        · rintro ⟨rfl | later, fresh⟩
          · exact absurd known fresh
          · exact ⟨later, fresh⟩
      · rename_i new
        rw [List.mem_cons, ih, List.mem_cons, List.mem_cons, not_or]
        constructor
        · rintro (rfl | ⟨later, -, fresh⟩)
          · exact ⟨.inl rfl, new⟩
          · exact ⟨.inr later, fresh⟩
        · rintro ⟨rfl | later, fresh⟩
          · exact .inl rfl
          · by_cases same : item = first
            · exact .inl same
            · exact .inr ⟨later, same, fresh⟩

/-- What is met in some order is met in that order after one more item that is none of it. -/
theorem pairwise_idxOf_cons {item : String} {rest items : List String} (apart : item ∉ items)
    (inOrder : items.Pairwise fun earlier later => rest.idxOf earlier < rest.idxOf later) :
    items.Pairwise fun earlier later =>
      (item :: rest).idxOf earlier < (item :: rest).idxOf later := by
  refine inOrder.imp_of_mem fun {earlier later} listed laterListed before => ?_
  have other : item ≠ earlier := fun same => apart (same ▸ listed)
  have laterOther : item ≠ later := fun same => apart (same ▸ laterListed)
  rw [List.idxOf_cons_ne _ other, List.idxOf_cons_ne _ laterOther]
  exact Nat.succ_lt_succ before

theorem pairwise_firstOccurrences (seen items : List String) :
    (firstOccurrences seen items).Pairwise fun earlier later =>
      items.idxOf earlier < items.idxOf later := by
  induction items generalizing seen with
  | nil => exact .nil
  | cons first rest ih =>
      rw [firstOccurrences]
      split
      · rename_i known
        have apart : first ∉ firstOccurrences seen rest :=
          fun listed => (mem_firstOccurrences.mp listed).2 known
        exact pairwise_idxOf_cons apart (ih seen)
      · -- the new item comes first of all, since from here on it counts as seen
        have apart : first ∉ firstOccurrences (first :: seen) rest :=
          fun listed => (mem_firstOccurrences.mp listed).2 List.mem_cons_self
        refine .cons (fun later listed => ?_) (pairwise_idxOf_cons apart (ih (first :: seen)))
        have other : first ≠ later := fun same => apart (same ▸ listed)
        rw [List.idxOf_cons_self, List.idxOf_cons_ne _ other]
        exact Nat.succ_pos _

theorem firstOccurrences_of_list (items : List String) :
    FirstOccurrences items (firstOccurrences [] items) where
  once := (pairwise_firstOccurrences [] items).imp fun before same => by
    rw [same] at before
    exact Nat.lt_irrefl _ before
  mem_iff item := by simp [mem_firstOccurrences]
  inOrder := pairwise_firstOccurrences [] items

/-! ## Readings -/

/-- The paths that the mappings read, mapping after mapping, repeated ones included. -/
def Plan.reading (plan : Plan) : List String :=
  plan.fields.values.flatMap FieldMapping.sourcePaths

theorem Plan.mem_reading {plan : Plan} {path : String} :
    path ∈ plan.reading ↔
      ∃ name mapping, plan.get? name = some mapping ∧ path ∈ mapping.sourcePaths := by
  simp only [reading, Entries.values, List.mem_flatMap, List.mem_map, Plan.get?,
    Entries.get?_eq_some_iff]
  constructor
  · rintro ⟨_, ⟨⟨name, mapping⟩, listed, rfl⟩, reads⟩
    exact ⟨name, mapping, listed, reads⟩
  · rintro ⟨name, mapping, listed, reads⟩
    exact ⟨mapping, ⟨(name, mapping), listed, rfl⟩, reads⟩

/-- The paths that a target field names. A copied field names itself. -/
def TargetField.paths (target : TargetField) : List String :=
  match target.directive with
  | .implicit => [target.name]
  | .explicit path => [path]
  | .computed computation => computation.dependsOn

/-- The paths that the fields name, in declaration order. -/
def Declaration.paths (declaration : Declaration) : List String :=
  declaration.fields.flatMap TargetField.paths

namespace Build

variable {build : Build} {target : TargetField} {plan : Plan}

theorem Reads.map_path {paths : List String} {dependencies : List ResolvedPath}
    (read : build.Reads paths dependencies) : dependencies.map (·.path) = paths := by
  induction read with
  | nil => rfl
  | cons leads _ ih => rw [List.map_cons, SourceType.path_of_resolve leads, ih]

/-- A field reads what it names, if the source type keys its fields by their names. -/
theorem Resolves.sourcePaths_eq {mapping : FieldMapping} (resolves : build.Resolves target mapping)
    (keyed : ∀ key, build.source.KeyedByName key) : mapping.sourcePaths = target.paths := by
  unfold Resolves run at resolves
  unfold TargetField.paths
  cases directive : target.directive with
  | implicit =>
      rw [directive] at resolves
      obtain ⟨field, found, -, rfl⟩ := implicit_eq_ok_iff.mp resolves
      exact congrArg ([·]) (keyed target.name field found)
  | explicit path =>
      rw [directive] at resolves
      obtain ⟨resolved, leads, -, rfl⟩ := explicit_eq_ok_iff.mp resolves
      exact congrArg ([·]) (SourceType.path_of_resolve leads)
  | computed computation =>
      rw [directive] at resolves
      obtain ⟨dependencies, _, _, reduces, -, -, rfl⟩ := computed_eq_ok_iff.mp resolves
      exact reduces.read.map_path

/-- Mappings of fields, one for each of them, read what the fields name. -/
theorem flatMap_sourcePaths_of_resolves {fields : List TargetField} {mappings : List FieldMapping}
    (resolve : List.Forall₂ build.Resolves fields mappings)
    (keyed : ∀ key, build.source.KeyedByName key) :
    mappings.flatMap FieldMapping.sourcePaths = fields.flatMap TargetField.paths := by
  induction resolve with
  | nil => rfl
  | cons first _ ih => rw [List.flatMap_cons, List.flatMap_cons, first.sourcePaths_eq keyed, ih]

theorem reading_of_result (made : build.result = .ok plan)
    (keyed : ∀ key, build.source.KeyedByName key) : plan.reading = build.declaration.paths := by
  obtain ⟨-, -, -, -, plans⟩ := result_eq_ok_iff.mp made
  exact flatMap_sourcePaths_of_resolves (values_of_plans plans) keyed

theorem firstOccurrences_of_result (made : build.result = .ok plan)
    (keyed : ∀ key, build.source.KeyedByName key) :
    FirstOccurrences build.declaration.paths plan.requiredSourcePaths := by
  rw [← reading_of_result made keyed]
  exact firstOccurrences_of_list plan.reading

/-- A plan lists the paths that its mappings read, each once and in the order of first use. If it
    was made from a source type that keys its fields by their names, these are the first occurrences
    among the paths that the declaration names, whatever the settings and the registry. -/
theorem requiredSourcePaths_are_first_uses :
    (∀ plan : Plan, FirstOccurrences plan.reading plan.requiredSourcePaths ∧
      ∀ path, path ∈ plan.requiredSourcePaths ↔
        ∃ name mapping, plan.get? name = some mapping ∧ path ∈ mapping.sourcePaths) ∧
    ∀ (build : Build) (plan : Plan), build.result = .ok plan →
      (∀ key, build.source.KeyedByName key) →
        FirstOccurrences build.declaration.paths plan.requiredSourcePaths ∧
        ∀ settings registry other, { build with settings, registry }.result = .ok other →
          other.requiredSourcePaths = plan.requiredSourcePaths := by
  constructor
  · intro plan
    have listed := firstOccurrences_of_list plan.reading
    exact ⟨listed, fun path => (listed.mem_iff path).trans Plan.mem_reading⟩
  · intro build plan made keyed
    have listed := firstOccurrences_of_result made keyed
    refine ⟨listed, fun settings registry other otherMade => ?_⟩
    have otherListed := firstOccurrences_of_result otherMade keyed
    exact otherListed.unique listed

/-- The small order reads the prices twice, and they are listed once. With widening the size is
    computed by another method, from the same prices. -/
theorem orderBuild_requiredSourcePaths :
    ∃ plan widened, orderBuild.result = .ok plan ∧
      plan.reading = ["id", "items.price", "items.price"] ∧
      FirstOccurrences ["id", "items.price", "items.price"] plan.requiredSourcePaths ∧
      { orderBuild with settings := { numericWidening := true } }.result = .ok widened ∧
      widened.get? "size" ≠ plan.get? "size" ∧
      widened.requiredSourcePaths = plan.requiredSourcePaths := by
  have made : orderBuild.result = .ok ⟨_, _, _, _⟩ := rfl
  have widenedMade :
      { orderBuild with settings := { numericWidening := true } }.result = .ok ⟨_, _, _, _⟩ := rfl
  have named : ∀ entry ∈ orderBuild.source.fields, entry.2.name = entry.1 := by
    simp [orderBuild]
  obtain ⟨listed, same⟩ := requiredSourcePaths_are_first_uses.2 orderBuild _ made
    (SourceType.keyedByName_of_fields named)
  exact ⟨_, _, made, rfl, listed, widenedMade, by decide, same _ _ _ widenedMade⟩

end Build

end ProjectionPlanner

import Mathlib.Data.List.Forall2
import ProjectionPlanner.Build.Outcome
import ProjectionPlanner.Proofs.Build.Stages

/-! # All or nothing

A build makes a plan of all its fields or reports everything that is wrong with them. Here the
fields' outcomes are described by their positions, and from that the two results: the plan lists
the mappings in declaration order, and the diagnostics come in blocks, one for each field that is
rejected. A name that was declared before is never planned again, whatever its directive says.
-/

namespace ProjectionPlanner

/-- The names of the declared fields, in order, repeated ones included. -/
def Declaration.names (declaration : Declaration) : List String :=
  declaration.fields.map (·.name)

/-- The kind of mapping that a directive asks for. -/
def Directive.kind : Directive → MappingKind
  | .implicit => .implicit
  | .explicit _ => .explicit
  | .computed _ => .computed

namespace Build

variable {build : Build} {target : TargetField}

/-- Taken by itself, the field is planned this way. -/
def Resolves (build : Build) (target : TargetField) (mapping : FieldMapping) : Prop :=
  (build.run target).result = .ok mapping

theorem Resolves.kind_eq {mapping : FieldMapping} (resolves : build.Resolves target mapping) :
    mapping.kind = target.directive.kind := by
  unfold Resolves run at resolves
  cases directive : target.directive with
  | implicit =>
      rw [directive] at resolves
      obtain ⟨_, -, -, rfl⟩ := implicit_eq_ok_iff.mp resolves
      rfl
  | explicit path =>
      rw [directive] at resolves
      obtain ⟨_, -, -, rfl⟩ := explicit_eq_ok_iff.mp resolves
      rfl
  | computed computation =>
      rw [directive] at resolves
      obtain ⟨_, _, _, -, -, -, rfl⟩ := computed_eq_ok_iff.mp resolves
      rfl

/-- A computed mapping comes from a computed field, all of whose stages were passed. -/
theorem Resolves.exists_parts {mapping : ComputedMapping}
    (resolves : build.Resolves target (.computed mapping)) :
    ∃ computation dependencies step transform, target.directive = .computed computation ∧
      build.Reduces target computation dependencies ∧
      build.Computes target computation dependencies step ∧
      (build.transform? target step.returns computation.transformedBy).result = .ok transform ∧
      mapping = mappingOf computation dependencies step transform := by
  have kind := resolves.kind_eq
  unfold Resolves run at resolves
  cases directive : target.directive with
  | implicit | explicit _ => rw [directive] at kind; cases kind
  | computed computation =>
      rw [directive] at resolves
      obtain ⟨dependencies, step, transform, reduces, computes, transforms, same⟩ :=
        computed_eq_ok_iff.mp resolves
      cases same
      exact ⟨computation, dependencies, step, transform, rfl, reduces, computes, transforms, rfl⟩

/-! ## Outcomes by position -/

/-- What becomes of a field that stands after fields of some names. -/
def stageAfter (build : Build) (earlier : List String) (target : TargetField) :
    Stage FieldMapping :=
  if target.name ∈ earlier then ⟨.error (.single .duplicateTargetField), []⟩ else build.run target

theorem outcomesAfter_cons (seen : List String) (target : TargetField) (rest : List TargetField) :
    build.outcomesAfter seen (target :: rest) =
      ⟨target, build.stageAfter seen target⟩ ::
        build.outcomesAfter (target.name :: seen) rest := rfl

theorem getElem?_outcomesAfter (build : Build) (seen : List String) (fields : List TargetField)
    (position : Nat) :
    (build.outcomesAfter seen fields)[position]? =
      fields[position]?.map fun target =>
        ⟨target, build.stageAfter (seen ++ (fields.take position).map (·.name)) target⟩ := by
  induction fields generalizing seen position with
  | nil => rfl
  | cons first rest ih =>
      rw [outcomesAfter_cons]
      cases position with
      | zero => simp
      | succ position =>
          simp only [List.getElem?_cons_succ, ih]
          -- the first name is seen now and was among the earlier ones before: of the two lists
          -- only their members count
          have sameNames : ∀ name,
              name ∈ first.name :: seen ++ (rest.take position).map (·.name) ↔
                name ∈ seen ++ ((first :: rest).take (position + 1)).map (·.name) := by
            intro name
            simp [or_left_comm]
          simp only [stageAfter, sameNames]

theorem length_outcomesAfter (build : Build) (seen : List String) (fields : List TargetField) :
    (build.outcomesAfter seen fields).length = fields.length := by
  induction fields generalizing seen with
  | nil => rfl
  | cons first rest ih => rw [outcomesAfter_cons, List.length_cons, List.length_cons, ih]

/-- The outcome of a field depends on its position only through the names before it. -/
theorem getElem?_outcomes (build : Build) (position : Nat) :
    build.outcomes[position]? =
      build.declaration.fields[position]?.map fun target =>
        ⟨target, build.stageAfter ((build.declaration.fields.take position).map (·.name))
          target⟩ := by
  exact build.getElem?_outcomesAfter [] build.declaration.fields position

/-- Where names differ every field is planned by itself. -/
theorem outcomesAfter_of_distinct {seen : List String} {fields : List TargetField}
    (distinct : (fields.map (·.name)).Nodup) (fresh : ∀ target ∈ fields, target.name ∉ seen) :
    build.outcomesAfter seen fields = fields.map fun target => ⟨target, build.run target⟩ := by
  induction fields generalizing seen with
  | nil => rfl
  | cons first rest ih =>
      rw [List.map_cons, List.nodup_cons] at distinct
      rw [List.forall_mem_cons] at fresh
      have restFresh : ∀ target ∈ rest, target.name ∉ first.name :: seen := by
        intro target later
        rw [List.mem_cons, not_or]
        refine ⟨fun same => distinct.1 ?_, fresh.2 target later⟩
        exact same ▸ List.mem_map_of_mem later
      rw [outcomesAfter_cons, ih distinct.2 restFresh, stageAfter, if_neg fresh.1]
      rfl

theorem outcomes_of_distinct (distinct : build.declaration.names.Nodup) :
    build.outcomes = build.declaration.fields.map fun target => ⟨target, build.run target⟩ :=
  outcomesAfter_of_distinct distinct fun _ _ => List.not_mem_nil

theorem errors_stageAfter (earlier : List String) (target : TargetField) :
    FieldOutcome.errors ⟨target, build.stageAfter earlier target⟩ =
      (reasons (build.stageAfter earlier target).result).map (⟨target.name, ·⟩) := by
  unfold FieldOutcome.errors
  cases (build.stageAfter earlier target).result <;> rfl

theorem stageAfter_eq_ok_iff {earlier : List String} {mapping : FieldMapping} :
    (build.stageAfter earlier target).result = .ok mapping ↔
      target.name ∉ earlier ∧ build.Resolves target mapping := by
  unfold stageAfter
  split <;> simp_all [Resolves]

theorem errors_stageAfter_of_mem {earlier : List String} (repeated : target.name ∈ earlier) :
    FieldOutcome.errors ⟨target, build.stageAfter earlier target⟩ =
      [⟨target.name, .duplicateTargetField⟩] := by
  rw [errors_stageAfter, stageAfter, if_pos repeated]
  rfl

theorem errors_stageAfter_eq_nil_iff {earlier : List String} :
    FieldOutcome.errors ⟨target, build.stageAfter earlier target⟩ = [] ↔
      target.name ∉ earlier ∧ ∃ mapping, build.Resolves target mapping := by
  rw [errors_stageAfter, List.map_eq_nil_iff, reasons_eq_nil_iff]
  simp [stageAfter_eq_ok_iff]

/-! ## Success -/

/-- The entry says how the field is planned. -/
def Plans (build : Build) (target : TargetField) (entry : String × FieldMapping) : Prop :=
  entry.1 = target.name ∧ build.Resolves target entry.2

theorem Plans.unique {left right : String × FieldMapping} (first : build.Plans target left)
    (second : build.Plans target right) : left = right := by
  have same : Except.ok left.2 = Except.ok right.2 := first.2.symm.trans second.2
  exact Prod.ext (first.1.trans second.1.symm) (Except.ok.inj same)

theorem errors_outcomesAfter_eq_nil_iff {seen : List String} {fields : List TargetField} :
    (build.outcomesAfter seen fields).flatMap FieldOutcome.errors = [] ↔
      (∀ target ∈ fields, target.name ∉ seen) ∧ (fields.map (·.name)).Nodup ∧
        ∀ target ∈ fields, ∃ mapping, build.Resolves target mapping := by
  induction fields generalizing seen with
  | nil => simp [outcomesAfter]
  | cons first rest ih =>
      rw [outcomesAfter_cons, List.flatMap_cons, List.append_eq_nil_iff,
        errors_stageAfter_eq_nil_iff, ih]
      rw [List.map_cons, List.nodup_cons, List.forall_mem_cons, List.forall_mem_cons]
      simp only [List.mem_cons, not_or, List.mem_map, not_exists, not_and]
      constructor
      · intro clean
        obtain ⟨⟨fresh, resolves⟩, others, distinct, restResolve⟩ := clean
        exact ⟨⟨fresh, fun other later => (others other later).2⟩,
          ⟨fun other later => (others other later).1, distinct⟩, resolves, restResolve⟩
      · intro clean
        obtain ⟨⟨fresh, restFresh⟩, ⟨others, distinct⟩, resolves, restResolve⟩ := clean
        exact ⟨⟨fresh, resolves⟩, fun other later => ⟨others other later, restFresh other later⟩,
          distinct, restResolve⟩

/-- Fields without diagnostics leave one entry each, in order. -/
theorem plans_outcomesAfter {seen : List String} {fields : List TargetField}
    (clean : (build.outcomesAfter seen fields).flatMap FieldOutcome.errors = []) :
    List.Forall₂ build.Plans fields
      ((build.outcomesAfter seen fields).filterMap FieldOutcome.entry?) := by
  induction fields generalizing seen with
  | nil => exact .nil
  | cons first rest ih =>
      rw [outcomesAfter_cons, List.flatMap_cons, List.append_eq_nil_iff] at clean
      obtain ⟨fresh, mapping, resolves⟩ := errors_stageAfter_eq_nil_iff.mp clean.1
      have entry : FieldOutcome.entry? ⟨first, build.stageAfter seen first⟩ =
          some (first.name, mapping) := by
        unfold FieldOutcome.entry?
        rw [stageAfter_eq_ok_iff.mpr ⟨fresh, resolves⟩]
      rw [outcomesAfter_cons, List.filterMap_cons, entry]
      exact .cons ⟨rfl, resolves⟩ (ih clean.2)

theorem map_fst_of_plans {fields : List TargetField} {entries : List (String × FieldMapping)}
    (plans : List.Forall₂ build.Plans fields entries) :
    entryKeys entries = fields.map (·.name) := by
  induction plans with
  | nil => rfl
  | cons first _ ih => simp [first.1, ih]

theorem errors_eq_nil_iff :
    build.errors = [] ↔
      build.declaration.names.Nodup ∧
        ∀ target ∈ build.declaration.fields, ∃ mapping, build.Resolves target mapping := by
  unfold Build.errors outcomes
  rw [errors_outcomesAfter_eq_nil_iff]
  simp [Declaration.names]

theorem plans_mappings (clean : build.errors = []) :
    List.Forall₂ build.Plans build.declaration.fields build.mappings.toList := by
  have plans : List.Forall₂ build.Plans build.declaration.fields
      (build.outcomes.filterMap FieldOutcome.entry?) := plans_outcomesAfter clean
  have distinct := (errors_eq_nil_iff.mp clean).1
  rw [Declaration.names, ← map_fst_of_plans plans] at distinct
  rw [mappings, Entries.toList_ofList distinct]
  exact plans

/-- A plan is made exactly when the names differ and every field is planned by itself, and its
    entries stand in the order of the fields. -/
theorem result_eq_ok_iff {plan : Plan} :
    build.result = .ok plan ↔
      build.declaration.names.Nodup ∧ plan.target = build.declaration.name ∧
        plan.source = build.source ∧ plan.registry = build.registry ∧
        List.Forall₂ build.Plans build.declaration.fields plan.fields.toList := by
  unfold result
  constructor
  · intro made
    split at made
    · rename_i clean
      have clean := List.isEmpty_iff.mp clean
      cases made
      exact ⟨(errors_eq_nil_iff.mp clean).1, rfl, rfl, rfl, plans_mappings clean⟩
    · cases made
  · intro described
    obtain ⟨distinct, sameTarget, sameSource, sameRegistry, plans⟩ := described
    have resolve : ∀ target ∈ build.declaration.fields,
        ∃ mapping, build.Resolves target mapping := by
      intro target declared
      obtain ⟨entry, -, planned⟩ := exists_right_of_mem plans declared
      exact ⟨entry.2, planned.2⟩
    have clean := errors_eq_nil_iff.mpr ⟨distinct, resolve⟩
    have sameFields : build.mappings = plan.fields :=
      Entries.ext (List.right_unique_forall₂' (fun _ _ _ first second => first.unique second)
        (plans_mappings clean) plans)
    obtain ⟨_, _, _, _⟩ := plan
    simp only at sameTarget sameSource sameRegistry sameFields
    simp [clean, sameTarget, sameSource, sameRegistry, sameFields]

theorem keys_of_plans {fields : List TargetField} {entries : Entries String FieldMapping}
    (plans : List.Forall₂ build.Plans fields entries.toList) :
    entries.keys = fields.map (·.name) :=
  map_fst_of_plans plans

theorem values_of_plans {fields : List TargetField} {entries : Entries String FieldMapping}
    (plans : List.Forall₂ build.Plans fields entries.toList) :
    List.Forall₂ build.Resolves fields entries.values :=
  List.forall₂_map_right_iff.mpr (plans.imp fun _ _ planned => planned.2)

theorem kinds_of_resolves {fields : List TargetField} {mappings : List FieldMapping}
    (resolve : List.Forall₂ build.Resolves fields mappings) :
    mappings.map FieldMapping.kind = fields.map (·.directive.kind) := by
  induction resolve with
  | nil => rfl
  | cons first _ ih => rw [List.map_cons, List.map_cons, first.kind_eq, ih]

/-- In a plan every declared field is found under its name, planned as it would be by itself. -/
theorem exists_get?_of_result {plan : Plan} (made : build.result = .ok plan)
    (declared : target ∈ build.declaration.fields) :
    ∃ mapping, plan.get? target.name = some mapping ∧ build.Resolves target mapping := by
  obtain ⟨-, -, -, -, plans⟩ := result_eq_ok_iff.mp made
  obtain ⟨⟨name, mapping⟩, listed, sameName, resolves⟩ := exists_right_of_mem plans declared
  cases sameName
  exact ⟨mapping, Entries.get?_eq_some_iff.mpr listed, resolves⟩

theorem exists_computed_of_result {plan : Plan} {computation : Computation}
    (made : build.result = .ok plan) (declared : target ∈ build.declaration.fields)
    (directive : target.directive = .computed computation) :
    ∃ mapping, plan.get? target.name = some (.computed mapping) ∧
      build.Resolves target (.computed mapping) := by
  obtain ⟨mapping, stored, resolves⟩ := exists_get?_of_result made declared
  have kind := resolves.kind_eq
  rw [directive] at kind
  cases mapping with
  | implicit | explicit => cases kind
  | computed mapping => exact ⟨mapping, stored, resolves⟩

/-- Whatever stands in a plan is planned for a declared field. -/
theorem exists_declared_of_get? {plan : Plan} {name : String} {mapping : FieldMapping}
    (made : build.result = .ok plan) (stored : plan.get? name = some mapping) :
    ∃ target ∈ build.declaration.fields, target.name = name ∧ build.Resolves target mapping := by
  obtain ⟨-, -, -, -, plans⟩ := result_eq_ok_iff.mp made
  obtain ⟨target, declared, sameName, resolves⟩ :=
    exists_left_of_mem plans (Entries.get?_eq_some_iff.mp stored)
  exact ⟨target, declared, sameName.symm, resolves⟩

/-- A plan is carried over to another build of the same fields if each field is. -/
theorem exists_result_of_carried {other : Build} {plan : Plan} (made : build.result = .ok plan)
    (sameDeclaration : other.declaration = build.declaration)
    (carried : ∀ target ∈ build.declaration.fields, ∀ mapping,
      build.Resolves target mapping → other.Resolves target mapping) :
    ∃ otherPlan, other.result = .ok otherPlan ∧ otherPlan.fields = plan.fields := by
  obtain ⟨distinct, -, -, -, plans⟩ := result_eq_ok_iff.mp made
  have declaredPlans : List.Forall₂
      (fun target entry => target ∈ build.declaration.fields ∧ build.Plans target entry)
      build.declaration.fields plan.fields.toList :=
    (List.forall₂_and_left _ _).mpr ⟨fun _ declared => declared, plans⟩
  have otherPlans : List.Forall₂ other.Plans other.declaration.fields plan.fields.toList := by
    rw [sameDeclaration]
    exact declaredPlans.imp fun target entry planned =>
      ⟨planned.2.1, carried target planned.1 entry.2 planned.2.2⟩
  refine ⟨⟨other.declaration.name, other.source, other.registry, plan.fields⟩, ?_, rfl⟩
  exact result_eq_ok_iff.mpr ⟨by rw [sameDeclaration]; exact distinct, rfl, rfl, rfl, otherPlans⟩

/-! ## Failure -/

theorem result_eq_error_iff {failure : BuildErrors} :
    build.result = .error failure ↔
      build.errors ≠ [] ∧ failure = ⟨build.declaration.name, build.errors⟩ := by
  unfold result
  cases clean : build.errors with
  | nil => simp
  | cons first rest => simp [eq_comm]

/-- Whatever is reported tells of a declared field that its name is repeated, or is among what is
    wrong with the field by itself. -/
theorem exists_reason_of_reported {failure : BuildErrors} {error : PlanError}
    (failed : build.result = .error failure) (reported : error ∈ failure.errors) :
    ∃ target ∈ build.declaration.fields, error.field = target.name ∧
      (error.kind = .duplicateTargetField ∨ error.kind ∈ reasons (build.run target).result) := by
  obtain ⟨-, rfl⟩ := result_eq_error_iff.mp failed
  obtain ⟨outcome, planned, about⟩ := List.mem_flatMap.mp reported
  obtain ⟨position, there⟩ := List.getElem?_of_mem planned
  rw [getElem?_outcomes] at there
  obtain ⟨target, stands, rfl⟩ := Option.map_eq_some_iff.mp there
  rw [errors_stageAfter] at about
  obtain ⟨kind, wrong, rfl⟩ := List.mem_map.mp about
  refine ⟨target, List.mem_of_getElem? stands, rfl, ?_⟩
  unfold stageAfter at wrong
  split at wrong
  · exact .inl (List.mem_singleton.mp wrong)
  · exact .inr wrong

theorem exists_result_eq_ok_iff :
    (∃ plan, build.result = .ok plan) ↔
      build.declaration.names.Nodup ∧
        ∀ target ∈ build.declaration.fields, ∃ mapping, build.Resolves target mapping := by
  rw [← errors_eq_nil_iff]
  constructor
  · intro success
    obtain ⟨plan, made⟩ := success
    by_contra faulty
    have failed := result_eq_error_iff.mpr ⟨faulty, rfl⟩
    rw [made] at failed
    cases failed
  · intro clean
    exact ⟨_, by rw [result, clean]; rfl⟩

/-- The total of an order: the sum of its prices, formatted. -/
def orderTotal : Computation where
  dependsOn := ["items.price"]
  transformedBy := some { name := some "format" }
  reducers := [.sum]

/-- A small order and its view. Two methods could say how many items there are, but without
    widening only the second fits. -/
def orderBuild : Build where
  source := ⟨"Order",
    [("id", ⟨"id", .scalar .int64, false⟩),
      ("items", ⟨"items",
        .collection (.object ⟨"Item", [("price", ⟨"price", .scalar .decimal, false⟩)]⟩), false⟩)]⟩
  declaration := ⟨"OrderView",
    [⟨"id", .scalar .int64, .implicit⟩,
      ⟨"size", .scalar .int64, .computed { dependsOn := ["items.price"], reducers := [.count] }⟩,
      ⟨"total", .scalar .text, .computed orderTotal⟩]⟩
  registry := ⟨
    [{ id := "Counts", methods := [⟨"getSize", [.scalar .int64], .scalar .int32, .static⟩] },
      { id := "Texts",
        methods := [⟨"getSize", [.scalar .int64], .scalar .int64, .static⟩,
          ⟨"format", [.scalar .decimal], .scalar .text, .static⟩] }]⟩

/-- The small order without its total. -/
def sizeBuild : Build :=
  { orderBuild with declaration := ⟨"SizeView", orderBuild.declaration.fields.take 2⟩ }

example : ∃ plan, orderBuild.result = .ok plan := ⟨_, rfl⟩

/-- The block of diagnostics about a field that stands after some others. -/
structure Reports (build : Build) (earlier : List TargetField) (target : TargetField)
    (block : List PlanError) : Prop where
  /-- It is about this field alone. -/
  named : ∀ error ∈ block, error.field = target.name
  /-- Of a name that was declared before, the repetition is reported and nothing else. -/
  repeated : target.name ∈ earlier.map (·.name) →
    block = [⟨target.name, .duplicateTargetField⟩]
  /-- The first field of a name is judged by itself, and leaves no block if it is planned. -/
  resolved : target.name ∉ earlier.map (·.name) →
    ∀ mapping, build.Resolves target mapping → block = []
  rejected : target.name ∉ earlier.map (·.name) →
    ∀ rejection, (build.run target).result = .error rejection →
      block ≠ [] ∧ block = rejection.toList.map (⟨target.name, ·⟩)

theorem reports_stageAfter (build : Build) (earlier : List TargetField) (target : TargetField) :
    build.Reports earlier target
      (FieldOutcome.errors ⟨target, build.stageAfter (earlier.map (·.name)) target⟩) := by
  constructor
  · intro error member
    rw [errors_stageAfter] at member
    obtain ⟨kind, -, rfl⟩ := List.mem_map.mp member
    rfl
  · intro repeated
    exact errors_stageAfter_of_mem repeated
  · intro fresh mapping resolves
    exact errors_stageAfter_eq_nil_iff.mpr ⟨fresh, mapping, resolves⟩
  · intro fresh rejection fails
    rw [errors_stageAfter, stageAfter, if_neg fresh, fails]
    exact ⟨by simp [reasons, Rejection.toList], rfl⟩

/-! ## Diagnostics by name -/

/-- What a build reports about the fields of a name; nothing if it makes a plan. -/
def diagnosticsFor (build : Build) (name : String) : List PlanError :=
  match build.result with
  | .ok _ => []
  | .error failure => failure.forField name

theorem diagnosticsFor_eq_filter (build : Build) (name : String) :
    build.diagnosticsFor name = build.errors.filter (·.field == name) := by
  unfold diagnosticsFor result
  cases clean : build.errors with
  | nil => rfl
  | cons first rest => rfl

theorem outcomesAfter_append (seen : List String) (before after : List TargetField) :
    build.outcomesAfter seen (before ++ after) =
      build.outcomesAfter seen before ++
        build.outcomesAfter ((before.map (·.name)).reverse ++ seen) after := by
  induction before generalizing seen with
  | nil => rfl
  | cons first rest ih =>
      rw [List.cons_append, outcomesAfter_cons, outcomesAfter_cons, ih]
      simp

/-- All diagnostics about a field carry its name. -/
theorem filter_errors_stageAfter (earlier : List String) (target : TargetField) (name : String) :
    (FieldOutcome.errors ⟨target, build.stageAfter earlier target⟩).filter (·.field == name) =
      if target.name = name then FieldOutcome.errors ⟨target, build.stageAfter earlier target⟩
      else [] := by
  rw [errors_stageAfter]
  split
  · rename_i same
    exact List.filter_eq_self.mpr (by simp [same])
  · rename_i other
    exact List.filter_eq_nil_iff.mpr (by simp [other])

theorem filter_errors_of_other {name : String} {fields : List TargetField}
    (others : ∀ field ∈ fields, field.name ≠ name) (seen : List String) :
    ((build.outcomesAfter seen fields).flatMap FieldOutcome.errors).filter (·.field == name) =
      [] := by
  induction fields generalizing seen with
  | nil => rfl
  | cons first rest ih =>
      rw [List.forall_mem_cons] at others
      rw [outcomesAfter_cons, List.flatMap_cons, List.filter_append, filter_errors_stageAfter,
        if_neg others.1, ih others.2, List.nil_append]

/-- Of a name that was seen every further field reports the repetition. -/
theorem filter_errors_of_seen {name : String} {seen : List String} (known : name ∈ seen)
    (fields : List TargetField) :
    ((build.outcomesAfter seen fields).flatMap FieldOutcome.errors).filter (·.field == name) =
      (fields.filter (·.name == name)).map fun _ => ⟨name, .duplicateTargetField⟩ := by
  induction fields generalizing seen with
  | nil => rfl
  | cons first rest ih =>
      rw [outcomesAfter_cons, List.flatMap_cons, List.filter_append, filter_errors_stageAfter,
        ih (List.mem_cons_of_mem _ known)]
      by_cases same : first.name = name
      · subst same
        rw [if_pos rfl, errors_stageAfter_of_mem known, List.filter_cons_of_pos (by simp)]
        rfl
      · rw [if_neg same, List.filter_cons_of_neg (by simpa using same), List.nil_append]

/-- What is reported about a name is what is wrong with its first field, and then one repetition
    for each further field. -/
theorem diagnosticsFor_of_first {before after : List TargetField}
    (position : build.declaration.fields = before ++ target :: after)
    (first : ∀ earlier ∈ before, earlier.name ≠ target.name) :
    build.diagnosticsFor target.name =
      (reasons (build.run target).result).map (⟨target.name, ·⟩) ++
        (after.filter (·.name == target.name)).map
          fun _ => ⟨target.name, .duplicateTargetField⟩ := by
  have fresh : target.name ∉ (before.map (·.name)).reverse ++ [] := by
    simpa using first
  rw [diagnosticsFor_eq_filter, Build.errors, outcomes, position, outcomesAfter_append,
    outcomesAfter_cons, List.flatMap_append, List.filter_append, filter_errors_of_other first,
    List.flatMap_cons, List.filter_append, filter_errors_stageAfter, if_pos rfl,
    filter_errors_of_seen List.mem_cons_self, errors_stageAfter, stageAfter, if_neg fresh,
    List.nil_append]

/-- Where names differ, what is reported about a field is what is wrong with it. -/
theorem diagnosticsFor_of_declared (distinct : build.declaration.names.Nodup)
    (declared : target ∈ build.declaration.fields) :
    build.diagnosticsFor target.name =
      (reasons (build.run target).result).map (⟨target.name, ·⟩) := by
  obtain ⟨before, after, position⟩ := List.append_of_mem declared
  rw [Declaration.names, position, List.map_append, List.map_cons, List.nodup_append,
    List.nodup_cons] at distinct
  obtain ⟨-, ⟨unrepeated, -⟩, apart⟩ := distinct
  have first : ∀ earlier ∈ before, earlier.name ≠ target.name := by
    intro earlier stands
    exact apart _ (List.mem_map_of_mem stands) _ List.mem_cons_self
  have last : after.filter (·.name == target.name) = [] := by
    refine List.filter_eq_nil_iff.mpr fun later stands => ?_
    intro same
    exact unrepeated (List.mem_map.mpr ⟨later, stands, beq_iff_eq.mp same⟩)
  rw [diagnosticsFor_of_first position first, last, List.map_nil, List.append_nil]

theorem diagnosticsFor_of_resolves {mapping : FieldMapping}
    (distinct : build.declaration.names.Nodup) (declared : target ∈ build.declaration.fields)
    (resolves : build.Resolves target mapping) : build.diagnosticsFor target.name = [] := by
  rw [diagnosticsFor_of_declared distinct declared, reasons_eq_nil_iff.mpr ⟨mapping, resolves⟩]
  rfl

/-- A build is all or nothing. It makes a plan exactly when no name is repeated and every field
    resolves; the plan then has the declared names in order, each with the mapping that its field
    resolves to. Otherwise it reports, block after block in declaration order, what is wrong with
    each field that was rejected. -/
theorem result_all_or_nothing (build : Build) :
    ((∃ plan, build.result = .ok plan) ↔
      build.declaration.names.Nodup ∧
        ∀ target ∈ build.declaration.fields, ∃ mapping, build.Resolves target mapping) ∧
    (∀ plan, build.result = .ok plan →
      plan.target = build.declaration.name ∧
        plan.fields.keys = build.declaration.names ∧
        plan.fields.values.map FieldMapping.kind =
          build.declaration.fields.map (·.directive.kind) ∧
        List.Forall₂ build.Resolves build.declaration.fields plan.fields.values) ∧
    (∀ failure, build.result = .error failure →
      failure.projection = build.declaration.name ∧ failure.errors ≠ [] ∧
        ∃ blocks : List (List PlanError), failure.errors = blocks.flatten ∧
          blocks.length = build.declaration.fields.length ∧
          ∀ position target, build.declaration.fields[position]? = some target →
            ∃ block, blocks[position]? = some block ∧
              build.Reports (build.declaration.fields.take position) target block) := by
  refine ⟨exists_result_eq_ok_iff, ?_, ?_⟩
  · intro plan made
    obtain ⟨-, sameTarget, -, -, plans⟩ := result_eq_ok_iff.mp made
    have resolve := values_of_plans plans
    exact ⟨sameTarget, keys_of_plans plans, kinds_of_resolves resolve, resolve⟩
  · intro failure failed
    obtain ⟨faulty, rfl⟩ := result_eq_error_iff.mp failed
    refine ⟨rfl, faulty, build.outcomes.map FieldOutcome.errors, List.flatMap_def, ?_, ?_⟩
    · rw [List.length_map, outcomes, length_outcomesAfter]
    · intro position target there
      refine ⟨_, ?_, reports_stageAfter build (build.declaration.fields.take position) target⟩
      rw [List.getElem?_map, getElem?_outcomes, there]
      rfl

end Build

end ProjectionPlanner

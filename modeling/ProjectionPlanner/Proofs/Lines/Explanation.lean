import Mathlib.Algebra.Order.Ring.Nat
import ProjectionPlanner.Plan.Explain
import ProjectionPlanner.Proofs.Lines.Strings

/-! # The lines of an explanation

The explanation of a plan goes into build logs and is read there line by line. As long as no string
in the plan holds a line feed, every line is where it is expected: after the header there is one for
each copied field, and for each computed field one, then one for each of its arguments and one for
its transformation. The plan may have come from anywhere, so that its reducers may be bound in any
order, more than once, or nowhere.
-/

namespace ProjectionPlanner

open Text

/-- How many lines a field takes. -/
def FieldMapping.lineCount : FieldMapping → Nat
  | .implicit .. => 1
  | .explicit _ => 1
  | .computed mapping =>
      1 + mapping.dependencies.length + if mapping.transform.isSome then 1 else 0

/-- What is shown of an argument: the first reducer that is bound at its position with the path that
    it reduces, and if none is bound there the path and the type at its end. -/
inductive ComputedMapping.Shows (mapping : ComputedMapping) (position : Nat)
    (dependency : ResolvedPath) : String → Prop where
  | reduced {before after : List ReducerBinding} {binding : ReducerBinding}
      (split : mapping.reducers = before ++ binding :: after)
      (bound : binding.dependency = position)
      (first : ∀ earlier ∈ before, earlier.dependency ≠ position) :
      Shows mapping position dependency
        (binding.reducer.name ++ "(" ++ dependency.path ++ ") -> " ++ binding.outputType.text)
  | plain (unbound : ∀ binding ∈ mapping.reducers, binding.dependency ≠ position) :
      Shows mapping position dependency (dependency.path ++ ": " ++ dependency.terminalType.text)

/-- The lines from a position on are about the field. -/
structure FieldMapping.ExplainedAt (mapping : FieldMapping) (name : String) (lines : List String)
    (start : Nat) : Prop where
  /-- The first line names the field. -/
  head : ∃ shown, lines[start]? = some ("  " ++ name ++ " <- " ++ shown)
  /-- Below it there is a line for each argument, by position. -/
  arguments : ∀ {parts : ComputedMapping}, mapping = .computed parts →
    ∀ {position : Nat} {dependency : ResolvedPath},
      parts.dependencies[position]? = some dependency →
        ∃ shown, parts.Shows position dependency shown ∧
          lines[start + 1 + position]? = some ("    arg " ++ toString position ++ ": " ++ shown)
  /-- The transformation stands behind all arguments. -/
  transformation : ∀ {parts : ComputedMapping} {method : ResolvedMethod},
    mapping = .computed parts → parts.transform = some method →
      lines[start + 1 + parts.dependencies.length]? = some ("    then " ++ method.text)

/-- The lines are those of the plan, in the order of its fields, and there are no others. -/
structure Plan.ExplainedBy (plan : Plan) (lines : List String) : Prop where
  length : lines.length = 1 + (plan.fields.values.map FieldMapping.lineCount).sum
  header : lines[0]? = some ("projection " ++ plan.target ++ " from " ++ plan.source.name ++ " (" ++
    toString plan.fields.size ++ " fields)")
  fields : ∀ {before after : List (String × FieldMapping)} {name : String} {mapping : FieldMapping},
    plan.fields.toList = before ++ (name, mapping) :: after →
      mapping.ExplainedAt name lines (1 + (before.map fun entry => entry.2.lineCount).sum)

/-! ## Where the lines are -/

theorem getElem?_of_within {lines before block after : List String} {line : String} {offset : Nat}
    (within : lines = before ++ block ++ after) (there : block[offset]? = some line) :
    lines[before.length + offset]? = some line := by
  obtain ⟨inside, -⟩ := List.getElem?_eq_some_iff.mp there
  rw [within, List.append_assoc, List.getElem?_append_right (Nat.le_add_right ..),
    Nat.add_sub_cancel_left, List.getElem?_append_left inside, there]

namespace ComputedMapping

variable {mapping : ComputedMapping}

theorem exists_shown (mapping : ComputedMapping) (position : Nat) (dependency : ResolvedPath) :
    ∃ shown, mapping.Shows position dependency shown ∧
      mapping.argumentLine position dependency =
        "    arg " ++ toString position ++ ": " ++ shown := by
  unfold argumentLine
  cases found : mapping.reducerFor position with
  | none =>
      have unbound := List.find?_eq_none.mp found
      exact ⟨_, .plain (by simpa using unbound), rfl⟩
  | some binding =>
      obtain ⟨bound, before, after, split, earlier⟩ := List.find?_eq_some_iff_append.mp found
      exact ⟨_, .reduced split (by simpa using bound) (by simpa using earlier), rfl⟩

theorem length_argumentLines (start : Nat) (dependencies : List ResolvedPath) :
    (mapping.argumentLines start dependencies).length = dependencies.length := by
  induction dependencies generalizing start with
  | nil => rfl
  | cons first rest ih => rw [argumentLines, List.length_cons, List.length_cons, ih]

theorem getElem?_argumentLines (start : Nat) (dependencies : List ResolvedPath) (position : Nat) :
    (mapping.argumentLines start dependencies)[position]? =
      dependencies[position]?.map (mapping.argumentLine (start + position)) := by
  induction dependencies generalizing start position with
  | nil => rfl
  | cons first rest ih =>
      cases position with
      | zero => rfl
      | succ position =>
          rw [argumentLines, List.getElem?_cons_succ, List.getElem?_cons_succ, ih,
            Nat.add_right_comm, Nat.add_assoc]

theorem length_transformLines :
    mapping.transformLines.length = if mapping.transform.isSome then 1 else 0 := by
  unfold transformLines
  cases mapping.transform <;> rfl

end ComputedMapping

namespace FieldMapping

theorem length_explainLines (name : String) (mapping : FieldMapping) :
    (mapping.explainLines name).length = mapping.lineCount := by
  cases mapping with
  | implicit | explicit => rfl
  | computed parts =>
      rw [explainLines, lineCount, List.length_cons, List.length_append,
        ComputedMapping.length_argumentLines, ComputedMapping.length_transformLines]
      omega

/-- By itself, a field is explained from its first line on. -/
theorem explainedAt_explainLines (name : String) (mapping : FieldMapping) :
    mapping.ExplainedAt name (mapping.explainLines name) 0 where
  head := by
    cases mapping with
    | implicit | explicit =>
        simp only [explainLines, List.getElem?_cons_zero, String.append_assoc]
        exact ⟨_, rfl⟩
    | computed parts =>
        simp only [explainLines, List.getElem?_cons_zero, String.append_assoc]
        exact ⟨"compute " ++ parts.compute.text, rfl⟩
  arguments := by
    rintro parts rfl position dependency there
    obtain ⟨shown, shows, line⟩ := parts.exists_shown position dependency
    refine ⟨shown, shows, ?_⟩
    have here : (parts.argumentLines 0 parts.dependencies)[position]? =
        some (parts.argumentLine position dependency) := by
      rw [ComputedMapping.getElem?_argumentLines, there, Nat.zero_add]
      rfl
    have within : explainLines name (.computed parts) =
        ["  " ++ name ++ " <- compute " ++ parts.compute.text] ++
          parts.argumentLines 0 parts.dependencies ++ parts.transformLines := rfl
    rw [← line, Nat.zero_add]
    exact getElem?_of_within within here
  transformation := by
    rintro parts method rfl transforms
    have here : parts.transformLines[0]? = some ("    then " ++ method.text) := by
      rw [ComputedMapping.transformLines, transforms]
      rfl
    -- nothing stands behind the transformation, so that the block before it ends at its line
    have within : explainLines name (.computed parts) =
        (("  " ++ name ++ " <- compute " ++ parts.compute.text) ::
          parts.argumentLines 0 parts.dependencies) ++ parts.transformLines ++ [] :=
      (List.append_nil _).symm
    have line := getElem?_of_within within here
    rw [List.length_cons, ComputedMapping.length_argumentLines, Nat.add_zero] at line
    rw [Nat.zero_add, Nat.add_comm, line]

/-- What is said of a field in its own lines is said of it wherever these are. -/
theorem ExplainedAt.within {block before after lines : List String} {mapping : FieldMapping}
    {name : String} (explained : mapping.ExplainedAt name block 0)
    (within : lines = before ++ block ++ after) : mapping.ExplainedAt name lines before.length where
  head := by
    obtain ⟨shown, line⟩ := explained.head
    exact ⟨shown, getElem?_of_within within line⟩
  arguments := by
    intro parts computed position dependency there
    obtain ⟨shown, shows, line⟩ := explained.arguments computed there
    rw [Nat.zero_add] at line
    exact ⟨shown, shows, Nat.add_assoc .. ▸ getElem?_of_within within line⟩
  transformation := by
    intro parts method computed transforms
    have line := explained.transformation computed transforms
    rw [Nat.zero_add] at line
    exact Nat.add_assoc .. ▸ getElem?_of_within within line

end FieldMapping

namespace Plan

variable {plan : Plan}

/-- The lines of fields that follow each other. -/
def fieldLines (entries : List (String × FieldMapping)) : List String :=
  entries.flatMap fun (name, mapping) => mapping.explainLines name

theorem length_fieldLines (entries : List (String × FieldMapping)) :
    (fieldLines entries).length = (entries.map fun entry => entry.2.lineCount).sum := by
  rw [fieldLines, List.length_flatMap]
  congr 1
  exact List.map_congr_left fun (name, mapping) _ => mapping.length_explainLines name

theorem explainLines_eq (plan : Plan) :
    plan.explainLines = plan.header :: fieldLines plan.fields.toList := rfl

theorem explainedBy_explainLines (plan : Plan) : plan.ExplainedBy plan.explainLines where
  length := by
    rw [explainLines_eq, List.length_cons, length_fieldLines, Entries.values, List.map_map,
      Nat.add_comm]
    rfl
  header := rfl
  fields := by
    intro before after name mapping split
    have within : plan.explainLines =
        (plan.header :: fieldLines before) ++ mapping.explainLines name ++ fieldLines after := by
      rw [explainLines_eq, split]
      simp [fieldLines]
    have explained := (mapping.explainedAt_explainLines name).within within
    rwa [List.length_cons, length_fieldLines, Nat.add_comm] at explained

end Plan

/-! ## Each line is a single one -/

namespace ComputedMapping

variable {mapping : ComputedMapping}

/-- What is shown of an argument is a single line, whichever reducer makes it. -/
theorem Shows.oneLine {position : Nat} {dependency : ResolvedPath} {shown : String}
    (shows : mapping.Shows position dependency shown)
    (bindings : ∀ binding ∈ mapping.reducers, OneLines binding.strings)
    (passed : OneLines dependency.strings) : OneLine shown := by
  simp only [ResolvedPath.strings, oneLines_append, oneLines_cons] at passed
  obtain ⟨⟨path, -⟩, type⟩ := passed
  cases shows with
  | @reduced _ _ binding split _ _ =>
      have listed : binding ∈ mapping.reducers := by simp [split]
      have output := (oneLines_cons.mp (bindings binding listed)).2
      simp only [oneLine_append, binding.reducer.oneLine_name, path, ValueType.oneLine_text,
        output, true_and, and_true]
      decide
  | plain _ =>
      simp only [oneLine_append, path, ValueType.oneLine_text, type, true_and, and_true]
      decide

theorem oneLine_argumentLine {position : Nat} {dependency : ResolvedPath}
    (bindings : ∀ binding ∈ mapping.reducers, OneLines binding.strings)
    (passed : OneLines dependency.strings) :
    OneLine (mapping.argumentLine position dependency) := by
  obtain ⟨shown, shows, line⟩ := mapping.exists_shown position dependency
  have indent : OneLine "    arg " ∧ OneLine ": " := by decide
  simp only [line, oneLine_append, indent, oneLine_toString, shows.oneLine bindings passed,
    and_true]

theorem oneLines_argumentLines {start : Nat} {dependencies : List ResolvedPath}
    (bindings : ∀ binding ∈ mapping.reducers, OneLines binding.strings)
    (passed : ∀ dependency ∈ dependencies, OneLines dependency.strings) :
    OneLines (mapping.argumentLines start dependencies) := by
  induction dependencies generalizing start with
  | nil => exact oneLines_nil
  | cons first rest ih =>
      obtain ⟨here, others⟩ := List.forall_mem_cons.mp passed
      exact oneLines_cons.mpr ⟨oneLine_argumentLine bindings here, ih others⟩

theorem oneLines_transformLines
    (method : ∀ method ∈ mapping.transform.toList, OneLines method.strings) :
    OneLines mapping.transformLines := by
  unfold transformLines
  cases chosen : mapping.transform with
  | none => exact oneLines_nil
  | some transform =>
      have text := ResolvedMethod.oneLine_text (method transform (by simp [chosen]))
      have indent : OneLine "    then " := by decide
      simp only [oneLines_cons, oneLine_append, indent, text, oneLines_nil, and_self]

end ComputedMapping

theorem FieldMapping.oneLines_explainLines {name : String} {mapping : FieldMapping}
    (named : OneLine name) (oneLine : OneLines mapping.strings) :
    OneLines (mapping.explainLines name) := by
  have between : OneLine "  " ∧ OneLine " <- " ∧ OneLine " <- compute " ∧ OneLine ": " := by decide
  cases mapping with
  | implicit sourceField valueType nullable =>
      obtain ⟨field, type⟩ := oneLines_cons.mp oneLine
      simp only [explainLines, oneLines_cons, oneLine_append, between, named, field,
        ValueType.oneLine_text, type, oneLines_nil, and_self]
  | explicit resolved =>
      simp only [strings, ResolvedPath.strings, oneLines_append, oneLines_cons] at oneLine
      obtain ⟨⟨path, -⟩, type⟩ := oneLine
      simp only [explainLines, oneLines_cons, oneLine_append, between, named, path,
        ValueType.oneLine_text, resolved.oneLines_valueType type, oneLines_nil, and_self]
  | computed parts =>
      simp only [strings, ComputedMapping.strings, oneLines_append, oneLines_flatMap] at oneLine
      obtain ⟨⟨⟨⟨dependencies, -⟩, compute⟩, transform⟩, bindings⟩ := oneLine
      simp only [explainLines, oneLines_cons, oneLines_append, oneLine_append, between, named,
        ComputeStep.oneLine_text compute,
        ComputedMapping.oneLines_argumentLines bindings dependencies,
        ComputedMapping.oneLines_transformLines transform, and_self]

namespace Plan

variable {plan : Plan}

theorem oneLine_header (oneLine : OneLines plan.strings) : OneLine plan.header := by
  simp only [strings, oneLines_append, oneLines_cons] at oneLine
  obtain ⟨⟨⟨target, source⟩, -⟩, -⟩ := oneLine
  unfold header
  simp only [oneLine_append, target, SourceType.oneLine_name source, oneLine_toString, and_true]
  decide

theorem oneLines_explainLines (oneLine : OneLines plan.strings) : OneLines plan.explainLines := by
  refine oneLines_cons.mpr ⟨oneLine_header oneLine, oneLines_flatMap.mpr fun entry listed => ?_⟩
  obtain ⟨-, fields⟩ := oneLines_append.mp oneLine
  obtain ⟨named, mapping⟩ := oneLines_cons.mp (oneLines_flatMap.mp fields entry listed)
  exact entry.2.oneLines_explainLines named mapping

/-- Whatever plan is explained, the explanation has the lines that are expected. -/
theorem explanation_line_by_line {plan : Plan} (oneLine : OneLines plan.strings) :
    plan.ExplainedBy (pieces '\n' plan.explain) := by
  rw [explain, pieces_lines (by simp [explainLines]) (oneLines_explainLines oneLine)]
  exact plan.explainedBy_explainLines

/-- A plan as a document may hold it: of the two arguments of the amount, the second is bound twice,
    and something is bound at a position that has no argument. -/
def loosePlan : Plan where
  target := "Invoice"
  source := ⟨"Order", []⟩
  registry := ⟨[]⟩
  fields := Entries.ofList [
    ("id", .implicit "id" (.scalar .int64) false),
    ("amount", .computed {
      dependencies := [
        ⟨"rate", [], .scalar .decimal, false, 0⟩,
        ⟨"lines.price", [], .scalar .decimal, true, 1⟩]
      parameterTypes := []
      compute := .identity (.scalar .decimal)
      transform := some
        ⟨"money", ⟨"round", [.scalar .decimal], .scalar .int64, .static⟩, .stateless⟩
      reducers := [
        ⟨7, "lines.price", .sum, .scalar .decimal⟩,
        ⟨1, "lines.price", .max, .scalar .decimal⟩,
        ⟨1, "lines.price", .count, .scalar .int64⟩] }),
    ("note", .explicit ⟨"customer.note", [], .scalar .text, false, 0⟩)]

theorem loosePlan_line_by_line :
    OneLines loosePlan.strings ∧ loosePlan.ExplainedBy (pieces '\n' loosePlan.explain) :=
  have oneLine : OneLines loosePlan.strings := by decide
  ⟨oneLine, explanation_line_by_line oneLine⟩

example : loosePlan.explainLines = [
    "projection Invoice from Order (3 fields)",
    "  id <- id: Int64",
    "  amount <- compute identity -> Decimal",
    "    arg 0: rate: Decimal",
    "    arg 1: MAX(lines.price) -> Decimal",
    "    then money.round(Decimal) -> Int64 [stateless]",
    "  note <- customer.note: Text"] := by decide

end Plan

end ProjectionPlanner

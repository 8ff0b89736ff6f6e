import ProjectionPlanner.Plan.Basic

/-! # Plans as text

A plan is explained line by line: a header, then a line for every target field. A computed field
has further lines below it, one for each argument and one for its transformation.
-/

namespace ProjectionPlanner

namespace ComputedMapping

/-- The line of one argument: its path and type, or the reducer that makes it. -/
def argumentLine (mapping : ComputedMapping) (index : Nat) (dependency : ResolvedPath) : String :=
  "    arg " ++ toString index ++ ": " ++
    match mapping.reducerFor index with
    | some binding =>
        binding.reducer.name ++ "(" ++ dependency.path ++ ") -> " ++ binding.outputType.text
    | none => dependency.path ++ ": " ++ dependency.terminalType.text

/-- The lines of the arguments, numbered from `index`. -/
def argumentLines (mapping : ComputedMapping) (index : Nat) : List ResolvedPath → List String
  | [] => []
  | dependency :: rest =>
      mapping.argumentLine index dependency :: mapping.argumentLines (index + 1) rest

def transformLines (mapping : ComputedMapping) : List String :=
  match mapping.transform with
  | some method => ["    then " ++ method.text]
  | none => []

end ComputedMapping

/-- The lines of one target field. -/
def FieldMapping.explainLines (name : String) : FieldMapping → List String
  | .implicit sourceField valueType _ =>
      ["  " ++ name ++ " <- " ++ sourceField ++ ": " ++ valueType.text]
  | .explicit path => ["  " ++ name ++ " <- " ++ path.path ++ ": " ++ path.valueType.text]
  | .computed mapping =>
      ("  " ++ name ++ " <- compute " ++ mapping.compute.text) ::
        (mapping.argumentLines 0 mapping.dependencies ++ mapping.transformLines)

namespace Plan

def header (plan : Plan) : String :=
  "projection " ++ plan.target ++ " from " ++ plan.source.name ++ " (" ++ toString plan.size ++
    " fields)"

def explainLines (plan : Plan) : List String :=
  plan.header :: plan.fields.toList.flatMap fun (name, mapping) => mapping.explainLines name

/-- The plan as text, for people to read. -/
def explain (plan : Plan) : String :=
  Text.join "\n" plan.explainLines

end Plan

end ProjectionPlanner

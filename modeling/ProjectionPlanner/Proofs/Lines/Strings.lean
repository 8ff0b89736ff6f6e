import ProjectionPlanner.Build.Field
import ProjectionPlanner.Proofs.Text.Lines

/-! # The strings in a plan and in a build

Names, paths, identifiers and keys are free texts, and whoever writes them may write what they like.
Here are all of them, for everything that a build is given and for everything that a plan holds, so
that it can be said of all at once that none of them holds a line feed. What is written of types and
methods on a line is then on one line.
-/

namespace ProjectionPlanner

open Text

/-! ## Types and methods -/

def ValueType.strings : ValueType → List String
  | .scalar _ => []
  | .object name => [name]
  | .collection element => element.strings

def MethodSignature.strings (method : MethodSignature) : List String :=
  method.name :: method.params.flatMap ValueType.strings ++ method.returns.strings

def InvocationMode.strings : InvocationMode → List String
  | .stateless => []
  | .instanceByType => []
  | .instanceByName key => [key]

def Provider.strings (provider : Provider) : List String :=
  provider.id :: provider.mode.strings ++ provider.methods.flatMap MethodSignature.strings

def Registry.strings (registry : Registry) : List String :=
  registry.providers.flatMap Provider.strings

def Invocation.strings : Invocation → List String
  | .stateless => []
  | .instanceByType provider => [provider]
  | .instanceByName key => [key]

def ResolvedMethod.strings (method : ResolvedMethod) : List String :=
  method.provider :: method.signature.strings ++ method.invocation.strings

/-! ## Source types and paths -/

mutual

def FieldKind.strings : FieldKind → List String
  | .scalar _ => []
  | .object type => type.strings
  | .collection element => element.strings
termination_by structural kind => kind

/-- The names of a type and of its fields, and their keys, here and in all nested types. -/
def SourceType.strings : SourceType → List String
  | ⟨name, fields⟩ => name :: entriesStrings fields
termination_by structural type => type

def entriesStrings : List (String × SourceField) → List String
  | [] => []
  | (key, ⟨name, kind, _⟩) :: rest => key :: name :: kind.strings ++ entriesStrings rest
termination_by structural fields => fields

end

theorem SourceType.oneLine_name {type : SourceType} (oneLine : OneLines type.strings) :
    OneLine type.name := by
  cases type
  exact (oneLines_cons.mp oneLine).1

def Segment.strings (segment : Segment) : List String :=
  [segment.owner, segment.name]

def ResolvedPath.strings (resolved : ResolvedPath) : List String :=
  resolved.path :: resolved.segments.flatMap Segment.strings ++ resolved.terminalType.strings

/-! ## Builds -/

def MethodRef.strings (ref : MethodRef) : List String :=
  ref.provider.toList ++ ref.name.toList

def Computation.strings (computation : Computation) : List String :=
  computation.dependsOn ++ computation.computedBy.toList.flatMap MethodRef.strings ++
    computation.transformedBy.toList.flatMap MethodRef.strings

def Directive.strings : Directive → List String
  | .implicit => []
  | .explicit path => [path]
  | .computed computation => computation.strings

def TargetField.strings (target : TargetField) : List String :=
  target.name :: target.type.strings ++ target.directive.strings

def Declaration.strings (declaration : Declaration) : List String :=
  declaration.name :: declaration.fields.flatMap TargetField.strings

/-- Everything that a build is given. The only text among the settings is what the names of methods
    start with. -/
def Build.strings (build : Build) : List String :=
  build.settings.methodLead ::
    (build.source.strings ++ build.declaration.strings ++ build.registry.strings)

/-! ## Plans -/

def ComputeStep.strings : ComputeStep → List String
  | .identity valueType => valueType.strings
  | .invoke method => method.strings

def ReducerBinding.strings (binding : ReducerBinding) : List String :=
  binding.path :: binding.outputType.strings

def ComputedMapping.strings (mapping : ComputedMapping) : List String :=
  mapping.dependencies.flatMap ResolvedPath.strings ++
    mapping.parameterTypes.flatMap ValueType.strings ++ mapping.compute.strings ++
    mapping.transform.toList.flatMap ResolvedMethod.strings ++
    mapping.reducers.flatMap ReducerBinding.strings

def FieldMapping.strings : FieldMapping → List String
  | .implicit sourceField valueType _ => sourceField :: valueType.strings
  | .explicit path => path.strings
  | .computed mapping => mapping.strings

def Plan.strings (plan : Plan) : List String :=
  plan.target :: plan.source.strings ++ plan.registry.strings ++
    plan.fields.toList.flatMap fun (name, mapping) => name :: mapping.strings

/-! ## What is written of types and methods -/

theorem ScalarType.oneLine_name (scalar : ScalarType) : OneLine scalar.name := by
  cases scalar <;> decide

theorem Reducer.oneLine_name (reducer : Reducer) : OneLine reducer.name := by
  cases reducer <;> decide

namespace ValueType

@[simp]
theorem oneLine_text {type : ValueType} : OneLine type.text ↔ OneLines type.strings := by
  induction type with
  | scalar leaf => simp [text, strings, leaf.oneLine_name]
  | object name => simp [text, strings]
  | collection element ih =>
      have brackets : OneLine "Collection<" ∧ OneLine ">" := by decide
      simp [text, strings, ih, brackets]

@[simp]
theorem oneLine_paramsText {params : List ValueType} :
    OneLine (paramsText params) ↔ OneLines (params.flatMap strings) := by
  rw [paramsText, oneLine_join (by decide)]
  simp

end ValueType

theorem ResolvedPath.oneLines_valueType {resolved : ResolvedPath}
    (oneLine : OneLines resolved.terminalType.strings) : OneLines resolved.valueType.strings := by
  unfold valueType
  split <;> exact oneLine

theorem MethodSignature.oneLine_text {method : MethodSignature}
    (oneLine : OneLines method.strings) : OneLine method.text := by
  simp only [strings, oneLines_append, oneLines_cons] at oneLine
  obtain ⟨⟨name, params⟩, returns⟩ := oneLine
  have suffix : OneLine (if method.isStateless then "" else " [instance]") := by
    split <;> decide
  simp only [text, oneLine_append, ValueType.oneLine_text, ValueType.oneLine_paramsText, name,
    params, returns, suffix, true_and, and_true]
  decide

theorem Invocation.oneLine_text {invocation : Invocation}
    (oneLine : OneLines invocation.strings) : OneLine invocation.text := by
  cases invocation with
  | stateless =>
      change OneLine "stateless"
      decide
  | instanceByType provider =>
      simp only [text.eq_def, oneLine_append, (oneLines_cons.mp oneLine).1, and_true]
      decide
  | instanceByName key =>
      simp only [text.eq_def, oneLine_append, (oneLines_cons.mp oneLine).1, and_true]
      decide

theorem ResolvedMethod.oneLine_text {method : ResolvedMethod} (oneLine : OneLines method.strings) :
    OneLine method.text := by
  simp only [strings, MethodSignature.strings, oneLines_append, oneLines_cons] at oneLine
  obtain ⟨⟨provider, ⟨name, params⟩, returns⟩, invocation⟩ := oneLine
  simp only [text, oneLine_append, ValueType.oneLine_text, ValueType.oneLine_paramsText, provider,
    name, params, returns, Invocation.oneLine_text invocation, true_and, and_true]
  decide

theorem ComputeStep.oneLine_text {step : ComputeStep} (oneLine : OneLines step.strings) :
    OneLine step.text := by
  cases step with
  | identity valueType =>
      have passedOn : OneLines valueType.strings := oneLine
      simp only [text, oneLine_append, ValueType.oneLine_text, passedOn, and_true]
      decide
  | invoke method => exact method.oneLine_text oneLine

end ProjectionPlanner

import ProjectionPlanner.Types.Value

/-! # Providers of methods

A provider offers methods under an identifier. A method is static or needs an instance of its
provider; how such an instance is obtained is a property of the provider, and the planner only
notes it. A registry is a list of providers: its order decides which of several fitting methods is
taken, and of two providers with one identifier the first is the one that the identifier means.
-/

namespace ProjectionPlanner

/-- What a method is called on. -/
inductive Receiver where
  /-- Nothing: the method is stateless. -/
  | static
  /-- An instance of the provider. -/
  | needsInstance
  deriving DecidableEq, Repr

/-- A method as its provider offers it. -/
structure MethodSignature where
  name : String
  params : List ValueType
  returns : ValueType
  receiver : Receiver := .static
  deriving DecidableEq, Repr

namespace MethodSignature

def isStateless (method : MethodSignature) : Bool :=
  method.receiver == .static

/-- The return type, the name and the parameters; a method that needs an instance says so. -/
def text (method : MethodSignature) : String :=
  method.returns.text ++ " " ++ method.name ++ "(" ++ ValueType.paramsText method.params ++ ")" ++
    if method.isStateless then "" else " [instance]"

end MethodSignature

/-- How instances of a provider are obtained. -/
inductive InvocationMode where
  /-- They are not: only static methods can be called. -/
  | stateless
  /-- By the provider's type. -/
  | instanceByType
  /-- By the name of a component. -/
  | instanceByName (key : String)
  deriving DecidableEq, Repr

/-- A provider with its methods in declaration order. -/
structure Provider where
  id : String
  mode : InvocationMode := .instanceByType
  methods : List MethodSignature := []
  deriving DecidableEq, Repr

namespace Provider

/-- Declare one more method, after the others. -/
def withMethod (provider : Provider) (method : MethodSignature) : Provider :=
  { provider with methods := provider.methods ++ [method] }

/-- The method can be called through this provider at all. -/
def canInvoke (provider : Provider) (method : MethodSignature) : Bool :=
  method.isStateless || provider.mode != .stateless

/-- The methods of a name, overloads included, in declaration order. -/
def methodsNamed (provider : Provider) (name : String) : List MethodSignature :=
  provider.methods.filter (·.name == name)

end Provider

/-- Providers in declaration order. -/
structure Registry where
  providers : List Provider := []
  deriving DecidableEq, Repr

namespace Registry

/-- Declare one more provider, after the others. -/
def push (registry : Registry) (provider : Provider) : Registry :=
  ⟨registry.providers ++ [provider]⟩

/-- The first provider with an identifier. -/
def get? (registry : Registry) (id : String) : Option Provider :=
  registry.providers.find? (·.id == id)

def contains (registry : Registry) (id : String) : Bool :=
  (registry.get? id).isSome

/-- The identifiers in order, as often as they are declared. -/
def ids (registry : Registry) : List String :=
  registry.providers.map (·.id)

def size (registry : Registry) : Nat :=
  registry.providers.length

def isEmpty (registry : Registry) : Bool :=
  registry.providers.isEmpty

theorem get?_eq_none_iff {registry : Registry} {id : String} :
    registry.get? id = none ↔ ∀ provider ∈ registry.providers, provider.id ≠ id := by
  simp [get?, List.find?_eq_none]

theorem id_of_get? {registry : Registry} {id : String} {provider : Provider}
    (found : registry.get? id = some provider) : provider.id = id := by
  simpa using List.find?_some found

end Registry

end ProjectionPlanner

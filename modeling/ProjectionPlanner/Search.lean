import ProjectionPlanner.Declaration
import ProjectionPlanner.Provider

/-! # Finding a method

A query names a method, or leaves the name to a convention, and says which parameters, return types
and receivers it takes. Providers are scanned in their order, and the methods of a provider in
theirs; the first method that fits is the one found. A scan also keeps what it passed: the methods
of the right name that did not fit, and one line for every provider.
-/

namespace ProjectionPlanner

/-- Which return types a query takes. -/
inductive ReturnConstraint where
  /-- All of them; what comes back is checked later. -/
  | any
  /-- Those that fit where this type is expected. -/
  | assignableTo (type : ValueType)
  deriving DecidableEq, Repr

def ReturnConstraint.accepts (constraint : ReturnConstraint) (widening : Bool)
    (returns : ValueType) : Bool :=
  match constraint with
  | .any => true
  | .assignableTo type => returns.isAssignableTo widening type

/-- Which methods a query takes, by what they are called on. -/
inductive ReceiverFilter where
  /-- Those that can be called through their provider. -/
  | any
  | statelessOnly
  /-- Those that need an instance, whether or not their provider has any: this finds out why a
      stateless method is missing. -/
  | instanceOnly
  deriving DecidableEq, Repr

def ReceiverFilter.admits (filter : ReceiverFilter) (provider : Provider)
    (method : MethodSignature) : Bool :=
  match filter with
  | .any => provider.canInvoke method
  | .statelessOnly => method.isStateless
  | .instanceOnly => !method.isStateless

/-- What is looked for. -/
structure MethodQuery where
  /-- A reference that may set the name, and may restrict the search to one provider. -/
  ref : Option MethodRef := none
  /-- The name to use when the reference sets none. -/
  convention : Option String := none
  params : List ValueType
  returns : ReturnConstraint
  receivers : ReceiverFilter := .any
  widening : Bool := false
  deriving DecidableEq, Repr

namespace MethodQuery

/-- The wanted name: the one that the reference sets, else the conventional one. -/
def name? (query : MethodQuery) : Option String :=
  (query.ref.bind MethodRef.name?).or query.convention

/-- The provider that the search is restricted to. -/
def provider? (query : MethodQuery) : Option String :=
  query.ref.bind MethodRef.provider

/-- A method of the wanted name fits. Parameters have to be equal, in number and in order. -/
def fits (query : MethodQuery) (provider : Provider) (method : MethodSignature) : Bool :=
  query.receivers.admits provider method && method.params == query.params &&
    query.returns.accepts query.widening method.returns

end MethodQuery

/-- What a query looked for, kept for the message. -/
structure ExpectedSignature where
  name : String
  params : List ValueType
  returns : ReturnConstraint
  deriving DecidableEq, Repr

/-- A return type that does not matter is written `_`. -/
def ExpectedSignature.text (expected : ExpectedSignature) : String :=
  (match expected.returns with
    | .any => "_"
    | .assignableTo type => type.text) ++
    " " ++ expected.name ++ "(" ++ ValueType.paramsText expected.params ++ ")"

/-- A method of the wanted name that did not fit. -/
structure NearMiss where
  provider : String
  signature : MethodSignature
  deriving DecidableEq, Repr

/-- Why no method was found. -/
inductive MethodError where
  /-- Neither the reference nor a convention gives a name. -/
  | nameRequired
  | notFound (expected : ExpectedSignature) (searched : List String) (nearMisses : List NearMiss)
  | providerNotRegistered (provider : String) (available : List String)
  deriving DecidableEq, Repr

namespace MethodError

/-- A list of identifiers, or a word for there being none. -/
def idsText (ids : List String) : String :=
  if ids.isEmpty then "(none)" else Text.join ", " ids

def nearMissText (miss : NearMiss) : String :=
  "; found in " ++ miss.provider ++ " but with wrong signature: " ++ miss.signature.text

def message : MethodError → String
  | .nameRequired => "no method name given and no naming convention applies"
  | .notFound expected searched nearMisses =>
      "method '" ++ expected.name ++ "' not found in any provider; searched in: " ++
        idsText searched ++ "; expected signature: " ++ expected.text ++
        Text.join "" (nearMisses.map nearMissText)
  | .providerNotRegistered provider available =>
      "provider '" ++ provider ++ "' not found; available providers: " ++ idsText available

end MethodError

/-- How a method that was found is called. -/
inductive Invocation where
  | stateless
  /-- On an instance looked up by the provider's type. -/
  | instanceByType (provider : String)
  /-- On an instance looked up by the name of a component. -/
  | instanceByName (key : String)
  deriving DecidableEq, Repr

namespace Invocation

def text : Invocation → String
  | .stateless => "stateless"
  | .instanceByType provider => "instance by type " ++ provider
  | .instanceByName key => "instance by name '" ++ key ++ "'"

/-- Static methods are called directly, whatever their provider; others follow its mode. -/
def ofMethod (provider : Provider) (method : MethodSignature) : Invocation :=
  if method.isStateless then
    .stateless
  else
    match provider.mode with
    | .instanceByName key => .instanceByName key
    | .instanceByType | .stateless => .instanceByType provider.id

end Invocation

/-- A method that was found. -/
structure ResolvedMethod where
  provider : String
  signature : MethodSignature
  invocation : Invocation
  deriving DecidableEq, Repr

namespace ResolvedMethod

def returns (method : ResolvedMethod) : ValueType :=
  method.signature.returns

def isStateless (method : ResolvedMethod) : Bool :=
  method.invocation == .stateless

/-- The method as its provider's entry in a registry describes it. -/
def ofEntry (provider : Provider) (method : MethodSignature) : ResolvedMethod :=
  ⟨provider.id, method, Invocation.ofMethod provider method⟩

def text (method : ResolvedMethod) : String :=
  method.provider ++ "." ++ method.signature.name ++ "(" ++
    ValueType.paramsText method.signature.params ++ ") -> " ++ method.signature.returns.text ++
    " [" ++ method.invocation.text ++ "]"

end ResolvedMethod

/-- What a scan notes as it goes. -/
inductive ScanLine where
  | matched (provider : String) (signature : MethodSignature)
  /-- The provider was passed without a match for this name. -/
  | passed (provider name : String)
  deriving DecidableEq, Repr

/-- The outcome of scanning some providers. -/
structure Scan where
  found : Option ResolvedMethod
  nearMisses : List NearMiss
  lines : List ScanLine
  deriving DecidableEq, Repr

namespace MethodQuery

/-- Take the first fitting method of one provider. The methods before it come back as near
    misses. -/
def scanMethods (query : MethodQuery) (provider : Provider) :
    List MethodSignature → Option MethodSignature × List NearMiss
  | [] => (none, [])
  | method :: rest =>
      if query.fits provider method then
        (some method, [])
      else
        let (found, misses) := query.scanMethods provider rest
        (found, ⟨provider.id, method⟩ :: misses)

/-- Take the first fitting method of a list of providers. -/
def scan (query : MethodQuery) (name : String) : List Provider → Scan
  | [] => ⟨none, [], []⟩
  | provider :: rest =>
      match query.scanMethods provider (provider.methodsNamed name) with
      | (some method, misses) =>
          ⟨some (.ofEntry provider method), misses, [.matched provider.id method]⟩
      | (none, misses) =>
          let later := query.scan name rest
          ⟨later.found, misses ++ later.nearMisses, .passed provider.id name :: later.lines⟩

end MethodQuery

/-- What a search gives, and what it noted on the way. -/
structure Lookup where
  result : Except MethodError ResolvedMethod
  lines : List ScanLine

namespace Registry

/-- The providers that a search goes through: all of them, or the one it is restricted to. -/
def scope (registry : Registry) : Option String → Except MethodError (List Provider)
  | none => .ok registry.providers
  | some id =>
      match registry.get? id with
      | some provider => .ok [provider]
      | none => .error (.providerNotRegistered id registry.ids)

/-- Look for a method. A missing name is noticed before a missing provider, and neither leaves a
    line. -/
def search (registry : Registry) (query : MethodQuery) : Lookup :=
  match query.name? with
  | none => ⟨.error .nameRequired, []⟩
  | some name =>
      match registry.scope query.provider? with
      | .error error => ⟨.error error, []⟩
      | .ok scope =>
          let scan := query.scan name scope
          match scan.found with
          | some method => ⟨.ok method, scan.lines⟩
          | none =>
              ⟨.error
                  (.notFound ⟨name, query.params, query.returns⟩
                    (scope.map (·.id)) scan.nearMisses),
                scan.lines⟩

end Registry

end ProjectionPlanner

import ProjectionPlanner.Document.Types
import ProjectionPlanner.Search

/-! # Methods as documents

Signatures, providers and registries, references to methods, and methods that were found. The
receiver of a signature, and the mode and the methods of a provider, may be left out where they
have their usual values; they are always written.
-/

namespace ProjectionPlanner

namespace Receiver

def name : Receiver → String
  | .static => "Static"
  | .needsInstance => "Instance"

def document (receiver : Receiver) : Document :=
  .text receiver.name

def ofDocument? : Document → Option Receiver
  | .text "Static" => some .static
  | .text "Instance" => some .needsInstance
  | _ => none

@[simp]
theorem ofDocument?_document (receiver : Receiver) :
    ofDocument? receiver.document = some receiver := by
  cases receiver <;> rfl

end Receiver

namespace MethodSignature

def document (method : MethodSignature) : Document :=
  .object
    [("name", .text method.name), ("params", .ofList ValueType.document method.params),
      ("returns", method.returns.document), ("receiver", method.receiver.document)]

def ofDocument? (document : Document) : Option MethodSignature := do
  let members ← document.members?
  let name ← members.required "name" Document.text?
  let params ← members.required "params" (Document.list? ValueType.ofDocument?)
  let returns ← members.required "returns" ValueType.ofDocument?
  let receiver ← members.withDefault "receiver" .static Receiver.ofDocument?
  return ⟨name, params, returns, receiver⟩

@[simp]
theorem ofDocument?_document (method : MethodSignature) :
    ofDocument? method.document = some method := by
  simp [document, ofDocument?, Document.list?_ofList]

end MethodSignature

namespace InvocationMode

def document : InvocationMode → Document
  | .stateless => .text "Stateless"
  | .instanceByType => .text "InstanceByType"
  | .instanceByName key => .tagged "InstanceByName" (.text key)

def ofDocument? : Document → Option InvocationMode
  | .text "Stateless" => some .stateless
  | .text "InstanceByType" => some .instanceByType
  | .object [("InstanceByName", .text key)] => some (.instanceByName key)
  | _ => none

@[simp]
theorem ofDocument?_document (mode : InvocationMode) :
    ofDocument? mode.document = some mode := by
  cases mode <;> rfl

end InvocationMode

namespace Provider

def document (provider : Provider) : Document :=
  .object
    [("id", .text provider.id), ("mode", provider.mode.document),
      ("methods", .ofList MethodSignature.document provider.methods)]

def ofDocument? (document : Document) : Option Provider := do
  let members ← document.members?
  let id ← members.required "id" Document.text?
  let mode ← members.withDefault "mode" .instanceByType InvocationMode.ofDocument?
  let methods ← members.withDefault "methods" [] (Document.list? MethodSignature.ofDocument?)
  return ⟨id, mode, methods⟩

@[simp]
theorem ofDocument?_document (provider : Provider) :
    ofDocument? provider.document = some provider := by
  simp [document, ofDocument?, Document.list?_ofList]

end Provider

namespace Registry

def document (registry : Registry) : Document :=
  .ofList Provider.document registry.providers

def ofDocument? (document : Document) : Option Registry :=
  (document.list? Provider.ofDocument?).map (⟨·⟩)

@[simp]
theorem ofDocument?_document (registry : Registry) :
    ofDocument? registry.document = some registry := by
  simp [document, ofDocument?, Document.list?_ofList]

end Registry

namespace MethodRef

/-- Parts that are left open are left out. -/
def document (ref : MethodRef) : Document :=
  .object
    (Document.optionalMember "provider" .text ref.provider ++
      Document.optionalMember "name" .text ref.name)

def ofDocument? (document : Document) : Option MethodRef := do
  let members ← document.members?
  let provider ← members.optional "provider" Document.text?
  let name ← members.optional "name" Document.text?
  return ⟨provider, name⟩

theorem document_ne_null (ref : MethodRef) : ref.document ≠ .null := by
  simp [document]

@[simp]
theorem ofDocument?_document (ref : MethodRef) :
    ofDocument? ref.document = some ref := by
  obtain ⟨provider, name⟩ := ref
  cases provider <;> cases name <;>
    simp [document, ofDocument?, Document.optionalMember, Document.Members.optional_cons_self,
      Document.Members.optional_cons_of_ne]

end MethodRef

namespace Invocation

def document : Invocation → Document
  | .stateless => .text "Stateless"
  | .instanceByType provider => .tagged "InstanceByType" (.text provider)
  | .instanceByName key => .tagged "InstanceByName" (.text key)

def ofDocument? : Document → Option Invocation
  | .text "Stateless" => some .stateless
  | .object [("InstanceByType", .text provider)] => some (.instanceByType provider)
  | .object [("InstanceByName", .text key)] => some (.instanceByName key)
  | _ => none

@[simp]
theorem ofDocument?_document (invocation : Invocation) :
    ofDocument? invocation.document = some invocation := by
  cases invocation <;> rfl

end Invocation

namespace ResolvedMethod

def document (method : ResolvedMethod) : Document :=
  .object
    [("provider", .text method.provider), ("signature", method.signature.document),
      ("invocation", method.invocation.document)]

def ofDocument? (document : Document) : Option ResolvedMethod := do
  let members ← document.members?
  let provider ← members.required "provider" Document.text?
  let signature ← members.required "signature" MethodSignature.ofDocument?
  let invocation ← members.required "invocation" Invocation.ofDocument?
  return ⟨provider, signature, invocation⟩

theorem document_ne_null (method : ResolvedMethod) : method.document ≠ .null := by
  simp [document]

@[simp]
theorem ofDocument?_document (method : ResolvedMethod) :
    ofDocument? method.document = some method := by
  simp [document, ofDocument?]

end ResolvedMethod

namespace ReturnConstraint

def document : ReturnConstraint → Document
  | .any => .text "Any"
  | .assignableTo type => .tagged "AssignableTo" type.document

def ofDocument? : Document → Option ReturnConstraint
  | .text "Any" => some .any
  | .object [("AssignableTo", type)] => (ValueType.ofDocument? type).map .assignableTo
  | _ => none

end ReturnConstraint

def ReceiverFilter.ofDocument? : Document → Option ReceiverFilter
  | .text "Any" => some .any
  | .text "StatelessOnly" => some .statelessOnly
  | .text "InstanceOnly" => some .instanceOnly
  | _ => none

/-- A query is only read. Whatever it leaves open may also be null. -/
def MethodQuery.ofMembers? (members : Document.Members) : Option MethodQuery := do
  let ref ← members.optional "method_ref" MethodRef.ofDocument?
  let convention ← members.optional "convention" Document.text?
  let params ← members.required "params" (Document.list? ValueType.ofDocument?)
  let returns ← members.required "returns" ReturnConstraint.ofDocument?
  let receivers ← members.optional "receivers" ReceiverFilter.ofDocument?
  let widening ← members.optional "numeric_widening" Document.flag?
  return {
    ref, convention, params, returns
    receivers := receivers.getD .any
    widening := widening.getD false }

end ProjectionPlanner

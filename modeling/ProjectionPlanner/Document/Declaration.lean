import ProjectionPlanner.Document.Methods
import ProjectionPlanner.Settings

/-! # Declarations and settings as documents

References that are not set, and a list of reducers that is empty, are left out. Settings may be
given in part; a member that is no setting is refused, so that a misspelt one is noticed.
-/

namespace ProjectionPlanner

namespace Computation

def document (computation : Computation) : Document :=
  .object
    ([("depends_on", .ofList .text computation.dependsOn)] ++
      Document.optionalMember "computed_by" MethodRef.document computation.computedBy ++
      Document.optionalMember "then" MethodRef.document computation.transformedBy ++
      if computation.reducers.isEmpty then []
      else [("reducers", .ofList Reducer.document computation.reducers)])

def ofDocument? (document : Document) : Option Computation := do
  let members ← document.members?
  let dependsOn ← members.required "depends_on" (Document.list? Document.text?)
  let computedBy ← members.optional "computed_by" MethodRef.ofDocument?
  let transformedBy ← members.optional "then" MethodRef.ofDocument?
  let reducers ← members.withDefault "reducers" [] (Document.list? Reducer.ofDocument?)
  return ⟨dependsOn, computedBy, transformedBy, reducers⟩

@[simp]
theorem ofDocument?_document (computation : Computation) :
    ofDocument? computation.document = some computation := by
  obtain ⟨dependsOn, computedBy, transformedBy, reducers⟩ := computation
  cases computedBy <;> cases transformedBy <;> cases reducers <;>
    simp [document, ofDocument?, Document.optionalMember, Document.list?_ofList,
      Document.Members.optional_cons_self, Document.Members.optional_cons_of_ne,
      MethodRef.document_ne_null]

end Computation

namespace Directive

def document : Directive → Document
  | .implicit => .text "Implicit"
  | .explicit path => .tagged "Explicit" (.object [("path", .text path)])
  | .computed computation => .tagged "Computed" computation.document

def ofDocument? : Document → Option Directive
  | .text "Implicit" => some .implicit
  | .object [("Explicit", .object members)] =>
      (Document.Members.required members "path" Document.text?).map .explicit
  | .object [("Computed", computation)] => (Computation.ofDocument? computation).map .computed
  | _ => none

@[simp]
theorem ofDocument?_document (directive : Directive) :
    ofDocument? directive.document = some directive := by
  cases directive with
  | implicit => rfl
  | explicit path => simp [document, ofDocument?, Document.tagged]
  | computed computation => simp [document, ofDocument?, Document.tagged]

end Directive

namespace TargetField

def document (field : TargetField) : Document :=
  .object
    [("name", .text field.name), ("ty", field.type.document),
      ("directive", field.directive.document)]

def ofDocument? (document : Document) : Option TargetField := do
  let members ← document.members?
  let name ← members.required "name" Document.text?
  let type ← members.required "ty" ValueType.ofDocument?
  let directive ← members.required "directive" Directive.ofDocument?
  return ⟨name, type, directive⟩

@[simp]
theorem ofDocument?_document (field : TargetField) :
    ofDocument? field.document = some field := by
  simp [document, ofDocument?]

end TargetField

namespace Declaration

def document (declaration : Declaration) : Document :=
  .object
    [("name", .text declaration.name),
      ("fields", .ofList TargetField.document declaration.fields)]

def ofDocument? (document : Document) : Option Declaration := do
  let members ← document.members?
  let name ← members.required "name" Document.text?
  let fields ← members.required "fields" (Document.list? TargetField.ofDocument?)
  return ⟨name, fields⟩

@[simp]
theorem ofDocument?_document (declaration : Declaration) :
    ofDocument? declaration.document = some declaration := by
  simp [document, ofDocument?, Document.list?_ofList]

end Declaration

namespace Settings

/-- The members that settings may have, in order. -/
def memberNames : List String :=
  ["compute_method_prefix", "numeric_widening", "check_projected_types", "identity_reduction"]

def document (settings : Settings) : Document :=
  .object
    [("compute_method_prefix", .text settings.methodLead),
      ("numeric_widening", .flag settings.numericWidening),
      ("check_projected_types", .flag settings.checkProjectedTypes),
      ("identity_reduction", .flag settings.identityReduction)]

/-- Settings from their members; those left out have their usual values. -/
def ofMembers? (members : Document.Members) : Option Settings :=
  if members.all fun member => memberNames.contains member.1 then do
    let usual : Settings := {}
    let methodLead ←
      members.withDefault "compute_method_prefix" usual.methodLead Document.text?
    let numericWidening ←
      members.withDefault "numeric_widening" usual.numericWidening Document.flag?
    let checkProjectedTypes ←
      members.withDefault "check_projected_types" usual.checkProjectedTypes Document.flag?
    let identityReduction ←
      members.withDefault "identity_reduction" usual.identityReduction Document.flag?
    return ⟨methodLead, numericWidening, checkProjectedTypes, identityReduction⟩
  else
    none

def ofDocument? (document : Document) : Option Settings :=
  document.members?.bind ofMembers?

@[simp]
theorem ofDocument?_document (settings : Settings) :
    ofDocument? settings.document = some settings := by
  simp [document, ofDocument?, ofMembers?, memberNames]

end Settings

end ProjectionPlanner

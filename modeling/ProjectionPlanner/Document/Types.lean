import ProjectionPlanner.Document.Basic
import ProjectionPlanner.Reducer

/-! # Types and reducers as documents
-/

namespace ProjectionPlanner

def ScalarType.document (scalar : ScalarType) : Document :=
  .text scalar.name

def ScalarType.ofDocument? : Document → Option ScalarType
  | .text name => ScalarType.named? name
  | _ => none

@[simp]
theorem ScalarType.ofDocument?_document (scalar : ScalarType) :
    ofDocument? scalar.document = some scalar :=
  named?_name scalar

namespace ValueType

def document : ValueType → Document
  | .scalar leaf => .tagged "Scalar" leaf.document
  | .object name => .tagged "Object" (.text name)
  | .collection element => .tagged "Collection" element.document

def ofDocument? : Document → Option ValueType
  | .object [(tag, data)] =>
      if tag = "Scalar" then
        (ScalarType.ofDocument? data).map .scalar
      else if tag = "Object" then
        data.text?.map .object
      else if tag = "Collection" then
        (ofDocument? data).map .collection
      else
        none
  | _ => none

@[simp]
theorem ofDocument?_document (type : ValueType) : ofDocument? type.document = some type := by
  induction type with
  | scalar leaf =>
      simp [document, Document.tagged, ofDocument?, ScalarType.ofDocument?_document]
  | object name => simp [document, Document.tagged, ofDocument?, Document.text?]
  | collection element ih => simp [document, Document.tagged, ofDocument?, ih]

end ValueType

def Reducer.document (reducer : Reducer) : Document :=
  .text reducer.name

def Reducer.ofDocument? : Document → Option Reducer
  | .text name => Reducer.named? name
  | _ => none

@[simp]
theorem Reducer.ofDocument?_document (reducer : Reducer) :
    ofDocument? reducer.document = some reducer :=
  named?_name reducer

end ProjectionPlanner

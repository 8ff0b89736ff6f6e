import ProjectionPlanner.Document.Methods
import ProjectionPlanner.Document.Source
import ProjectionPlanner.Plan.Basic

/-! # Plans as documents

The mappings of a plan are written as a list of pairs, since their order matters. A computed field
without a transformation has a null in its place.
-/

namespace ProjectionPlanner

namespace SegmentKind

def document : SegmentKind → Document
  | .scalar => .text "Scalar"
  | .nested => .text "Nested"
  | .collection depth => .tagged "Collection" (.object [("depth", .count depth)])

def ofDocument? : Document → Option SegmentKind
  | .text "Scalar" => some .scalar
  | .text "Nested" => some .nested
  | .object [("Collection", .object members)] =>
      (Document.Members.required members "depth" Document.count?).map .collection
  | _ => none

end SegmentKind

namespace Segment

def document (segment : Segment) : Document :=
  .object
    [("owner", .text segment.owner), ("name", .text segment.name),
      ("kind", segment.kind.document), ("nullable", .flag segment.nullable)]

def ofDocument? (document : Document) : Option Segment := do
  let members ← document.members?
  let owner ← members.required "owner" Document.text?
  let name ← members.required "name" Document.text?
  let kind ← members.required "kind" SegmentKind.ofDocument?
  let nullable ← members.required "nullable" Document.flag?
  return ⟨owner, name, kind, nullable⟩

end Segment

namespace ResolvedPath

def document (resolved : ResolvedPath) : Document :=
  .object
    [("path", .text resolved.path), ("segments", .ofList Segment.document resolved.segments),
      ("terminal_type", resolved.terminalType.document),
      ("traverses_collection", .flag resolved.traversesCollection),
      ("collection_hop_count", .count resolved.collectionHops)]

def ofDocument? (document : Document) : Option ResolvedPath := do
  let members ← document.members?
  let path ← members.required "path" Document.text?
  let segments ← members.required "segments" (Document.list? Segment.ofDocument?)
  let terminalType ← members.required "terminal_type" ValueType.ofDocument?
  let traversesCollection ← members.required "traverses_collection" Document.flag?
  let collectionHops ← members.required "collection_hop_count" Document.count?
  return ⟨path, segments, terminalType, traversesCollection, collectionHops⟩

end ResolvedPath

namespace ComputeStep

def document : ComputeStep → Document
  | .identity valueType => .tagged "Identity" (.object [("value_type", valueType.document)])
  | .invoke method => .tagged "Invoke" method.document

def ofDocument? : Document → Option ComputeStep
  | .object [("Identity", .object members)] =>
      (Document.Members.required members "value_type" ValueType.ofDocument?).map .identity
  | .object [("Invoke", method)] => (ResolvedMethod.ofDocument? method).map .invoke
  | _ => none

end ComputeStep

namespace ReducerBinding

def document (binding : ReducerBinding) : Document :=
  .object
    [("dependency", .count binding.dependency), ("path", .text binding.path),
      ("reducer", binding.reducer.document), ("output_type", binding.outputType.document)]

def ofDocument? (document : Document) : Option ReducerBinding := do
  let members ← document.members?
  let dependency ← members.required "dependency" Document.count?
  let path ← members.required "path" Document.text?
  let reducer ← members.required "reducer" Reducer.ofDocument?
  let outputType ← members.required "output_type" ValueType.ofDocument?
  return ⟨dependency, path, reducer, outputType⟩

end ReducerBinding

namespace ComputedMapping

def document (mapping : ComputedMapping) : Document :=
  .object
    [("dependencies", .ofList ResolvedPath.document mapping.dependencies),
      ("parameter_types", .ofList ValueType.document mapping.parameterTypes),
      ("compute", mapping.compute.document),
      ("transform", .ofOption ResolvedMethod.document mapping.transform),
      ("reducers", .ofList ReducerBinding.document mapping.reducers)]

def ofDocument? (document : Document) : Option ComputedMapping := do
  let members ← document.members?
  let dependencies ← members.required "dependencies" (Document.list? ResolvedPath.ofDocument?)
  let parameterTypes ← members.required "parameter_types" (Document.list? ValueType.ofDocument?)
  let compute ← members.required "compute" ComputeStep.ofDocument?
  let transform ← members.optional "transform" ResolvedMethod.ofDocument?
  let reducers ← members.required "reducers" (Document.list? ReducerBinding.ofDocument?)
  return ⟨dependencies, parameterTypes, compute, transform, reducers⟩

end ComputedMapping

namespace FieldMapping

def document : FieldMapping → Document
  | .implicit sourceField valueType nullable =>
      .tagged "Implicit"
        (.object
          [("source_field", .text sourceField), ("value_type", valueType.document),
            ("nullable", .flag nullable)])
  | .explicit path => .tagged "Explicit" (.object [("path", path.document)])
  | .computed mapping => .tagged "Computed" mapping.document

def ofDocument? : Document → Option FieldMapping
  | .object [("Implicit", .object members)] => do
    let sourceField ← Document.Members.required members "source_field" Document.text?
    let valueType ← Document.Members.required members "value_type" ValueType.ofDocument?
    let nullable ← Document.Members.required members "nullable" Document.flag?
    return .implicit sourceField valueType nullable
  | .object [("Explicit", .object members)] =>
      (Document.Members.required members "path" ResolvedPath.ofDocument?).map .explicit
  | .object [("Computed", mapping)] => (ComputedMapping.ofDocument? mapping).map .computed
  | _ => none

end FieldMapping

namespace Plan

def document (plan : Plan) : Document :=
  .object
    [("dto", .text plan.target), ("source", plan.source.document),
      ("providers", plan.registry.document),
      ("fields", .ofPairs FieldMapping.document plan.fields.toList)]

def ofDocument? (document : Document) : Option Plan := do
  let members ← document.members?
  let target ← members.required "dto" Document.text?
  let source ← members.required "source" SourceType.ofDocument?
  let registry ← members.required "providers" Registry.ofDocument?
  let fields ← members.required "fields" (Document.pairs? FieldMapping.ofDocument?)
  return ⟨target, source, registry, .ofList fields⟩

end Plan

end ProjectionPlanner

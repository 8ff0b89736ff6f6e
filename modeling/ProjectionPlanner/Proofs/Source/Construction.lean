import Mathlib.Data.List.Induction
import ProjectionPlanner.Proofs.Build.RequiredPaths
import ProjectionPlanner.Proofs.Document.WellFormed
import ProjectionPlanner.Proofs.Path.Answers

/-! # Types that are put together call by call

A source type is made without fields and then given one field after the other. Whatever is called
for, and however often for the same name, each field stands under its own name, the names stand in
the order in which they were called for first, and the last call for a name is the one that counts.
This is what paths rely on. They are looked up by key and recorded by name, so that in a type which
was put together in this way, with all the types inside it, what is recorded of a path is the path.
-/

namespace ProjectionPlanner

/-- A call that declares a field. -/
inductive FieldCall where
  | field (name : String) (kind : FieldKind)
  | nullableField (name : String) (kind : FieldKind)

namespace FieldCall

def name : FieldCall → String
  | .field name _ => name
  | .nullableField name _ => name

def kind : FieldCall → FieldKind
  | .field _ kind => kind
  | .nullableField _ kind => kind

def nullable : FieldCall → Bool
  | .field .. => false
  | .nullableField .. => true

def apply (type : SourceType) : FieldCall → SourceType
  | .field name kind => type.withField name kind
  | .nullableField name kind => type.withNullableField name kind

/-- The field that the call declares. -/
def declared (call : FieldCall) : SourceField :=
  ⟨call.name, call.kind, call.nullable⟩

theorem apply_eq_declare (type : SourceType) (call : FieldCall) :
    call.apply type = type.declare call.declared := by
  cases call <;> rfl

end FieldCall

/-- The type of a name after some calls. -/
def SourceType.ofCalls (name : String) (calls : List FieldCall) : SourceType :=
  calls.foldl FieldCall.apply (.empty name)

/-- The shape was put together by calls alone, and so were all the types inside it. -/
inductive FieldKind.Constructed : FieldKind → Prop where
  | scalar (leaf : ScalarType) : Constructed (.scalar leaf)
  | object {name : String} {calls : List FieldCall}
      (inside : ∀ call ∈ calls, Constructed call.kind) : Constructed (.object (.ofCalls name calls))
  | collection {element : FieldKind} (inside : Constructed element) :
      Constructed (.collection element)

/-- What is known of the fields of a type from the calls that declared them. -/
structure SourceType.DeclaredBy (type : SourceType) (calls : List FieldCall) : Prop where
  /-- Each field stands under its own name. -/
  keyed : ∀ key field, (key, field) ∈ type.fields → key = field.name
  /-- The names stand once each, in the order of their first calls. -/
  order : FirstOccurrences (calls.map FieldCall.name) (entryKeys type.fields)
  /-- Of several calls for a name the last one counts. -/
  last : ∀ {before after : List FieldCall} {call : FieldCall}, calls = before ++ call :: after →
    (∀ later ∈ after, later.name ≠ call.name) →
      type.field? call.name = some ⟨call.name, call.kind, call.nullable⟩
  uncalled : ∀ name, (∀ call ∈ calls, call.name ≠ name) → type.field? name = none

/-! ## First occurrences, item by item -/

namespace FirstOccurrences

variable {reading listed : List String} {item : String}

theorem pairwise_concat (first : FirstOccurrences reading listed) (item : String) :
    listed.Pairwise fun earlier later =>
      (reading ++ [item]).idxOf earlier < (reading ++ [item]).idxOf later := by
  refine first.inOrder.imp_of_mem fun {earlier later} stands laterStands before => ?_
  rwa [List.idxOf_append_of_mem ((first.mem_iff earlier).mp stands),
    List.idxOf_append_of_mem ((first.mem_iff later).mp laterStands)]

theorem concat_known (first : FirstOccurrences reading listed) (known : item ∈ reading) :
    FirstOccurrences (reading ++ [item]) listed where
  once := first.once
  mem_iff other := by
    rw [first.mem_iff, List.mem_append, List.mem_singleton]
    exact ⟨.inl, fun read => read.elim id fun same => same ▸ known⟩
  inOrder := first.pairwise_concat item

theorem concat_new (first : FirstOccurrences reading listed) (new : item ∉ reading) :
    FirstOccurrences (reading ++ [item]) (listed ++ [item]) where
  once := by
    have unlisted : item ∉ listed := fun stands => new ((first.mem_iff item).mp stands)
    rw [List.nodup_append]
    refine ⟨first.once, List.nodup_singleton item, fun earlier stands other added same => ?_⟩
    rw [same, List.mem_singleton.mp added] at stands
    exact unlisted stands
  mem_iff other := by
    rw [List.mem_append, List.mem_append, first.mem_iff]
  inOrder := by
    rw [List.pairwise_append]
    refine ⟨first.pairwise_concat item, List.pairwise_singleton _ _, ?_⟩
    intro earlier stands other added
    have read := (first.mem_iff earlier).mp stands
    rw [List.mem_singleton.mp added, List.idxOf_append_of_mem read,
      List.idxOf_append_of_notMem new, List.idxOf_cons_self]
    exact List.idxOf_lt_length_of_mem read

end FirstOccurrences

/-! ## Calls -/

namespace SourceType

variable {name : String} {calls : List FieldCall}

theorem ofCalls_concat (name : String) (calls : List FieldCall) (call : FieldCall) :
    ofCalls name (calls ++ [call]) = (ofCalls name calls).declare call.declared := by
  rw [ofCalls, List.foldl_concat, FieldCall.apply_eq_declare, ofCalls]

theorem name_ofCalls (name : String) (calls : List FieldCall) :
    (ofCalls name calls).name = name := by
  induction calls using List.reverseRecOn with
  | nil => rfl
  | append_singleton calls call ih => rwa [ofCalls_concat]

theorem field?_ofCalls_concat (name : String) (calls : List FieldCall) (call : FieldCall)
    (key : String) :
    (ofCalls name (calls ++ [call])).field? key =
      if key = call.name then some call.declared else (ofCalls name calls).field? key := by
  rw [ofCalls_concat, field?_declare]
  rfl

/-- What is found under a key was called for by that name. -/
theorem exists_call_of_field? {key : String} {field : SourceField}
    (found : (ofCalls name calls).field? key = some field) :
    ∃ call ∈ calls, call.name = key ∧ field = call.declared := by
  induction calls using List.reverseRecOn with
  | nil => cases found
  | append_singleton calls call ih =>
      rw [field?_ofCalls_concat] at found
      split at found
      · rename_i same
        cases found
        exact ⟨call, by simp, same.symm, rfl⟩
      · obtain ⟨earlier, called, sameName, same⟩ := ih found
        exact ⟨earlier, List.mem_append_left _ called, sameName, same⟩

theorem field?_ofCalls_of_last {before after : List FieldCall} {call : FieldCall}
    (last : ∀ later ∈ after, later.name ≠ call.name) :
    (ofCalls name (before ++ call :: after)).field? call.name = some call.declared := by
  induction after using List.reverseRecOn with
  | nil => rw [field?_ofCalls_concat, if_pos rfl]
  | append_singleton after other ih =>
      have others := List.forall_mem_append.mp last
      have apart : call.name ≠ other.name := (others.2 other (List.mem_singleton_self other)).symm
      rw [← List.cons_append, ← List.append_assoc, field?_ofCalls_concat, if_neg apart]
      exact ih others.1

theorem order_ofCalls (name : String) (calls : List FieldCall) :
    FirstOccurrences (calls.map FieldCall.name) (entryKeys (ofCalls name calls).fields) := by
  induction calls using List.reverseRecOn with
  | nil => exact firstOccurrences_of_list []
  | append_singleton calls call ih =>
      have keys : entryKeys (ofCalls name (calls ++ [call])).fields =
          if call.name ∈ entryKeys (ofCalls name calls).fields then
            entryKeys (ofCalls name calls).fields
          else entryKeys (ofCalls name calls).fields ++ [call.name] := by
        rw [ofCalls_concat]
        exact entryKeys_putEntry ..
      rw [keys, List.map_append, List.map_singleton]
      split
      · rename_i known
        exact ih.concat_known ((ih.mem_iff _).mp known)
      · rename_i new
        exact ih.concat_new fun read => new ((ih.mem_iff _).mpr read)

theorem keyed_ofCalls {key : String} {field : SourceField}
    (stands : (key, field) ∈ (ofCalls name calls).fields) : key = field.name := by
  induction calls using List.reverseRecOn with
  | nil => cases stands
  | append_singleton calls call ih =>
      rw [ofCalls_concat] at stands
      rcases mem_of_mem_putEntry stands with new | old
      · cases new
        rfl
      · exact ih old

theorem declaredBy_ofCalls (name : String) (calls : List FieldCall) :
    (ofCalls name calls).DeclaredBy calls where
  keyed _ _ stands := keyed_ofCalls stands
  order := order_ofCalls name calls
  last := by
    rintro before after call rfl last
    exact field?_ofCalls_of_last last
  uncalled key others := by
    cases found : (ofCalls name calls).field? key with
    | none => rfl
    | some field =>
        obtain ⟨call, called, same, -⟩ := exists_call_of_field? found
        exact absurd same (others call called)

end SourceType

/-! ## Paths -/

theorem FieldKind.Constructed.bare {element : ElementKind} {layers : Nat}
    (constructed : (element.bare.layered layers).Constructed) : element.bare.Constructed := by
  induction layers with
  | zero => exact constructed
  | succ layers ih =>
      cases constructed with
      | collection inside => exact ih inside

/-- A field of a type that was put together stands under its name, and its shape was put together
    too. -/
theorem ElementKind.field?_of_constructed {here : ElementKind} {key : String} {field : SourceField}
    (constructed : here.bare.Constructed) (found : here.field? key = some field) :
    field.name = key ∧ field.kind.Constructed := by
  cases here with
  | scalar leaf => cases found
  | object type =>
      cases constructed with
      | object inside =>
          obtain ⟨call, called, rfl, rfl⟩ := SourceType.exists_call_of_field? found
          exact ⟨rfl, inside call called⟩

/-- In such a type the fields along a path carry the names by which they were looked up. -/
theorem Path.Walks.map_name {here there : ElementKind} {names : List String} {hops : List Hop}
    (walks : Walks here names hops there) (constructed : here.bare.Constructed) :
    hops.map (·.field.name) = names := by
  induction walks with
  | nil => rfl
  | cons declared shape onward ih =>
      obtain ⟨sameName, inside⟩ := ElementKind.field?_of_constructed constructed declared
      rw [shape] at inside
      rw [List.map_cons, ih inside.bare]
      exact congrArg (· :: _) sameName

namespace SourceType

/-- What is recorded of a path gives back the path and where it starts, and the names that are
    recorded lead, in the types whose names are recorded with them, through declared fields. -/
structure Records (source : SourceType) (path : String) (resolved : ResolvedPath) : Prop where
  joined : Text.join "." (resolved.segments.map (·.name)) = path
  root : resolved.root = Path.lead path
  declared : ∃ hops there,
    Path.Walks (.object source) (resolved.segments.map (·.name)) hops there ∧
      resolved.segments = hops.map Path.Hop.segment

theorem records_of_constructed {source : SourceType} {path : String} {resolved : ResolvedPath}
    (constructed : (FieldKind.object source).Constructed)
    (accepted : source.resolve path = .ok resolved) : source.Records path resolved := by
  have answers := source.answers_resolve path
  rw [accepted] at answers
  cases answers with
  | @resolved hops there _ _ _ walks _ _ describes =>
      have named : resolved.segments.map (·.name) = Path.segments path := by
        rw [describes.segments, List.map_map]
        exact walks.map_name constructed
      have splits := Text.splits_pieces Path.separator path
      refine ⟨?_, ?_, hops, there, ?_, describes.segments⟩
      · rw [named]
        exact splits.joined
      · have nonempty : resolved.segments.map (·.name) ≠ [] := by
          rw [named]
          exact splits.nonempty
        rw [← Path.root_eq_lead, Path.root, ← named, ResolvedPath.root]
        cases recorded : resolved.segments with
        | nil => simp [recorded] at nonempty
        | cons first rest => rfl
      · rw [named]
        exact walks

/-- However a type is put together, its fields are keyed by their names, in the order of the first
    calls, and the last call for a name counts. If the types inside it were put together too, every
    path that is accepted is recorded by the very names it is made of. -/
theorem construction_keeps_names :
    (∀ name calls, (ofCalls name calls).name = name ∧ (ofCalls name calls).DeclaredBy calls) ∧
    ∀ source : SourceType, (FieldKind.object source).Constructed →
      ∀ path resolved, source.resolve path = .ok resolved → source.Records path resolved := by
  constructor
  · intro name calls
    exact ⟨name_ofCalls name calls, declaredBy_ofCalls name calls⟩
  · intro source constructed path resolved accepted
    exact records_of_constructed constructed accepted

/-- The calls for an order whose identifier is given twice, the second time with another type. -/
def orderCalls : List FieldCall :=
  [.nullableField "id" (.scalar .text),
    .field "items" (.collection (.object (ofCalls "Item" [.field "price" (.scalar .decimal)]))),
    .field "id" (.scalar .int64)]

/-- The identifier keeps its place and takes its second type, and the path to the prices is
    recorded. -/
theorem orderCalls_keep_names :
    entryKeys (ofCalls "Order" orderCalls).fields = ["id", "items"] ∧
      (ofCalls "Order" orderCalls).field? "id" = some ⟨"id", .scalar .int64, false⟩ ∧
      (FieldKind.object (ofCalls "Order" orderCalls)).Constructed ∧
      ∃ resolved, (ofCalls "Order" orderCalls).resolve "items.price" = .ok resolved ∧
        (ofCalls "Order" orderCalls).Records "items.price" resolved := by
  obtain ⟨calls, paths⟩ := construction_keeps_names
  obtain ⟨-, declared⟩ := calls "Order" orderCalls
  have called : orderCalls = orderCalls.take 2 ++ .field "id" (.scalar .int64) :: [] := rfl
  have constructed : (FieldKind.object (ofCalls "Order" orderCalls)).Constructed := by
    have item :
        (FieldKind.object (ofCalls "Item" [.field "price" (.scalar .decimal)])).Constructed :=
      .object (by simpa using .scalar .decimal)
    refine .object fun call listed => ?_
    simp only [orderCalls, List.mem_cons, List.not_mem_nil, or_false] at listed
    rcases listed with rfl | rfl | rfl
    · exact .scalar .text
    · exact .collection item
    · exact .scalar .int64
  exact ⟨rfl, declared.last called (by simp), constructed, _, rfl, paths _ constructed _ _ rfl⟩

end SourceType

end ProjectionPlanner

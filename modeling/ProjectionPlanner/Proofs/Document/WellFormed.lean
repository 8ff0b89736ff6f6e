import ProjectionPlanner.Document.Plan

/-! # Plans that documents hold

Not everything that has the form of a plan can stand in a document. Keys of a source type would be
read as one if they were the same, and depths and positions have to be machine numbers. A plan is
well formed if this is so, and no other plan is ever read.
-/

namespace ProjectionPlanner

def SegmentKind.InRange : SegmentKind → Prop
  | .collection depth => depth < Document.countRange
  | _ => True

instance (kind : SegmentKind) : Decidable kind.InRange :=
  match kind with
  | .scalar => .isTrue trivial
  | .nested => .isTrue trivial
  | .collection depth => inferInstanceAs (Decidable (depth < Document.countRange))

/-- All depths of the path are machine numbers. -/
structure ResolvedPath.InRange (resolved : ResolvedPath) : Prop where
  segments : ∀ segment ∈ resolved.segments, segment.kind.InRange
  collectionHops : resolved.collectionHops < Document.countRange

instance (resolved : ResolvedPath) : Decidable resolved.InRange :=
  decidable_of_iff
    ((∀ segment ∈ resolved.segments, segment.kind.InRange) ∧
      resolved.collectionHops < Document.countRange)
    ⟨fun all => ⟨all.1, all.2⟩, fun all => ⟨all.1, all.2⟩⟩

/-- All depths and positions of the mapping are machine numbers. -/
structure ComputedMapping.InRange (mapping : ComputedMapping) : Prop where
  dependencies : ∀ dependency ∈ mapping.dependencies, dependency.InRange
  reducers : ∀ binding ∈ mapping.reducers, binding.dependency < Document.countRange

instance (mapping : ComputedMapping) : Decidable mapping.InRange :=
  decidable_of_iff
    ((∀ dependency ∈ mapping.dependencies, dependency.InRange) ∧
      ∀ binding ∈ mapping.reducers, binding.dependency < Document.countRange)
    ⟨fun all => ⟨all.1, all.2⟩, fun all => ⟨all.1, all.2⟩⟩

def FieldMapping.InRange : FieldMapping → Prop
  | .implicit .. => True
  | .explicit path => path.InRange
  | .computed mapping => mapping.InRange

instance (mapping : FieldMapping) : Decidable mapping.InRange :=
  match mapping with
  | .implicit .. => .isTrue trivial
  | .explicit path => inferInstanceAs (Decidable path.InRange)
  | .computed mapping => inferInstanceAs (Decidable mapping.InRange)

/-- What a plan of a running program promises: no key of its source type stands twice, and its
    depths and positions are machine numbers. -/
structure Plan.WellFormed (plan : Plan) : Prop where
  source : plan.source.KeysDistinct
  mappings : ∀ mapping ∈ plan.fields.values, mapping.InRange

/-! ## Entries that were put in order -/

section Put

variable {κ α : Type} [DecidableEq κ]

theorem mem_of_mem_putEntry {key : κ} {value : α} {entries : List (κ × α)} {entry : κ × α}
    (member : entry ∈ putEntry key value entries) : entry = (key, value) ∨ entry ∈ entries := by
  induction entries with
  | nil => exact .inl (List.mem_singleton.mp member)
  | cons first rest ih =>
      obtain ⟨other, old⟩ := first
      rw [putEntry] at member
      split at member
      · exact (List.mem_cons.mp member).imp_right (List.mem_cons_of_mem _)
      · rcases List.mem_cons.mp member with rfl | later
        · exact .inr List.mem_cons_self
        · exact (ih later).imp_right (List.mem_cons_of_mem _)

theorem Entries.mem_of_mem_putAll {entries : Entries κ α} {pairs : List (κ × α)} {entry : κ × α}
    (member : entry ∈ (entries.putAll pairs).toList) :
    entry ∈ entries.toList ∨ entry ∈ pairs := by
  induction pairs generalizing entries with
  | nil => exact .inl member
  | cons pair rest ih =>
      have member : entry ∈ ((entries.put pair.1 pair.2).putAll rest).toList := member
      rcases ih member with known | later
      · rcases mem_of_mem_putEntry known with rfl | known
        · exact .inr List.mem_cons_self
        · exact .inl known
      · exact .inr (List.mem_cons_of_mem pair later)

end Put

/-! ## Source types -/

theorem entriesKeysDistinct_iff {fields : List (String × SourceField)} :
    entriesKeysDistinct fields ↔ ∀ entry ∈ fields, entry.2.kind.KeysDistinct := by
  induction fields with
  | nil => simp [entriesKeysDistinct]
  | cons entry rest ih =>
      obtain ⟨key, name, kind, nullable⟩ := entry
      simp [entriesKeysDistinct, ih]

theorem entriesKeysDistinct_putEntry {key : String} {field : SourceField}
    {fields : List (String × SourceField)} (inner : field.kind.KeysDistinct)
    (distinct : entriesKeysDistinct fields) : entriesKeysDistinct (putEntry key field fields) := by
  refine entriesKeysDistinct_iff.mpr fun entry member => ?_
  rcases mem_of_mem_putEntry member with rfl | stands
  · exact inner
  · exact entriesKeysDistinct_iff.mp distinct entry stands

mutual

-- The reader puts the fields one after the other, each in place of an earlier one of its key; what
-- is known so far keeps both promises.

theorem FieldKind.keysDistinct_of_read {document : Document} {kind : FieldKind}
    (read : FieldKind.ofDocument? document = some kind) : kind.KeysDistinct := by
  match document with
  | .object [(tag, data)] =>
      rw [FieldKind.ofDocument?] at read
      split at read
      · obtain ⟨leaf, -, rfl⟩ := Option.map_eq_some_iff.mp read
        trivial
      · split at read
        · obtain ⟨type, inner, rfl⟩ := Option.map_eq_some_iff.mp read
          exact SourceType.keysDistinct_of_read inner
        · split at read
          · obtain ⟨element, inner, rfl⟩ := Option.map_eq_some_iff.mp read
            have distinct : element.KeysDistinct := FieldKind.keysDistinct_of_read inner
            exact distinct
          · cases read
  | .null | .flag _ | .count _ | .number .. | .text _ | .list _ | .object []
  | .object (_ :: _ :: _) => simp [FieldKind.ofDocument?] at read

theorem SourceType.keysDistinct_of_read {document : Document} {type : SourceType}
    (read : SourceType.ofDocument? document = some type) : type.KeysDistinct := by
  match document with
  | .object members =>
      rw [SourceType.ofDocument?] at read
      obtain ⟨name, -, read⟩ := Option.bind_eq_some_iff.mp read
      obtain ⟨fields, inner, rfl⟩ := Option.map_eq_some_iff.mp read
      exact fieldsMember?_keysDistinct inner
  | .null | .flag _ | .count _ | .number .. | .text _ | .list _ =>
      simp [SourceType.ofDocument?] at read

theorem fieldsMember?_keysDistinct {members : List (String × Document)}
    {fields : List (String × SourceField)} (read : fieldsMember? members = some fields) :
    (entryKeys fields).Nodup ∧ entriesKeysDistinct fields := by
  match members with
  | [] => cases read
  | (name, document) :: rest =>
      rw [fieldsMember?] at read
      split at read
      · exact fieldEntries?_keysDistinct read
      · exact fieldsMember?_keysDistinct read

theorem fieldEntries?_keysDistinct {document : Document} {fields : List (String × SourceField)}
    (read : fieldEntries? document = some fields) :
    (entryKeys fields).Nodup ∧ entriesKeysDistinct fields := by
  match document with
  | .list items =>
      rw [fieldEntries?] at read
      have none : (entryKeys ([] : List (String × SourceField))).Nodup := List.nodup_nil
      exact readEntries_keysDistinct none trivial read
  | .null | .flag _ | .count _ | .number .. | .text _ | .object _ =>
      simp [fieldEntries?] at read

theorem readEntries_keysDistinct {known fields : List (String × SourceField)}
    {items : List Document} (distinct : (entryKeys known).Nodup) (inner : entriesKeysDistinct known)
    (read : readEntries known items = some fields) :
    (entryKeys fields).Nodup ∧ entriesKeysDistinct fields := by
  match items with
  | [] =>
      cases read
      exact ⟨distinct, inner⟩
  | item :: rest =>
      rw [readEntries.eq_def] at read
      split at read
      · rename_i same
        cases same
      · rename_i key field others same
        cases same
        obtain ⟨value, first, later⟩ := Option.bind_eq_some_iff.mp read
        exact readEntries_keysDistinct (nodup_putEntry distinct key value)
          (entriesKeysDistinct_putEntry (SourceField.keysDistinct_of_read first) inner) later
      · cases read

theorem SourceField.keysDistinct_of_read {document : Document} {field : SourceField}
    (read : SourceField.ofDocument? document = some field) : field.kind.KeysDistinct := by
  match document with
  | .object members =>
      rw [SourceField.ofDocument?] at read
      obtain ⟨name, -, read⟩ := Option.bind_eq_some_iff.mp read
      obtain ⟨kind, inner, read⟩ := Option.bind_eq_some_iff.mp read
      obtain ⟨nullable, -, rfl⟩ := Option.map_eq_some_iff.mp read
      exact kindMember?_keysDistinct inner
  | .null | .flag _ | .count _ | .number .. | .text _ | .list _ =>
      simp [SourceField.ofDocument?] at read

theorem kindMember?_keysDistinct {members : List (String × Document)} {kind : FieldKind}
    (read : kindMember? members = some kind) : kind.KeysDistinct := by
  match members with
  | [] => cases read
  | (name, document) :: rest =>
      rw [kindMember?] at read
      split at read
      · exact FieldKind.keysDistinct_of_read read
      · exact kindMember?_keysDistinct read

end
/-! ## Plans -/

namespace Document

variable {α : Type} {read : Document → Option α} {document : Document}

theorem exists_of_readAll {items : List Document} {values : List α}
    (all : readAll read items = some values) :
    ∀ value ∈ values, ∃ item, read item = some value := by
  induction items generalizing values with
  | nil =>
      cases all
      simp
  | cons item rest ih =>
      rw [readAll] at all
      obtain ⟨first, here, later⟩ := Option.bind_eq_some_iff.mp all
      obtain ⟨others, remaining, rfl⟩ := Option.map_eq_some_iff.mp later
      exact List.forall_mem_cons.mpr ⟨⟨item, here⟩, ih remaining⟩

theorem exists_of_list? {values : List α} (all : list? read document = some values) :
    ∀ value ∈ values, ∃ item, read item = some value := by
  cases document with
  | list items => exact exists_of_readAll all
  | _ => cases all

theorem exists_of_required {members : Members} {name : String} {value : α}
    (found : members.required name read = some value) : ∃ item, read item = some value := by
  obtain ⟨item, -, here⟩ := Option.bind_eq_some_iff.mp found
  exact ⟨item, here⟩

theorem lt_of_count? {value : Nat} (counted : count? document = some value) :
    value < countRange := by
  cases document with
  | count given =>
      simp only [count?] at counted
      split at counted
      · cases counted
        assumption
      · cases counted
  | _ => cases counted

end Document

theorem SegmentKind.inRange_of_read {document : Document} {kind : SegmentKind}
    (read : SegmentKind.ofDocument? document = some kind) : kind.InRange := by
  unfold SegmentKind.ofDocument? at read
  split at read
  · cases read
    trivial
  · cases read
    trivial
  · obtain ⟨depth, found, rfl⟩ := Option.map_eq_some_iff.mp read
    obtain ⟨_, counted⟩ := Document.exists_of_required found
    exact Document.lt_of_count? counted
  · cases read

theorem Segment.inRange_of_read {document : Document} {segment : Segment}
    (read : Segment.ofDocument? document = some segment) : segment.kind.InRange := by
  simp only [ofDocument?, Option.bind_eq_bind, Option.bind_eq_some_iff] at read
  obtain ⟨members, -, owner, -, name, -, kind, found, nullable, -, same⟩ := read
  cases same
  obtain ⟨_, found⟩ := Document.exists_of_required found
  exact SegmentKind.inRange_of_read found

theorem ResolvedPath.inRange_of_read {document : Document} {resolved : ResolvedPath}
    (read : ResolvedPath.ofDocument? document = some resolved) : resolved.InRange := by
  simp only [ofDocument?, Option.bind_eq_bind, Option.bind_eq_some_iff] at read
  obtain ⟨members, -, path, -, segments, listed, type, -, traverses, -, hops, counted, same⟩ := read
  cases same
  obtain ⟨_, listed⟩ := Document.exists_of_required listed
  obtain ⟨_, counted⟩ := Document.exists_of_required counted
  constructor
  · intro segment member
    obtain ⟨_, found⟩ := Document.exists_of_list? listed segment member
    exact Segment.inRange_of_read found
  · exact Document.lt_of_count? counted

theorem ReducerBinding.inRange_of_read {document : Document} {binding : ReducerBinding}
    (read : ReducerBinding.ofDocument? document = some binding) :
    binding.dependency < Document.countRange := by
  simp only [ofDocument?, Option.bind_eq_bind, Option.bind_eq_some_iff] at read
  obtain ⟨members, -, dependency, counted, path, -, reducer, -, type, -, same⟩ := read
  cases same
  obtain ⟨_, counted⟩ := Document.exists_of_required counted
  exact Document.lt_of_count? counted

theorem ComputedMapping.inRange_of_read {document : Document} {mapping : ComputedMapping}
    (read : ComputedMapping.ofDocument? document = some mapping) : mapping.InRange := by
  simp only [ofDocument?, Option.bind_eq_bind, Option.bind_eq_some_iff] at read
  obtain ⟨members, -, dependencies, paths, types, -, step, -, transform, -, reducers, bound,
    same⟩ := read
  cases same
  obtain ⟨_, paths⟩ := Document.exists_of_required paths
  obtain ⟨_, bound⟩ := Document.exists_of_required bound
  constructor
  · intro dependency member
    obtain ⟨_, found⟩ := Document.exists_of_list? paths dependency member
    exact ResolvedPath.inRange_of_read found
  · intro binding member
    obtain ⟨_, found⟩ := Document.exists_of_list? bound binding member
    exact ReducerBinding.inRange_of_read found

theorem FieldMapping.inRange_of_read {document : Document} {mapping : FieldMapping}
    (read : FieldMapping.ofDocument? document = some mapping) : mapping.InRange := by
  unfold FieldMapping.ofDocument? at read
  split at read
  · simp only [Option.bind_eq_bind, Option.bind_eq_some_iff] at read
    obtain ⟨sourceField, -, valueType, -, nullable, -, same⟩ := read
    cases same
    trivial
  · obtain ⟨path, found, rfl⟩ := Option.map_eq_some_iff.mp read
    obtain ⟨_, found⟩ := Document.exists_of_required found
    exact ResolvedPath.inRange_of_read found
  · obtain ⟨computed, found, rfl⟩ := Option.map_eq_some_iff.mp read
    exact ComputedMapping.inRange_of_read found
  · cases read

/-- A plan that was read from a document is well formed. -/
theorem Plan.wellFormed_of_read {document : Document} {plan : Plan}
    (read : Plan.ofDocument? document = some plan) : plan.WellFormed := by
  simp only [ofDocument?, Option.bind_eq_bind, Option.bind_eq_some_iff] at read
  obtain ⟨members, -, target, -, source, known, registry, -, fields, listed, same⟩ := read
  cases same
  obtain ⟨_, known⟩ := Document.exists_of_required known
  obtain ⟨_, listed⟩ := Document.exists_of_required listed
  constructor
  · exact SourceType.keysDistinct_of_read known
  · intro mapping member
    obtain ⟨entry, stands, rfl⟩ := List.mem_map.mp member
    rcases Entries.mem_of_mem_putAll stands with none | given
    · cases none
    · obtain ⟨_, found⟩ := Document.exists_of_list? listed entry given
      split at found
      · obtain ⟨mapping, read, rfl⟩ := Option.map_eq_some_iff.mp found
        exact FieldMapping.inRange_of_read read
      · cases found

end ProjectionPlanner

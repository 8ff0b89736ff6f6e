/-! # Entries in order

A list of keyed values as records declare them: the order of the keys is the order in which they
were first given, and giving a key again replaces its value where it stands. `putEntry` works on a
plain list of pairs; `Entries` adds the promise that no key stands twice.
-/

namespace ProjectionPlanner

/-- Give a key a value: in place when the key stands already, else at the end. -/
def putEntry {κ α : Type} [DecidableEq κ] (key : κ) (value : α) : List (κ × α) → List (κ × α)
  | [] => [(key, value)]
  | (other, old) :: rest =>
      if other = key then (key, value) :: rest else (other, old) :: putEntry key value rest

/-- The keys of a list of pairs, in order. -/
abbrev entryKeys {κ α : Type} (entries : List (κ × α)) : List κ :=
  entries.map Prod.fst

/-- Where keys differ, every item is found by its key. -/
theorem find?_of_distinct_keys {κ α : Type} [DecidableEq κ] {key : α → κ} {items : List α}
    (distinct : (items.map key).Nodup) {item : α} (listed : item ∈ items) :
    items.find? (key · == key item) = some item := by
  obtain ⟨before, after, split⟩ := List.append_of_mem listed
  rw [split, List.map_append, List.nodup_append] at distinct
  refine List.find?_eq_some_iff_append.mpr ⟨by simp, before, after, split, ?_⟩
  intro earlier stands
  have other := distinct.2.2 (key earlier) (List.mem_map_of_mem stands) (key item) (by simp)
  simpa using other

section Put

variable {κ α : Type} [DecidableEq κ]

theorem entryKeys_putEntry (key : κ) (value : α) (entries : List (κ × α)) :
    entryKeys (putEntry key value entries) =
      if key ∈ entryKeys entries then entryKeys entries else entryKeys entries ++ [key] := by
  induction entries with
  | nil => simp [putEntry]
  | cons entry rest ih =>
      obtain ⟨other, old⟩ := entry
      by_cases same : other = key
      · simp [putEntry, same]
      · simp only [putEntry, if_neg same, List.map_cons, ih, List.mem_cons, Ne.symm same, false_or]
        split <;> simp

theorem nodup_putEntry {entries : List (κ × α)} (distinct : (entryKeys entries).Nodup) (key : κ)
    (value : α) : (entryKeys (putEntry key value entries)).Nodup := by
  rw [entryKeys_putEntry]
  split
  · exact distinct
  · rename_i absent
    simp only [List.nodup_append, distinct, List.nodup_cons, List.not_mem_nil, not_false_eq_true,
      List.nodup_nil, and_self, List.mem_singleton, true_and]
    exact fun _ stands _ same equal => absent (same ▸ equal ▸ stands)

theorem lookup_entry_cons (key : κ) (value : α) (rest : List (κ × α)) (wanted : κ) :
    ((key, value) :: rest).lookup wanted =
      if wanted = key then some value else rest.lookup wanted := by
  rw [List.lookup_cons]
  by_cases same : wanted = key
  · simp [same]
  · simp [same, beq_eq_false_iff_ne.mpr same]

theorem lookup_putEntry (key : κ) (value : α) (entries : List (κ × α)) (wanted : κ) :
    (putEntry key value entries).lookup wanted =
      if wanted = key then some value else entries.lookup wanted := by
  induction entries with
  | nil => simp [putEntry, lookup_entry_cons]
  | cons entry rest ih =>
      obtain ⟨first, old⟩ := entry
      by_cases here : first = key
      · subst here
        simp only [putEntry, if_pos, lookup_entry_cons]
        split <;> rfl
      · simp only [putEntry, if_neg here, lookup_entry_cons, ih]
        by_cases atFirst : wanted = first
        · subst atFirst
          simp [here]
        · simp [atFirst]

end Put

/-- Keyed values in the order of their keys, every key at most once. -/
structure Entries (κ α : Type) where
  toList : List (κ × α)
  distinct : (entryKeys toList).Nodup

namespace Entries

variable {κ α : Type}

@[ext]
theorem ext {left right : Entries κ α} (same : left.toList = right.toList) : left = right := by
  cases left
  cases right
  cases same
  rfl

def empty : Entries κ α := ⟨[], List.nodup_nil⟩

def size (entries : Entries κ α) : Nat :=
  entries.toList.length

def isEmpty (entries : Entries κ α) : Bool :=
  entries.toList.isEmpty

def keys (entries : Entries κ α) : List κ :=
  entryKeys entries.toList

def values (entries : Entries κ α) : List α :=
  entries.toList.map Prod.snd

@[simp]
theorem toList_empty : (empty : Entries κ α).toList = [] := rfl

variable [DecidableEq κ]

def get? (entries : Entries κ α) (key : κ) : Option α :=
  entries.toList.lookup key

/-- A key is looked up as the entry says that stands under it. -/
theorem get?_eq_some_iff {entries : Entries κ α} {key : κ} {value : α} :
    entries.get? key = some value ↔ (key, value) ∈ entries.toList := by
  rw [get?, List.lookup_eq_some_iff]
  constructor
  · rintro ⟨before, after, split, -⟩
    rw [split]
    exact List.mem_append_right before List.mem_cons_self
  · intro member
    obtain ⟨before, after, split⟩ := List.append_of_mem member
    have distinct := entries.distinct
    rw [split, entryKeys, List.map_append, List.nodup_append] at distinct
    refine ⟨before, after, split, fun entry earlier => ?_⟩
    have other := distinct.2.2 entry.1 (List.mem_map_of_mem earlier) key (by simp)
    simpa using Ne.symm other

/-- Give a key a value, see `putEntry`. -/
def put (entries : Entries κ α) (key : κ) (value : α) : Entries κ α :=
  ⟨putEntry key value entries.toList, nodup_putEntry entries.distinct key value⟩

/-- Give the pairs of a list one after the other. -/
def putAll (entries : Entries κ α) (pairs : List (κ × α)) : Entries κ α :=
  pairs.foldl (fun known pair => known.put pair.1 pair.2) entries

def ofList (pairs : List (κ × α)) : Entries κ α :=
  empty.putAll pairs

/-- Both give every key the same value; the order does not matter. -/
def sameAs (agree : α → α → Bool) (left right : Entries κ α) : Bool :=
  left.size == right.size &&
    left.toList.all fun (key, value) =>
      match right.get? key with
      | some other => agree value other
      | none => false

@[simp]
theorem toList_put (entries : Entries κ α) (key : κ) (value : α) :
    (entries.put key value).toList = putEntry key value entries.toList := rfl

theorem putEntry_of_not_mem {entries : List (κ × α)} {key : κ} (absent : key ∉ entryKeys entries)
    (value : α) : putEntry key value entries = entries ++ [(key, value)] := by
  induction entries with
  | nil => rfl
  | cons entry rest ih =>
      obtain ⟨other, old⟩ := entry
      simp only [List.map_cons, List.mem_cons, not_or] at absent
      rw [putEntry, if_neg (Ne.symm absent.1), ih absent.2]
      rfl

/-- Giving new, distinct keys appends them as they stand. -/
theorem toList_putAll {entries : Entries κ α} {pairs : List (κ × α)}
    (distinct : (entries.keys ++ entryKeys pairs).Nodup) :
    (entries.putAll pairs).toList = entries.toList ++ pairs := by
  induction pairs generalizing entries with
  | nil => simp [putAll]
  | cons pair rest ih =>
      obtain ⟨key, value⟩ := pair
      have absent : key ∉ entryKeys entries.toList := by
        intro stands
        rw [List.nodup_append] at distinct
        exact distinct.2.2 key stands key (by simp) rfl
      have putKeys : (entries.put key value).keys = entries.keys ++ [key] := by
        simp [keys, putEntry_of_not_mem absent]
      have step := @ih (entries.put key value) (by
        rw [putKeys]
        simpa using distinct)
      simpa [putAll, putEntry_of_not_mem absent] using step

theorem toList_ofList {pairs : List (κ × α)} (distinct : (entryKeys pairs).Nodup) :
    (ofList pairs).toList = pairs := by
  have appended : ((empty : Entries κ α).putAll pairs).toList = [] ++ pairs :=
    toList_putAll (by simpa [keys] using distinct)
  simpa [ofList] using appended

/-- Entries given one after the other in their own order are the entries themselves. -/
theorem ofList_toList (entries : Entries κ α) : ofList entries.toList = entries :=
  ext (toList_ofList entries.distinct)

end Entries

end ProjectionPlanner

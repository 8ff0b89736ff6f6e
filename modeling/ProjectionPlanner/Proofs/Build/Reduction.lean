import Mathlib.Data.List.ReduceOption
import ProjectionPlanner.Build.Field

/-! # Reducers by rank

Reducers are bound from left to right, and only dependencies that cross a collection take one. So
the reducer of a dependency is the one whose rank among the reducers is the rank of the dependency
among those that cross collections. Here binding is compared with that description, in which every
position speaks for itself.
-/

namespace ProjectionPlanner

/-- The type that a reducer makes of values which it supports. -/
def Reducer.typeOver (reducer : Reducer) (leaf : ValueType) : ValueType :=
  if reducer.counts then countType else leaf

theorem Reducer.outputType_of_supports {reducer : Reducer} {leaf : ValueType}
    (supported : reducer.supports leaf = true) :
    reducer.outputType leaf = .ok (reducer.typeOver leaf) := by
  simp [outputType, supported, typeOver]

theorem Reducer.outputType_of_not_supports {reducer : Reducer} {leaf : ValueType}
    (refused : reducer.supports leaf = false) :
    reducer.outputType leaf = .error (.unsupported reducer leaf) := by
  simp [outputType, refused]

/-- How many of some dependencies cross collections. -/
def crossings (dependencies : List ResolvedPath) : Nat :=
  dependencies.countP (·.traversesCollection)

/-- The reducer of the dependency at a position, if it crosses a collection: as many stand before
    it as dependencies before that position cross one. -/
def reducerAt (dependencies : List ResolvedPath) (reducers : List Reducer) (position : Nat) :
    Option Reducer :=
  match dependencies[position]? with
  | none => none
  | some dependency =>
      if dependency.traversesCollection then reducers[crossings (dependencies.take position)]?
      else none

theorem reducerAt_cons_plain {dependency : ResolvedPath}
    (plain : dependency.traversesCollection = false) (rest : List ResolvedPath)
    (reducers : List Reducer) (position : Nat) :
    reducerAt (dependency :: rest) reducers (position + 1) = reducerAt rest reducers position := by
  simp [reducerAt, crossings, plain]

theorem reducerAt_cons_crossing {dependency : ResolvedPath}
    (crosses : dependency.traversesCollection = true) (rest : List ResolvedPath)
    (reducer : Reducer) (later : List Reducer) (position : Nat) :
    reducerAt (dependency :: rest) (reducer :: later) (position + 1) =
      reducerAt rest later position := by
  simp [reducerAt, crossings, crosses]

theorem reducerAt_of_plain {dependencies : List ResolvedPath} {position : Nat}
    {dependency : ResolvedPath} (there : dependencies[position]? = some dependency)
    (plain : dependency.traversesCollection = false) (reducers : List Reducer) :
    reducerAt dependencies reducers position = none := by
  simp [reducerAt, there, plain]

/-- Where reducers do not run out, a dependency that crosses a collection has one. -/
theorem exists_reducerAt_of_crossing {dependencies : List ResolvedPath} {reducers : List Reducer}
    (enough : crossings dependencies ≤ reducers.length) {position : Nat}
    {dependency : ResolvedPath} (there : dependencies[position]? = some dependency)
    (crosses : dependency.traversesCollection = true) :
    ∃ reducer, reducers[crossings (dependencies.take position)]? = some reducer ∧
      reducerAt dependencies reducers position = some reducer := by
  have next : crossings (dependencies.take (position + 1)) =
      crossings (dependencies.take position) + 1 := by
    simp [crossings, List.take_add_one, there, crosses]
  have most : crossings (dependencies.take (position + 1)) ≤ crossings dependencies :=
    (List.take_sublist _ _).countP_le
  have inside : crossings (dependencies.take position) < reducers.length := by omega
  have taken := List.getElem?_eq_getElem inside
  exact ⟨_, taken, by simp only [reducerAt, there, crosses, if_true, taken]⟩

/-- The positions that have a reducer use up all reducers, in order. -/
theorem reducersByRank_eq {dependencies : List ResolvedPath} {reducers : List Reducer}
    (paired : crossings dependencies = reducers.length) :
    (dependencies.mapIdx fun position _ =>
      reducerAt dependencies reducers position).reduceOption = reducers := by
  induction dependencies generalizing reducers with
  | nil =>
      have none : reducers = [] := List.eq_nil_of_length_eq_zero paired.symm
      rw [none]
      rfl
  | cons dependency rest ih =>
      cases crosses : dependency.traversesCollection with
      | false =>
          have paired : crossings rest = reducers.length := by
            simpa [crossings, crosses] using paired
          have first : reducerAt (dependency :: rest) reducers 0 = none :=
            reducerAt_of_plain rfl crosses reducers
          simp only [List.mapIdx_cons, first, List.reduceOption_cons_of_none,
            reducerAt_cons_plain crosses, ih paired]
      | true =>
          cases reducers with
          | nil => simp [crossings, crosses] at paired
          | cons reducer later =>
              have paired : crossings rest = later.length := by
                simpa [crossings, crosses] using paired
              have first : reducerAt (dependency :: rest) (reducer :: later) 0 = some reducer := by
                simp [reducerAt, crossings, crosses]
              simp only [List.mapIdx_cons, first, List.reduceOption_cons_of_some,
                reducerAt_cons_crossing crosses, ih paired]

/-- The diagnostic of a reducer that does not support the values of its dependency. -/
def unsupportedPair? (pair : ResolvedPath × Reducer) : Option PlanErrorKind :=
  if pair.2.supports pair.1.terminalType then none
  else some (.reducer (.unsupported pair.2 pair.1.terminalType))

/-- One diagnostic for every reducer that does not support the values of its dependency, the
    reducers being paired with the dependencies that cross collections. -/
def unsupportedPairs (dependencies : List ResolvedPath) (reducers : List Reducer) :
    List PlanErrorKind :=
  ((dependencies.filter (·.traversesCollection)).zip reducers).filterMap unsupportedPair?

namespace Build

/-- The argument that a dependency becomes by its reducer, or without one. -/
def argumentOf (position : Nat) (dependency : ResolvedPath) : Option Reducer → Argument
  | none => ⟨dependency.terminalType, none⟩
  | some reducer =>
      let type := reducer.typeOver dependency.terminalType
      ⟨type, some ⟨position, dependency.path, reducer, type⟩⟩

/-- All arguments, each from the reducer at its own position. -/
def argumentsByRank (dependencies : List ResolvedPath) (reducers : List Reducer) :
    List Argument :=
  dependencies.mapIdx fun position dependency =>
    argumentOf position dependency (reducerAt dependencies reducers position)

/-- The outcome of binding a dependency to its reducer, if it has one. -/
def bound (position : Nat) (dependency : ResolvedPath) : Option Reducer →
    Except PlanErrorKind Argument
  | none => .ok (argumentOf position dependency none)
  | some reducer =>
      match unsupportedPair? (dependency, reducer) with
      | none => .ok (argumentOf position dependency (some reducer))
      | some error => .error error

theorem bound_of_no_error {position : Nat} {dependency : ResolvedPath} {reducer : Option Reducer}
    (clean : argumentError? (bound position dependency reducer) = none) :
    bound position dependency reducer = .ok (argumentOf position dependency reducer) := by
  cases reducer with
  | none => rfl
  | some reducer =>
      simp only [bound] at clean ⊢
      cases pair : unsupportedPair? (dependency, reducer) with
      | none => rfl
      | some error => simp [pair, argumentError?] at clean

theorem bindReducers_cons_crossing {dependency : ResolvedPath}
    (crosses : dependency.traversesCollection = true) (start : Nat) (rest : List ResolvedPath)
    (reducer : Reducer) (later : List Reducer) :
    bindReducers start (dependency :: rest) (reducer :: later) =
      bound start dependency (some reducer) :: bindReducers (start + 1) rest later := by
  simp only [bindReducers, crosses, if_true, bound, unsupportedPair?]
  cases supported : reducer.supports dependency.terminalType with
  | true => simp [Reducer.outputType_of_supports supported, argumentOf]
  | false => simp [Reducer.outputType_of_not_supports supported]

theorem bindReducers_cons_plain {dependency : ResolvedPath}
    (plain : dependency.traversesCollection = false) (start : Nat) (rest : List ResolvedPath)
    (reducers : List Reducer) :
    bindReducers start (dependency :: rest) reducers =
      bound start dependency none :: bindReducers (start + 1) rest reducers := by
  simp [bindReducers, plain, bound, argumentOf]

/-- Binding from left to right gives every dependency the reducer of its rank. -/
theorem getElem?_bindReducers {dependencies : List ResolvedPath} {reducers : List Reducer}
    (enough : crossings dependencies ≤ reducers.length) (start position : Nat) :
    (bindReducers start dependencies reducers)[position]? =
      dependencies[position]?.map fun dependency =>
        bound (start + position) dependency (reducerAt dependencies reducers position) := by
  induction dependencies generalizing reducers start position with
  | nil => simp [bindReducers]
  | cons dependency rest ih =>
      -- a dependency that crosses a collection takes the first reducer, so that all ranks behind it
      -- move up by one; any other leaves them as they are
      cases crosses : dependency.traversesCollection with
      | false =>
          have enough : crossings rest ≤ reducers.length := by
            simpa [crossings, crosses] using enough
          rw [bindReducers_cons_plain crosses]
          cases position with
          | zero => simp [reducerAt, crosses]
          | succ position =>
              have next : start + 1 + position = start + (position + 1) := by omega
              simp only [List.getElem?_cons_succ, ih enough, reducerAt_cons_plain crosses, next]
      | true =>
          cases reducers with
          | nil => simp [crossings, crosses] at enough
          | cons reducer later =>
              have enough : crossings rest ≤ later.length := by
                simpa [crossings, crosses] using enough
              rw [bindReducers_cons_crossing crosses]
              cases position with
              | zero => simp [reducerAt, crossings, crosses]
              | succ position =>
                  have next : start + 1 + position = start + (position + 1) := by omega
                  simp only [List.getElem?_cons_succ, ih enough, reducerAt_cons_crossing crosses,
                    next]

/-- The diagnostics of binding are those of the pairs, in order. -/
theorem filterMap_argumentError?_bindReducers (start : Nat) (dependencies : List ResolvedPath)
    (reducers : List Reducer) :
    (bindReducers start dependencies reducers).filterMap argumentError? =
      unsupportedPairs dependencies reducers := by
  induction dependencies generalizing reducers start with
  | nil => rfl
  | cons dependency rest ih =>
      cases crosses : dependency.traversesCollection with
      | false =>
          rw [bindReducers_cons_plain crosses, List.filterMap_cons]
          simp [bound, argumentError?, ih, unsupportedPairs, crosses]
      | true =>
          cases reducers with
          | nil => simp [bindReducers, crosses, ih, unsupportedPairs]
          | cons reducer later =>
              rw [bindReducers_cons_crossing crosses, List.filterMap_cons, ih]
              simp only [bound, unsupportedPairs, List.filter_cons, crosses, if_true,
                List.zip_cons_cons, List.filterMap_cons]
              cases unsupportedPair? (dependency, reducer) <;> rfl

theorem bindReducers_eq_argumentsByRank {dependencies : List ResolvedPath} {reducers : List Reducer}
    (enough : crossings dependencies ≤ reducers.length)
    (supported : unsupportedPairs dependencies reducers = []) :
    bindReducers 0 dependencies reducers =
      (argumentsByRank dependencies reducers).map Except.ok := by
  have clean : ∀ result ∈ bindReducers 0 dependencies reducers, argumentError? result = none := by
    rw [← filterMap_argumentError?_bindReducers 0] at supported
    exact List.filterMap_eq_nil_iff.mp supported
  apply List.ext_getElem?
  intro position
  have bindsThere := getElem?_bindReducers enough 0 position
  simp only [argumentsByRank, List.getElem?_map, List.getElem?_mapIdx, Option.map_map]
  rw [bindsThere, Nat.zero_add]
  cases there : dependencies[position]? with
  | none => rfl
  | some dependency =>
      rw [there] at bindsThere
      have member := List.mem_of_getElem? bindsThere
      rw [Nat.zero_add] at member
      simp only [Option.map_some, Function.comp_apply, bound_of_no_error (clean _ member)]

/-- Where binding succeeds, every reducer supports the values of its dependency. -/
theorem supports_of_reducerAt {dependencies : List ResolvedPath} {reducers : List Reducer}
    (enough : crossings dependencies ≤ reducers.length)
    (supported : unsupportedPairs dependencies reducers = []) {position : Nat}
    {dependency : ResolvedPath} {reducer : Reducer}
    (there : dependencies[position]? = some dependency)
    (taken : reducerAt dependencies reducers position = some reducer) :
    reducer.supports dependency.terminalType = true := by
  have bindsThere := getElem?_bindReducers enough 0 position
  rw [bindReducers_eq_argumentsByRank enough supported, there] at bindsThere
  cases accepted : reducer.supports dependency.terminalType with
  | true => rfl
  | false => simp [argumentsByRank, there, taken, bound, unsupportedPair?, accepted] at bindsThere

theorem length_argumentsByRank (dependencies : List ResolvedPath) (reducers : List Reducer) :
    (argumentsByRank dependencies reducers).length = dependencies.length :=
  List.length_mapIdx

end Build

end ProjectionPlanner

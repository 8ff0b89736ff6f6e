import Mathlib.Data.List.TakeWhile
import ProjectionPlanner.Proofs.Search.Precedence

/-! # How a miss is explained

A search that finds nothing says what it looked for and where, and lists the methods of the wanted
name that it passed. It notes these while it goes through the providers, without knowing yet whether
one will fit. So the note is described for every scan, as what stands before the first offer that
fits, and a miss is the case in which that is everything. Then each method on the list fails to meet
some condition of the query, and no method of the wanted name is left out.
-/

namespace ProjectionPlanner

/-- The offered method as a search notes it when it does not fit. -/
def Offer.nearMiss (offer : Offer) : NearMiss :=
  ⟨offer.1.id, offer.2⟩

namespace MethodQuery

/-- The provider's method does not meet some condition of the query, its name apart. -/
inductive Fails (query : MethodQuery) (provider : Provider) (method : MethodSignature) : Prop where
  | params (other : method.params ≠ query.params)
  | returns {type : ValueType} (wanted : query.returns = .assignableTo type)
      (misfit : method.returns.isAssignableTo query.widening type = false)
  | receiver (barred : ¬ query.receivers.Admits provider.mode method.receiver)

variable {query : MethodQuery} {provider : Provider} {method : MethodSignature}

theorem accepts_eq_false_iff {constraint : ReturnConstraint} {widening : Bool}
    {returns : ValueType} :
    constraint.accepts widening returns = false ↔
      ∃ type, constraint = .assignableTo type ∧ returns.isAssignableTo widening type = false := by
  cases constraint <;> simp [ReturnConstraint.accepts]

theorem fails_iff : query.Fails provider method ↔ query.fits provider method = false := by
  rw [← Bool.not_eq_true, fits_iff, ReceiverFilter.admits_iff]
  constructor
  · rintro fails ⟨receiver, params, returns⟩
    cases fails with
    | params other => exact other params
    | receiver barred => exact barred receiver
    | returns wanted misfit =>
        rw [accepts_eq_false_iff.mpr ⟨_, wanted, misfit⟩] at returns
        cases returns
  · intro unfit
    by_cases params : method.params = query.params
    · by_cases receiver : query.receivers.Admits provider.mode method.receiver
      · have returns : query.returns.accepts query.widening method.returns = false := by
          simpa [receiver, params] using unfit
        obtain ⟨type, wanted, misfit⟩ := accepts_eq_false_iff.mp returns
        exact .returns wanted misfit
      · exact .receiver receiver
    · exact .params params

/-! ## What a scan notes -/

/-- Within one provider the methods before the first that fits are noted. -/
theorem snd_scanMethods (query : MethodQuery) (provider : Provider)
    (methods : List MethodSignature) :
    (query.scanMethods provider methods).2 =
      (methods.takeWhile (! query.fits provider ·)).map (⟨provider.id, ·⟩) := by
  induction methods with
  | nil => rfl
  | cons method rest ih =>
      rw [scanMethods, List.takeWhile_cons]
      cases query.fits provider method with
      | true => rfl
      | false => simpa using ih

theorem takeWhile_eq_self_of_find? {α : Type} {list : List α} {p : α → Bool}
    (absent : list.find? p = none) : list.takeWhile (! p ·) = list :=
  List.takeWhile_eq_self_iff.mpr (by simpa [List.find?_eq_none] using absent)

theorem takeWhile_append_of_find? {α : Type} {list : List α} {p : α → Bool} {item : α}
    (found : list.find? p = some item) (more : List α) :
    (list ++ more).takeWhile (! p ·) = list.takeWhile (! p ·) := by
  induction list with
  | nil => cases found
  | cons first rest ih =>
      rw [List.find?_cons] at found
      rw [List.cons_append, List.takeWhile_cons, List.takeWhile_cons]
      cases fits : p first with
      | true => rfl
      | false =>
          rw [fits] at found
          simp [ih found]

/-- A scan notes the offers before the first that fits. -/
theorem nearMisses_scan (query : MethodQuery) (name : String) (providers : List Provider) :
    (query.scan name providers).nearMisses =
      ((offers name providers).takeWhile (! query.suits ·)).map Offer.nearMiss := by
  induction providers with
  | nil => rfl
  | cons provider rest ih =>
      have found : ((provider.methodsNamed name).map (provider, ·)).find? query.suits =
          (query.scanMethods provider (provider.methodsNamed name)).1.map (provider, ·) := by
        rw [List.find?_map, fst_scanMethods]
        rfl
      have noted : (((provider.methodsNamed name).map (provider, ·)).takeWhile
            (! query.suits ·)).map Offer.nearMiss =
          (query.scanMethods provider (provider.methodsNamed name)).2 := by
        rw [List.takeWhile_map, List.map_map, snd_scanMethods]
        rfl
      rw [offers_cons, scan]
      -- the scan ends with this provider if a method of it fits, and else goes on
      cases here : query.scanMethods provider (provider.methodsNamed name) with
      | mk taken misses =>
          rw [here] at found noted
          cases taken with
          | some method => rw [takeWhile_append_of_find? found, noted]
          | none =>
              have all := takeWhile_eq_self_of_find? found
              rw [all] at noted
              rw [List.takeWhile_append_of_pos (List.takeWhile_eq_self_iff.mp all), List.map_append,
                noted, ← ih]

end MethodQuery

namespace Registry

variable {registry : Registry} {query : MethodQuery}

/-- The providers that a query goes through: all of them, or the first one with the identifier that
    it is restricted to. -/
inductive Searches (registry : Registry) (query : MethodQuery) : List Provider → Prop where
  | everywhere (free : ∀ id, ¬ query.RestrictedTo id) : Searches registry query registry.providers
  | within {provider : Provider} {before after : List Provider}
      (restricted : query.RestrictedTo provider.id)
      (split : registry.providers = before ++ provider :: after)
      (first : ∀ earlier ∈ before, earlier.id ≠ provider.id) : Searches registry query [provider]

theorem searches_iff {scope : List Provider} :
    registry.Searches query scope ↔ registry.scope query.provider? = .ok scope := by
  constructor
  · intro searches
    cases searches with
    | everywhere free =>
        cases restriction : query.provider? with
        | none => rfl
        | some id => exact absurd (MethodQuery.restrictedTo_iff.mpr restriction) (free id)
    | @within provider before after restricted split first =>
        have known : registry.get? provider.id = some provider :=
          List.find?_eq_some_iff_append.mpr ⟨by simp, before, after, split, by simpa using first⟩
        rw [MethodQuery.restrictedTo_iff.mp restricted, scope, known]
  · intro reachable
    cases restriction : query.provider? with
    | none =>
        rw [restriction] at reachable
        cases reachable
        refine .everywhere fun id restricted => ?_
        rw [MethodQuery.restrictedTo_iff, restriction] at restricted
        cases restricted
    | some id =>
        cases known : registry.get? id with
        | none => simp [restriction, Registry.scope, known] at reachable
        | some provider =>
            simp only [restriction, Registry.scope, known, Except.ok.injEq] at reachable
            subst reachable
            obtain ⟨carries, before, after, split, first⟩ := List.find?_eq_some_iff_append.mp known
            obtain rfl : provider.id = id := by simpa using carries
            exact .within (MethodQuery.restrictedTo_iff.mpr restriction) split
              (by simpa using first)

theorem map_nearMiss_offers (name : String) (scope : List Provider) :
    (offers name scope).map Offer.nearMiss =
      scope.flatMap fun provider =>
        (provider.methods.filter (·.name == name)).map (⟨provider.id, ·⟩) := by
  simp only [offers, List.map_flatMap, List.map_map]
  rfl

/-- A search misses exactly if no offer of the wanted name in its scope fits, and then it has noted
    all of them. -/
theorem search_eq_notFound_iff {expected : ExpectedSignature} {searched : List String}
    {nearMisses : List NearMiss} :
    (registry.search query).result = .error (.notFound expected searched nearMisses) ↔
      ∃ name scope, query.name? = some name ∧ registry.scope query.provider? = .ok scope ∧
        (offers name scope).find? query.suits = none ∧
        expected = ⟨name, query.params, query.returns⟩ ∧ searched = scope.map (·.id) ∧
        nearMisses = (offers name scope).map Offer.nearMiss := by
  have explained : ∀ {name scope}, (offers name scope).find? query.suits = none →
      (query.scan name scope).nearMisses = (offers name scope).map Offer.nearMiss := by
    intro name scope none
    rw [MethodQuery.nearMisses_scan, MethodQuery.takeWhile_eq_self_of_find? none]
  constructor
  · intro missed
    cases named : query.name? with
    | none => simp [search, named] at missed
    | some name =>
        cases reachable : registry.scope query.provider? with
        | error error =>
            obtain ⟨id, -, -, rfl⟩ := scope_eq_error_iff.mp reachable
            simp [search, named, reachable] at missed
        | ok scope =>
            rw [search_result named reachable] at missed
            cases first : (offers name scope).find? query.suits with
            | some offer => simp [first] at missed
            | none =>
                simp only [first, Except.error.injEq, MethodError.notFound.injEq] at missed
                obtain ⟨rfl, rfl, rfl⟩ := missed
                exact ⟨name, scope, rfl, rfl, first, rfl, rfl, explained first⟩
  · rintro ⟨name, scope, named, reachable, none, rfl, rfl, rfl⟩
    rw [search_result named reachable, none, explained none]

/-- A search that finds nothing is explained in full, and only then. What it expected carries the
    wanted name and repeats the conditions of the query. What it searched are the providers of its
    scope. And its near misses are all the methods of the wanted name that these declare, in order,
    each of which fails to meet some condition. -/
theorem search_explains_miss (registry : Registry) (query : MethodQuery)
    (expected : ExpectedSignature) (searched : List String) (nearMisses : List NearMiss) :
    (registry.search query).result = .error (.notFound expected searched nearMisses) ↔
      query.Wants expected.name ∧ expected.params = query.params ∧
        expected.returns = query.returns ∧
        ∃ scope, registry.Searches query scope ∧ searched = scope.map (·.id) ∧
          (nearMisses = scope.flatMap fun provider =>
            (provider.methods.filter (·.name == expected.name)).map (⟨provider.id, ·⟩)) ∧
          ∀ provider ∈ scope, ∀ method ∈ provider.methods, method.name = expected.name →
            query.Fails provider method := by
  rw [search_eq_notFound_iff]
  constructor
  · rintro ⟨name, scope, named, reachable, unfit, rfl, rfl, rfl⟩
    refine ⟨MethodQuery.wants_iff.mpr named, rfl, rfl, scope, searches_iff.mpr reachable, rfl,
      map_nearMiss_offers name scope, ?_⟩
    intro provider listed method declared sameName
    have offered : (provider, method) ∈ offers name scope :=
      mem_offers.mpr ⟨listed, declared, sameName⟩
    exact MethodQuery.fails_iff.mpr (Bool.eq_false_iff.mpr (List.find?_eq_none.mp unfit _ offered))
  · rintro ⟨wanted, params, returns, scope, searches, searched, misses, fails⟩
    refine ⟨expected.name, scope, MethodQuery.wants_iff.mp wanted, searches_iff.mp searches, ?_, ?_,
      searched, misses.trans (map_nearMiss_offers expected.name scope).symm⟩
    · refine List.find?_eq_none.mpr fun offer offered => ?_
      obtain ⟨listed, declared, sameName⟩ := mem_offers.mp offered
      exact Bool.eq_false_iff.mp
        (MethodQuery.fails_iff.mp (fails offer.1 listed offer.2 declared sameName))
    · rw [← params, ← returns]

/-- Providers of which none formats a number. The first two of these methods would, but for a
    parameter and for an instance that cannot be had; the last returns something else. -/
def misfits : Registry where
  providers :=
    [{ id := "Texts", mode := .stateless
       methods :=
         [⟨"format", [.scalar .int64], .scalar .text, .static⟩,
           ⟨"parse", [.scalar .text], .scalar .decimal, .static⟩,
           ⟨"format", [.scalar .decimal], .scalar .text, .needsInstance⟩] },
      { id := "Counts" },
      { id := "Texts", methods := [⟨"format", [.scalar .decimal], .scalar .bool, .static⟩] }]

theorem misfits_explained :
    (misfits.search formatQuery).result =
        .error (.notFound ⟨"format", [.scalar .decimal], .assignableTo (.scalar .text)⟩
          ["Texts", "Counts", "Texts"]
          [⟨"Texts", ⟨"format", [.scalar .int64], .scalar .text, .static⟩⟩,
            ⟨"Texts", ⟨"format", [.scalar .decimal], .scalar .text, .needsInstance⟩⟩,
            ⟨"Texts", ⟨"format", [.scalar .decimal], .scalar .bool, .static⟩⟩]) ∧
      ∀ provider ∈ misfits.providers, ∀ method ∈ provider.methods, method.name = "format" →
        formatQuery.Fails provider method := by
  have missed : (misfits.search formatQuery).result = .error (.notFound _ _ _) := rfl
  obtain ⟨-, -, -, _, searches, -, -, fails⟩ := (search_explains_miss _ _ _ _ _).mp missed
  refine ⟨missed, ?_⟩
  cases searches with
  | everywhere free => exact fails
  | within restricted => obtain ⟨_, ⟨⟩, ⟨⟩⟩ := restricted

end Registry

end ProjectionPlanner

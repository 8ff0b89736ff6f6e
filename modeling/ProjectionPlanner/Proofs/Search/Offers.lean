import ProjectionPlanner.Search

/-! # Searches over a flat list of offers

A search goes through providers and, within each of them, through methods. Seen from outside it
walks one flat list of offers and takes the first that fits. The statements about searches start
from that list. They say which method is found and when none is; how a miss is explained and what
a scan notes on its way are left to other modules.
-/

namespace ProjectionPlanner

/-- A method together with a provider that offers it. -/
abbrev Offer := Provider × MethodSignature

/-- The method as a search would hand it out. -/
def Offer.resolved (offer : Offer) : ResolvedMethod :=
  .ofEntry offer.1 offer.2

/-- The offers of a name, in the order in which a search meets them. -/
def offers (name : String) (providers : List Provider) : List Offer :=
  providers.flatMap fun provider => (provider.methodsNamed name).map (provider, ·)

theorem offers_cons (name : String) (provider : Provider) (rest : List Provider) :
    offers name (provider :: rest) =
      (provider.methodsNamed name).map (provider, ·) ++ offers name rest := rfl

theorem offers_append (name : String) (earlier later : List Provider) :
    offers name (earlier ++ later) = offers name earlier ++ offers name later :=
  List.flatMap_append

theorem offers_singleton (name : String) (provider : Provider) :
    offers name [provider] = (provider.methodsNamed name).map (provider, ·) :=
  List.append_nil _

theorem mem_offers {name : String} {providers : List Provider} {offer : Offer} :
    offer ∈ offers name providers ↔
      offer.1 ∈ providers ∧ offer.2 ∈ offer.1.methods ∧ offer.2.name = name := by
  obtain ⟨provider, method⟩ := offer
  simp only [offers, Provider.methodsNamed, List.mem_flatMap, List.mem_map, List.mem_filter,
    beq_iff_eq, Prod.mk.injEq]
  constructor
  · intro offered
    obtain ⟨_, listed, _, ⟨declared, named⟩, rfl, rfl⟩ := offered
    exact ⟨listed, declared, named⟩
  · intro offered
    obtain ⟨listed, declared, named⟩ := offered
    exact ⟨provider, listed, method, ⟨declared, named⟩, rfl, rfl⟩

namespace MethodQuery

theorem fits_iff {query : MethodQuery} {provider : Provider} {method : MethodSignature} :
    query.fits provider method = true ↔
      query.receivers.admits provider method = true ∧ method.params = query.params ∧
        query.returns.accepts query.widening method.returns = true := by
  simp [fits, and_assoc]

/-- The offered method fits the query. -/
def suits (query : MethodQuery) (offer : Offer) : Bool :=
  query.fits offer.1 offer.2

theorem fst_scanMethods (query : MethodQuery) (provider : Provider)
    (methods : List MethodSignature) :
    (query.scanMethods provider methods).1 = methods.find? (query.fits provider) := by
  induction methods with
  | nil => rfl
  | cons method rest ih =>
      rw [scanMethods, List.find?_cons]
      cases query.fits provider method with
      | true => rfl
      | false => simpa using ih

/-- A scan finds the first offer that fits. -/
theorem found_scan (query : MethodQuery) (name : String) (providers : List Provider) :
    (query.scan name providers).found =
      ((offers name providers).find? query.suits).map Offer.resolved := by
  induction providers with
  | nil => rfl
  | cons provider rest ih =>
      have here : ((provider.methodsNamed name).map (provider, ·)).find? query.suits =
          (query.scanMethods provider (provider.methodsNamed name)).1.map (provider, ·) := by
        rw [List.find?_map, fst_scanMethods]
        rfl
      rw [offers_cons, List.find?_append, here, scan]
      cases query.scanMethods provider (provider.methodsNamed name) with
      | mk found misses =>
          cases found with
          | some method => rfl
          | none => simpa using ih

/-- A scan looks at a query only through the methods that fit it. -/
theorem scan_congr {left right : MethodQuery}
    (same : ∀ provider method, left.fits provider method = right.fits provider method)
    (name : String) (providers : List Provider) :
    left.scan name providers = right.scan name providers := by
  have methods : ∀ provider list,
      left.scanMethods provider list = right.scanMethods provider list := by
    intro provider list
    induction list with
    | nil => rfl
    | cons method rest ih => simp only [scanMethods, same, ih]
  induction providers with
  | nil => rfl
  | cons provider rest ih => simp only [scan, methods, ih]

end MethodQuery

namespace Registry

/-- The provider is one of those that the query goes through. -/
def Reaches (registry : Registry) (query : MethodQuery) (provider : Provider) : Prop :=
  match query.provider? with
  | none => provider ∈ registry.providers
  | some id => registry.get? id = some provider

/-- The registry has a method that the query could take. -/
structure Serves (registry : Registry) (query : MethodQuery) (provider : Provider)
    (method : MethodSignature) : Prop where
  reached : registry.Reaches query provider
  declared : method ∈ provider.methods
  named : query.name? = some method.name
  fits : query.fits provider method = true

variable {registry : Registry} {query : MethodQuery}

theorem mem_scope {scope : List Provider} (reachable : registry.scope query.provider? = .ok scope)
    (provider : Provider) : provider ∈ scope ↔ registry.Reaches query provider := by
  simp only [Reaches]
  cases restriction : query.provider? with
  | none =>
      rw [restriction] at reachable
      cases reachable
      rfl
  | some id =>
      rw [restriction, Registry.scope] at reachable
      cases known : registry.get? id with
      | none => simp [known] at reachable
      | some first =>
          simp only [known, Except.ok.injEq] at reachable
          subst reachable
          simp [known, eq_comm]

/-- A provider can be reached only if the search has a scope. -/
theorem scope_of_reaches {provider : Provider} (reached : registry.Reaches query provider) :
    ∃ scope, registry.scope query.provider? = .ok scope := by
  simp only [Reaches] at reached
  cases restriction : query.provider? with
  | none => exact ⟨_, rfl⟩
  | some id =>
      rw [restriction] at reached
      exact ⟨[provider], by simp [Registry.scope, reached]⟩

/-- With a name and a scope, a search takes the first offer that fits. -/
theorem search_result {name : String} {scope : List Provider} (named : query.name? = some name)
    (reachable : registry.scope query.provider? = .ok scope) :
    (registry.search query).result =
      match (offers name scope).find? query.suits with
      | some offer => .ok offer.resolved
      | none =>
          .error (.notFound ⟨name, query.params, query.returns⟩ (scope.map (·.id))
            (query.scan name scope).nearMisses) := by
  have found := query.found_scan name scope
  simp only [search, named, reachable]
  cases first : (offers name scope).find? query.suits with
  | none => simp [found, first]
  | some offer => simp [found, first]

theorem search_eq_ok_iff {method : ResolvedMethod} :
    (registry.search query).result = .ok method ↔
      ∃ name scope offer, query.name? = some name ∧ registry.scope query.provider? = .ok scope ∧
        (offers name scope).find? query.suits = some offer ∧ method = offer.resolved := by
  constructor
  · intro found
    cases named : query.name? with
    | none => simp [search, named] at found
    | some name =>
        cases reachable : registry.scope query.provider? with
        | error error => simp [search, named, reachable] at found
        | ok scope =>
            rw [search_result named reachable] at found
            cases first : (offers name scope).find? query.suits with
            | none => simp [first] at found
            | some offer =>
                simp only [first, Except.ok.injEq] at found
                exact ⟨name, scope, offer, rfl, rfl, first, found.symm⟩
  · intro first
    obtain ⟨name, scope, offer, named, reachable, first, rfl⟩ := first
    rw [search_result named reachable, first]

/-- The first offer that fits is a method that the query could take. -/
theorem serves_of_first {name : String} {scope : List Provider} {offer : Offer}
    (named : query.name? = some name) (reachable : registry.scope query.provider? = .ok scope)
    (first : (offers name scope).find? query.suits = some offer) :
    registry.Serves query offer.1 offer.2 := by
  obtain ⟨listed, declared, ofName⟩ := mem_offers.mp (List.mem_of_find?_eq_some first)
  have fits : query.suits offer = true := List.find?_some first
  exact
    { reached := (mem_scope reachable offer.1).mp listed
      declared := declared
      named := by rw [named, ofName]
      fits := fits }

/-- What is found is a method that the query could take. -/
theorem serves_of_search {method : ResolvedMethod}
    (found : (registry.search query).result = .ok method) :
    ∃ provider signature, registry.Serves query provider signature ∧
      method = .ofEntry provider signature := by
  obtain ⟨name, scope, offer, named, reachable, first, rfl⟩ := search_eq_ok_iff.mp found
  exact ⟨offer.1, offer.2, serves_of_first named reachable first, rfl⟩

/-- A search succeeds exactly when there is something to find. -/
theorem exists_search_eq_ok_iff :
    (∃ method, (registry.search query).result = .ok method) ↔
      ∃ provider signature, registry.Serves query provider signature := by
  constructor
  · intro success
    obtain ⟨method, found⟩ := success
    obtain ⟨provider, signature, serves, -⟩ := serves_of_search found
    exact ⟨provider, signature, serves⟩
  · intro served
    obtain ⟨provider, signature, serves⟩ := served
    obtain ⟨scope, reachable⟩ := scope_of_reaches serves.reached
    have offered : (provider, signature) ∈ offers signature.name scope :=
      mem_offers.mpr ⟨(mem_scope reachable provider).mpr serves.reached, serves.declared, rfl⟩
    have some : ((offers signature.name scope).find? query.suits).isSome :=
      List.find?_isSome.mpr ⟨_, offered, serves.fits⟩
    obtain ⟨offer, first⟩ := Option.isSome_iff_exists.mp some
    exact ⟨offer.resolved, search_eq_ok_iff.mpr
      ⟨_, scope, offer, serves.named, reachable, first, rfl⟩⟩

/-- A search that has a name and a scope can only miss. -/
theorem notFound_of_scope {name : String} {scope : List Provider} {error : MethodError}
    (named : query.name? = some name) (reachable : registry.scope query.provider? = .ok scope)
    (missed : (registry.search query).result = .error error) :
    ∃ expected searched nearMisses, error = .notFound expected searched nearMisses := by
  rw [search_result named reachable] at missed
  cases first : (offers name scope).find? query.suits with
  | some offer => simp [first] at missed
  | none =>
      simp only [first, Except.error.injEq] at missed
      exact ⟨_, _, _, missed.symm⟩

/-- Where another search of the same name and scope finds something, this one can only miss. -/
theorem notFound_of_other_found {other : MethodQuery} {method : ResolvedMethod}
    {error : MethodError} (found : (registry.search other).result = .ok method)
    (missed : (registry.search query).result = .error error)
    (sameName : other.name? = query.name?) (sameScope : other.provider? = query.provider?) :
    ∃ expected searched nearMisses, error = .notFound expected searched nearMisses := by
  obtain ⟨name, scope, -, named, reachable, -⟩ := search_eq_ok_iff.mp found
  rw [sameName] at named
  rw [sameScope] at reachable
  exact notFound_of_scope named reachable missed

end Registry

end ProjectionPlanner

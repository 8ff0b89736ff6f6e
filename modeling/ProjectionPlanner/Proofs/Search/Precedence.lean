import Mathlib.Tactic.ByContra
import ProjectionPlanner.Proofs.Search.Shadowing

/-! # Which of several fitting methods is found

Every method has a place, that of its provider in the registry and its own among the methods of the
provider. A search finds the method at the first place where a method stands that it could take, and
what comes after that place makes no difference. When there is no such place, the search tells the
missing name first, then the unknown provider, and only then that nothing was found.
-/

namespace ProjectionPlanner

/-- The methods that a filter takes, by the mode of their provider and what they are called on. -/
inductive ReceiverFilter.Admits : ReceiverFilter → InvocationMode → Receiver → Prop where
  | static {mode : InvocationMode} : Admits .any mode .static
  | invocable {mode : InvocationMode} (instances : mode ≠ .stateless) :
      Admits .any mode .needsInstance
  | statelessOnly {mode : InvocationMode} : Admits .statelessOnly mode .static
  | instanceOnly {mode : InvocationMode} : Admits .instanceOnly mode .needsInstance

theorem ReceiverFilter.admits_iff {filter : ReceiverFilter} {provider : Provider}
    {method : MethodSignature} :
    filter.admits provider method = true ↔ filter.Admits provider.mode method.receiver := by
  constructor
  · intro admitted
    cases called : method.receiver with
    | static =>
        cases filter with
        | any => exact .static
        | statelessOnly => exact .statelessOnly
        | instanceOnly => simp [admits, MethodSignature.isStateless, called] at admitted
    | needsInstance =>
        cases filter with
        | any =>
            refine .invocable ?_
            simpa [admits, Provider.canInvoke, MethodSignature.isStateless, called] using admitted
        | statelessOnly => simp [admits, MethodSignature.isStateless, called] at admitted
        | instanceOnly => exact .instanceOnly
  · intro admitted
    generalize called : method.receiver = receiver at admitted
    cases admitted with
    | static => simp [admits, Provider.canInvoke, MethodSignature.isStateless, called]
    | invocable instances => simp [admits, Provider.canInvoke, instances]
    | statelessOnly => simp [admits, MethodSignature.isStateless, called]
    | instanceOnly => simp [admits, MethodSignature.isStateless, called]

namespace MethodRef

theorem name?_eq_some_iff {ref : MethodRef} {name : String} :
    ref.name? = some name ↔ ref.name = some name ∧ name ≠ "" := by
  simp [name?, Option.filter_eq_some_iff]

theorem name?_eq_none_iff {ref : MethodRef} :
    ref.name? = none ↔ ref.name = none ∨ ref.name = some "" := by
  cases sets : ref.name <;> simp [name?, sets, Option.filter]

end MethodRef

namespace MethodQuery

/-- The query looks for methods of this name: the one that the reference sets, if it is not empty,
    and else the conventional one. -/
inductive Wants (query : MethodQuery) : String → Prop where
  | set {ref : MethodRef} {name : String} (refers : query.ref = some ref)
      (sets : ref.name = some name) (proper : name ≠ "") : Wants query name
  | conventional {name : String}
      (unset : ∀ ref, query.ref = some ref → ref.name = none ∨ ref.name = some "")
      (convention : query.convention = some name) : Wants query name

def RestrictedTo (query : MethodQuery) (id : String) : Prop :=
  ∃ ref, query.ref = some ref ∧ ref.provider = some id

theorem wants_iff {query : MethodQuery} {name : String} :
    query.Wants name ↔ query.name? = some name := by
  constructor
  · intro wanted
    cases wanted with
    | set refers sets proper =>
        simp [name?, refers, MethodRef.name?_eq_some_iff.mpr ⟨sets, proper⟩]
    | conventional unset convention =>
        have none : query.ref.bind MethodRef.name? = none :=
          Option.bind_eq_none_iff.mpr fun ref refers =>
            MethodRef.name?_eq_none_iff.mpr (unset ref refers)
        simp [name?, none, convention]
  · intro named
    cases own : query.ref.bind MethodRef.name? with
    | none =>
        refine .conventional (fun ref refers => ?_) ?_
        · exact MethodRef.name?_eq_none_iff.mp (Option.bind_eq_none_iff.mp own ref refers)
        · simpa [name?, own] using named
    | some set =>
        have same : set = name := by simpa [name?, own] using named
        subst same
        obtain ⟨ref, refers, sets⟩ := Option.bind_eq_some_iff.mp own
        obtain ⟨sets, proper⟩ := MethodRef.name?_eq_some_iff.mp sets
        exact .set refers sets proper

theorem restrictedTo_iff {query : MethodQuery} {id : String} :
    query.RestrictedTo id ↔ query.provider? = some id :=
  Option.bind_eq_some_iff.symm

end MethodQuery

namespace Registry

/-- A method that the query could take stands at a place. A restricted query looks at the first
    provider of the identifier alone. -/
structure Stands (registry : Registry) (query : MethodQuery) (i j : Nat) (provider : Provider)
    (method : MethodSignature) : Prop where
  listed : registry.providers[i]? = some provider
  inScope : ∀ id, query.RestrictedTo id → provider.id = id ∧
    ∀ earlier ∈ registry.providers.take i, earlier.id ≠ id
  declared : provider.methods[j]? = some method
  wanted : query.Wants method.name
  params : method.params = query.params
  returns : query.returns.accepts query.widening method.returns = true
  receiver : query.receivers.Admits provider.mode method.receiver

/-- No place before this one has a method that the query could take. -/
structure First (registry : Registry) (query : MethodQuery) (i j : Nat) (provider : Provider)
    (method : MethodSignature) : Prop extends registry.Stands query i j provider method where
  least : ∀ {i' j' : Nat} {other : Provider} {signature : MethodSignature},
    registry.Stands query i' j' other signature → i < i' ∨ i = i' ∧ j ≤ j'

/-- Two registries are the same as far as a place, this place included. -/
structure AgreesUpTo (registry other : Registry) (i j : Nat) : Prop where
  before : registry.providers.take i = other.providers.take i
  here : ∃ provider alike, registry.providers[i]? = some provider ∧
    other.providers[i]? = some alike ∧ provider.id = alike.id ∧ provider.mode = alike.mode ∧
    provider.methods.take (j + 1) = alike.methods.take (j + 1)

end Registry

/-! ## Places -/

theorem le_of_not_mem_take {α : Type} {list : List α} {item : α} {i k : Nat}
    (here : list[k]? = some item) (absent : item ∉ list.take i) : i ≤ k := by
  by_contra early
  apply absent
  apply List.mem_of_getElem?
  rw [List.getElem?_take_of_lt (Nat.lt_of_not_le early), here]

theorem exists_place_of_split {α : Type} {list before after : List α} {item : α}
    (split : list = before ++ item :: after) :
    ∃ i, list[i]? = some item ∧ list.take i = before :=
  ⟨before.length, by simp [split], by simp [split]⟩

theorem exists_place_of_find? {α : Type} {list : List α} {p : α → Bool} {item : α}
    (found : list.find? p = some item) :
    ∃ i, list[i]? = some item ∧ ∀ earlier ∈ list.take i, ¬ p earlier = true := by
  obtain ⟨-, before, after, split, earlier⟩ := List.find?_eq_some_iff_append.mp found
  obtain ⟨i, here, prior⟩ := exists_place_of_split split
  exact ⟨i, here, by simpa [prior] using earlier⟩

namespace Registry

variable {registry other : Registry} {query : MethodQuery} {i j : Nat} {provider : Provider}
  {method : MethodSignature}

theorem Stands.fits (stands : registry.Stands query i j provider method) :
    query.fits provider method = true :=
  MethodQuery.fits_iff.mpr
    ⟨ReceiverFilter.admits_iff.mpr stands.receiver, stands.params, stands.returns⟩

theorem Stands.named (stands : registry.Stands query i j provider method) :
    query.name? = some method.name :=
  MethodQuery.wants_iff.mp stands.wanted

theorem get?_of_place {id : String} (listed : registry.providers[i]? = some provider)
    (known : provider.id = id) (first : ∀ earlier ∈ registry.providers.take i, earlier.id ≠ id) :
    registry.get? id = some provider := by
  obtain ⟨bound, here⟩ := List.getElem?_eq_some_iff.mp listed
  refine List.find?_eq_some_iff_append.mpr
    ⟨by simpa using known, registry.providers.take i, registry.providers.drop (i + 1), ?_, ?_⟩
  · rw [← here, List.getElem_cons_drop, List.take_append_drop]
  · simpa using first

theorem Stands.serves (stands : registry.Stands query i j provider method) :
    registry.Serves query provider method where
  reached := by
    simp only [Reaches]
    cases restriction : query.provider? with
    | none => exact List.mem_of_getElem? stands.listed
    | some id =>
        obtain ⟨known, first⟩ := stands.inScope id (MethodQuery.restrictedTo_iff.mpr restriction)
        exact get?_of_place stands.listed known first
  declared := List.mem_of_getElem? stands.declared
  named := stands.named
  fits := stands.fits

theorem exists_method_place {name : String} {offer : Offer}
    (here : (offers name [offer.1]).find? query.suits = some offer) :
    ∃ j, offer.1.methods[j]? = some offer.2 ∧
      ∀ earlier ∈ offer.1.methods.take j,
        ¬ (earlier.name = name ∧ query.fits offer.1 earlier = true) := by
  rw [offers_singleton, List.find?_map, Option.map_eq_some_iff] at here
  obtain ⟨method, found, same⟩ := here
  rw [Provider.methodsNamed, List.find?_filter] at found
  obtain ⟨j, declared, earlier⟩ := exists_place_of_find? found
  rw [← same]
  exact ⟨j, declared, by simpa [MethodQuery.suits] using earlier⟩

/-- The provider of the first offer that fits has a place in the registry, and there is no earlier
    place at which a method stands. -/
theorem exists_provider_place {name : String} {scope : List Provider} {offer : Offer}
    (named : query.name? = some name) (reachable : registry.scope query.provider? = .ok scope)
    (first : (offers name scope).find? query.suits = some offer) :
    ∃ i, registry.providers[i]? = some offer.1 ∧
      (∀ id, query.RestrictedTo id → offer.1.id = id ∧
        ∀ earlier ∈ registry.providers.take i, earlier.id ≠ id) ∧
      ∀ {i' j' : Nat} {provider : Provider} {method : MethodSignature},
        registry.Stands query i' j' provider method → i ≤ i' := by
  cases restriction : query.provider? with
  | none =>
      rw [restriction] at reachable
      cases reachable
      obtain ⟨before, after, split, -, earlier⟩ := exists_split_of_first first
      obtain ⟨i, listed, prior⟩ := exists_place_of_split split
      refine ⟨i, listed, fun id restricted => ?_, fun {i' j' provider method} stands => ?_⟩
      · rw [MethodQuery.restrictedTo_iff, restriction] at restricted
        cases restricted
      · -- an earlier provider has no offer that fits, so that no method of it stands anywhere
        apply le_of_not_mem_take stands.listed
        intro among
        rw [prior] at among
        have named : method.name = name :=
          Option.some.inj (stands.named.symm.trans named)
        have offered : (provider, method) ∈ offers name [provider] :=
          mem_offers.mpr ⟨List.mem_singleton_self _, List.mem_of_getElem? stands.declared, named⟩
        exact List.find?_eq_none.mp (earlier provider among) _ offered stands.fits
  | some id =>
      have known : registry.get? id = some offer.1 := by
        have served := (serves_of_first named reachable first).reached
        simpa only [Reaches, restriction] using served
      obtain ⟨i, listed, earlier⟩ := exists_place_of_find? known
      simp only [beq_iff_eq] at earlier
      refine ⟨i, listed, fun id' restricted => ?_, fun {i' j' provider method} stands => ?_⟩
      · rw [MethodQuery.restrictedTo_iff, restriction] at restricted
        cases restricted
        exact ⟨id_of_get? known, earlier⟩
      · -- an earlier provider does not carry the identifier
        apply le_of_not_mem_take stands.listed
        intro among
        have carries := (stands.inScope id (MethodQuery.restrictedTo_iff.mpr restriction)).1
        exact earlier provider among carries

theorem exists_first_of_offer {name : String} {scope : List Provider} {offer : Offer}
    (named : query.name? = some name) (reachable : registry.scope query.provider? = .ok scope)
    (first : (offers name scope).find? query.suits = some offer) :
    ∃ i j, registry.First query i j offer.1 offer.2 := by
  have served := serves_of_first named reachable first
  obtain ⟨-, -, -, here, -⟩ := exists_split_of_first first
  obtain ⟨j, declared, earlierMethods⟩ := exists_method_place here
  obtain ⟨i, listed, inScope, leastProvider⟩ := exists_provider_place named reachable first
  obtain ⟨receiver, params, returns⟩ := MethodQuery.fits_iff.mp served.fits
  refine ⟨i, j,
    { listed := listed
      inScope := inScope
      declared := declared
      wanted := MethodQuery.wants_iff.mpr served.named
      params := params
      returns := returns
      receiver := ReceiverFilter.admits_iff.mp receiver
      least := fun {i' j' other signature} stands => ?_ }⟩
  rcases Nat.lt_or_eq_of_le (leastProvider stands) with before | same
  · exact .inl before
  · subst same
    cases listed.symm.trans stands.listed
    refine .inr ⟨rfl, ?_⟩
    apply le_of_not_mem_take stands.declared
    intro among
    have named : signature.name = name := Option.some.inj (stands.named.symm.trans named)
    exact earlierMethods signature among ⟨named, stands.fits⟩

theorem First.unique {i' j' : Nat} {provider' : Provider} {method' : MethodSignature}
    (first : registry.First query i j provider method)
    (second : registry.First query i' j' provider' method') :
    provider = provider' ∧ method = method' := by
  obtain ⟨rfl, rfl⟩ : i = i' ∧ j = j' := by
    have := first.least second.toStands
    have := second.least first.toStands
    omega
  obtain rfl : provider = provider' := Option.some.inj (first.listed.symm.trans second.listed)
  exact ⟨rfl, Option.some.inj (first.declared.symm.trans second.declared)⟩

theorem search_eq_ok_iff_first {found : ResolvedMethod} :
    (registry.search query).result = .ok found ↔
      ∃ i j provider method, registry.First query i j provider method ∧
        found = .ofEntry provider method := by
  constructor
  · intro success
    obtain ⟨name, scope, offer, named, reachable, first, rfl⟩ := search_eq_ok_iff.mp success
    obtain ⟨i, j, first⟩ := exists_first_of_offer named reachable first
    exact ⟨i, j, offer.1, offer.2, first, rfl⟩
  · rintro ⟨i, j, provider, method, first, rfl⟩
    obtain ⟨found, success⟩ := exists_search_eq_ok_iff.mpr ⟨_, _, first.serves⟩
    obtain ⟨name, scope, offer, named, reachable, chosen, rfl⟩ := search_eq_ok_iff.mp success
    obtain ⟨i', j', chosen⟩ := exists_first_of_offer named reachable chosen
    obtain ⟨rfl, rfl⟩ := first.unique chosen
    exact success

/-! ## What comes after the place -/

theorem AgreesUpTo.symm (agrees : registry.AgreesUpTo other i j) :
    other.AgreesUpTo registry i j where
  before := agrees.before.symm
  here := by
    obtain ⟨provider, alike, listed, other, id, mode, methods⟩ := agrees.here
    exact ⟨alike, provider, other, listed, id.symm, mode.symm, methods.symm⟩

/-- What stands no later than the last place of agreement stands in both registries. -/
theorem AgreesUpTo.exists_alike {i' j' : Nat} (agrees : registry.AgreesUpTo other i j)
    (upTo : i' < i ∨ i' = i ∧ j' ≤ j) (listed : registry.providers[i']? = some provider)
    (declared : provider.methods[j']? = some method) :
    ∃ alike, other.providers[i']? = some alike ∧ alike.id = provider.id ∧
      alike.mode = provider.mode ∧ alike.methods[j']? = some method := by
  rcases upTo with early | ⟨rfl, upTo⟩
  · refine ⟨provider, ?_, rfl, rfl, declared⟩
    rw [← List.getElem?_take_of_lt early, ← agrees.before, List.getElem?_take_of_lt early, listed]
  · obtain ⟨own, alike, ownListed, alikeListed, id, mode, methods⟩ := agrees.here
    cases ownListed.symm.trans listed
    have early : j' < j + 1 := Nat.lt_succ_of_le upTo
    refine ⟨alike, alikeListed, id.symm, mode.symm, ?_⟩
    rw [← List.getElem?_take_of_lt early, ← methods, List.getElem?_take_of_lt early, declared]

theorem Stands.of_agrees {i' j' : Nat} (agrees : registry.AgreesUpTo other i j)
    (upTo : i' < i ∨ i' = i ∧ j' ≤ j) (stands : registry.Stands query i' j' provider method) :
    ∃ alike, other.Stands query i' j' alike method ∧
      (alike.id = provider.id ∧ alike.mode = provider.mode) := by
  have shorter : i' ≤ i := by omega
  have before : other.providers.take i' = registry.providers.take i' := by
    have := congrArg (List.take i') agrees.before
    simpa [List.take_take, Nat.min_eq_left shorter] using this.symm
  obtain ⟨alike, listed, id, mode, declared⟩ :=
    agrees.exists_alike upTo stands.listed stands.declared
  exact ⟨alike,
    { listed := listed
      inScope := by rw [id, before]; exact stands.inScope
      declared := declared
      wanted := stands.wanted
      params := stands.params
      returns := stands.returns
      receiver := by rw [mode]; exact stands.receiver },
    id, mode⟩

theorem First.of_agrees (agrees : registry.AgreesUpTo other i j)
    (first : registry.First query i j provider method) :
    ∃ alike, other.First query i j alike method ∧
      ResolvedMethod.ofEntry alike method = .ofEntry provider method := by
  obtain ⟨alike, stands, id, mode⟩ := first.toStands.of_agrees agrees (.inr ⟨rfl, Nat.le_refl j⟩)
  refine ⟨alike, { toStands := stands, least := fun {i' j' rival signature} rivals => ?_ }, ?_⟩
  · -- a method at an earlier place would stand there in the first registry as well
    by_contra early
    have upTo : i' < i ∨ i' = i ∧ j' ≤ j := by omega
    obtain ⟨own, stands, -⟩ := rivals.of_agrees agrees.symm upTo
    exact early (first.least stands)
  · simp only [ResolvedMethod.ofEntry, Invocation.ofMethod, id, mode]

/-! ## All outcomes -/

/-- The registry has the provider that the query is restricted to, if it is to one. -/
def Knows (registry : Registry) (query : MethodQuery) : Prop :=
  ∀ id, query.RestrictedTo id → ∃ provider ∈ registry.providers, provider.id = id

theorem exists_ok_iff_stands :
    (∃ found, (registry.search query).result = .ok found) ↔
      ∃ i j provider method, registry.Stands query i j provider method := by
  constructor
  · rintro ⟨found, success⟩
    obtain ⟨i, j, provider, method, first, -⟩ := search_eq_ok_iff_first.mp success
    exact ⟨i, j, provider, method, first.toStands⟩
  · rintro ⟨i, j, provider, method, stands⟩
    exact exists_search_eq_ok_iff.mpr ⟨provider, method, stands.serves⟩

theorem scope_eq_error_iff {error : MethodError} :
    registry.scope query.provider? = .error error ↔
      ∃ id, query.RestrictedTo id ∧ (∀ provider ∈ registry.providers, provider.id ≠ id) ∧
        error = .providerNotRegistered id registry.ids := by
  simp only [MethodQuery.restrictedTo_iff]
  cases restriction : query.provider? with
  | none => simp [scope]
  | some id =>
      cases known : registry.get? id with
      | none =>
          have unknown := get?_eq_none_iff.mp known
          simp only [scope, known, Except.error.injEq, Option.some.injEq, exists_eq_left']
          exact ⟨fun same => ⟨unknown, same.symm⟩, fun same => same.2.symm⟩
      | some provider =>
          simp only [scope, known, reduceCtorEq, Option.some.injEq, exists_eq_left', false_iff]
          intro unknown
          exact unknown.1 provider (List.mem_of_find?_eq_some known) (id_of_get? known)

theorem knows_of_scope {scope : List Provider}
    (reachable : registry.scope query.provider? = .ok scope) : registry.Knows query := by
  intro id restricted
  by_contra unknown
  have unreachable := scope_eq_error_iff.mpr ⟨id, restricted, by simpa using unknown, rfl⟩
  rw [reachable] at unreachable
  cases unreachable

/-- How a search can end. -/
inductive Ends (registry : Registry) (query : MethodQuery) :
    Except MethodError ResolvedMethod → Prop where
  | nameRequired (unnamed : ∀ name, ¬ query.Wants name) : Ends registry query (.error .nameRequired)
  | providerNotRegistered {name id : String} (wanted : query.Wants name)
      (restricted : query.RestrictedTo id)
      (unknown : ∀ provider ∈ registry.providers, provider.id ≠ id) :
      Ends registry query (.error (.providerNotRegistered id registry.ids))
  | notFound {name : String} {expected : ExpectedSignature} {searched : List String}
      {nearMisses : List NearMiss} (wanted : query.Wants name) (known : registry.Knows query)
      (nowhere : ∀ i j provider method, ¬ registry.Stands query i j provider method) :
      Ends registry query (.error (.notFound expected searched nearMisses))
  | found {i j : Nat} {provider : Provider} {method : MethodSignature}
      (first : registry.First query i j provider method) :
      Ends registry query (.ok (.ofEntry provider method))

theorem ends_search (registry : Registry) (query : MethodQuery) :
    registry.Ends query (registry.search query).result := by
  cases named : query.name? with
  | none =>
      rw [search, named]
      refine .nameRequired fun name wanted => ?_
      rw [MethodQuery.wants_iff, named] at wanted
      cases wanted
  | some name =>
      have wanted := MethodQuery.wants_iff.mpr named
      cases reachable : registry.scope query.provider? with
      | error error =>
          obtain ⟨id, restricted, unknown, rfl⟩ := scope_eq_error_iff.mp reachable
          simp only [search, named, reachable]
          exact .providerNotRegistered wanted restricted unknown
      | ok scope =>
          cases result : (registry.search query).result with
          | ok method =>
              obtain ⟨i, j, provider, method, first, rfl⟩ := search_eq_ok_iff_first.mp result
              exact .found first
          | error error =>
              obtain ⟨expected, searched, nearMisses, rfl⟩ :=
                notFound_of_scope named reachable result
              refine .notFound wanted (knows_of_scope reachable)
                fun i j provider method stands => ?_
              obtain ⟨found, success⟩ := exists_ok_iff_stands.mpr ⟨i, j, provider, method, stands⟩
              rw [result] at success
              cases success

theorem search_eq_nameRequired_iff :
    (registry.search query).result = .error .nameRequired ↔ ∀ name, ¬ query.Wants name := by
  have ends := ends_search registry query
  generalize (registry.search query).result = result at ends
  cases ends with
  | nameRequired unnamed => simp [unnamed]
  | providerNotRegistered wanted restricted unknown => simpa using ⟨_, wanted⟩
  | notFound wanted known nowhere => simpa using ⟨_, wanted⟩
  | found first => simpa using ⟨_, first.wanted⟩

theorem search_eq_providerNotRegistered_iff {id : String} {available : List String} :
    (registry.search query).result = .error (.providerNotRegistered id available) ↔
      (∃ name, query.Wants name) ∧ query.RestrictedTo id ∧
        (∀ provider ∈ registry.providers, provider.id ≠ id) ∧
        available = registry.providers.map (·.id) := by
  have ends := ends_search registry query
  generalize (registry.search query).result = result at ends
  cases ends with
  | nameRequired unnamed => simp [unnamed]
  | @providerNotRegistered name other wanted restricted unknown =>
      simp only [Except.error.injEq, MethodError.providerNotRegistered.injEq]
      constructor
      · rintro ⟨rfl, rfl⟩
        exact ⟨⟨name, wanted⟩, restricted, unknown, rfl⟩
      · rintro ⟨-, same, -, rfl⟩
        rw [MethodQuery.restrictedTo_iff] at restricted same
        exact ⟨Option.some.inj (restricted.symm.trans same), rfl⟩
  | notFound wanted known nowhere =>
      simp only [Except.error.injEq, reduceCtorEq, false_iff]
      rintro ⟨-, restricted, unknown, -⟩
      obtain ⟨provider, listed, carries⟩ := known id restricted
      exact unknown provider listed carries
  | found first =>
      simp only [reduceCtorEq, false_iff]
      rintro ⟨-, restricted, unknown, -⟩
      exact unknown _ (List.mem_of_getElem? first.listed) (first.inScope id restricted).1

theorem exists_notFound_iff :
    (∃ expected searched nearMisses,
        (registry.search query).result = .error (.notFound expected searched nearMisses)) ↔
      (∃ name, query.Wants name) ∧ registry.Knows query ∧
        ∀ i j provider method, ¬ registry.Stands query i j provider method := by
  have ends := ends_search registry query
  generalize (registry.search query).result = result at ends
  cases ends with
  | nameRequired unnamed => simp [unnamed]
  | providerNotRegistered wanted restricted unknown =>
      simp only [Except.error.injEq, reduceCtorEq, exists_false, false_iff]
      rintro ⟨-, known, -⟩
      obtain ⟨provider, listed, carries⟩ := known _ restricted
      exact unknown provider listed carries
  | notFound wanted known nowhere =>
      exact ⟨fun _ => ⟨⟨_, wanted⟩, known, nowhere⟩, fun _ => ⟨_, _, _, rfl⟩⟩
  | found first =>
      simp only [reduceCtorEq, exists_false, false_iff]
      rintro ⟨-, -, nowhere⟩
      exact nowhere _ _ _ _ first.toStands

/-- A search without a name says so, whatever else is wrong. With a name, a search that is
    restricted to an unknown provider says which there are. Any other search finds a method exactly
    if one stands somewhere, takes the first one that does, and does not depend on what the registry
    holds after it. -/
theorem search_takes_first (registry : Registry) (query : MethodQuery) :
    ((registry.search query).result = .error .nameRequired ↔ ∀ name, ¬ query.Wants name) ∧
      (∀ id available,
        (registry.search query).result = .error (.providerNotRegistered id available) ↔
          (∃ name, query.Wants name) ∧ query.RestrictedTo id ∧
            (∀ provider ∈ registry.providers, provider.id ≠ id) ∧
            available = registry.providers.map (·.id)) ∧
      ((∃ found, (registry.search query).result = .ok found) ↔
        ∃ i j provider method, registry.Stands query i j provider method) ∧
      (∀ found, (registry.search query).result = .ok found ↔
        ∃ i j provider method, registry.First query i j provider method ∧
          found = ⟨provider.id, method, Invocation.ofMethod provider method⟩) ∧
      ((∃ expected searched nearMisses,
          (registry.search query).result = .error (.notFound expected searched nearMisses)) ↔
        (∃ name, query.Wants name) ∧ registry.Knows query ∧
          ∀ i j provider method, ¬ registry.Stands query i j provider method) ∧
      ∀ i j provider method other, registry.First query i j provider method →
        registry.AgreesUpTo other i j →
          (other.search query).result = (registry.search query).result := by
  refine ⟨search_eq_nameRequired_iff, fun _ _ => search_eq_providerNotRegistered_iff,
    exists_ok_iff_stands, fun _ => search_eq_ok_iff_first, exists_notFound_iff, ?_⟩
  intro i j provider method other first agrees
  obtain ⟨alike, first', same⟩ := first.of_agrees agrees
  rw [search_eq_ok_iff_first.mpr ⟨i, j, provider, method, first, rfl⟩]
  exact search_eq_ok_iff_first.mpr ⟨i, j, alike, method, first', same.symm⟩

/-- The provider that formats numbers, with a second method of the same name behind the first. -/
def formatsTwice : Provider :=
  formats.withMethod ⟨"format", [.scalar .decimal], .scalar .text, .needsInstance⟩

/-- The first of two methods that fit is found, whatever stands behind it. -/
theorem format_found_first :
    (⟨[{ id := "Counts" }, formats]⟩ : Registry).First formatQuery 1 0 formats
        ⟨"format", [.scalar .decimal], .scalar .text, .static⟩ ∧
      (⟨[{ id := "Counts" }, formats]⟩ : Registry).AgreesUpTo
        ⟨[{ id := "Counts" }, formatsTwice, formats]⟩ 1 0 ∧
      ((⟨[{ id := "Counts" }, formatsTwice, formats]⟩ : Registry).search formatQuery).result =
        .ok formatMethod := by
  have first : (⟨[{ id := "Counts" }, formats]⟩ : Registry).First formatQuery 1 0 formats
      ⟨"format", [.scalar .decimal], .scalar .text, .static⟩ :=
    { listed := rfl
      inScope := by rintro id ⟨ref, refers, restricted⟩; cases refers; cases restricted
      declared := rfl
      wanted := .set rfl rfl (by decide)
      params := rfl
      returns := by decide
      receiver := .static
      least := by
        intro i' j' other signature stands
        cases i' with
        | zero =>
            cases stands.listed
            cases stands.declared
        | succ i' => omega }
  have agrees : (⟨[{ id := "Counts" }, formats]⟩ : Registry).AgreesUpTo
      ⟨[{ id := "Counts" }, formatsTwice, formats]⟩ 1 0 :=
    ⟨rfl, formats, formatsTwice, rfl, rfl, rfl, rfl, rfl⟩
  obtain ⟨-, -, -, -, -, independent⟩ :=
    search_takes_first ⟨[{ id := "Counts" }, formats]⟩ formatQuery
  exact ⟨first, agrees, independent 1 0 _ _ _ first agrees⟩

end Registry

end ProjectionPlanner

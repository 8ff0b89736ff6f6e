import ProjectionPlanner.Proofs.Build.Log
import ProjectionPlanner.Proofs.Search.NearMisses

/-! # What a search logs

A search logs one line for each provider that it leaves without a match, and one for the match that
ends it. The methods that it passes within a provider leave no line, however many of them have the
wanted name. So the log tells how far the search went: through all providers of its scope, or up to
the one that holds the method that was found.
-/

namespace ProjectionPlanner

namespace LogRecord

/-- A provider has no method of this name that fits. -/
def noMatch (name provider : String) : LogRecord :=
  .event .trace [("message", "no match in provider"), ("provider", provider), ("name", name)]

/-- A method of a provider is taken. -/
def matched (provider : String) (method : MethodSignature) : LogRecord :=
  .event .trace [("message", "method matched"), ("provider", provider), ("method", method.text)]

end LogRecord

/-- Some providers have nothing to offer that suits a query if all their methods of the wanted name
    fail. -/
theorem MethodQuery.find?_offers_eq_none_iff {query : MethodQuery} {name : String}
    {providers : List Provider} :
    (offers name providers).find? query.suits = none ↔
      ∀ provider ∈ providers, ∀ method ∈ provider.methods, method.name = name →
        query.Fails provider method := by
  rw [List.find?_eq_none]
  constructor
  · intro unfit provider listed method declared named
    have offered : (provider, method) ∈ offers name providers :=
      mem_offers.mpr ⟨listed, declared, named⟩
    exact fails_iff.mpr (Bool.eq_false_iff.mpr (unfit _ offered))
  · intro fails offer offered
    obtain ⟨listed, declared, named⟩ := mem_offers.mp offered
    exact Bool.eq_false_iff.mp (fails_iff.mp (fails offer.1 listed offer.2 declared named))

/-! ## The lines of a scan -/

namespace MethodQuery

variable {query : MethodQuery} {name : String} {provider : Provider}

theorem scanMethods_of_offer {offer : Offer}
    (here : (offers name [offer.1]).find? query.suits = some offer) :
    (query.scanMethods offer.1 (offer.1.methodsNamed name)).1 = some offer.2 := by
  rw [offers_singleton, List.find?_map, Option.map_eq_some_iff] at here
  obtain ⟨method, found, same⟩ := here
  rw [fst_scanMethods, ← same]
  exact found

theorem scanMethods_of_no_offer (unfit : (offers name [provider]).find? query.suits = none) :
    (query.scanMethods provider (provider.methodsNamed name)).1 = none := by
  rw [offers_singleton, List.find?_map, Option.map_eq_none_iff] at unfit
  rw [fst_scanMethods]
  exact unfit

/-- A scan ends with a line for the match at the first provider that has one. -/
theorem lines_scan_of_offer {offer : Offer} (rest : List Provider)
    (here : (offers name [offer.1]).find? query.suits = some offer) :
    (query.scan name (offer.1 :: rest)).lines = [.matched offer.1.id offer.2] := by
  have taken := scanMethods_of_offer here
  rw [scan]
  cases scanned : query.scanMethods offer.1 (offer.1.methodsNamed name) with
  | mk found misses =>
      rw [scanned] at taken
      cases taken
      rfl

/-- Providers without a match are passed with one line each. -/
theorem lines_scan_append {before : List Provider} (rest : List Provider)
    (unfit : ∀ provider ∈ before, (offers name [provider]).find? query.suits = none) :
    (query.scan name (before ++ rest)).lines =
      before.map (fun provider => .passed provider.id name) ++ (query.scan name rest).lines := by
  induction before with
  | nil => rfl
  | cons provider before ih =>
      rw [List.forall_mem_cons] at unfit
      have none := scanMethods_of_no_offer unfit.1
      rw [List.cons_append, scan]
      cases scanned : query.scanMethods provider (provider.methodsNamed name) with
      | mk found misses =>
          rw [scanned] at none
          cases none
          exact congrArg (ScanLine.passed provider.id name :: ·) (ih unfit.2)

end MethodQuery

namespace Registry

/-! ## The log of a search -/

/-- What a search logs, in its written form. -/
def searchRecords (registry : Registry) (query : MethodQuery) : List LogRecord :=
  (registry.search query).lines.map ScanLine.record

/-- The search of a query goes past some providers of its scope and takes a method of the next. -/
structure Stops (registry : Registry) (query : MethodQuery) (before : List Provider)
    (provider : Provider) (method : MethodSignature) : Prop where
  scope : ∃ after, registry.Searches query (before ++ provider :: after)
  /-- Whatever the providers before have under the wanted name fails. -/
  passed : ∀ earlier ∈ before, ∀ other ∈ earlier.methods, other.name = method.name →
    query.Fails earlier other
  wanted : query.Wants method.name
  declared : method ∈ provider.methods
  fits : ¬ query.Fails provider method

variable {registry : Registry} {query : MethodQuery}

theorem searchRecords_of_unnamed (unnamed : query.name? = none) :
    registry.searchRecords query = [] := by
  rw [searchRecords, search, unnamed]
  rfl

theorem searchRecords_of_unreachable {name : String} {error : MethodError}
    (named : query.name? = some name)
    (unreachable : registry.scope query.provider? = .error error) :
    registry.searchRecords query = [] := by
  simp only [searchRecords, search, named, unreachable]
  rfl

theorem lines_search {name : String} {scope : List Provider} (named : query.name? = some name)
    (reachable : registry.scope query.provider? = .ok scope) :
    (registry.search query).lines = (query.scan name scope).lines := by
  simp only [search, named, reachable]
  split <;> rfl

theorem searchRecords_of_miss {expected : ExpectedSignature} {searched : List String}
    {nearMisses : List NearMiss}
    (missed : (registry.search query).result =
      .error (.notFound expected searched nearMisses)) :
    registry.searchRecords query = searched.map (LogRecord.noMatch expected.name) := by
  obtain ⟨name, scope, named, reachable, unfit, rfl, rfl, -⟩ := search_eq_notFound_iff.mp missed
  have each : ∀ provider ∈ scope, (offers name [provider]).find? query.suits = none := by
    intro provider listed
    rw [MethodQuery.find?_offers_eq_none_iff] at unfit ⊢
    exact List.forall_mem_singleton.mpr (unfit provider listed)
  have lines := MethodQuery.lines_scan_append [] each
  rw [List.append_nil] at lines
  rw [searchRecords, lines_search named reachable, lines, MethodQuery.scan, List.append_nil,
    List.map_map, List.map_map]
  rfl

theorem searchRecords_of_found {method : ResolvedMethod}
    (found : (registry.search query).result = .ok method) :
    ∃ before provider, registry.Stops query before provider method.signature ∧
      method = .ofEntry provider method.signature ∧
      registry.searchRecords query =
        before.map (fun earlier => .noMatch method.signature.name earlier.id) ++
          [.matched method.provider method.signature] := by
  obtain ⟨name, scope, offer, named, reachable, first, rfl⟩ := search_eq_ok_iff.mp found
  have served := serves_of_first named reachable first
  obtain rfl : name = offer.2.name := Option.some.inj (named.symm.trans served.named)
  obtain ⟨before, after, split, here, earlier⟩ := exists_split_of_first first
  refine ⟨before, offer.1, ?_, rfl, ?_⟩
  · exact
      { scope := ⟨after, searches_iff.mpr (split ▸ reachable)⟩
        passed := fun provider among =>
          MethodQuery.find?_offers_eq_none_iff.mp (earlier provider among) provider
            (List.mem_singleton_self provider)
        wanted := MethodQuery.wants_iff.mpr named
        declared := served.declared
        fits := fun fails => by
          rw [MethodQuery.fails_iff] at fails
          cases served.fits.symm.trans fails }
  · rw [searchRecords, lines_search named reachable, split,
      MethodQuery.lines_scan_append _ earlier, MethodQuery.lines_scan_of_offer after here,
      List.map_append, List.map_map]
    rfl

/-- A search logs exactly its scan. Without a name or a scope there is nothing to go through and
    nothing is logged. A search that finds nothing logs that it left each of the searched providers
    without a match, in order. One that finds a method logs the same of the providers of its scope
    before the one that holds the method, then the match, and nothing more. -/
theorem search_logs_scan (registry : Registry) (query : MethodQuery) :
    ((registry.search query).result = .error .nameRequired → registry.searchRecords query = []) ∧
      (∀ id available,
        (registry.search query).result = .error (.providerNotRegistered id available) →
          registry.searchRecords query = []) ∧
      (∀ expected searched nearMisses,
        (registry.search query).result = .error (.notFound expected searched nearMisses) →
          query.Wants expected.name ∧
            registry.searchRecords query = searched.map (LogRecord.noMatch expected.name)) ∧
      ∀ method, (registry.search query).result = .ok method →
        ∃ before provider, registry.Stops query before provider method.signature ∧
          method = .ofEntry provider method.signature ∧
          registry.searchRecords query =
            before.map (fun earlier => .noMatch method.signature.name earlier.id) ++
              [.matched method.provider method.signature] := by
  refine ⟨?_, ?_, ?_, fun _ => searchRecords_of_found⟩
  · intro unnamed
    have nameless := search_eq_nameRequired_iff.mp unnamed
    apply searchRecords_of_unnamed
    rw [Option.eq_none_iff_forall_ne_some]
    exact fun name named => nameless name (MethodQuery.wants_iff.mpr named)
  · intro id available unregistered
    obtain ⟨⟨name, wanted⟩, restricted, unknown, -⟩ :=
      search_eq_providerNotRegistered_iff.mp unregistered
    have unreachable := scope_eq_error_iff.mpr ⟨id, restricted, unknown, rfl⟩
    exact searchRecords_of_unreachable (MethodQuery.wants_iff.mp wanted) unreachable
  · intro expected searched nearMisses missed
    exact ⟨((search_explains_miss _ _ _ _ _).mp missed).1, searchRecords_of_miss missed⟩

/-- Methods of the wanted name that do not fit leave no lines of their own, and a provider that
    formats numbers is found behind them. -/
theorem misfits_logged :
    misfits.searchRecords formatQuery =
        [.noMatch "format" "Texts", .noMatch "format" "Counts", .noMatch "format" "Texts"] ∧
      ∃ before provider,
        (misfits.push formats).Stops formatQuery before provider formatMethod.signature ∧
          formatMethod = .ofEntry provider formatMethod.signature ∧
          (misfits.push formats).searchRecords formatQuery =
            before.map (fun earlier => .noMatch "format" earlier.id) ++
              [.matched "Texts" formatMethod.signature] := by
  obtain ⟨-, -, missing, -⟩ := search_logs_scan misfits formatQuery
  obtain ⟨-, -, -, found⟩ := search_logs_scan (misfits.push formats) formatQuery
  exact ⟨(missing _ _ _ rfl).2, found formatMethod rfl⟩

end Registry

end ProjectionPlanner

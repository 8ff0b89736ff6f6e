import ProjectionPlanner.Entries
import ProjectionPlanner.Proofs.Search.Offers

/-! # Searching again in the provider that was found

A method that was found is handed out with the identifier of its provider. Asked for again in that
provider it is found again, unless an earlier provider has the same identifier: a search without
restriction goes through both, while the identifier means the first of them alone.
-/

namespace ProjectionPlanner

namespace MethodQuery

/-- The query, asked of one provider. The part of the reference that names the method is kept. -/
def restrictedTo (query : MethodQuery) (id : String) : MethodQuery :=
  { query with ref := some { provider := some id, name := query.ref.bind MethodRef.name } }

theorem name?_restrictedTo (query : MethodQuery) (id : String) :
    (query.restrictedTo id).name? = query.name? := by
  unfold name? restrictedTo
  cases query.ref with
  | none => rfl
  | some ref => rfl

end MethodQuery

/-- Before the provider of the first offer that fits, no provider has such an offer. -/
theorem exists_split_of_first {query : MethodQuery} {name : String} {providers : List Provider}
    {offer : Offer} (first : (offers name providers).find? query.suits = some offer) :
    ∃ before after, providers = before ++ offer.1 :: after ∧
      (offers name [offer.1]).find? query.suits = some offer ∧
      ∀ provider ∈ before, (offers name [provider]).find? query.suits = none := by
  simp only [offers_singleton]
  rw [offers, List.find?_flatMap, List.findSome?_eq_some_iff] at first
  obtain ⟨before, provider, after, split, here, earlier⟩ := first
  obtain ⟨_, -, rfl⟩ := List.mem_map.mp (List.mem_of_find?_eq_some here)
  exact ⟨before, after, split, here, earlier⟩

namespace Registry

variable {registry : Registry} {query : MethodQuery}

/-- Where identifiers differ, each of them means its provider. -/
theorem get?_of_nodup (distinct : registry.ids.Nodup) {provider : Provider}
    (listed : provider ∈ registry.providers) : registry.get? provider.id = some provider :=
  find?_of_distinct_keys distinct listed

/-- An identifier that does not mean a provider which carries it means an earlier one. -/
theorem exists_earlier_of_get?_ne {before after : List Provider} {provider : Provider}
    (split : registry.providers = before ++ provider :: after)
    (shadowed : registry.get? provider.id ≠ some provider) :
    ∃ other ∈ before, registry.get? provider.id = some other := by
  unfold get? at shadowed ⊢
  rw [split, List.find?_append] at shadowed ⊢
  cases known : before.find? (·.id == provider.id) with
  | none => simp [known] at shadowed
  | some other => exact ⟨other, List.mem_of_find?_eq_some known, rfl⟩

theorem scope_restrictedTo {id : String} {provider : Provider}
    (known : registry.get? id = some provider) :
    registry.scope (query.restrictedTo id).provider? = .ok [provider] := by
  change registry.scope (some id) = .ok [provider]
  rw [scope, known]

/-- A method that an unrestricted search found is found again in the provider that its identifier
    means, if that is the provider in which it was found; if it is another, nothing is found there.
    Where the identifiers of providers differ, it is never another. -/
theorem search_restrictedTo {method : ResolvedMethod} (unrestricted : query.provider? = none)
    (found : (registry.search query).result = .ok method) :
    ∃ provider,
      registry.Serves query provider method.signature ∧
        method = .ofEntry provider method.signature ∧
        (registry.get? method.provider = some provider →
          (registry.search (query.restrictedTo method.provider)).result = .ok method) ∧
        (registry.get? method.provider ≠ some provider →
          ∃ expected searched nearMisses,
            (registry.search (query.restrictedTo method.provider)).result =
              .error (.notFound expected searched nearMisses)) ∧
        (registry.ids.Nodup → registry.get? method.provider = some provider) := by
  obtain ⟨name, scope, offer, named, reachable, first, rfl⟩ := search_eq_ok_iff.mp found
  have served := serves_of_first named reachable first
  rw [unrestricted] at reachable
  cases reachable
  obtain ⟨before, after, split, here, earlier⟩ := exists_split_of_first first
  have named := (query.name?_restrictedTo offer.1.id).trans named
  refine ⟨offer.1, served, rfl, ?_, ?_, ?_⟩
  · intro known
    exact search_eq_ok_iff.mpr
      ⟨name, [offer.1], offer, named, scope_restrictedTo known, here, rfl⟩
  · intro shadowed
    obtain ⟨other, listed, known⟩ := exists_earlier_of_get?_ne split shadowed
    have reachable : registry.scope (query.restrictedTo offer.1.id).provider? = .ok [other] :=
      scope_restrictedTo known
    have missed := search_result named reachable
    -- `other` stands before the offer that came first, so that nothing in it suits the query.
    have none : (offers name [other]).find? (query.restrictedTo offer.1.id).suits = none :=
      earlier other listed
    rw [none] at missed
    exact ⟨_, _, _, missed⟩
  · intro distinct
    have listed : offer.1 ∈ registry.providers := by
      rw [split]
      exact List.mem_append_right before List.mem_cons_self
    exact get?_of_nodup distinct listed

/-- A provider that formats numbers. -/
def formats : Provider where
  id := "Texts"
  methods := [⟨"format", [.scalar .decimal], .scalar .text, .static⟩]

/-- Any method that formats a number. -/
def formatQuery : MethodQuery where
  ref := some { name := some "format" }
  params := [.scalar .decimal]
  returns := .assignableTo (.scalar .text)

/-- The method of the provider that formats numbers. -/
def formatMethod : ResolvedMethod :=
  .ofEntry formats ⟨"format", [.scalar .decimal], .scalar .text, .static⟩

theorem format_found_again :
    formatQuery.provider? = none ∧
      ((⟨[{ id := "Counts" }, formats]⟩ : Registry).search formatQuery).result =
        .ok formatMethod ∧
      ((⟨[{ id := "Counts" }, formats]⟩ : Registry).search
          (formatQuery.restrictedTo formatMethod.provider)).result = .ok formatMethod := by
  have found : ((⟨[{ id := "Counts" }, formats]⟩ : Registry).search formatQuery).result =
      .ok formatMethod := rfl
  obtain ⟨provider, -, -, again, -, apart⟩ := search_restrictedTo rfl found
  exact ⟨rfl, found, again (apart (by decide))⟩

/-- Behind an empty provider of the same identifier the method is found, but not found again. -/
theorem format_shadowed :
    formatQuery.provider? = none ∧
      ((⟨[{ id := "Texts" }, formats]⟩ : Registry).search formatQuery).result =
        .ok formatMethod ∧
      ((⟨[{ id := "Texts" }, formats]⟩ : Registry).search
          (formatQuery.restrictedTo formatMethod.provider)).result =
        .error (.notFound
          ⟨"format", [.scalar .decimal], .assignableTo (.scalar .text)⟩ ["Texts"] []) :=
  ⟨rfl, rfl, rfl⟩

end Registry

end ProjectionPlanner

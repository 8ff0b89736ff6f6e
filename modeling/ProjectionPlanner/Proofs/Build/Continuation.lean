import ProjectionPlanner.Proofs.Build.Outcomes

/-! # Providers that are declared later

A registry is continued when further providers are declared after its own. Searches take the first
method that fits and references mean the first provider of an identifier, so that whatever was
found stays found. What may change is what was found missing: a field that passes its argument on,
for want of a method, may get one from a later provider. All other fields of a plan stay as they
are. Nothing is assumed of the identifiers, which may repeat.
-/

namespace ProjectionPlanner

namespace Registry

variable {registry : Registry} {query : MethodQuery}

/-- The registry, and after its providers those of another one. -/
def continuedBy (registry later : Registry) : Registry :=
  ⟨registry.providers ++ later.providers⟩

theorem get?_continuedBy {id : String} {provider : Provider}
    (known : registry.get? id = some provider) (later : Registry) :
    (registry.continuedBy later).get? id = some provider := by
  unfold get? at known ⊢
  rw [continuedBy, List.find?_append, known, Option.some_or]

/-- A search that has a scope goes through it first, and then perhaps through more. -/
theorem exists_scope_continuedBy {wanted : Option String} {scope : List Provider}
    (reachable : registry.scope wanted = .ok scope) (later : Registry) :
    ∃ more, (registry.continuedBy later).scope wanted = .ok (scope ++ more) := by
  cases wanted with
  | none =>
      cases reachable
      exact ⟨later.providers, rfl⟩
  | some id =>
      cases known : registry.get? id with
      | none => simp [Registry.scope, known] at reachable
      | some provider =>
          simp only [Registry.scope, known, Except.ok.injEq] at reachable
          subst reachable
          refine ⟨[], ?_⟩
          simp only [Registry.scope, get?_continuedBy known, List.append_nil]

/-- What is found stays found. -/
theorem search_continuedBy {method : ResolvedMethod}
    (found : (registry.search query).result = .ok method) (later : Registry) :
    ((registry.continuedBy later).search query).result = .ok method := by
  obtain ⟨name, scope, offer, named, reachable, first, rfl⟩ := search_eq_ok_iff.mp found
  obtain ⟨more, further⟩ := exists_scope_continuedBy reachable later
  refine search_eq_ok_iff.mpr ⟨name, scope ++ more, offer, named, further, ?_, rfl⟩
  rw [offers_append, List.find?_append, first, Option.some_or]

end Registry

/-- The field takes its single argument as it is. -/
def FieldMapping.passesOn : FieldMapping → Bool
  | .computed mapping => mapping.compute.isIdentity
  | _ => false

namespace Build

variable {build : Build} {target : TargetField} {computation : Computation}

/-- The build with further providers. -/
def continuedBy (build : Build) (later : Registry) : Build :=
  { build with registry := build.registry.continuedBy later }

theorem computed_continuedBy {mapping : FieldMapping}
    (accepted : (build.computed target computation).result = .ok mapping)
    (settled : mapping.passesOn = false) (later : Registry) :
    ((build.continuedBy later).computed target computation).result = .ok mapping := by
  obtain ⟨dependencies, step, transform, reduces, computes, transforms, rfl⟩ :=
    computed_eq_ok_iff.mp accepted
  -- the stages before the searches do not look at the registry
  have reduces : (build.continuedBy later).Reduces target computation dependencies :=
    ⟨reduces.roots, reduces.read, reduces.paired, reduces.supported⟩
  cases computes with
  | argument _ _ => cases settled
  | @method method found =>
      have computes : (build.continuedBy later).Computes target computation dependencies
          (.invoke method) :=
        .method (Registry.search_continuedBy found later)
      refine computed_eq_ok_iff.mpr ⟨dependencies, _, transform, reduces, computes, ?_, rfl⟩
      rcases transform?_eq_ok_iff.mp transforms with ⟨last, rfl⟩ | ⟨ref, other, asked, rfl, found⟩
      · exact transform?_eq_ok_iff.mpr (.inl ⟨last, rfl⟩)
      · exact transform?_eq_ok_iff.mpr
          (.inr ⟨ref, other, asked, rfl, Registry.search_continuedBy found later⟩)

/-- A field that does not pass its argument on is planned as before. -/
theorem Resolves.continuedBy {mapping : FieldMapping} (resolves : build.Resolves target mapping)
    (settled : mapping.passesOn = false) (later : Registry) :
    (build.continuedBy later).Resolves target mapping := by
  unfold Resolves run at resolves ⊢
  cases directive : target.directive with
  | implicit => rw [directive] at resolves; exact resolves
  | explicit path => rw [directive] at resolves; exact resolves
  | computed computation =>
      rw [directive] at resolves
      exact computed_continuedBy resolves settled later

/-- Further providers leave the fields of a plan alone, apart from those that pass their argument
    on: no other field is reported, even if no plan can be made any more, and if one is made it has
    the same mapping there. Where no field passes its argument on the whole plan is made again. -/
theorem result_of_continuedBy {plan : Plan} (made : build.result = .ok plan) (later : Registry) :
    (∀ name mapping, plan.get? name = some mapping → mapping.passesOn = false →
      (build.continuedBy later).diagnosticsFor name = [] ∧
        ∀ laterPlan, (build.continuedBy later).result = .ok laterPlan →
          laterPlan.get? name = some mapping) ∧
    ((∀ name mapping, plan.get? name = some mapping → mapping.passesOn = false) →
      ∃ laterPlan, (build.continuedBy later).result = .ok laterPlan ∧
        laterPlan.fields = plan.fields) := by
  constructor
  · intro name mapping stored settled
    obtain ⟨target, declared, rfl, resolves⟩ := exists_declared_of_get? made stored
    have stillResolves := resolves.continuedBy settled later
    have distinct := (result_eq_ok_iff.mp made).1
    refine ⟨diagnosticsFor_of_resolves distinct declared stillResolves, ?_⟩
    intro laterPlan laterMade
    obtain ⟨other, otherStored, otherResolves⟩ := exists_get?_of_result laterMade declared
    -- a field is planned in one way only
    cases Except.ok.inj (otherResolves.symm.trans stillResolves)
    exact otherStored
  · intro allSettled
    refine exists_result_of_carried made rfl ?_
    intro target declared mapping resolves
    obtain ⟨other, stored, otherResolves⟩ := exists_get?_of_result made declared
    cases Except.ok.inj (otherResolves.symm.trans resolves)
    exact resolves.continuedBy (allSettled _ _ stored) later

/-- A better offer for the size, too late, and one for the total where there was none. -/
def lateMethods : Registry where
  providers :=
    [{ id := "Counts", methods := [⟨"getSize", [.scalar .int64], .scalar .int64, .static⟩] },
      { id := "Totals", methods := [⟨"getTotal", [.scalar .decimal], .scalar .text, .static⟩] }]

/-- The total, which passed its sum on, is computed now, and there is nothing to format the result.
    The size is not affected, nor is a plan without the total. -/
theorem orderBuild_continued :
    (∃ plan mapping, orderBuild.result = .ok plan ∧ plan.get? "size" = some mapping ∧
      mapping.passesOn = false ∧ (orderBuild.continuedBy lateMethods).diagnosticsFor "size" = [] ∧
      (orderBuild.continuedBy lateMethods).diagnosticsFor "total" ≠ []) ∧
    ∃ plan laterPlan, sizeBuild.result = .ok plan ∧
      (∀ name mapping, plan.get? name = some mapping → mapping.passesOn = false) ∧
      (sizeBuild.continuedBy lateMethods).result = .ok laterPlan ∧
      laterPlan.fields = plan.fields := by
  constructor
  · have made : orderBuild.result = .ok ⟨_, _, _, _⟩ := rfl
    refine ⟨_, _, made, rfl, rfl, ?_, by decide⟩
    exact ((result_of_continuedBy made lateMethods).1 "size" _ rfl rfl).1
  · have made : sizeBuild.result = .ok ⟨_, _, _, _⟩ := rfl
    have settled : ∀ name mapping, sizeBuild.mappings.get? name = some mapping →
        mapping.passesOn = false := by
      intro name mapping stored
      rcases List.mem_cons.mp (Entries.get?_eq_some_iff.mp stored) with first | second
      · cases first
        rfl
      · cases List.mem_singleton.mp second
        rfl
    obtain ⟨laterPlan, laterMade, sameFields⟩ :=
      (result_of_continuedBy made lateMethods).2 settled
    exact ⟨_, laterPlan, made, settled, laterMade, sameFields⟩

end Build

end ProjectionPlanner

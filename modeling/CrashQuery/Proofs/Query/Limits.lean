import CrashQuery.Proofs.Query.Paging
import CrashQuery.Proofs.Request.Normalized
import CrashQuery.Proofs.Request.Prepared

/-!
# The limits of the settings

The settings limit the results of a request and the terms of a count. Every count in a query body
keeps to its limit. The page keeps to it where the request gives the number of its results, since a
number above the limit is refused; where it gives none the page has its usual size, whatever the
limit is (`Service.limits_iff`). A limit below that size is accepted, and is exceeded by a request
without parameters (`Service.not_limited_fifty`).
-/

namespace CrashQuery

namespace Service

/-- The page of a query body is within the limit of the settings exactly when the request gives a
number of results that can be read, or the limit is not below the usual number; and all counts in the
body are within theirs. -/
theorem limits_iff {s : Service} {raw : RawRequest} {r : Request} {body : Json}
    (h : s.prepare raw = .ok (r, body)) :
    (∃ size : Nat, body.field "size" = .nat size ∧
      (size ≤ s.settings.maxResults ↔
        (Request.lastNumber? (raw.valuesOf Request.sizeKey)).isSome = true ∨
          100 ≤ s.settings.maxResults)) ∧
    ∀ name count, (name, count) ∈ (body.field "facets").fields?.getD [] →
      ∃ size : Nat, (count.field "terms").field "size" = .nat size ∧
        size ≤ s.settings.maxFacetTerms := by
  obtain ⟨request, q, hrequest, hr, hcompile, rfl⟩ := parts_of_prepare h
  obtain ⟨hpage, hfacets⟩ := Query.page_of_compile hcompile
  obtain ⟨-, hlimits⟩ := Query.facets_of_compileFacets hfacets
  refine ⟨⟨q.page.size, (Query.page_toJson q).2, ?_⟩, ?_⟩
  · have hsame : q.page.size = request.page.size := by rw [hpage, hr]
    rw [hsame]
    exact Request.size_le_iff hrequest
  · intro name count hmem
    rw [Query.facets_toJson] at hmem
    obtain ⟨facet, hfacet, heq⟩ := List.mem_map.1 (Entries.mem_of_mem_ofList hmem)
    obtain ⟨-, rfl⟩ := Prod.mk.inj heq
    obtain ⟨f, -, -, hsize⟩ := hlimits facet hfacet
    refine ⟨facet.size, (Query.terms_facetJson _ facet).2, ?_⟩
    rw [hsize]
    exact Nat.min_le_right _ _

/-- A service that gives fifty results at most. -/
def fiftyService : Service := { sampleService with settings := { maxResults := 50 } }

/-- A request for fifty results and for more counts than are allowed keeps to both limits. -/
theorem limits_fifty : ∃ r body size,
    fiftyService.prepare
      [("_facets", ["product"]), ("_facets_size", ["80"]), ("_results_number", ["50"])] =
        .ok (r, body) ∧
    body.field "size" = .nat size ∧ size ≤ 50 ∧
    ∀ name count, (name, count) ∈ (body.field "facets").fields?.getD [] →
      ∃ size : Nat, (count.field "terms").field "size" = .nat size ∧ size ≤ 50 := by
  obtain ⟨r, body, h⟩ : ∃ r body, fiftyService.prepare
      [("_facets", ["product"]), ("_facets_size", ["80"]), ("_results_number", ["50"])] =
        .ok (r, body) := ⟨_, _, rfl⟩
  obtain ⟨⟨size, hsize, hiff⟩, hcounts⟩ := limits_iff h
  exact ⟨r, body, size, h, hsize, hiff.2 (Or.inl rfl), hcounts⟩

/-- The settings with that limit are accepted, and a request without parameters asks for a hundred
results. -/
theorem not_limited_fifty : fiftyService.settings.check = .ok () ∧
    ∃ r body, fiftyService.prepare [] = .ok (r, body) ∧ body.field "size" = .nat 100 ∧
      ¬ 100 ≤ fiftyService.settings.maxResults := by
  obtain ⟨r, body, h, hsize⟩ : ∃ r body, fiftyService.prepare [] = .ok (r, body) ∧
      body.field "size" = .nat 100 := ⟨_, _, rfl, rfl⟩
  exact ⟨rfl, r, body, h, hsize, by decide⟩

end Service

end CrashQuery

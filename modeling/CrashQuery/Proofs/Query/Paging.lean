import CrashQuery.Proofs.Entries
import CrashQuery.Proofs.Query.Compilation

/-!
# The page and the counts of a query body

Besides the part that selects reports, a query body says which page of them is wanted and what is to
be counted. Both can be read back from the body (`page_toJson`, `facets_toJson`), and come from the
request that was compiled: the page as it is, and for each name a count of the field of that name
with a limit on the number of terms (`page_of_compile`, `facets_of_compileFacets`).
-/

namespace CrashQuery

/-- The field of an object is the last one that is given for its key. -/
theorem Json.field_object (key : String) (fields : List (String × Json)) :
    (Json.object fields).field key = (Entries.find? key (Entries.ofList fields)).getD .null := rfl

namespace Query

open Outcome

/-- The page of a query stands in its body. -/
theorem page_toJson (q : Query) : q.toJson.field "from" = .nat q.page.offset ∧
    q.toJson.field "size" = .nat q.page.size := by
  unfold toJson
  rw [Json.field_object, Json.field_object]
  cases q.facets.isEmpty <;> cases q.sort.isEmpty <;> simp [Entries.find?_ofList_cons]

/-- The counts of a query stand in its body under their names. -/
theorem facets_toJson (q : Query) : (q.toJson.field "facets").fields?.getD [] =
    Entries.ofList (q.facets.map fun f => (f.name, facetJson (filterJson q.filters) f)) := by
  unfold toJson
  rw [Json.field_object]
  cases q.facets <;> cases q.sort.isEmpty <;>
    simp [Entries.find?_ofList_cons, Json.object, Json.fields?]

/-- The path and the limit of a count stand in its document. -/
theorem terms_facetJson (filter : Json) (f : Facet) :
    ((facetJson filter f).field "terms").field "field" = .str f.path ∧
      ((facetJson filter f).field "terms").field "size" = .nat f.size := by
  simp [facetJson, Json.field_object, Entries.find?_ofList_cons]

/-- Counts are compiled from fields of the catalog, one for each name, with the limit that is asked
for as far as it is allowed. -/
theorem facets_of_compileFacets {catalog : Catalog} {maxTerms : Nat} {requested : Option Nat}
    {names : List String} {facets : List Facet}
    (h : compileFacets catalog maxTerms requested names = .ok facets) :
    facets.map Facet.name = names ∧ ∀ facet ∈ facets, ∃ f,
      catalog.lookup facet.name = some f ∧ facet.path = f.exactPath ∧
        facet.size = min (requested.getD maxTerms) maxTerms := by
  unfold compileFacets at h
  induction names generalizing facets with
  | nil =>
    rw [List.mapM_nil, pure, Applicative.toPure] at h
    cases h
    simp
  | cons name names ih =>
    obtain ⟨facet, rest, hfacet, hrest, rfl⟩ := mapM_cons_eq_ok.1 h
    obtain ⟨hnames, hfields⟩ := ih hrest
    split at hfacet
    · cases hfacet
    · next f hf =>
      split at hfacet
      · have hpublic : f.publicName = name := (Catalog.lookup_eq_some_iff.1 hf).2
        cases hfacet
        refine ⟨by rw [List.map_cons, hnames, hpublic], ?_⟩
        intro facet hmem
        rcases List.mem_cons.1 hmem with rfl | hmem
        · exact ⟨f, by rw [hpublic, hf], rfl, rfl⟩
        · exact hfields facet hmem
      · cases hfacet

/-- A compiled request keeps its page, and counts by the fields that it names. -/
theorem page_of_compile {catalog : Catalog} {maxTerms : Nat} {request : Request}
    {rules : List VersionRule} {q : Query} (h : compile catalog maxTerms request rules = .ok q) :
    q.page = request.page ∧
      compileFacets catalog maxTerms request.facetSize request.facets = .ok q.facets := by
  obtain ⟨_, _, hfacets, -, -, -, hpage, -⟩ := parts_of_compile h
  exact ⟨hpage, hfacets⟩

end Query

end CrashQuery

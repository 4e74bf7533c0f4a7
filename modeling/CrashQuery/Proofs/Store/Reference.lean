import CrashQuery.Proofs.Query.Paging
import CrashQuery.Proofs.Request.Prepared
import CrashQuery.Proofs.Store.Counting
import CrashQuery.Proofs.Store.Healing

/-!
# What a search over a store gives

A request is compiled into a body, a store answers the body with a document, and the document is
read as results. `Results.AreOf` says what the results are in the words of the request and of the
stored documents alone, and `Results.exists_areOf` that the way over the two documents gives them.
`Service.search_store` says so of a whole search: the documents are those of the indices of the
window that exist, in the order of the indices. `Service.exists_results` says when a search has
results at all.
-/

namespace CrashQuery

open Calendar Outcome

namespace Results

variable (catalog : Catalog) (columns : List String)

/-- A stored document by public names; if columns are given, only those are kept. A document that is
no object has none. -/
def reportOf : Json → Entries Json
  | .obj source =>
    let report := flatten catalog source
    if columns.isEmpty then report else report.filter fun f => columns.contains f.1
  | _ => []

/-- A hit with a document is the report of the document. -/
theorem ofHit_source (doc : Json) :
    ofHit catalog columns (.obj [("_source", doc)]) = reportOf catalog columns doc := by
  have hsource : (Json.obj [("_source", doc)]).get? "_source" = some doc := rfl
  unfold ofHit
  rw [hsource]
  cases doc <;> rfl

/-- The counts of the most frequent terms. -/
def bucketsOf (top : List (String × Nat)) : List Bucket := top.map fun t => ⟨.str t.1, t.2⟩

/-- Whether results are those of a request about some documents: their number, the page of their
reports in order, and for each name that the request counts by, and for no other, the most frequent
terms in the field of that name over all documents, so many as the request asks for and the limit
allows. -/
structure AreOf (maxTerms : Nat) (request : Request) (docs : List Json) (r : Results) : Prop where
  /-- All documents count. -/
  total : r.total = docs.length
  /-- The reports are those of the page, in order. -/
  hits : r.hits = ((docs.drop request.page.offset).take request.page.size).map
    (reportOf catalog request.columns)
  /-- There are counts under the names that the request counts by. -/
  names : ∀ name, name ∈ Entries.keys r.facets ↔ name ∈ request.facets
  /-- There are counts once under a name. -/
  nodup : (Entries.keys r.facets).Nodup
  /-- What is counted are the most frequent terms in the field of the name. -/
  counts : ∀ name buckets, (name, buckets) ∈ r.facets → ∃ f top,
    catalog.lookup name = some f ∧
    Store.IsTop (Store.termsAt f.exactPath docs)
      (min (request.facetSize.getD maxTerms) maxTerms) top ∧
    buckets = bucketsOf top

/-- The counts that a store writes are read back. -/
theorem bucketsIn_termCounts (path : String) (limit : Nat) (docs : List Json) :
    bucketsIn "terms" "term" "count" (Store.termCounts path limit docs) =
      bucketsOf (Store.topTerms path limit docs) := by
  have hterms : (Store.termCounts path limit docs).field "terms" =
      .arr ((Store.topTerms path limit docs).map fun t =>
        Json.object [("term", .str t.1), ("count", .nat t.2)]) := by
    simp [Store.termCounts, Json.field_object, Entries.find?_ofList_cons]
  unfold bucketsIn
  rw [hterms]
  simp only [buckets, bucketsOf, Json.items?, Option.getD_some, List.map_map]
  refine List.map_congr_left fun t _ => ?_
  simp [Json.field_object, Entries.find?_ofList_cons, Json.nat, Json.nat?]

/-- The counts of a query are those that a store writes for its body. -/
theorem facetsFor_toJson (q : Query) (docs : List Json) : Store.facetsFor q.toJson docs =
    Entries.ofList (q.facets.map fun f => (f.name, Store.termCounts f.path f.size docs)) := by
  unfold Store.facetsFor
  rw [Query.facets_toJson]
  refine (Entries.map_ofList (fun spec : Json =>
    Store.termCounts ((((spec.field "terms").field "field").string?).getD "")
      ((((spec.field "terms").field "size").nat?).getD 10) docs) _).trans ?_
  rw [List.map_map]
  refine congrArg Entries.ofList (List.map_congr_left fun f _ => ?_)
  obtain ⟨hpath, hsize⟩ := Query.terms_facetJson (Query.filterJson q.filters) f
  rw [Function.comp_apply, hpath, hsize]
  rfl

/-- The counts in the answer of a store are read back under the names of the query. -/
theorem facetsOf_searchAnswer (s : Store) (indices : List String) (q : Query) :
    facetsOf (s.searchAnswer indices q.toJson) = Entries.ofList (q.facets.map fun f =>
      (f.name, bucketsOf (Store.topTerms f.path f.size (s.documentsOf indices)))) := by
  obtain ⟨docs, hdocs⟩ : ∃ docs, docs = s.documentsOf indices := ⟨_, rfl⟩
  have hnone : ((s.searchAnswer indices q.toJson).field "aggregations").fields?.getD [] = [] := by
    simp [Store.searchAnswer, Json.field_object, Entries.find?_ofList_cons, Json.fields?]
  have hsome : ((s.searchAnswer indices q.toJson).field "facets").fields?.getD [] =
      Entries.ofList (q.facets.map fun f => (f.name, Store.termCounts f.path f.size docs)) := by
    unfold Store.searchAnswer
    rw [Json.field_object, ← hdocs, facetsFor_toJson]
    simp [Entries.find?_ofList_cons, Json.object, Json.fields?,
      Entries.ofList_of_sorted Entries.sorted_ofList]
  unfold facetsOf
  simp only [hnone, hsome, List.map_nil, List.nil_append]
  rw [Entries.map_ofList (bucketsIn "terms" "term" "count"),
    Entries.ofList_of_sorted Entries.sorted_ofList, List.map_map]
  refine congrArg Entries.ofList (List.map_congr_left fun f _ => ?_)
  rw [Function.comp_apply, bucketsIn_termCounts, hdocs]

/-- The answer of a store to the body of a query is read as the number of its documents, the page of
their reports and the counts of the query. -/
theorem ofResponse_searchAnswer (s : Store) (indices : List String) (q : Query) :
    ofResponse catalog columns (s.searchAnswer indices q.toJson) = .ok
      ⟨(s.documentsOf indices).length,
        (((s.documentsOf indices).drop q.page.offset).take q.page.size).map
          (reportOf catalog columns),
        Entries.ofList (q.facets.map fun f =>
          (f.name, bucketsOf (Store.topTerms f.path f.size (s.documentsOf indices))))⟩ := by
  obtain ⟨hfrom, hsize⟩ := Query.page_toJson q
  rw [← facetsOf_searchAnswer]
  obtain ⟨fields, hfields⟩ : ∃ fields, fields = Entries.ofList
      [("total", Json.nat (s.documentsOf indices).length),
        ("hits", .arr (((((s.documentsOf indices).drop q.page.offset).take q.page.size)).map
          fun doc => Json.obj [("_source", doc)]))] := ⟨_, rfl⟩
  have hhits : (s.searchAnswer indices q.toJson).get? "hits" = some (.obj fields) := by
    rw [hfields]
    simp [Store.searchAnswer, hfrom, hsize, Json.object, Json.get?, Entries.find?_ofList_cons,
      Json.nat, Json.nat?]
  have htotal : Json.field "total" (.obj fields) = .nat (s.documentsOf indices).length := by
    rw [hfields]
    simp [Json.field, Json.get?, Entries.find?_ofList_cons]
  have hreports : Json.field "hits" (.obj fields) =
      .arr (((((s.documentsOf indices).drop q.page.offset).take q.page.size)).map
        fun doc => Json.obj [("_source", doc)]) := by
    rw [hfields]
    simp [Json.field, Json.get?, Entries.find?_ofList_cons]
  unfold ofResponse
  rw [hhits]
  simp only
  rw [htotal, hreports, hitsOf, List.map_map]
  refine congrArg (fun hits => Except.ok (Results.mk _ hits _)) ?_
  refine List.map_congr_left fun doc _ => ?_
  exact ofHit_source catalog columns doc

/-- The answer of a store to the body of a compiled request is read as the results of the
request. -/
theorem exists_areOf (s : Store) (indices : List String) {maxTerms : Nat} {request : Request}
    {rules : List VersionRule} {q : Query}
    (h : Query.compile catalog maxTerms request rules = .ok q) :
    ∃ r, ofResponse catalog request.columns (s.searchAnswer indices q.toJson) = .ok r ∧
      r.AreOf catalog maxTerms request (s.documentsOf indices) := by
  obtain ⟨hpage, hfacets⟩ := Query.page_of_compile h
  obtain ⟨hnames, hfields⟩ := Query.facets_of_compileFacets hfacets
  refine ⟨_, ofResponse_searchAnswer catalog request.columns s indices q, rfl, ?_, ?_,
    Entries.nodup_keys Entries.sorted_ofList, ?_⟩
  · rw [hpage]
  · intro name
    rw [Entries.mem_keys_ofList, List.map_map, ← hnames]
    rfl
  · intro name buckets hmem
    obtain ⟨facet, hfacet, heq⟩ := List.mem_map.1 (Entries.mem_of_mem_ofList hmem)
    obtain ⟨rfl, rfl⟩ := Prod.mk.inj heq
    obtain ⟨f, hlookup, hpath, hsize⟩ := hfields facet hfacet
    refine ⟨f, _, hlookup, ?_, rfl⟩
    rw [← hpath, ← hsize]
    exact Store.isTop_topTerms facet.path facet.size _

end Results

namespace Service

variable {s : Service} {raw : RawRequest}

/-- A planned search has the page, the counts and the columns of its request, the body of a query
that is compiled from it, and the indices of its window. -/
theorem parts_of_plan {planned : Request} {body : Json} {indices : List String}
    (h : s.plan raw none = .ok (planned, body, indices)) :
    ∃ request conditions rules q, Request.ofRaw s.catalog s.options raw = .ok request ∧
      planned = { request with conditions := conditions } ∧
      Query.compile s.catalog s.settings.maxFacetTerms planned rules = .ok q ∧ body = q.toJson ∧
      Index.covering s.settings.indexPattern request.window.first request.window.last =
        .ok indices := by
  unfold plan at h
  obtain ⟨⟨planned', body'⟩, hprepare, h⟩ := bind_eq_ok.1 h
  obtain ⟨indices', hindices, h⟩ := bind_eq_ok.1 h
  cases h
  obtain ⟨request, q, hrequest, hplanned, hcompile, hbody⟩ := parts_of_prepare hprepare
  refine ⟨request, _, _, q, hrequest, hplanned, hcompile, hbody, ?_⟩
  rw [hplanned] at hindices
  exact hindices

section Run

variable {σ : Type} {backend : Backend σ} {w : World σ} {pinned : Option (List String)}
  {patience : Option Nat} {planned : Request} {body : Json} {indices : List String}

/-- A search that cannot be planned fails without a call. -/
theorem run_of_refused {failure : Failure} (hplan : s.plan raw pinned = .error failure) :
    s.run backend raw pinned patience w = (.error failure, w) := by
  unfold run
  rw [hplan]

/-- A planned search that wants its query has it without a call. -/
theorem run_of_wants (hplan : s.plan raw pinned = .ok (planned, body, indices))
    (hwants : planned.wantsQuery = true) :
    s.run backend raw pinned patience w = (.ok (.query indices body), w) := by
  unfold run
  rw [hplan]
  simp only [hwants, if_true]

/-- A planned search that wants results is a run over its indices. -/
theorem run_of_plan (hplan : s.plan raw pinned = .ok (planned, body, indices))
    (hwants : planned.wantsQuery = false) :
    s.run backend raw pinned patience w =
      (s.resultsOf planned (Run.execute backend s.settings.timeout (policyFor pinned)
          (.search body) patience indices w).1,
        (Run.execute backend s.settings.timeout (policyFor pinned) (.search body) patience indices
          w).2) := by
  unfold run
  rw [hplan]
  simp only [hwants, Bool.false_eq_true, if_false]

/-- A planned search that wants results has those of a run over its indices, all of which are asked
for without a cache. -/
theorem search_of_plan (hcache : w.cache = none)
    (hplan : s.plan raw none = .ok (planned, body, indices)) (hwants : planned.wantsQuery = false) :
    (s.search backend raw w).1 = s.resultsOf planned
      (Run.attempt backend s.settings.timeout .heal (.search body) none indices w).1 := by
  have hpolicy : policyFor none = .heal := rfl
  unfold search
  rw [run_of_plan hplan hwants, hpolicy, Run.execute_uncached _ _ _ _ hcache]

end Run

/-- The results of a run over the present indices are those of the request about their documents. -/
theorem resultsOf_outcome (store : Store) (indices : List String) {request : Request}
    {rules : List VersionRule} {q : Query}
    (h : Query.compile s.catalog s.settings.maxFacetTerms request rules = .ok q) :
    ∃ r, s.resultsOf request
        (Run.outcome store.hasIndex store.respond (.search q.toJson) indices) = .ok (.results r) ∧
      (indices.filter store.hasIndex = [] → r = Results.empty) ∧
      (indices.filter store.hasIndex ≠ [] →
        r.AreOf s.catalog s.settings.maxFacetTerms request
          (store.documentsOf (indices.filter store.hasIndex))) := by
  unfold Run.outcome Run.found
  by_cases hnone : indices.filter store.hasIndex = []
  · rw [if_pos hnone]
    exact ⟨Results.empty, rfl, fun _ => rfl, fun hsome => absurd hnone hsome⟩
  · obtain ⟨r, hread, hare⟩ :=
      Results.exists_areOf s.catalog store (indices.filter store.hasIndex) h
    rw [if_neg hnone]
    refine ⟨r, ?_, fun hempty => absurd hempty hnone, fun _ => hare⟩
    simp only [resultsOf, Store.respond]
    rw [hread]

section Store

variable {store : Store} {w : World Store} (hfailures : store.failures = [])
  (hlatency : store.latency ≤ s.settings.timeout) (hw : w.backend = store) (hcache : w.cache = none)

include hfailures hlatency hw hcache

/-- A planned search that wants results has some, when the store reports each index of the plan by
its own name. -/
theorem exists_results {planned : Request} {body : Json} {indices : List String}
    (hplan : s.plan raw none = .ok (planned, body, indices)) (hwants : planned.wantsQuery = false)
    (hnames : ∀ i ∈ indices, (Store.missingFault i).missingIndex? = some i) :
    ∃ results, (s.search Store.backend raw w).1 = .ok (.results results) := by
  obtain ⟨request, conditions, rules, q, -, -, hcompile, rfl, -⟩ := parts_of_plan hplan
  obtain ⟨r, hr, -, -⟩ := resultsOf_outcome store indices hcompile
  obtain ⟨hrun, -⟩ := (Run.serves_store hfailures hlatency).attempt_uncached (.search q.toJson) hw
    hnames
  refine ⟨r, ?_⟩
  rw [search_of_plan hcache hplan hwants, hrun]
  exact hr

/-- The results of a search over a store without a cache are those of the request about the
documents of the indices of its window that exist, in the order of the indices; they are empty if no
index exists. -/
theorem search_store {results : Results}
    (h : (s.search Store.backend raw w).1 = .ok (.results results)) :
    ∃ request indices, Request.ofRaw s.catalog s.options raw = .ok request ∧
      Index.covering s.settings.indexPattern request.window.first request.window.last =
        .ok indices ∧
      (indices.filter store.hasIndex = [] → results = Results.empty) ∧
      (indices.filter store.hasIndex ≠ [] →
        results.AreOf s.catalog s.settings.maxFacetTerms request
          (store.documentsOf (indices.filter store.hasIndex))) := by
  cases hplan : s.plan raw none with
  | error failure =>
    unfold search at h
    rw [run_of_refused hplan] at h
    cases h
  | ok plan =>
    obtain ⟨planned, body, indices⟩ := plan
    obtain ⟨request, conditions, rules, q, hrequest, hplanned, hcompile, rfl, hindices⟩ :=
      parts_of_plan hplan
    obtain ⟨r, hr, hempty, hare⟩ := resultsOf_outcome store indices hcompile
    cases hwants : planned.wantsQuery with
    | true =>
      unfold search at h
      rw [run_of_wants hplan hwants] at h
      cases h
    | false =>
      rw [search_of_plan hcache hplan hwants] at h
      -- A run that fails has no results, so it has ended with the present indices.
      rcases Run.attempt_store hfailures hlatency hw with hrun | ⟨fault, hrun⟩
      · rw [hrun, hr, Except.ok.injEq, SearchOutcome.results.injEq] at h
        subst h
        subst hplanned
        refine ⟨request, indices, hrequest, hindices, hempty, fun hsome => ?_⟩
        obtain ⟨htotal, hhits, hnames, hnodup, hcounts⟩ := hare hsome
        exact ⟨htotal, hhits, hnames, hnodup, hcounts⟩
      · rw [hrun] at h
        cases h

end Store

/-- A report of a product. -/
def reportOn (product : String) : Json :=
  .obj [("processed_crash", .obj [("product", .str product)])]

/-- A store with three reports of one day. -/
def sampleStore : Store :=
  let reports := [reportOn "Firefox", reportOn "Fennec", reportOn "Firefox"]
  Store.withDocuments "socorro_240315" reports {}

/-- A request for the second report of the last two days, and for the most frequent product. -/
def secondReport : RawRequest :=
  [("_facets", ["product"]), ("_facets_size", ["1"]), ("_results_number", ["1"]),
    ("_results_offset", ["1"]), ("date", [">=2024-03-14"])]

/-- The index of the first day is missing; all reports of the other one are counted, and the second
one is given. Of the products the one of two reports is counted. -/
theorem search_store_second : ∃ results,
    (sampleService.search Store.backend secondReport { backend := sampleStore }).1 =
      .ok (.results results) ∧
    results.total = 3 ∧ results.hits = [[("product", .str "Fennec")]] ∧
    ("product", [⟨.str "Firefox", 2⟩]) ∈ results.facets := by
  obtain ⟨planned, body, hplan, hwants⟩ : ∃ planned body,
      sampleService.plan secondReport none =
        .ok (planned, body, ["socorro_240314", "socorro_240315"]) ∧
      planned.wantsQuery = false := ⟨_, _, rfl, rfl⟩
  have hnames : ∀ i ∈ ["socorro_240314", "socorro_240315"],
      (Store.missingFault i).missingIndex? = some i := by
    decide +kernel
  have hlatency : sampleStore.latency ≤ sampleService.settings.timeout := Nat.zero_le _
  obtain ⟨results, hresults⟩ := exists_results (w := { backend := sampleStore }) rfl hlatency rfl
    rfl hplan hwants hnames
  obtain ⟨request, indices, hrequest, hindices, -, hare⟩ :=
    search_store (w := { backend := sampleStore }) rfl hlatency rfl rfl hresults
  obtain ⟨r, hr, hpage, hfacets, hlimit, hcolumns, hcovering⟩ : ∃ r,
      Request.ofRaw sampleService.catalog sampleService.options secondReport = .ok r ∧
      r.page = ⟨1, 1⟩ ∧ r.facets = ["product"] ∧ r.facetSize = some 1 ∧ r.columns = [] ∧
      Index.covering sampleService.settings.indexPattern r.window.first r.window.last =
        .ok ["socorro_240314", "socorro_240315"] := ⟨_, rfl, rfl, rfl, rfl, rfl, rfl⟩
  obtain rfl : r = request := Except.ok.inj (hr.symm.trans hrequest)
  obtain rfl := Except.ok.inj (hcovering.symm.trans hindices)
  have hpresent : ["socorro_240314", "socorro_240315"].filter sampleStore.hasIndex =
      ["socorro_240315"] := by decide
  rw [hpresent] at hare
  have hresults' := hare (by simp)
  have hdocs : sampleStore.documentsOf ["socorro_240315"] =
      [reportOn "Firefox", reportOn "Fennec", reportOn "Firefox"] := rfl
  rw [hdocs] at hresults'
  refine ⟨results, hresults, hresults'.total, ?_, ?_⟩
  · have hreport : Results.reportOf Catalog.builtin [] (reportOn "Fennec") =
        [("product", .str "Fennec")] := rfl
    rw [hresults'.hits, hpage, hcolumns]
    exact congrArg (fun report => [report]) hreport
  · have hname : "product" ∈ Entries.keys results.facets := by
      rw [hresults'.names, hfacets]
      exact List.mem_singleton_self _
    obtain ⟨⟨_, buckets⟩, hmem, rfl⟩ := List.mem_map.1 hname
    obtain ⟨f, top, hlookup, htop, rfl⟩ := hresults'.counts "product" buckets hmem
    obtain ⟨product, hproduct, hpath⟩ : ∃ f, sampleService.catalog.lookup "product" = some f ∧
        f.exactPath = "processed_crash.product" := ⟨_, rfl, rfl⟩
    obtain rfl := Option.some.inj (hproduct.symm.trans hlookup)
    have hmost : Store.topTerms "processed_crash.product" 1
        [reportOn "Firefox", reportOn "Fennec", reportOn "Firefox"] = [("Firefox", 2)] := by cbv
    have hone : min (Option.getD (some 1) sampleService.settings.maxFacetTerms)
        sampleService.settings.maxFacetTerms = 1 := rfl
    rw [hpath, hlimit, hone] at htop
    rw [htop.unique (Store.isTop_topTerms _ _ _), hmost] at hmem
    exact hmem

end Service

end CrashQuery

import CrashQuery.Proofs.Query.Paging
import CrashQuery.Proofs.Request.Prepared

/-!
# Parameters that steer a request

A parameter that begins with an underscore steers what is done with the matching reports: which page
of them is given, what is counted, how they are sorted and which fields are kept. Two requests are
`RawRequest.SameFields` when they give the same values to all other parameters. They have the same
conditions and the same window then (`Request.conditionsOf_eq`), and bodies with the same query
(`Query.query_toJson`), in which every count is taken over the filter of the query
(`Query.sharesFilter_toJson`). `Service.matches_eq_of_sameFields` puts this together: what steers a
request changes neither the reports that match nor the indices that are searched.
-/

namespace CrashQuery

open Outcome

namespace RawRequest

/-- The parameters of a request stand in the order of their names. -/
theorem sorted_ofPairs (pairs : List (String × String)) : Entries.Sorted (ofPairs pairs) := by
  have hfold : ∀ raw : RawRequest, Entries.Sorted raw →
      Entries.Sorted (pairs.foldl (fun (raw : RawRequest) p => raw.add p.1 p.2) raw) := by
    induction pairs with
    | nil => exact fun _ h => h
    | cons p rest ih => exact fun _ h => ih _ (Entries.sorted_insert h)
  exact hfold [] List.Pairwise.nil

/-- Whether two requests give the same values to each parameter that names a field. -/
def SameFields (raw raw' : RawRequest) : Prop :=
  ∀ key, Request.isMeta key = false → raw.valuesOf key = raw'.valuesOf key

/-- A parameter has the values that it was given, in their order. -/
theorem valuesOf_ofPairs (pairs : List (String × String)) (key : String) :
    (ofPairs pairs).valuesOf key = (pairs.filter fun p => p.1 == key).map Prod.snd := by
  have hfold : ∀ raw : RawRequest,
      valuesOf (pairs.foldl (fun (raw : RawRequest) p => raw.add p.1 p.2) raw) key =
        raw.valuesOf key ++ (pairs.filter fun p => p.1 == key).map Prod.snd := by
    induction pairs with
    | nil => simp
    | cons p rest ih =>
      intro raw
      have hadd : (raw.add p.1 p.2).valuesOf key =
          if p.1 = key then raw.valuesOf key ++ [p.2] else raw.valuesOf key := by
        unfold add valuesOf Entries.update
        rw [Entries.find?_insert]
        by_cases hkey : key = p.1
        · subst hkey
          simp
        · simp [hkey, Ne.symm hkey]
      rw [List.foldl_cons, ih, hadd, List.filter_cons]
      by_cases hkey : p.1 = key <;> simp [hkey]
  rw [ofPairs, hfold]
  rfl

/-- Requests that are built from the same pairs for their fields give them the same values. -/
theorem sameFields_ofPairs {pairs pairs' : List (String × String)}
    (h : (pairs.filter fun p => !Request.isMeta p.1) =
      pairs'.filter fun p => !Request.isMeta p.1) :
    (ofPairs pairs).SameFields (ofPairs pairs') := by
  intro key hmeta
  have hfilter : ∀ pairs : List (String × String), (pairs.filter fun p => p.1 == key) =
      (pairs.filter fun p => !Request.isMeta p.1).filter fun p => p.1 == key := by
    intro pairs
    rw [List.filter_filter]
    refine List.filter_congr fun p _ => ?_
    by_cases hkey : p.1 = key <;> simp [hkey, hmeta]
  rw [valuesOf_ofPairs, valuesOf_ofPairs, hfilter pairs, hfilter pairs', h]

/-- The parameters that name a field and have a value. -/
def named (raw : RawRequest) : RawRequest :=
  raw.filter fun p => !Request.isMeta p.1 && !p.2.isEmpty

variable {raw raw' : RawRequest}

/-- The parameters that name a field and have a value are known by their values. -/
theorem mem_named (h : Entries.Sorted raw) {key : String} {values : List String} :
    (key, values) ∈ raw.named ↔
      Request.isMeta key = false ∧ values ≠ [] ∧ raw.valuesOf key = values := by
  have hfind : (key, values) ∈ raw ↔ Entries.find? key raw = some values :=
    Entries.mem_iff_find? h
  have hvalues : values ≠ [] →
      (Entries.find? key raw = some values ↔ raw.valuesOf key = values) := by
    intro hne
    unfold valuesOf
    cases Entries.find? key raw with
    | none => simpa using hne.symm
    | some found => simp
  unfold named
  rw [List.mem_filter, hfind]
  simp only [Bool.and_eq_true, Bool.not_eq_true', List.isEmpty_eq_false_iff]
  constructor
  · rintro ⟨hfound, hmeta, hne⟩
    exact ⟨hmeta, hne, (hvalues hne).1 hfound⟩
  · rintro ⟨hmeta, hne, hof⟩
    exact ⟨(hvalues hne).2 hof, hmeta, hne⟩

/-- Requests with the same values name the same fields. -/
theorem SameFields.named_eq (h : raw.SameFields raw') (hraw : Entries.Sorted raw)
    (hraw' : Entries.Sorted raw') : raw.named = raw'.named := by
  have hsorted : Entries.Sorted raw.named := List.Pairwise.filter _ hraw
  have hsorted' : Entries.Sorted raw'.named := List.Pairwise.filter _ hraw'
  refine hsorted.eq_of_mem_iff hsorted' fun key values => ?_
  rw [mem_named hraw, mem_named hraw']
  refine and_congr_right fun hmeta => ?_
  rw [h key hmeta]

end RawRequest

namespace Request

variable {catalog : Catalog} {raw raw' : RawRequest}

/-- Only parameters that name a field and have a value give values of fields. -/
theorem fieldValues_named (raw : RawRequest) :
    fieldValues catalog raw.named = fieldValues catalog raw := by
  unfold fieldValues RawRequest.named
  induction raw with
  | nil => rfl
  | cons p rest ih =>
    obtain ⟨key, values⟩ := p
    rw [List.filter_cons, List.flatMap_cons]
    split
    · rw [List.flatMap_cons, ih]
    · next hnot =>
      rw [ih]
      -- A parameter that is left out gives no values.
      cases hmeta : isMeta key with
      | true => simp [hmeta]
      | false =>
        have hnil : values = [] := by simpa [hmeta] using hnot
        simp only [hmeta, hnil, Bool.false_eq_true, if_false, List.map_nil]
        split <;> rfl

/-- Requests with the same values for their fields have the same conditions. -/
theorem conditionsOf_eq (h : raw.SameFields raw') (hraw : Entries.Sorted raw)
    (hraw' : Entries.Sorted raw') (now : Calendar.Instant) :
    conditionsOf catalog now raw = conditionsOf catalog now raw' := by
  unfold conditionsOf
  rw [← fieldValues_named raw, h.named_eq hraw hraw', fieldValues_named]

/-- Normalized requests with the same values for their fields have the same conditions and the same
window. -/
theorem window_eq_of_sameFields {options : RequestOptions} {r r' : Request}
    (h : raw.SameFields raw') (hraw : Entries.Sorted raw) (hraw' : Entries.Sorted raw')
    (hr : ofRaw catalog options raw = .ok r) (hr' : ofRaw catalog options raw' = .ok r') :
    r.conditions = r'.conditions ∧ r.window = r'.window := by
  have hcomplete := complete_of_ofRaw hr
  rw [conditionsOf_eq h hraw hraw', complete_of_ofRaw hr'] at hcomplete
  obtain ⟨hwindow, hconditions⟩ := Prod.mk.inj (Except.ok.inj hcomplete)
  exact ⟨hconditions.symm, hwindow.symm⟩

end Request

/-- Whether every count of a body is taken over the filter of its query. -/
def Body.SharesFilter (body : Json) : Prop :=
  ∀ name facet, (name, facet) ∈ (body.field "facets").fields?.getD [] →
    facet.field "facet_filter" = ((body.field "query").field "filtered").field "filter"

namespace Query

/-- The query of a body is made of its filters and its clauses alone. -/
theorem query_toJson (q : Query) : q.toJson.field "query" =
    .obj [("filtered", Json.object [("query", clausesJson q.wildcards q.excluded),
      ("filter", filterJson q.filters)])] := by
  unfold toJson
  rw [Json.field_object]
  cases q.facets.isEmpty <;> cases q.sort.isEmpty <;> simp [Entries.find?_ofList_cons]

/-- The counts of a body are taken over its filter. -/
theorem sharesFilter_toJson (q : Query) : Body.SharesFilter q.toJson := by
  intro name facet hmem
  rw [facets_toJson] at hmem
  obtain ⟨f, -, hf⟩ := List.mem_map.1 (Entries.mem_of_mem_ofList hmem)
  obtain ⟨-, rfl⟩ := Prod.mk.inj hf
  rw [Body.filtered_toJson]
  simp [facetJson, Json.field_object, Entries.find?_ofList_cons]

/-- Requests with the same conditions are compiled into bodies with the same query. -/
theorem query_eq_of_compile {catalog : Catalog} {maxTerms : Nat} {r r' : Request}
    {rules : List VersionRule} {q q' : Query} (hconditions : r.conditions = r'.conditions)
    (h : compile catalog maxTerms r rules = .ok q)
    (h' : compile catalog maxTerms r' rules = .ok q') :
    q.toJson.field "query" = q'.toJson.field "query" := by
  obtain ⟨fragments, versions, -, -, hfragments, hversions, -, hfilters, hwild, hexcluded⟩ :=
    parts_of_compile h
  obtain ⟨fragments', versions', -, -, hfragments', hversions', -, hfilters', hwild', hexcluded'⟩ :=
    parts_of_compile h'
  obtain rfl : fragments = fragments' := by
    rw [hconditions, hfragments'] at hfragments
    exact (Except.ok.inj hfragments).symm
  obtain rfl : versions = versions' := by
    rw [hversions'] at hversions
    exact (Except.ok.inj hversions).symm
  rw [query_toJson, query_toJson, hfilters, hwild, hexcluded, hfilters', hwild', hexcluded']

end Query

namespace Service

/-- Requests that give the same values to their fields match the same reports of the same indices:
they have the same conditions and window, their bodies have the same query, and their counts are
taken over its filter. -/
theorem matches_eq_of_sameFields {raw raw' : RawRequest} (hraw : Entries.Sorted raw)
    (hraw' : Entries.Sorted raw') (hsame : raw.SameFields raw') :
    (∀ catalog options r r', Request.ofRaw catalog options raw = .ok r →
      Request.ofRaw catalog options raw' = .ok r' →
        r.conditions = r'.conditions ∧ r.window = r'.window) ∧
    ∀ (s : Service) r r' body body', s.prepare raw = .ok (r, body) →
      s.prepare raw' = .ok (r', body') →
        body.field "query" = body'.field "query" ∧
        Body.SharesFilter body ∧ Body.SharesFilter body' ∧
        (∀ pinned, s.indicesOf r pinned = s.indicesOf r' pinned) ∧
        ∀ (α : Type) (m : Meaning α) (d : α), Body.Selects m d body ↔ Body.Selects m d body' := by
  have hwindow : ∀ catalog options r r', Request.ofRaw catalog options raw = .ok r →
      Request.ofRaw catalog options raw' = .ok r' →
        r.conditions = r'.conditions ∧ r.window = r'.window :=
    fun _ _ _ _ hr hr' => Request.window_eq_of_sameFields hsame hraw hraw' hr hr'
  refine ⟨hwindow, ?_⟩
  intro s r r' body body' hprepare hprepare'
  obtain ⟨request, q, hrequest, rfl, hcompile, rfl⟩ := parts_of_prepare hprepare
  obtain ⟨request', q', hrequest', rfl, hcompile', rfl⟩ := parts_of_prepare hprepare'
  obtain ⟨hconditions, hdates⟩ := hwindow _ _ _ _ hrequest hrequest'
  have hquery : q.toJson.field "query" = q'.toJson.field "query" := by
    have hremaining : VersionRule.remaining request.conditions =
        VersionRule.remaining request'.conditions := congrArg VersionRule.remaining hconditions
    rw [congrArg s.rulesOf hconditions] at hcompile
    exact Query.query_eq_of_compile hremaining hcompile hcompile'
  refine ⟨hquery, Query.sharesFilter_toJson q, Query.sharesFilter_toJson q', ?_, ?_⟩
  · intro pinned
    unfold indicesOf
    rw [hdates]
  · intro α m d
    unfold Body.Selects
    rw [hquery]

/-- A request for three reports on Firefox, and for the products to be counted. -/
def countedRequest : List (String × String) :=
  [("product", "=Firefox"), ("_facets", "product"), ("_results_number", "3")]

/-- A request for the builds of reports on Firefox, the last ones first, with a parameter that is
unknown. -/
def sortedRequest : List (String × String) :=
  [("_sort", "-build_id"), ("product", "=Firefox"), ("_columns", "build_id"), ("_x", "1")]

/-- The two requests for reports on Firefox have different pages and the same query. -/
theorem matches_eq_firefox : ∃ r r' body body',
    sampleService.prepare (RawRequest.ofPairs countedRequest) = .ok (r, body) ∧
    sampleService.prepare (RawRequest.ofPairs sortedRequest) = .ok (r', body') ∧
    r.page ≠ r'.page ∧ body.field "query" = body'.field "query" := by
  obtain ⟨r, body, hprepare, hsize⟩ : ∃ r body,
      sampleService.prepare (RawRequest.ofPairs countedRequest) = .ok (r, body) ∧
        r.page.size = 3 := ⟨_, _, rfl, rfl⟩
  obtain ⟨r', body', hprepare', hsize'⟩ : ∃ r' body',
      sampleService.prepare (RawRequest.ofPairs sortedRequest) = .ok (r', body') ∧
        r'.page.size = 100 := ⟨_, _, rfl, rfl⟩
  have hsame : (RawRequest.ofPairs countedRequest).SameFields
      (RawRequest.ofPairs sortedRequest) := RawRequest.sameFields_ofPairs rfl
  obtain ⟨-, hmatches⟩ := matches_eq_of_sameFields (RawRequest.sorted_ofPairs _)
    (RawRequest.sorted_ofPairs _) hsame
  obtain ⟨hquery, -⟩ := hmatches sampleService r r' body body' hprepare hprepare'
  refine ⟨r, r', body, body', hprepare, hprepare', ?_, hquery⟩
  intro heq
  rw [heq, hsize'] at hsize
  cases hsize

end Service

end CrashQuery

import CrashQuery.Proofs.Request.Normalized
import CrashQuery.Proofs.Store.Reference

/-!
# Requests for the query alone

A request can ask for its query instead of its results, which tells what a search would ask of the
backend. `RawRequest.dry` adds this wish to the parameters, and it changes nothing else: the request
has the same first fault, and is planned with the same body and the same indices
(`Service.plan_dry`). So a search without the wish fails as the dry one does, or begins with a call
that has the body and the indices that the dry one gives (`Service.foretells_dry`).
-/

namespace CrashQuery

open Outcome

/-- The request that wants its query besides. -/
def RawRequest.dry (raw : RawRequest) : RawRequest := raw.add Request.wantsQueryKey "true"

namespace Request

variable (catalog : Catalog) (raw : RawRequest)

/-- The wish is put among the parameters, in the place of an older one if there is one. -/
theorem exists_dry_eq : ∃ before replaced after values,
    raw = before ++ replaced ++ after ∧ (∀ p ∈ replaced, p.1 = wantsQueryKey) ∧
      raw.dry = before ++ [(wantsQueryKey, values)] ++ after := by
  obtain ⟨before, replaced, after, hraw, hreplaced, hdry⟩ :=
    Entries.exists_insert_eq wantsQueryKey (raw.valuesOf wantsQueryKey ++ ["true"]) raw
  exact ⟨before, replaced, after, _, hraw, hreplaced, hdry⟩

/-- The values of the other parameters stay. -/
theorem valuesOf_dry {key : String} (h : key ≠ wantsQueryKey) :
    raw.dry.valuesOf key = raw.valuesOf key := by
  unfold RawRequest.valuesOf RawRequest.dry RawRequest.add Entries.update
  rw [Entries.find?_insert, if_neg h]

/-- A dry request wants its query. -/
theorem lastBool_dry : lastBool (raw.dry.valuesOf wantsQueryKey) = true := by
  unfold RawRequest.valuesOf RawRequest.dry RawRequest.add Entries.update
  rw [Entries.find?_insert, if_pos rfl, Option.getD_some]
  unfold lastBool
  rw [List.getLast?_append]
  rfl

/-- The wish is no fault, so that the first fault stays. -/
theorem firstFault?_dry (maxResults : Nat) :
    firstFault? catalog maxResults raw.dry = firstFault? catalog maxResults raw := by
  have hwish : ∀ values, keyFault? catalog maxResults wantsQueryKey values = none := fun _ => rfl
  obtain ⟨before, replaced, after, values, hraw, hreplaced, hdry⟩ := exists_dry_eq raw
  have hnone : replaced.findSome? (fun p => keyFault? catalog maxResults p.1 p.2) = none := by
    rw [List.findSome?_eq_none_iff]
    intro p hp
    rw [hreplaced p hp, hwish]
  unfold firstFault?
  rw [hdry, hraw]
  simp only [List.findSome?_append, hnone, List.findSome?_singleton, hwish]

/-- The wish is no value of a field, so that the conditions stay. -/
theorem conditionsOf_dry (now : Calendar.Instant) :
    conditionsOf catalog now raw.dry = conditionsOf catalog now raw := by
  have hmeta : isMeta wantsQueryKey = true := rfl
  obtain ⟨before, replaced, after, values, hraw, hreplaced, hdry⟩ := exists_dry_eq raw
  have hnone : fieldValues catalog replaced = [] := by
    unfold fieldValues
    rw [List.flatMap_eq_nil_iff]
    intro p hp
    simp only [hreplaced p hp, hmeta, if_true]
  have hvalues : fieldValues catalog raw.dry = fieldValues catalog raw := by
    rw [hdry, hraw]
    unfold fieldValues at hnone ⊢
    simp only [List.flatMap_append, hnone, List.flatMap_singleton, hmeta, if_true]
  unfold conditionsOf
  rw [hvalues]

/-- Wanting the query changes nothing else of a request. -/
theorem ofRaw_dry (options : RequestOptions) : ofRaw catalog options raw.dry =
    (ofRaw catalog options raw).map fun r => { r with wantsQuery := true } := by
  have hassemble : ∀ window conditions, assemble raw.dry window conditions =
      { assemble raw window conditions with wantsQuery := true } := by
    intro window conditions
    simp (disch := decide) only [assemble, pageOf, listOf, lastBool_dry, valuesOf_dry]
  rw [ofRaw_eq, ofRaw_eq, firstFault?_dry, conditionsOf_dry]
  split
  · rfl
  · split
    · rfl
    · cases Window.complete catalog options (conditionsOf catalog options.now raw) with
      | error failure => rfl
      | ok p => exact congrArg Except.ok (hassemble p.1 p.2)

end Request

namespace Service

section Dry

variable (s : Service)

/-- The versions of a request do not depend on what is wanted. -/
theorem resolveVersions_wanting (request : Request) (wants : Bool) :
    s.resolveVersions { request with wantsQuery := wants } =
      (s.resolveVersions request).map fun p => ({ p.1 with wantsQuery := wants }, p.2) := by
  unfold resolveVersions
  simp only [bind, Except.bind]
  cases (VersionRule.keysOf request.conditions).isEmpty with
  | true => rfl
  | false => cases s.versions.findAll (VersionRule.keysOf request.conditions) <;> rfl

variable (raw : RawRequest)

/-- A dry request is prepared into the same body. -/
theorem prepare_dry : s.prepare raw.dry =
    (s.prepare raw).map fun p => ({ p.1 with wantsQuery := true }, p.2) := by
  unfold prepare
  rw [Request.ofRaw_dry]
  cases Request.ofRaw s.catalog s.options raw with
  | error failure => rfl
  | ok request =>
    simp only [Except.map, bind, Except.bind, resolveVersions_wanting]
    cases s.resolveVersions request with
    | error failure => rfl
    | ok resolved =>
      have hcompile : Query.compile s.catalog s.settings.maxFacetTerms
          { resolved.1 with wantsQuery := true } resolved.2 =
            Query.compile s.catalog s.settings.maxFacetTerms resolved.1 resolved.2 := rfl
      simp only [hcompile]
      cases refuse (Query.compile s.catalog s.settings.maxFacetTerms resolved.1 resolved.2) <;> rfl

/-- A dry search is planned with the same body and the same indices. -/
theorem plan_dry (pinned : Option (List String)) : s.plan raw.dry pinned =
    (s.plan raw pinned).map fun p => ({ p.1 with wantsQuery := true }, p.2) := by
  unfold plan
  rw [prepare_dry]
  cases s.prepare raw with
  | error failure => rfl
  | ok p =>
    have hindices : s.indicesOf { p.1 with wantsQuery := true } pinned =
        s.indicesOf p.1 pinned := rfl
    simp only [Except.map, bind, Except.bind, hindices]
    cases s.indicesOf p.1 pinned <;> rfl

end Dry

/-- A planned search wants its query when the parameters say so. -/
theorem wantsQuery_of_plan {s : Service} {raw : RawRequest} {pinned : Option (List String)}
    {planned : Request} {body : Json} {indices : List String}
    (h : s.plan raw pinned = .ok (planned, body, indices)) :
    planned.wantsQuery = Request.lastBool (raw.valuesOf Request.wantsQueryKey) := by
  unfold plan at h
  obtain ⟨⟨request, body'⟩, hprepare, h⟩ := bind_eq_ok.1 h
  obtain ⟨indices', -, h⟩ := bind_eq_ok.1 h
  cases h
  obtain ⟨normalized, -, hnormalized, rfl, -⟩ := parts_of_prepare hprepare
  obtain ⟨-, -, -, hassemble⟩ := Request.parts_of_ofRaw hnormalized
  rw [hassemble]
  rfl

/-- Whether a search that wants its query foretells one that wants its results: what comes of the
one, and what then comes of the other in the same world. -/
inductive Foretells {σ : Type} (w : World σ) :
    Except Failure SearchOutcome × World σ → Except Failure SearchOutcome × World σ → Prop where
  /-- Both are refused, for the same reason and without a call. -/
  | refused (failure : Failure) : Foretells w (.error failure, w) (.error failure, w)
  /-- There is no index, and the results are empty without a call. -/
  | idle (body : Json) : Foretells w (.ok (.query [] body), w) (.ok (.results .empty), w)
  /-- The first call has the body and the indices. -/
  | asks {indices : List String} {body : Json} {later : List Call}
    {real : Except Failure SearchOutcome × World σ} (hne : indices ≠ [])
    (hcalls : real.2.calls = w.calls ++ ⟨.search body, indices⟩ :: later) :
    Foretells w (.ok (.query indices body), w) real

variable {s : Service} {raw : RawRequest} {σ : Type} {w : World σ}

/-- A dry run foretells the run. -/
theorem run_foretells (hraw : Request.lastBool (raw.valuesOf Request.wantsQueryKey) = false)
    (hcache : w.cache = none) (backend : Backend σ) (pinned : Option (List String)) :
    Foretells w (s.run backend raw.dry pinned none w) (s.run backend raw pinned none w) := by
  have hdry := s.plan_dry raw pinned
  cases hplan : s.plan raw pinned with
  | error failure =>
    rw [hplan] at hdry
    rw [run_of_refused hdry, run_of_refused hplan]
    exact .refused failure
  | ok plan =>
    obtain ⟨planned, body, indices⟩ := plan
    have hwants := (wantsQuery_of_plan hplan).trans hraw
    rw [hplan] at hdry
    rw [run_of_wants hdry rfl, run_of_plan hplan hwants, Run.execute_uncached _ _ _ _ hcache]
    by_cases hne : indices = []
    · subst hne
      rw [Run.attempt_nil]
      exact .idle body
    · obtain ⟨later, hcalls⟩ := Run.exists_calls_attempt backend s.settings.timeout
        (policyFor pinned) (.search body) (w := w) hne
      exact .asks hne hcalls

/-- Without a cache a search that wants its query foretells the same search without this wish, over
the indices of the window and over given ones. -/
theorem foretells_dry (hraw : Request.lastBool (raw.valuesOf Request.wantsQueryKey) = false)
    (hcache : w.cache = none) (backend : Backend σ) :
    Foretells w (s.search backend raw.dry w) (s.search backend raw w) ∧
      ∀ indices, Foretells w (s.searchIn backend raw.dry indices w)
        (s.searchIn backend raw indices w) := by
  refine ⟨run_foretells hraw hcache backend none, fun indices => ?_⟩
  unfold searchIn
  split
  · exact .refused _
  · exact run_foretells hraw hcache backend (some indices)

/-- The query for the second report of two days is asked of their two indices first, as its dry run
says. -/
theorem foretells_dry_second : ∃ body later,
    sampleService.search Store.backend secondReport.dry { backend := sampleStore } =
      (.ok (.query ["socorro_240314", "socorro_240315"] body), { backend := sampleStore }) ∧
    (sampleService.search Store.backend secondReport { backend := sampleStore }).2.calls =
      ⟨.search body, ["socorro_240314", "socorro_240315"]⟩ :: later := by
  obtain ⟨body, hdry⟩ : ∃ body,
      sampleService.search Store.backend secondReport.dry { backend := sampleStore } =
        (.ok (.query ["socorro_240314", "socorro_240315"] body), { backend := sampleStore }) :=
    ⟨_, rfl⟩
  have hforetells : Foretells { backend := sampleStore }
      (sampleService.search Store.backend secondReport.dry { backend := sampleStore })
      (sampleService.search Store.backend secondReport { backend := sampleStore }) :=
    (foretells_dry rfl rfl Store.backend).1
  rw [hdry] at hforetells
  cases hforetells with
  | asks hne hcalls => exact ⟨body, _, hdry, hcalls⟩

end Service

end CrashQuery

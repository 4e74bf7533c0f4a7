import CrashQuery.Proofs.Run.Causes

/-!
# Indices that the caller has named

A strict run asks once, about all its indices in their order, and ends with what the answer means
(`Run.execute_fail`). It leaves out no index, so that a cache of missing ones makes no difference.
`Service.AsGiven` says what follows for a question about named indices: whether there are results, an
index is not found or the database has failed is decided by the answer to the one call.
`Service.asGiven` shows it for searches and for missing fields, in every world and for every backend.
-/

namespace CrashQuery

namespace Run

/-- The failure of a call ends a strict run with a failure. -/
theorem exists_verdictOn_error (indices : List String) (fault : BackendFault) :
    ∃ e, verdictOn indices (.error fault) = .error e := by
  simp only [verdictOn]
  cases fault.missingIndex? with
  | none => exact ⟨_, rfl⟩
  | some name => exact ⟨_, rfl⟩

/-- A strict run ends with what the answer to its call means, whatever its cache knows. -/
theorem execute_fail {σ : Type} (backend : Backend σ) (timeout : Nat) (question : Question)
    {indices : List String} (hne : indices ≠ []) (w : World σ) :
    execute backend timeout .fail question none indices w =
      (verdictOn indices (pendingIn backend timeout question indices w).answer,
        afterAnswer backend timeout question indices w) :=
  attempt_of_finished backend timeout .fail question hne (judge_fail indices _)

end Run

namespace Service

/-- Whether named indices are asked about as they are given or not at all. What is done in a world
is described by `ended`, the question is the one that is asked, if any, and `IsResult` tells results
from other ends. -/
structure AsGiven {σ α : Type} (backend : Backend σ) (timeout : Nat) (question : Option Question)
    (indices : List String) (IsResult : α → Prop) (w : World σ)
    (ended : World σ → Except Failure α × World σ) : Prop where
  /-- At most one call is made, on all indices in their order. -/
  calls : (ended w).2.calls = w.calls ++ question.toList.map fun q => ⟨q, indices⟩
  /-- The backend is left as it is after that call. -/
  state : (ended w).2.backend =
    question.elim w.backend fun q => (Run.pendingIn backend timeout q indices w).state
  /-- The cache is not changed. -/
  cache : (ended w).2.cache = w.cache
  /-- The cache is not looked at. -/
  unread : ∀ cache,
    ended { w with cache := cache } = ((ended w).1, { (ended w).2 with cache := cache })
  /-- There are results only if the call has a response. -/
  results : ∀ a, (ended w).1 = .ok a → IsResult a → ∃ q ∈ question, ∃ response,
    (Run.pendingIn backend timeout q indices w).answer = .ok response
  /-- An index is not found exactly when the call fails with a report of it. -/
  notFound : ∀ name, (ended w).1 = .error (.error (.indexNotFound name)) ↔
    ∃ q ∈ question, ∃ fault, (Run.pendingIn backend timeout q indices w).answer = .error fault ∧
      fault.missingIndex? = some name
  /-- Every other failure of the call is a failure of the database. -/
  failed : ∀ q ∈ question, ∀ fault,
    (Run.pendingIn backend timeout q indices w).answer = .error fault →
    fault.missingIndex? = none → (ended w).1 = .error (.error (.database (.call fault)))

section AsGiven

variable {σ α : Type} {backend : Backend σ} {timeout : Nat} {indices : List String}
  {IsResult : α → Prop} {w : World σ}

/-- Nothing is asked where an end without results, which is no missing index, is known before. -/
theorem asGiven_of_unasked {result : Except Failure α} (hresult : ∀ a, result = .ok a → ¬IsResult a)
    (hfound : ∀ name, result ≠ .error (.error (.indexNotFound name))) :
    AsGiven backend timeout none indices IsResult w fun w => (result, w) where
  calls := (List.append_nil _).symm
  state := rfl
  cache := rfl
  unread _ := rfl
  results a ha hIsResult := absurd hIsResult (hresult a ha)
  notFound name := iff_of_false (hfound name) (by simp)
  failed q hq := by cases hq

/-- A strict run asks as it is given, if what is read from it fails where the run fails, and no
index is missing where the run has a response. -/
theorem asGiven_of_read {read : Except SearchError Execution → Except Failure α}
    {question : Question} (hne : indices ≠ []) (hfailure : ∀ e, read (.error e) = .error (.error e))
    (hresponse : ∀ response name,
      read (.ok (.success response indices)) ≠ .error (.error (.indexNotFound name))) :
    AsGiven backend timeout (some question) indices IsResult w fun w =>
      (read (Run.execute backend timeout .fail question none indices w).1,
        (Run.execute backend timeout .fail question none indices w).2) := by
  simp only [Run.execute_fail backend timeout question hne]
  refine ⟨rfl, rfl, rfl, fun _ => rfl, ?_, ?_, ?_⟩
  · intro a ha _
    cases hanswer : (Run.pendingIn backend timeout question indices w).answer with
    | ok response => exact ⟨question, rfl, response, hanswer⟩
    | error fault =>
      -- A run whose call fails fails, and so does what is read from it.
      obtain ⟨e, he⟩ := Run.exists_verdictOn_error indices fault
      rw [hanswer, he, hfailure] at ha
      cases ha
  · intro name
    cases hanswer : (Run.pendingIn backend timeout question indices w).answer with
    | ok response =>
      refine iff_of_false (hresponse response name) ?_
      rintro ⟨q, hq, fault, hfault, -⟩
      cases hq
      rw [hanswer] at hfault
      cases hfault
    | error fault =>
      cases hmissing : fault.missingIndex? with
      | none => simp [Run.verdictOn, hmissing, hfailure, hanswer]
      | some found => simp [Run.verdictOn, hmissing, hfailure, hanswer]
  · intro q hq fault hanswer hmissing
    cases hq
    simp only [hanswer, Run.verdictOn, hmissing, hfailure]

end AsGiven

/-- The question that a search asks of named indices, unless it is refused or wants its query. -/
def questionOf? (s : Service) (raw : RawRequest) (indices : List String) : Option Question :=
  match s.plan raw (some indices) with
  | .ok (request, body, _) => if request.wantsQuery then none else some (.search body)
  | .error _ => none

/-- The fields that are read from a run that asks for mappings. -/
def fieldsOf (s : Service) : Except SearchError Execution → Except Failure (List String)
  | .error e => .error (.error e)
  | .ok .empty => .ok []
  | .ok (.success response _) => .ok (Mapping.missingFields s.catalog response)

variable (s : Service)

/-- The missing fields of named indices are read from a strict run. -/
theorem missingFields_some {σ : Type} (backend : Backend σ) (indices : List String)
    (w : World σ) : s.missingFields backend (some indices) w =
      (s.fieldsOf (Run.execute backend s.settings.timeout .fail .mapping none indices w).1,
        (Run.execute backend s.settings.timeout .fail .mapping none indices w).2) := by
  simp only [missingFields]
  have hpolicy : policyFor (some indices) = .fail := rfl
  rw [hpolicy]
  split
  · next e he => rw [he]; rfl
  · next he => rw [he]; rfl
  · next response covered he => rw [he]; rfl

/-- A response that cannot be read is no missing index. -/
theorem resultsOf_success_ne (request : Request) (response : Json) (indices : List String)
    (name : String) : s.resultsOf request (.ok (.success response indices)) ≠
      .error (.error (.indexNotFound name)) := by
  intro h
  obtain ⟨-, ⟨e, he, -⟩ | ⟨fault, hfault, -⟩⟩ := resultsOf_eq_error h
  · cases he
  · cases hfault

section Named

variable {σ : Type} (backend : Backend σ) {indices : List String} (hne : indices ≠ []) (w : World σ)

include hne

/-- A search of named indices asks about them as they are given, or not at all. -/
theorem asGiven_searchIn (raw : RawRequest) :
    AsGiven backend s.settings.timeout (s.questionOf? raw indices) indices
      (fun outcome => ∃ r, outcome = .results r) w (s.searchIn backend raw indices) := by
  have hrun : s.searchIn backend raw indices = s.run backend raw (some indices) none := by
    funext w
    unfold searchIn
    rw [if_neg (by simpa using hne)]
  rw [hrun]
  unfold questionOf?
  cases hplan : s.plan raw (some indices) with
  | error refusal =>
    have hrefused : s.run backend raw (some indices) none = fun w => (.error refusal, w) :=
      funext fun _ => run_of_refused hplan
    rw [hrefused]
    refine asGiven_of_unasked (fun a ha => by cases ha) fun name hname => ?_
    cases hname
    cases refuses_of_plan hplan
  | ok plan =>
    obtain ⟨planned, body, found⟩ := plan
    obtain rfl := indices_of_plan_some hplan
    cases hwants : planned.wantsQuery with
    | true =>
      have hquery : s.run backend raw (some found) none = fun w => (.ok (.query found body), w) :=
        funext fun _ => run_of_wants hplan hwants
      rw [hquery]
      simp only [hwants, if_true]
      refine asGiven_of_unasked ?_ fun name hname => by cases hname
      rintro _ ⟨rfl⟩ ⟨r, hr⟩
      cases hr
    | false =>
      have hasked : s.run backend raw (some found) none = fun w =>
          (s.resultsOf planned (Run.execute backend s.settings.timeout .fail (.search body) none
              found w).1,
            (Run.execute backend s.settings.timeout .fail (.search body) none found w).2) :=
        funext fun _ => run_of_plan hplan hwants
      rw [hasked]
      simp only [hwants, Bool.false_eq_true, if_false]
      exact asGiven_of_read hne (fun _ => rfl)
        fun response name => s.resultsOf_success_ne planned response found name

/-- The missing fields of named indices are asked about as they are given. -/
theorem asGiven_missingFields :
    AsGiven backend s.settings.timeout (some .mapping) indices (fun _ => True) w
      (s.missingFields backend (some indices)) := by
  have hread : s.missingFields backend (some indices) = fun w =>
      (s.fieldsOf (Run.execute backend s.settings.timeout .fail .mapping none indices w).1,
        (Run.execute backend s.settings.timeout .fail .mapping none indices w).2) :=
    funext fun w => s.missingFields_some backend indices w
  rw [hread]
  exact asGiven_of_read hne (fun _ => rfl) fun response name hname => by cases hname

/-- Named indices are asked about as they are given or not at all, by searches and for missing
fields: whatever the caches know and the backend answers, there is at most one call. -/
theorem asGiven (raw : RawRequest) :
    AsGiven backend s.settings.timeout (s.questionOf? raw indices) indices
        (fun outcome => ∃ r, outcome = .results r) w (s.searchIn backend raw indices) ∧
      AsGiven backend s.settings.timeout (some .mapping) indices (fun _ => True) w
        (s.missingFields backend (some indices)) :=
  ⟨s.asGiven_searchIn backend hne w raw, s.asGiven_missingFields backend hne w⟩

end Named

/-- An index that is named twice is asked about twice, though the cache takes it for missing. -/
theorem asGiven_known :
    let twice := ["socorro_240315", "socorro_240315"]
    let cache := ({} : MissingCache).mark "socorro_240315"
    let w : World Store := { backend := sampleStore, cache := some cache }
    let searched := sampleService.searchIn Store.backend secondReport twice w
    let missed := sampleService.missingFields Store.backend (some ["socorro_240314"]) w
    ((∃ body, searched.2.calls = [⟨.search body, twice⟩]) ∧ searched.2.cache = w.cache ∧
      ∀ name, searched.1 ≠ .error (.error (.indexNotFound name))) ∧
    missed.2.calls = [⟨.mapping, ["socorro_240314"]⟩] ∧
      missed.1 = .error (.error (.indexNotFound "socorro_240314")) := by
  intro twice cache w searched missed
  obtain ⟨body, hbody⟩ : ∃ body,
      sampleService.questionOf? secondReport twice = some (.search body) := ⟨_, rfl⟩
  have hmissing : (Store.missingFault "socorro_240314").missingIndex? = some "socorro_240314" := by
    decide +kernel
  have htwice : twice ≠ [] := by simp [twice]
  have hother : ["socorro_240314"] ≠ [] := by simp
  obtain ⟨hsearch, -⟩ := sampleService.asGiven Store.backend htwice w secondReport
  obtain ⟨-, hfields⟩ := sampleService.asGiven Store.backend hother w secondReport
  rw [hbody] at hsearch
  refine ⟨⟨⟨body, hsearch.calls⟩, hsearch.cache, fun name hname => ?_⟩, hfields.calls,
    (hfields.notFound _).2 ⟨.mapping, rfl, _, rfl, hmissing⟩⟩
  obtain ⟨q, hq, fault, hfault, -⟩ := (hsearch.notFound name).1 hname
  cases hq
  cases hfault

end Service

end CrashQuery

import CrashQuery.Proofs.Store.Reference

/-!
# What a failed search has done

A search fails before its first call or after one. What is wrong with the request, and with the
source of its versions, is found before: `Service.Refuses` lists these failures. What is wrong with
an answer is found after the call that it answers. `Service.failed_run` says for each failure of a
search what had been done when it was found, and `Service.failsFast` follows from it by cases: a
refused request has changed nothing, and a missing index is reported as not found only where it was
named by the caller, after the single call of such a search. A source of versions that fails is
noticed by just the searches that have to ask it (`Service.run_of_failing_versions`).
-/

namespace CrashQuery

open Outcome

namespace Results

variable {fault : DatabaseFault}

mutual

/-- A number of hits that cannot be read is shown in the fault. -/
theorem exists_of_totalOf : ∀ total : Json, totalOf total = .error fault →
    ∃ found, fault = .invalidTotal found
  | .null, h => by simp [totalOf] at h
  | .bool b, h => ⟨.bool b, (Except.error.inj h).symm⟩
  | .int (.ofNat n), h => by simp [totalOf] at h
  | .int (.negSucc n), h => ⟨.int (.negSucc n), (Except.error.inj h).symm⟩
  | .float x, h => ⟨.float x, (Except.error.inj h).symm⟩
  | .str text, h => ⟨.str text, (Except.error.inj h).symm⟩
  | .arr items, h => ⟨.arr items, (Except.error.inj h).symm⟩
  | .obj fields, h => by
    rw [totalOf] at h
    exact exists_of_totalOfFields fields h

/-- A number of hits that cannot be read in the fields of an object is shown in the fault. -/
theorem exists_of_totalOfFields : ∀ fields : List (String × Json),
    totalOfFields fields = .error fault → ∃ found, fault = .invalidTotal found
  | [], h => by simp [totalOfFields] at h
  | (key, value) :: rest, h => by
    rw [totalOfFields] at h
    split at h
    · exact exists_of_totalOf value h
    · exact exists_of_totalOfFields rest h

end

/-- The versions are not at fault where a response cannot be read. -/
theorem ofResponse_ne_versions {catalog : Catalog} {columns : List String} {response : Json}
    {detail : String} : ofResponse catalog columns response ≠ .error (.versions detail) := by
  intro h
  unfold ofResponse at h
  split at h
  · next hits _ =>
    rcases bind_eq_error.1 h with htotal | ⟨total, -, h⟩
    · obtain ⟨found, hfound⟩ := exists_of_totalOf _ htotal
      cases hfound
    · rcases bind_eq_error.1 h with hhits | ⟨reports, -, hdone⟩
      · unfold hitsOf at hhits
        split at hhits <;> cases hhits
      · cases hdone
  · cases h

end Results

namespace Run

variable {candidates : List String} {answer : Answer} {e : SearchError}

/-- The answer to a strict run is the failure of the call or an index that is not found. -/
theorem judge_fail_eq_error (h : judge .fail candidates answer = .finished (.error e)) :
    (∃ fault, e = .database (.call fault)) ∨ ∃ name, e = .indexNotFound name := by
  unfold judge at h
  split at h
  · cases h
  · next fault =>
    split at h
    · cases h
      exact Or.inl ⟨fault, rfl⟩
    · next name _ =>
      cases h
      exact Or.inr ⟨name, rfl⟩

/-- A healing run fails with a call that failed, or with an index that was not asked about. -/
theorem judge_heal_eq_error (h : judge .heal candidates answer = .finished (.error e)) :
    (∃ fault, e = .database (.call fault)) ∨ ∃ name, e = .database (.unrequestedIndex name) := by
  rcases judge_heal_eq_finished h with ⟨_, -, he⟩ | ⟨fault, -, -, he⟩ | ⟨_, name, -, -, -, he⟩
  · cases he
  · cases he
    exact Or.inl ⟨fault, rfl⟩
  · cases he
    exact Or.inr ⟨name, rfl⟩

section Execute

variable {σ : Type} (backend : Backend σ) (timeout : Nat) (question : Question)
  (indices : List String) (w : World σ)

variable {backend timeout question indices w} in
/-- A run that is not empty has candidates. -/
theorem candidates_ne_nil {policy : MissingPolicy}
    (h : (execute backend timeout policy question none indices w).1 ≠ .ok .empty) :
    Run.candidates policy w.cacheNow indices ≠ [] := by
  intro hnil
  unfold execute at h
  rw [hnil, attempt_nil] at h
  exact h rfl

/-- A healing run that is not empty has made a call. If it failed, then with a call that failed or
with an index that was not asked about. -/
theorem exists_call_heal
    (h : (execute backend timeout .heal question none indices w).1 ≠ .ok .empty) :
    (∃ call later,
      (execute backend timeout .heal question none indices w).2.calls =
        w.calls ++ call :: later) ∧
    ∀ e, (execute backend timeout .heal question none indices w).1 = .error e →
      (∃ fault, e = .database (.call fault)) ∨
        ∃ name, e = .database (.unrequestedIndex name) := by
  obtain ⟨later, hcalls⟩ :=
    exists_calls_attempt backend timeout .heal question (candidates_ne_nil h)
  refine ⟨⟨_, later, hcalls⟩, fun e he => ?_⟩
  -- The failure is what the last answer means.
  obtain ⟨exchanges, hunfolds, -⟩ := exists_unfolds_attempt backend timeout question
    (Run.candidates .heal w.cacheNow indices) w
  unfold execute at he
  rw [he] at hunfolds
  obtain ⟨before, last, -, -, hjudge⟩ := hunfolds.exists_last (by simp)
  exact judge_heal_eq_error hjudge

/-- A strict run that is not empty has made one call, on all the indices, and has left the cache as
it was. If it failed, then with this call or with an index that is not found. -/
theorem calls_execute_fail
    (h : (execute backend timeout .fail question none indices w).1 ≠ .ok .empty) :
    (execute backend timeout .fail question none indices w).2.calls =
        w.calls ++ [⟨question, indices⟩] ∧
      (execute backend timeout .fail question none indices w).2.cache = w.cache ∧
      ∀ e, (execute backend timeout .fail question none indices w).1 = .error e →
        (∃ fault, e = .database (.call fault)) ∨ ∃ name, e = .indexNotFound name := by
  have hne : indices ≠ [] := candidates_ne_nil h
  obtain ⟨result, hjudge, hattempt⟩ := exists_attempt_fail backend timeout question (w := w) hne
  have hexecute : execute backend timeout .fail question none indices w =
      (result, afterAnswer backend timeout question indices w) := hattempt
  rw [hexecute]
  refine ⟨rfl, rfl, ?_⟩
  rintro e rfl
  exact judge_fail_eq_error hjudge

end Execute

end Run

namespace Service

/-- Why a search ends before its first call: an argument is missing or refused, the source of the
versions fails, or a number of days or a day is beyond what can be computed with. -/
inductive Refuses (s : Service) : Failure → Prop
  /-- A required parameter is missing. -/
  | missingArgument (name : String) : Refuses s (.error (.missingArgument name))
  /-- A parameter is refused. -/
  | badArgument (fault : ArgumentFault) : Refuses s (.error (.badArgument fault))
  /-- The source of the versions fails. -/
  | versions {detail : String} : s.versions = .failing detail →
    Refuses s (.error (.database (.versions detail)))
  /-- The computation ends without a result. -/
  | abort (a : Abort) : Refuses s (.abort a)

/-- What a failed search has done: in which world it leaves the one in which it began, by its
failure. The search is of the pinned indices, or of those of its window if none are pinned. -/
inductive Failed {σ : Type} (s : Service) (pinned : Option (List String)) (w : World σ) :
    Failure → World σ → Prop
  /-- It was refused, and nothing has been done. -/
  | refused {failure : Failure} : s.Refuses failure → Failed s pinned w failure w
  /-- An index was not found. It was pinned, one call has been made, and the cache is as it was. -/
  | notFound {name : String} {indices : List String} {body : Json} {w' : World σ} :
    pinned = some indices → w'.calls = w.calls ++ [⟨.search body, indices⟩] →
    w'.cache = w.cache → Failed s pinned w (.error (.indexNotFound name)) w'
  /-- A call failed or its answer cannot be used. -/
  | answered {fault : DatabaseFault} {call : Call} {later : List Call} {w' : World σ} :
    (∀ detail, fault ≠ .versions detail) → w'.calls = w.calls ++ call :: later →
    Failed s pinned w (.error (.database fault)) w'

variable {s : Service} {raw : RawRequest} {failure : Failure}

/-- A window is refused as an argument, or has a day that cannot be computed. -/
theorem refuses_of_complete {conditions : List Condition}
    (h : Window.complete s.catalog s.options conditions = .error failure) : s.Refuses failure := by
  rw [Window.complete_eq] at h
  simp only at h
  split at h
  · cases h
    exact .abort _
  · split at h
    · cases h
      exact .abort _
    · split at h
      · cases h
        exact .abort _
      · split at h
        · cases h
          exact .badArgument _
        · cases h

/-- A request that is not normalized is refused. -/
theorem refuses_of_ofRaw (h : Request.ofRaw s.catalog s.options raw = .error failure) :
    s.Refuses failure := by
  rw [Request.ofRaw_eq] at h
  split at h
  · cases h
    exact .badArgument _
  · split at h
    · cases h
      exact .missingArgument _
    · exact refuses_of_complete (map_eq_error.1 h)

/-- Versions are not resolved only where their source fails. -/
theorem refuses_of_resolveVersions {request : Request}
    (h : s.resolveVersions request = .error failure) : s.Refuses failure := by
  unfold resolveVersions at h
  simp only at h
  split at h
  · cases h
  · rcases bind_eq_error.1 h with hversions | ⟨known, -, hdone⟩
    · cases hsource : s.versions with
      | table t =>
        rw [hsource] at hversions
        cases hversions
      | failing detail =>
        rw [hsource] at hversions
        cases hversions
        exact .versions hsource
    · cases hdone

/-- The days of a window are named, or naming them is aborted. -/
theorem refuses_of_indicesOf {request : Request} {pinned : Option (List String)}
    (h : s.indicesOf request pinned = .error failure) : s.Refuses failure := by
  unfold indicesOf at h
  split at h
  · cases h
  · unfold Index.covering at h
    split at h
    · cases h
    · obtain ⟨day, -, hname⟩ := exists_of_mapM_error (map_eq_error.1 h)
      unfold Index.nameOf at hname
      split at hname
      · cases hname
      · cases hname
        exact .abort _

/-- A search that cannot be planned is refused. -/
theorem refuses_of_plan {pinned : Option (List String)} (h : s.plan raw pinned = .error failure) :
    s.Refuses failure := by
  unfold plan at h
  rcases bind_eq_error.1 h with hprepare | ⟨⟨request, body⟩, -, h⟩
  · unfold prepare at hprepare
    rcases bind_eq_error.1 hprepare with hraw | ⟨request, -, h⟩
    · exact refuses_of_ofRaw hraw
    rcases bind_eq_error.1 h with hresolve | ⟨⟨resolved, rules⟩, -, h⟩
    · exact refuses_of_resolveVersions hresolve
    rcases bind_eq_error.1 h with hcompile | ⟨query, -, hdone⟩
    · unfold refuse at hcompile
      split at hcompile
      · cases hcompile
      · cases hcompile
        exact .badArgument _
    · cases hdone
  · rcases bind_eq_error.1 h with hindices | ⟨indices, -, hdone⟩
    · exact refuses_of_indicesOf hindices
    · cases hdone

/-- The results of an execution that is not empty fail with its failure, or with a response that
cannot be read. -/
theorem resultsOf_eq_error {request : Request} {result : Except SearchError Execution}
    (h : s.resultsOf request result = .error failure) :
    result ≠ .ok .empty ∧
      ((∃ e, result = .error e ∧ failure = .error e) ∨
        ∃ fault, failure = .error (.database fault) ∧ ∀ detail, fault ≠ .versions detail) := by
  unfold resultsOf at h
  split at h
  · next e =>
    cases h
    exact ⟨by simp, Or.inl ⟨e, rfl, rfl⟩⟩
  · cases h
  · split at h
    · cases h
    · next fault hread =>
      cases h
      refine ⟨by simp, Or.inr ⟨fault, rfl, ?_⟩⟩
      rintro detail rfl
      exact Results.ofResponse_ne_versions hread

/-- A search of pinned indices is planned over them. -/
theorem indices_of_plan_some {names indices : List String} {planned : Request} {body : Json}
    (h : s.plan raw (some names) = .ok (planned, body, indices)) : indices = names := by
  obtain ⟨⟨planned', body'⟩, -, h⟩ := bind_eq_ok.1 h
  cases h
  rfl

section Run

variable {σ : Type} (backend : Backend σ) (w : World σ)

/-- Each failure of a search says what has been done. -/
theorem failed_run (pinned : Option (List String))
    (h : (s.run backend raw pinned none w).1 = .error failure) :
    s.Failed pinned w failure (s.run backend raw pinned none w).2 := by
  cases hplan : s.plan raw pinned with
  | error refusal =>
    rw [run_of_refused hplan] at h ⊢
    cases h
    exact .refused (refuses_of_plan hplan)
  | ok plan =>
    obtain ⟨planned, body, indices⟩ := plan
    cases hwants : planned.wantsQuery with
    | true =>
      rw [run_of_wants hplan hwants] at h
      cases h
    | false =>
      rw [run_of_plan hplan hwants] at h ⊢
      obtain ⟨hne, hresults⟩ := resultsOf_eq_error h
      -- A run that is not empty has made its calls before it has a result.
      cases pinned with
      | none =>
        obtain ⟨⟨call, later, hcalls⟩, herror⟩ :=
          Run.exists_call_heal backend s.settings.timeout (.search body) indices w hne
        rcases hresults with ⟨e, he, rfl⟩ | ⟨fault, rfl, hfault⟩
        · rcases herror e he with ⟨fault, rfl⟩ | ⟨name, rfl⟩
          · exact .answered (by simp) hcalls
          · exact .answered (by simp) hcalls
        · exact .answered hfault hcalls
      | some names =>
        obtain rfl := indices_of_plan_some hplan
        obtain ⟨hcalls, hcache, herror⟩ :=
          Run.calls_execute_fail backend s.settings.timeout (.search body) indices w hne
        rcases hresults with ⟨e, he, rfl⟩ | ⟨fault, rfl, hfault⟩
        · rcases herror e he with ⟨fault, rfl⟩ | ⟨name, rfl⟩
          · exact .answered (by simp) hcalls
          · exact .notFound rfl hcalls hcache
        · exact .answered hfault hcalls

/-- A search whose versions have to be asked for fails with their source, without a call. -/
theorem run_of_failing_versions {request : Request} {detail : String}
    (hrequest : Request.ofRaw s.catalog s.options raw = .ok request)
    (hkeys : VersionRule.keysOf request.conditions ≠ [])
    (hsource : s.versions = .failing detail) (pinned : Option (List String))
    (patience : Option Nat) : s.run backend raw pinned patience w =
      (.error (.error (.database (.versions detail))), w) := by
  refine run_of_refused ?_
  have hresolve : s.resolveVersions request = .error (.error (.database (.versions detail))) := by
    simp [resolveVersions, hkeys, hsource, VersionSource.findAll, bind, Except.bind]
  exact bind_eq_error.2 (Or.inl (bind_eq_error.2 (Or.inr ⟨request, hrequest,
    bind_eq_error.2 (Or.inl hresolve)⟩)))

end Run

/-- Whether a search of the pinned indices, or of those of its window if none are pinned, that began
in the world `w` fails as early as it can: what it ends with is its result and the world. -/
structure FailsFast {σ : Type} (pinned : Option (List String)) (w : World σ)
    (ended : Except Failure SearchOutcome × World σ) : Prop where
  /-- With a missing argument nothing has been done. -/
  missingArgument : ∀ name, ended.1 = .error (.error (.missingArgument name)) → ended.2 = w
  /-- With a refused argument nothing has been done. -/
  badArgument : ∀ fault, ended.1 = .error (.error (.badArgument fault)) → ended.2 = w
  /-- With a failure of the source of the versions nothing has been done. -/
  versions : ∀ detail, ended.1 = .error (.error (.database (.versions detail))) → ended.2 = w
  /-- An index that is not found was pinned. Exactly one call has been made, on those pinned, and
  the cache is as it was. -/
  indexNotFound : ∀ name, ended.1 = .error (.error (.indexNotFound name)) →
    ∃ indices body, pinned = some indices ∧
      ended.2.calls = w.calls ++ [⟨.search body, indices⟩] ∧ ended.2.cache = w.cache

/-- A search fails as early as it can, whatever the backend does. -/
theorem failsFast_run {σ : Type} (s : Service) (backend : Backend σ) (raw : RawRequest)
    (pinned : Option (List String)) (w : World σ) :
    FailsFast pinned w (s.run backend raw pinned none w) := by
  have hfailed : ∀ failure, (s.run backend raw pinned none w).1 = .error failure →
      s.Failed pinned w failure (s.run backend raw pinned none w).2 :=
    fun _ h => failed_run backend w pinned h
  -- What has been done is read off the failure, so the run itself is not looked at any more.
  generalize s.run backend raw pinned none w = ended at hfailed ⊢
  obtain ⟨result, w'⟩ := ended
  refine ⟨?_, ?_, ?_, ?_⟩
  · intro name h
    cases hfailed _ h with
    | refused _ => rfl
  · intro fault h
    cases hfailed _ h with
    | refused _ => rfl
  · intro detail h
    cases hfailed _ h with
    | refused _ => rfl
    | answered hfault _ => exact absurd rfl (hfault detail)
  · intro name h
    cases hfailed _ h with
    | refused hrefuses => cases hrefuses
    | notFound hpinned hcalls hcache => exact ⟨_, _, hpinned, hcalls, hcache⟩

/-- Every search fails as early as it can: a missing or refused argument and a failing source of
versions are found before the first call, and an index is not found only where the caller has pinned
it, by the one call of the search. -/
theorem failsFast {σ : Type} (s : Service) (backend : Backend σ) (raw : RawRequest) (w : World σ) :
    FailsFast none w (s.search backend raw w) ∧
      (∀ name, (s.search backend raw w).1 ≠ .error (.error (.indexNotFound name))) ∧
      ∀ indices, FailsFast (some indices) w (s.searchIn backend raw indices w) := by
  have hsearch : FailsFast none w (s.search backend raw w) := failsFast_run s backend raw none w
  refine ⟨hsearch, ?_, ?_⟩
  · intro name h
    obtain ⟨indices, body, hpinned, -⟩ := hsearch.indexNotFound name h
    cases hpinned
  · intro indices
    unfold searchIn
    split
    · -- No index is pinned, and the search ends where it began.
      refine ⟨fun _ _ => rfl, fun _ _ => rfl, fun _ _ => rfl, ?_⟩
      rintro name ⟨⟩
    · exact failsFast_run s backend raw (some indices) w

/-- The index of the day before the reports is not found where it is pinned, by a single call. -/
theorem failsFast_pinned :
    (∃ name, (sampleService.searchIn Store.backend secondReport ["socorro_240314"]
      { backend := sampleStore }).1 = .error (.error (.indexNotFound name))) ∧
    (sampleService.searchIn Store.backend secondReport ["socorro_240314"]
      { backend := sampleStore }).2.calls.length = 1 := by
  obtain ⟨planned, body, hplan, hwants⟩ : ∃ planned body,
      sampleService.plan secondReport (some ["socorro_240314"]) =
        .ok (planned, body, ["socorro_240314"]) ∧
      planned.wantsQuery = false := ⟨_, _, rfl, rfl⟩
  have hmissing : (Store.missingFault "socorro_240314").missingIndex? = some "socorro_240314" := by
    decide +kernel
  have hne : ["socorro_240314"] ≠ [] := by simp
  obtain ⟨result, hjudge, hattempt⟩ := Run.exists_attempt_fail (w := { backend := sampleStore })
    Store.backend sampleService.settings.timeout (.search body) hne
  have hanswer : (Run.pendingIn Store.backend sampleService.settings.timeout (.search body)
      ["socorro_240314"] { backend := sampleStore }).answer =
        .error (Store.missingFault "socorro_240314") := rfl
  have hresult : result = .error (.indexNotFound "socorro_240314") := by
    rw [hanswer] at hjudge
    simp only [Run.judge, hmissing] at hjudge
    cases hjudge
    rfl
  have hrun : (sampleService.searchIn Store.backend secondReport ["socorro_240314"]
      { backend := sampleStore }).1 = .error (.error (.indexNotFound "socorro_240314")) := by
    have hsome : (["socorro_240314"] : List String).isEmpty = false := rfl
    have hexecute : (Run.execute Store.backend sampleService.settings.timeout
        (policyFor (some ["socorro_240314"])) (.search body) none ["socorro_240314"]
        { backend := sampleStore }).1 = result := congrArg Prod.fst hattempt
    unfold searchIn
    rw [hsome, if_neg (by simp), run_of_plan hplan hwants, hexecute, hresult]
    rfl
  obtain ⟨-, -, hpinned⟩ :=
    failsFast sampleService Store.backend secondReport { backend := sampleStore }
  obtain ⟨indices, body', -, hcalls, -⟩ := (hpinned ["socorro_240314"]).indexNotFound _ hrun
  rw [hcalls]
  exact ⟨⟨_, hrun⟩, rfl⟩

end Service

end CrashQuery

import CrashQuery.Proofs.Calendar.Elapsed
import CrashQuery.Proofs.Index.Chronology
import CrashQuery.Proofs.Store.Reference
import CrashQuery.Proofs.Window.Overflow

/-!
# The work of a search

The settings say how many days a window has at most, and this bounds the work of a search: its
window touches at most one day more than the days that lie in it, and one more where it begins in a
leap second, so that there are at most two indices more than days (`Service.length_indices_le`). A
run makes no more calls than there are indices, and each of them on no more indices
(`Service.calls_search_le`). A window from a leap second on reaches the bound
(`Service.calls_search_leap`).
-/

namespace CrashQuery

open Calendar Outcome

namespace Index

/-- There are no more indices than days in a window. -/
theorem length_covering_le {pattern : String} {first last : Instant} {names : List String}
    (h : covering pattern first last = .ok names) :
    names.length ≤ (last.day + 1 - first.day).toNat := by
  unfold covering at h
  split at h
  · cases h
    exact Nat.zero_le _
  · obtain ⟨all, hall, rfl⟩ := map_eq_ok.1 h
    have hlength : all.length = (daysFrom first.day last.day).length := length_of_mapM_ok hall
    rw [daysFrom, List.length_map, List.length_range] at hlength
    rw [← hlength]
    exact (dropRepeats_sublist all).length_le

end Index

/-- A healing run makes no more calls than there are indices, each of them on no more indices. -/
theorem Run.calls_execute_le {σ : Type} (backend : Backend σ) (timeout : Nat) (question : Question)
    (indices : List String) (w : World σ) :
    ∃ new, (execute backend timeout .heal question none indices w).2.calls = w.calls ++ new ∧
      new.length ≤ indices.length ∧ ∀ call ∈ new, call.indices.length ≤ indices.length := by
  unfold execute
  rw [candidates_heal]
  obtain ⟨exchanges, hunfolds, hrecords⟩ := exists_unfolds_attempt backend timeout question
    (unknown w.cacheNow indices) w
  have hle : (unknown w.cacheNow indices).length ≤ indices.length := List.length_filter_le _ _
  refine ⟨_, hrecords.calls, ?_, ?_⟩
  · rw [List.length_map]
    exact Nat.le_trans hunfolds.length_le hle
  · intro call hcall
    obtain ⟨e, he, rfl⟩ := List.mem_map.1 hcall
    exact Nat.le_trans (hunfolds.length_indices_le e he) hle

namespace Service

variable {s : Service}

/-- With accepted settings a planned search has at most two indices more than its window may have
days. -/
theorem length_indices_le (hcheck : s.settings.check = .ok ()) {raw : RawRequest}
    {planned : Request} {body : Json} {indices : List String}
    (h : s.plan raw none = .ok (planned, body, indices)) :
    (indices.length : Int) ≤ s.settings.maxDays + 2 := by
  have hpos := Settings.defaultDays_pos hcheck
  have hle := Settings.defaultDays_le_maxDays hcheck
  obtain ⟨request, -, -, -, hrequest, -, -, -, hindices⟩ := parts_of_plan h
  obtain ⟨-, -, -, hwidth⟩ := Window.parts_of_complete (Request.complete_of_ofRaw hrequest)
  have hday : request.window.last.day ≤ request.window.first.day + s.settings.maxDays + 1 :=
    Instant.day_le_of_isMoreThanDaysAfter hwidth
  have hlength := Index.length_covering_le hindices
  omega

/-- With accepted settings a search makes at most two calls more than its window may have days, and
each of them is on at most two indices more than that. -/
theorem calls_search_le (hcheck : s.settings.check = .ok ()) {σ : Type} (backend : Backend σ)
    (raw : RawRequest) (w : World σ) :
    ∃ new, (s.search backend raw w).2.calls = w.calls ++ new ∧
      (new.length : Int) ≤ s.settings.maxDays + 2 ∧
      ∀ call ∈ new, (call.indices.length : Int) ≤ s.settings.maxDays + 2 := by
  have hpos := Settings.defaultDays_pos hcheck
  have hle := Settings.defaultDays_le_maxDays hcheck
  have hnone : (([] : List Call).length : Int) ≤ s.settings.maxDays + 2 := by
    rw [List.length_nil]
    omega
  unfold search
  cases hplan : s.plan raw none with
  | error failure =>
    rw [run_of_refused hplan]
    exact ⟨[], (List.append_nil _).symm, hnone, by simp⟩
  | ok plan =>
    obtain ⟨planned, body, indices⟩ := plan
    cases hwants : planned.wantsQuery with
    | true =>
      rw [run_of_wants hplan hwants]
      exact ⟨[], (List.append_nil _).symm, hnone, by simp⟩
    | false =>
      rw [run_of_plan hplan hwants]
      have hindices := length_indices_le hcheck hplan
      obtain ⟨new, hcalls, hcount, hwidth⟩ := Run.calls_execute_le backend s.settings.timeout
        (.search body) indices w
      refine ⟨new, hcalls, by omega, ?_⟩
      intro call hcall
      have hcandidates := hwidth call hcall
      omega

/-- A service with windows of one day. -/
def oneDayService : Service :=
  { sampleService with settings := { defaultDays := 1, maxDays := 1 } }

/-- A request for the day from a leap second to the midnight after the next day. -/
def leapRequest : RawRequest := [("date", [">=2016-12-31T23:59:60Z", "<=2017-01-02T00:00:00Z"])]

/-- A window of one day from a leap second on touches three days, and an empty store is called three
times. -/
theorem calls_search_leap : oneDayService.settings.check = .ok () ∧
    oneDayService.settings.maxDays + 2 = 3 ∧
    ∃ calls, (oneDayService.search Store.backend leapRequest { backend := {} }).2.calls = calls ∧
      calls.length = 3 ∧ ∀ call ∈ calls, (call.indices.length : Int) ≤ 3 := by
  obtain ⟨planned, body, hplan, hwants⟩ : ∃ planned body,
      oneDayService.plan leapRequest none =
        .ok (planned, body, ["socorro_161231", "socorro_170101", "socorro_170102"]) ∧
      planned.wantsQuery = false := ⟨_, _, rfl, rfl⟩
  have hnames : ∀ i ∈ ["socorro_161231", "socorro_170101", "socorro_170102"],
      (Store.missingFault i).missingIndex? = some i := by
    decide +kernel
  have hcalls : (oneDayService.search Store.backend leapRequest { backend := {} }).2.calls.length =
      3 := by
    unfold search
    rw [run_of_plan hplan hwants]
    exact ((Run.serves_store rfl (Nat.zero_le _)).attempt_uncached (.search body) rfl hnames).2
  obtain ⟨new, hnew, -, hwidth⟩ :=
    calls_search_le (s := oneDayService) rfl Store.backend leapRequest { backend := {} }
  have hsame : (oneDayService.search Store.backend leapRequest { backend := {} }).2.calls = new :=
    hnew
  exact ⟨rfl, rfl, new, hsame, hsame ▸ hcalls, hwidth⟩

end Service

end CrashQuery

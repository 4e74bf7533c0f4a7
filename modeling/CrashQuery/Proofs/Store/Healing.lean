import CrashQuery.Proofs.Run.Sharing

/-!
# Healing runs over a store

A store reports the first missing index of a call by a text with its name in brackets, and the run
reads a name back from that text. The two can differ, since an index may have brackets in its name.
When they do, the run drops another index or none, and meets the same report again until it fails
(`attempt_of_misreported`). So over a store in which no failure is waiting, a run whose missing
indices are all reported by their own names has the response to a call on those that are present
(`attempt_of_reported`), and any other run fails (`attempt_of_unreported`).
-/

namespace CrashQuery

namespace Store

/-- The response to a call on indices that are present. -/
def respond (s : Store) (call : Call) : Json :=
  match call.question with
  | .search body => s.searchAnswer call.indices body
  | .mapping => s.mappingAnswer call.indices

end Store

namespace Run

/-- The first member with a property is still the first one when another member is erased. -/
theorem find?_erase {α : Type} [BEq α] [LawfulBEq α] {p : α → Bool} {l : List α} {a b : α}
    (h : l.find? p = some a) (hne : b ≠ a) : (l.erase b).find? p = some a := by
  induction l with
  | nil => simp at h
  | cons c l ih =>
    rw [List.find?_cons] at h
    split at h
    · next hc =>
      rw [Option.some.injEq] at h
      subst h
      rw [List.erase_cons_tail (by simpa using hne.symm), List.find?_cons, hc]
    · next hc =>
      by_cases hcb : c = b
      · subst hcb
        rwa [List.erase_cons_head]
      · rw [List.erase_cons_tail (by simpa using hcb), List.find?_cons, hc]
        exact ih h

variable {s : Store} {timeout : Nat} {question : Question} {candidates : List String}
  {w : World Store}

/-- A store in which no failure is waiting answers in time and stays as it is. -/
theorem pendingIn_store (hfailures : s.failures = []) (hlatency : s.latency ≤ timeout)
    (hw : w.backend = s) (question : Question) (candidates : List String) :
    pendingIn Store.backend timeout question candidates w =
      ⟨s.latency, s.answer ⟨question, candidates⟩, s⟩ := by
  have hask : Store.backend.ask ⟨question, candidates⟩ s =
      ⟨s.latency, s.answer ⟨question, candidates⟩, s⟩ := by
    simp only [Store.backend, Store.ask]
    rw [hfailures]
  unfold pendingIn askWithin
  rw [hw, hask]
  exact if_pos hlatency

section Store

variable (hfailures : s.failures = []) (hlatency : s.latency ≤ timeout) (hw : w.backend = s)

include hfailures hlatency hw

variable (question) in
/-- A call on candidates of which some are missing fails with the report of the first one. -/
theorem answer_of_missing {missing : String}
    (hfirst : candidates.find? (fun index => !s.hasIndex index) = some missing) :
    (pendingIn Store.backend timeout question candidates w).answer =
      .error (Store.missingFault missing) := by
  rw [pendingIn_store hfailures hlatency hw]
  unfold Store.answer
  rw [hfirst]

/-- A run that drops a candidate goes on with the others, in a world with the same store. -/
theorem attempt_store_of_without {name : String} (hmem : name ∈ candidates)
    (hjudge : judge .heal candidates
      (pendingIn Store.backend timeout question candidates w).answer = .without name) :
    (candidates.erase name).length < candidates.length ∧
      ∃ w' : World Store, w'.backend = s ∧
        attempt Store.backend timeout .heal question none candidates w =
          attempt Store.backend timeout .heal question none (candidates.erase name) w' := by
  have hpos := List.length_pos_of_mem hmem
  refine ⟨by rw [List.length_erase_of_mem hmem]; omega,
    afterDrop Store.backend timeout question candidates name w, ?_,
    attempt_of_without Store.backend timeout .heal question (List.ne_nil_of_mem hmem) hjudge⟩
  unfold afterDrop afterAnswer
  rw [pendingIn_store hfailures hlatency hw]
  rfl

variable (question) in
/-- A run whose first missing index is reported by its own name goes on without it. -/
theorem attempt_store_of_reported {missing : String}
    (hfirst : candidates.find? (fun index => !s.hasIndex index) = some missing)
    (hreport : (Store.missingFault missing).missingIndex? = some missing) :
    (candidates.erase missing).length < candidates.length ∧
      ∃ w' : World Store, w'.backend = s ∧
        attempt Store.backend timeout .heal question none candidates w =
          attempt Store.backend timeout .heal question none (candidates.erase missing) w' := by
  have hmem : missing ∈ candidates := List.mem_of_find?_eq_some hfirst
  have hdropped :
      (exchangeIn Store.backend timeout question candidates w).dropped? = some missing := by
    refine Exchange.dropped?_eq_some_iff.2 ⟨?_, hmem⟩
    rw [Exchange.missing?, exchangeIn, answer_of_missing question hfailures hlatency hw hfirst]
    exact hreport
  exact attempt_store_of_without hfailures hlatency hw hmem (judge_heal_eq_without_iff.2 hdropped)

/-- A run whose first missing index is reported by another name fails. -/
theorem attempt_of_misreported {missing : String}
    (hfirst : candidates.find? (fun index => !s.hasIndex index) = some missing)
    (hreport : (Store.missingFault missing).missingIndex? ≠ some missing) :
    ∃ fault, (attempt Store.backend timeout .heal question none candidates w).1 =
      .error (.database fault) := by
  -- What is dropped is another index, so that the same one is reported again.
  induction hn : candidates.length using Nat.strongRecOn generalizing candidates w with
  | ind n ih =>
    have hanswer := answer_of_missing question hfailures hlatency hw hfirst
    cases hjudge : judge .heal candidates
        (pendingIn Store.backend timeout question candidates w).answer with
    | finished result =>
      have hne : candidates ≠ [] := List.ne_nil_of_mem (List.mem_of_find?_eq_some hfirst)
      rw [attempt_of_finished Store.backend timeout .heal question hne hjudge]
      rw [hanswer] at hjudge
      rcases judge_heal_eq_finished hjudge with ⟨_, hok, -⟩ | ⟨_, -, -, rfl⟩ |
        ⟨_, _, -, -, -, rfl⟩
      · simp at hok
      · exact ⟨_, rfl⟩
      · exact ⟨_, rfl⟩
    | without name =>
      have hdropped :
          (exchangeIn Store.backend timeout question candidates w).dropped? = some name :=
        judge_heal_eq_without_iff.1 hjudge
      obtain ⟨hname, hasked⟩ := Exchange.dropped?_eq_some_iff.1 hdropped
      rw [Exchange.missing?, exchangeIn, hanswer] at hname
      have hmem : name ∈ candidates := hasked
      have hother : name ≠ missing := by
        rintro rfl
        exact hreport hname
      obtain ⟨hlt, w', hw', hgoes⟩ :=
        attempt_store_of_without hfailures hlatency hw hmem hjudge
      rw [hgoes]
      exact ih _ (hn ▸ hlt) hw' (find?_erase hfirst hother) rfl

/-- A run whose missing indices are reported by their own names has the response to a call on the
indices that are present. -/
theorem attempt_of_reported (hreports : ∀ i ∈ candidates, s.hasIndex i = false →
    (Store.missingFault i).missingIndex? = some i) :
    (attempt Store.backend timeout .heal question none candidates w).1 =
      outcome s.hasIndex s.respond question candidates := by
  -- Each report leaves one candidate less, and the same ones that are present.
  induction hn : candidates.length using Nat.strongRecOn generalizing candidates w with
  | ind n ih =>
    cases hfirst : candidates.find? fun index => !s.hasIndex index with
    | none =>
      have hfound : found s.hasIndex candidates = candidates :=
        List.filter_eq_self.2 fun i hi => by simpa using List.find?_eq_none.1 hfirst i hi
      unfold outcome
      rw [hfound]
      by_cases hne : candidates = []
      · rw [hne, attempt_nil, if_pos rfl]
      · have hanswer : (pendingIn Store.backend timeout question candidates w).answer =
            .ok (s.respond ⟨question, candidates⟩) := by
          rw [pendingIn_store hfailures hlatency hw]
          unfold Store.answer
          rw [hfirst]
          cases question <;> rfl
        have hjudge : judge .heal candidates
            (pendingIn Store.backend timeout question candidates w).answer =
              .finished (.ok (.success (s.respond ⟨question, candidates⟩) candidates)) := by
          rw [hanswer]
          rfl
        rw [attempt_of_finished Store.backend timeout .heal question hne hjudge, if_neg hne]
    | some missing =>
      have hmem : missing ∈ candidates := List.mem_of_find?_eq_some hfirst
      have habsent : s.hasIndex missing = false := by simpa using List.find?_some hfirst
      obtain ⟨hlt, w', hw', hgoes⟩ := attempt_store_of_reported question hfailures hlatency hw
        hfirst (hreports missing hmem habsent)
      have hrest := ih _ (hn ▸ hlt) hw' (fun i hi => hreports i (List.mem_of_mem_erase hi)) rfl
      unfold outcome at hrest ⊢
      rw [found_erase habsent] at hrest
      rwa [hgoes]

/-- A run fails if one of its missing indices is reported by another name. -/
theorem attempt_of_unreported {index : String} (hindex : index ∈ candidates)
    (habsent : s.hasIndex index = false)
    (hreport : (Store.missingFault index).missingIndex? ≠ some index) :
    ∃ fault, (attempt Store.backend timeout .heal question none candidates w).1 =
      .error (.database fault) := by
  -- The index stays a candidate as long as the reports before it are read right.
  induction hn : candidates.length using Nat.strongRecOn generalizing candidates w with
  | ind n ih =>
    cases hfirst : candidates.find? fun index => !s.hasIndex index with
    | none => exact absurd habsent (by simpa using List.find?_eq_none.1 hfirst index hindex)
    | some missing =>
      by_cases hread : (Store.missingFault missing).missingIndex? = some missing
      · have hother : index ≠ missing := by
          rintro rfl
          exact hreport hread
        obtain ⟨hlt, w', hw', hgoes⟩ :=
          attempt_store_of_reported question hfailures hlatency hw hfirst hread
        rw [hgoes]
        exact ih _ (hn ▸ hlt) hw' ((List.mem_erase_of_ne hother).2 hindex) rfl
      · exact attempt_of_misreported hfailures hlatency hw hfirst hread

/-- A run over a store has the response to a call on the indices that are present, or fails. -/
theorem attempt_store :
    (attempt Store.backend timeout .heal question none candidates w).1 =
        outcome s.hasIndex s.respond question candidates ∨
      ∃ fault, (attempt Store.backend timeout .heal question none candidates w).1 =
        .error (.database fault) := by
  by_cases hreports : ∀ i ∈ candidates, s.hasIndex i = false →
      (Store.missingFault i).missingIndex? = some i
  · exact Or.inl (attempt_of_reported hfailures hlatency hw hreports)
  · simp only [not_forall, exists_prop] at hreports
    obtain ⟨index, hindex, habsent, hreport⟩ := hreports
    exact Or.inr (attempt_of_unreported hfailures hlatency hw hindex habsent hreport)

end Store

end Run

end CrashQuery

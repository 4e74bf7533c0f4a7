import CrashQuery.Backend.Store
import CrashQuery.Proofs.Run.Remembering
import CrashQuery.Service

/-!
# The history of a healing run

The calls that a run makes and the answers that it gets are its exchanges. `Run.Unfolds` says which
lists of exchanges a healing run can have and how each of them ends, and
`Run.exists_unfolds_attempt` finds the exchanges of a run, whatever the backend does.
`Run.healed_execute` gathers what follows for the calls, the result and the cache: the list of
indices loses the reported name with every call, so that there is a call for each index at most.
The cache is told of each dropped name when its report has come (`Run.droppedFrom`); which of them
it knows after the run depends on its room and on their lifetime. A strict run ends with the first
answer (`Run.exists_attempt_fail`), and each of the two begins with a call on all its candidates
(`Run.exists_calls_attempt`).
-/

namespace CrashQuery

namespace Run

/-- A call on some indices, and its answer. -/
structure Exchange where
  /-- The indices of the call. -/
  indices : List String
  /-- The answer. -/
  answer : Answer
  /-- The milliseconds until the answer. -/
  delay : Nat

namespace Exchange

/-- The name that the answer reports as missing. -/
def missing? (e : Exchange) : Option String :=
  match e.answer with
  | .ok _ => none
  | .error fault => fault.missingIndex?

/-- The index that a healing run drops after the exchange. -/
def dropped? (e : Exchange) : Option String :=
  e.missing?.filter fun name => decide (name ∈ e.indices)

/-- What is dropped is the reported name, if it was asked about. -/
theorem dropped?_eq_some_iff {e : Exchange} {name : String} :
    e.dropped? = some name ↔ e.missing? = some name ∧ name ∈ e.indices := by
  unfold dropped?
  rw [Option.filter_eq_some_iff, decide_eq_true_eq]

end Exchange

/-- The names that a healing run drops, in order. -/
def dropped (exchanges : List Exchange) : List String := exchanges.filterMap Exchange.dropped?

/-- The names that a healing run drops, in order, with the times at which it does so when it begins
at the given time. -/
def droppedFrom : Nat → List Exchange → List (String × Nat)
  | _, [] => []
  | start, e :: rest =>
    (e.dropped?.map fun name => (name, start + e.delay)).toList ++
      droppedFrom (start + e.delay) rest

/-- The milliseconds that the exchanges take. -/
def duration : List Exchange → Nat
  | [] => 0
  | e :: rest => e.delay + duration rest

/-- Whether the exchanges are what a backend answers to the calls one after the other, and lead from
the one of its states to the other. -/
def Answered {σ : Type} (backend : Backend σ) (timeout : Nat) (question : Question) :
    σ → List Exchange → σ → Prop
  | state, [], state' => state' = state
  | state, e :: rest, state' =>
    let pending := askWithin backend timeout ⟨question, e.indices⟩ state
    (e.answer = pending.answer ∧ e.delay = pending.delay) ∧
      Answered backend timeout question pending.state rest state'

/-- Whether a healing run on the candidates can have the exchanges and end with the result. -/
def Unfolds : List String → List Exchange → Except SearchError Execution → Prop
  | candidates, [], result => candidates = [] ∧ result = .ok .empty
  | candidates, e :: rest, result =>
    candidates ≠ [] ∧ e.indices = candidates ∧
      match judge .heal candidates e.answer with
      | .finished r => rest = [] ∧ result = r
      | .without name => Unfolds (candidates.erase name) rest result

section Dropped

variable {start : Nat} {exchanges : List Exchange}

/-- The dropped names are the same at whatever time the run begins. -/
theorem map_fst_droppedFrom (start : Nat) (exchanges : List Exchange) :
    (droppedFrom start exchanges).map Prod.fst = dropped exchanges := by
  induction exchanges generalizing start with
  | nil => rfl
  | cons e rest ih =>
    rw [droppedFrom, List.map_append, ih, dropped, dropped]
    cases hdropped : e.dropped? <;> simp [hdropped]

/-- Names are dropped after the run begins, and before it ends. -/
theorem le_of_mem_droppedFrom {m : String × Nat} (h : m ∈ droppedFrom start exchanges) :
    start ≤ m.2 ∧ m.2 ≤ start + duration exchanges := by
  induction exchanges generalizing start with
  | nil => cases h
  | cons e rest ih =>
    rw [duration]
    rcases List.mem_append.1 h with hfirst | hrest
    · obtain ⟨name, -, rfl⟩ := Option.map_eq_some_iff.1 (Option.mem_toList.1 hfirst)
      exact ⟨by simp only; omega, by simp only; omega⟩
    · have hlater := ih hrest
      omega

/-- Names are dropped one after the other. -/
theorem pairwise_droppedFrom :
    (droppedFrom start exchanges).Pairwise fun m later => m.2 ≤ later.2 := by
  induction exchanges generalizing start with
  | nil => exact .nil
  | cons e rest ih =>
    refine List.pairwise_append.2 ⟨?_, ih, ?_⟩
    · cases e.dropped? <;> simp
    · intro m hm later hlater
      obtain ⟨name, -, rfl⟩ := Option.map_eq_some_iff.1 (Option.mem_toList.1 hm)
      exact (le_of_mem_droppedFrom hlater).1

end Dropped

section Judge

variable {e : Exchange}

/-- A healing run goes on without the reported name, if it was asked about. -/
theorem judge_heal_eq_without_iff {name : String} :
    judge .heal e.indices e.answer = .without name ↔ e.dropped? = some name := by
  rw [Exchange.dropped?_eq_some_iff]
  unfold judge Exchange.missing?
  cases e.answer with
  | ok response => simp
  | error fault =>
    cases hmissing : fault.missingIndex? with
    | none => simp [hmissing]
    | some reported =>
      by_cases hmem : reported ∈ e.indices
      · simp only [hmissing, hmem, if_true, Verdict.without.injEq, Option.some.injEq]
        constructor
        · rintro rfl
          exact ⟨rfl, hmem⟩
        · exact And.left
      · simp only [hmissing, hmem, if_false, reduceCtorEq, Option.some.injEq, false_iff, not_and]
        rintro rfl
        exact hmem

/-- A healing run that ends with a call drops nothing after it. -/
theorem dropped?_of_judge_heal {result : Except SearchError Execution}
    (h : judge .heal e.indices e.answer = .finished result) : e.dropped? = none := by
  rw [Option.eq_none_iff_forall_ne_some]
  intro name hname
  rw [← judge_heal_eq_without_iff, h] at hname
  simp at hname

variable {candidates : List String} {answer : Answer}

/-- A healing run that ends with a call has a response, or a failure of the database: a fault that
names no missing index, or a name that was not asked about. -/
theorem judge_heal_eq_finished {result : Except SearchError Execution}
    (h : judge .heal candidates answer = .finished result) :
    (∃ response, answer = .ok response ∧ result = .ok (.success response candidates)) ∨
      (∃ fault, answer = .error fault ∧ fault.missingIndex? = none ∧
        result = .error (.database (.call fault))) ∨
      ∃ fault name, answer = .error fault ∧ fault.missingIndex? = some name ∧ name ∉ candidates ∧
        result = .error (.database (.unrequestedIndex name)) := by
  unfold judge at h
  cases answer with
  | ok response =>
    simp only [Verdict.finished.injEq] at h
    exact Or.inl ⟨response, rfl, h.symm⟩
  | error fault =>
    cases hmissing : fault.missingIndex? with
    | none =>
      simp only [hmissing, Verdict.finished.injEq] at h
      exact Or.inr (Or.inl ⟨fault, rfl, hmissing, h.symm⟩)
    | some name =>
      by_cases hmem : name ∈ candidates
      · simp [hmissing, hmem] at h
      · simp only [hmissing, hmem, if_false, Verdict.finished.injEq] at h
        exact Or.inr (Or.inr ⟨fault, name, rfl, hmissing, hmem, h.symm⟩)

end Judge

/-- An exchange that ends a run is all of it. -/
theorem Unfolds.single {candidates : List String} {e : Exchange}
    {result : Except SearchError Execution} (hindices : e.indices = candidates)
    (hne : candidates ≠ []) (h : judge .heal candidates e.answer = .finished result) :
    Unfolds candidates [e] result := by
  refine ⟨hne, hindices, ?_⟩
  rw [h]
  exact ⟨rfl, rfl⟩

/-- An exchange that drops a name comes before a run on the other candidates. -/
theorem Unfolds.drop {candidates : List String} {e : Exchange} {rest : List Exchange}
    {name : String} {result : Except SearchError Execution} (hindices : e.indices = candidates)
    (hname : e.dropped? = some name) (h : Unfolds (candidates.erase name) rest result) :
    Unfolds candidates (e :: rest) result := by
  have hmem : name ∈ e.indices := (Exchange.dropped?_eq_some_iff.1 hname).2
  subst hindices
  refine ⟨List.ne_nil_of_mem hmem, rfl, ?_⟩
  rw [judge_heal_eq_without_iff.2 hname]
  exact h

/-- How a run goes on after its first exchange: it is over, and nothing was dropped, or one of the
candidates was dropped. -/
theorem Unfolds.cons {candidates : List String} {e : Exchange} {rest : List Exchange}
    {result : Except SearchError Execution} (h : Unfolds candidates (e :: rest) result) :
    candidates ≠ [] ∧ e.indices = candidates ∧
      ((e.dropped? = none ∧ rest = [] ∧ judge .heal candidates e.answer = .finished result) ∨
        ∃ name, e.dropped? = some name ∧ name ∈ candidates ∧
          Unfolds (candidates.erase name) rest result) := by
  obtain ⟨hne, rfl, h⟩ := h
  refine ⟨hne, rfl, ?_⟩
  split at h
  · next r hjudge =>
    obtain ⟨rfl, rfl⟩ := h
    exact Or.inl ⟨dropped?_of_judge_heal hjudge, rfl, hjudge⟩
  · next name hjudge =>
    have hname := judge_heal_eq_without_iff.1 hjudge
    exact Or.inr ⟨name, hname, (Exchange.dropped?_eq_some_iff.1 hname).2, h⟩

namespace Unfolds

variable {candidates : List String} {exchanges : List Exchange}
  {result : Except SearchError Execution}

/-- There is a call for each candidate at most, since each call but the last drops one. -/
theorem length_le (h : Unfolds candidates exchanges result) :
    exchanges.length ≤ candidates.length := by
  -- Each exchange but the last leaves one candidate less to the rest of the run.
  induction exchanges generalizing candidates with
  | nil => simp
  | cons e rest ih =>
    obtain ⟨hne, -, ⟨-, rfl, -⟩ | ⟨name, -, hmem, hrest⟩⟩ := h.cons
    · have hpos := List.length_pos_iff.2 hne
      simp only [List.length_cons, List.length_nil]
      omega
    · have hlength := ih hrest
      have hpos := List.length_pos_of_mem hmem
      rw [List.length_erase_of_mem hmem] at hlength
      rw [List.length_cons]
      omega

/-- No call is on more indices than there are candidates. -/
theorem length_indices_le (h : Unfolds candidates exchanges result) :
    ∀ e ∈ exchanges, e.indices.length ≤ candidates.length := by
  induction exchanges generalizing candidates with
  | nil => simp
  | cons e rest ih =>
    obtain ⟨-, rfl, ⟨-, rfl, -⟩ | ⟨name, -, -, hrest⟩⟩ := h.cons
    · simp
    · intro f hf
      rcases List.mem_cons.1 hf with rfl | hf
      · exact Nat.le_refl _
      · exact Nat.le_trans (ih hrest f hf) List.length_erase_le

/-- The first call is on the candidates. -/
theorem head? (h : Unfolds candidates exchanges result) (hne : candidates ≠ []) :
    ∃ e, exchanges.head? = some e ∧ e.indices = candidates := by
  cases exchanges with
  | nil => exact absurd h.1 hne
  | cons e rest => exact ⟨e, rfl, h.2.1⟩

/-- Each call but the first is on the indices of the one before it without the reported name. -/
theorem next {before after : List Exchange} {e f : Exchange}
    (h : Unfolds candidates (before ++ e :: f :: after) result) :
    ∃ name, e.missing? = some name ∧ name ∈ e.indices ∧ f.indices = e.indices.erase name := by
  induction before generalizing candidates with
  | nil =>
    obtain ⟨-, rfl, ⟨-, hrest, -⟩ | ⟨name, hname, -, hrest⟩⟩ := h.cons
    · simp at hrest
    · obtain ⟨hmissing, hmem⟩ := Exchange.dropped?_eq_some_iff.1 hname
      exact ⟨name, hmissing, hmem, hrest.2.1⟩
  | cons b before ih =>
    obtain ⟨-, -, ⟨-, hrest, -⟩ | ⟨name, -, -, hrest⟩⟩ := h.cons
    · simp at hrest
    · exact ih hrest

/-- An exchange after which nothing is dropped is the last one, and decides the result. -/
theorem last {before after : List Exchange} {e : Exchange}
    (h : Unfolds candidates (before ++ e :: after) result) (hnone : e.dropped? = none) :
    after = [] ∧ judge .heal e.indices e.answer = .finished result := by
  induction before generalizing candidates with
  | nil =>
    obtain ⟨-, rfl, ⟨-, rfl, hjudge⟩ | ⟨name, hname, -, -⟩⟩ := h.cons
    · exact ⟨rfl, hjudge⟩
    · rw [hnone] at hname
      simp at hname
  | cons b before ih =>
    obtain ⟨-, -, ⟨-, hrest, -⟩ | ⟨name, -, -, hrest⟩⟩ := h.cons
    · simp at hrest
    · exact ih hrest

/-- A run that is not empty ends with an exchange after which nothing is dropped. -/
theorem exists_last (h : Unfolds candidates exchanges result) (hresult : result ≠ .ok .empty) :
    ∃ before e, exchanges = before ++ [e] ∧ e.dropped? = none ∧
      judge .heal e.indices e.answer = .finished result := by
  induction exchanges generalizing candidates with
  | nil => exact absurd h.2 hresult
  | cons e rest ih =>
    obtain ⟨-, rfl, ⟨hnone, rfl, hjudge⟩ | ⟨name, -, -, hrest⟩⟩ := h.cons
    · exact ⟨[], e, rfl, hnone, hjudge⟩
    · obtain ⟨before, f, rfl, hf⟩ := ih hrest
      exact ⟨e :: before, f, rfl, hf⟩

/-- The dropped names are candidates, each as often as it was dropped. -/
theorem exists_perm (h : Unfolds candidates exchanges result) :
    ∃ left, candidates.Perm (dropped exchanges ++ left) ∧ (left = [] ↔ result = .ok .empty) := by
  induction exchanges generalizing candidates with
  | nil =>
    obtain ⟨rfl, rfl⟩ := h
    exact ⟨[], List.Perm.refl _, by simp⟩
  | cons e rest ih =>
    obtain ⟨hne, rfl, ⟨hnone, rfl, hjudge⟩ | ⟨name, hname, hmem, hrest⟩⟩ := h.cons
    · refine ⟨e.indices, by simp [dropped, hnone], iff_of_false hne ?_⟩
      rintro rfl
      rcases judge_heal_eq_finished hjudge with ⟨_, -, h⟩ | ⟨_, -, -, h⟩ | ⟨_, _, -, -, -, h⟩ <;>
        simp at h
    · -- The name that is dropped first stands before those that the rest of the run drops.
      obtain ⟨left, hperm, hiff⟩ := ih hrest
      refine ⟨left, ?_, hiff⟩
      have hdropped : dropped (e :: rest) = name :: dropped rest := by simp [dropped, hname]
      rw [hdropped, List.cons_append]
      exact (List.perm_cons_erase hmem).trans (hperm.cons name)

end Unfolds

/-- What a run does to the world: its calls are those of the exchanges, the backend has answered
them in their time, and the dropped names are marked in the cache. -/
structure Records {σ : Type} (backend : Backend σ) (timeout : Nat) (question : Question)
    (w w' : World σ) (exchanges : List Exchange) : Prop where
  /-- The backend has answered. -/
  answered : Answered backend timeout question w.backend exchanges w'.backend
  /-- The calls are those of the exchanges. -/
  calls : w'.calls = w.calls ++ exchanges.map fun e => ⟨question, e.indices⟩
  /-- The time is that of the exchanges. -/
  elapsed : w'.elapsed = w.elapsed + duration exchanges
  /-- The dropped names are marked, each when it is dropped. -/
  cache : w'.cache = w.cache.map fun cache => cache.markAll (droppedFrom w.elapsed exchanges)

/-- What an answer means for a strict run over the indices. -/
def verdictOn (indices : List String) : Answer → Except SearchError Execution
  | .ok response => .ok (.success response indices)
  | .error fault =>
    match fault.missingIndex? with
    | none => .error (.database (.call fault))
    | some name => .error (.indexNotFound name)

/-- Every answer ends a strict run. -/
theorem judge_fail (indices : List String) (answer : Answer) :
    judge .fail indices answer = .finished (verdictOn indices answer) := by
  cases answer with
  | ok response => rfl
  | error fault =>
    simp only [judge, verdictOn]
    cases fault.missingIndex? with
    | none => rfl
    | some name => rfl

section Attempt

variable {σ : Type} (backend : Backend σ) (timeout : Nat) (policy : MissingPolicy)
  (question : Question)

/-- The answer to a call on the candidates in a world. -/
def pendingIn (candidates : List String) (w : World σ) : Pending σ :=
  askWithin backend timeout ⟨question, candidates⟩ w.backend

/-- The call on the candidates in a world, and its answer. -/
def exchangeIn (candidates : List String) (w : World σ) : Exchange where
  indices := candidates
  answer := (pendingIn backend timeout question candidates w).answer
  delay := (pendingIn backend timeout question candidates w).delay

/-- The world after the answer to a call on the candidates. -/
def afterAnswer (candidates : List String) (w : World σ) : World σ :=
  (w.called ⟨question, candidates⟩).answered (pendingIn backend timeout question candidates w)

/-- The world after a call on the candidates and the mark of the name that it reported. -/
def afterDrop (candidates : List String) (name : String) (w : World σ) : World σ :=
  (afterAnswer backend timeout question candidates w).marked name

/-- An answer leaves one call more. -/
@[simp]
theorem calls_afterAnswer (candidates : List String) (w : World σ) :
    (afterAnswer backend timeout question candidates w).calls =
      w.calls ++ [⟨question, candidates⟩] := rfl

/-- A call after which a name is dropped is one more. -/
@[simp]
theorem calls_afterDrop (candidates : List String) (name : String) (w : World σ) :
    (afterDrop backend timeout question candidates name w).calls =
      w.calls ++ [⟨question, candidates⟩] := rfl

/-- Without candidates there is nothing to ask. -/
theorem attempt_nil (patience : Option Nat) (w : World σ) :
    attempt backend timeout policy question patience [] w = (.ok .empty, w) := by
  unfold attempt
  rw [if_pos rfl]

variable {candidates : List String} {w : World σ}

/-- A run that an answer ends. -/
theorem attempt_of_finished {result : Except SearchError Execution} (hne : candidates ≠ [])
    (h : judge policy candidates (pendingIn backend timeout question candidates w).answer =
      .finished result) :
    attempt backend timeout policy question none candidates w =
      (result, afterAnswer backend timeout question candidates w) := by
  unfold attempt
  simp only [hne, if_false, givesUp, Bool.false_eq_true]
  split
  · next r hjudge =>
    rw [pendingIn, hjudge, Verdict.finished.injEq] at h
    rw [h]
    rfl
  · next name hjudge =>
    rw [pendingIn, hjudge] at h
    simp at h

/-- A run that goes on after an answer. -/
theorem attempt_of_without {name : String} (hne : candidates ≠ [])
    (h : judge policy candidates (pendingIn backend timeout question candidates w).answer =
      .without name) :
    attempt backend timeout policy question none candidates w =
      attempt backend timeout policy question none (candidates.erase name)
        (afterDrop backend timeout question candidates name w) := by
  -- One unfolding only: the run that goes on is another attempt.
  rw [attempt]
  simp only [hne, if_false, givesUp, Bool.false_eq_true]
  split
  · next r hjudge =>
    rw [pendingIn, hjudge] at h
    simp at h
  · next name' hjudge =>
    rw [pendingIn, hjudge, Verdict.without.injEq] at h
    rw [h]
    rfl

/-- Every run of a caller who does not give up has exchanges, whatever the backend does. -/
theorem exists_unfolds_attempt (candidates : List String) (w : World σ) :
    ∃ exchanges,
      Unfolds candidates exchanges
        (attempt backend timeout .heal question none candidates w).1 ∧
      Records backend timeout question w
        (attempt backend timeout .heal question none candidates w).2 exchanges := by
  -- The run is followed from call to call; the measure is the number of candidates.
  induction hn : candidates.length using Nat.strongRecOn generalizing candidates w with
  | ind n ih =>
    by_cases hne : candidates = []
    · subst hne
      rw [attempt_nil]
      refine ⟨[], ⟨rfl, rfl⟩, rfl, by simp, rfl, ?_⟩
      exact Option.map_id'.symm
    · cases hjudge : judge .heal candidates
          (pendingIn backend timeout question candidates w).answer with
      | finished result =>
        rw [attempt_of_finished backend timeout .heal question hne hjudge]
        have hnone : (exchangeIn backend timeout question candidates w).dropped? = none :=
          dropped?_of_judge_heal hjudge
        refine ⟨[exchangeIn backend timeout question candidates w], .single rfl hne hjudge,
          ⟨⟨rfl, rfl⟩, rfl⟩, rfl, rfl, ?_⟩
        rw [droppedFrom, hnone]
        exact Option.map_id'.symm
      | without name =>
        rw [attempt_of_without backend timeout .heal question hne hjudge]
        have hdropped : (exchangeIn backend timeout question candidates w).dropped? = some name :=
          judge_heal_eq_without_iff.1 hjudge
        have hmem : name ∈ candidates := (Exchange.dropped?_eq_some_iff.1 hdropped).2
        have hlt : (candidates.erase name).length < n := by
          have hpos := List.length_pos_of_mem hmem
          rw [List.length_erase_of_mem hmem]
          omega
        obtain ⟨rest, hunfolds, hrecords⟩ := ih _ hlt _
          (afterDrop backend timeout question candidates name w) rfl
        refine ⟨exchangeIn backend timeout question candidates w :: rest,
          .drop rfl hdropped hunfolds, ⟨⟨rfl, rfl⟩, hrecords.answered⟩, ?_, ?_, ?_⟩
        · rw [hrecords.calls, calls_afterDrop, List.map_cons, List.append_assoc]
          rfl
        · have hstart : (afterDrop backend timeout question candidates name w).elapsed =
              w.elapsed + (exchangeIn backend timeout question candidates w).delay := rfl
          rw [hrecords.elapsed, hstart, duration, Nat.add_assoc]
        · -- The first name is marked at the time at which the rest of the run begins.
          have hcache : (afterDrop backend timeout question candidates name w).cache =
              w.cache.map fun cache => (cache.asOf
                (afterDrop backend timeout question candidates name w).elapsed).mark name :=
            Option.map_map _ _ _
          rw [hrecords.cache, hcache, Option.map_map, droppedFrom, hdropped]
          rfl

/-- Without a cache a run begins with all of its indices. -/
theorem execute_uncached (hcache : w.cache = none) (patience : Option Nat)
    (indices : List String) :
    execute backend timeout policy question patience indices w =
      attempt backend timeout policy question patience indices w := by
  unfold execute Run.candidates World.cacheNow
  rw [hcache]
  cases policy <;> rfl

/-- A strict run ends with the first answer. -/
theorem exists_attempt_fail (hne : candidates ≠ []) :
    ∃ result,
      judge .fail candidates (pendingIn backend timeout question candidates w).answer =
        .finished result ∧
      attempt backend timeout .fail question none candidates w =
        (result, afterAnswer backend timeout question candidates w) :=
  ⟨_, judge_fail candidates _,
    attempt_of_finished backend timeout .fail question hne (judge_fail candidates _)⟩

/-- A run on candidates begins with a call on all of them. -/
theorem exists_calls_attempt (hne : candidates ≠ []) :
    ∃ later, (attempt backend timeout policy question none candidates w).2.calls =
      w.calls ++ ⟨question, candidates⟩ :: later := by
  cases policy with
  | fail =>
    obtain ⟨result, -, hattempt⟩ :=
      exists_attempt_fail backend timeout question (w := w) hne
    rw [hattempt]
    exact ⟨[], rfl⟩
  | heal =>
    obtain ⟨exchanges, hunfolds, hrecords⟩ :=
      exists_unfolds_attempt backend timeout question candidates w
    obtain ⟨e, hhead, hindices⟩ := hunfolds.head? hne
    obtain ⟨rest, rfl⟩ := List.head?_eq_some_iff.1 hhead
    rw [hrecords.calls, List.map_cons, hindices]
    exact ⟨_, rfl⟩

end Attempt

/-- Whether an index is known to be missing. -/
def isKnown (cache : Option MissingCache) (index : String) : Bool := cache.any (·.has index)

/-- The indices that are not known to be missing, in order. -/
def unknown (cache : Option MissingCache) (indices : List String) : List String :=
  indices.filter fun i => !isKnown cache i

/-- A healing run begins with the indices that are not known to be missing. -/
theorem candidates_heal (cache : Option MissingCache) (indices : List String) :
    candidates .heal cache indices = unknown cache indices := by
  unfold unknown
  cases cache with
  | none => exact (List.filter_eq_self.2 fun _ _ => rfl).symm
  | some cache => rfl

/-- What is known at the present time is what the cache knows then. -/
theorem isKnown_cacheNow {σ : Type} {w : World σ} {cache : MissingCache} (h : w.cache = some cache)
    (i : String) : isKnown w.cacheNow i = (cache.asOf w.elapsed).has i := by
  rw [isKnown, World.cacheNow, h]
  rfl

namespace Records

variable {σ : Type} {backend : Backend σ} {timeout : Nat} {question : Question} {w w' : World σ}
  {exchanges : List Exchange}

/-- A run does not go back in time. -/
theorem elapsed_le (h : Records backend timeout question w w' exchanges) :
    w.elapsed ≤ w'.elapsed := by
  rw [h.elapsed]
  exact Nat.le_add_right _ _

/-- After a run the cache has been told of the dropped names. -/
theorem cache_eq (h : Records backend timeout question w w' exchanges) {cache : MissingCache}
    (hcache : w.cache = some cache) :
    w'.cache = some (cache.markAll (droppedFrom w.elapsed exchanges)) := by
  rw [h.cache, hcache]
  rfl

/-- A run without a cache leaves none. -/
theorem cache_eq_none (h : Records backend timeout question w w' exchanges)
    (hnone : w.cache = none) : w'.cache = none := by
  rw [h.cache, hnone]
  rfl

/-- After a run nothing is known but what was known before and the dropped names. -/
theorem isKnown_imp (h : Records backend timeout question w w' exchanges) (i : String)
    (hknown : isKnown w'.cacheNow i = true) :
    isKnown w.cacheNow i = true ∨ i ∈ dropped exchanges := by
  cases hcache : w.cache with
  | none =>
    rw [isKnown, World.cacheNow, h.cache_eq_none hcache] at hknown
    cases hknown
  | some cache =>
    rw [isKnown_cacheNow (h.cache_eq hcache)] at hknown
    rw [isKnown_cacheNow hcache]
    rcases MissingCache.has_markAll hknown with hdropped | hbefore
    · rw [map_fst_droppedFrom] at hdropped
      exact Or.inr hdropped
    · exact Or.inl (MissingCache.has_asOf_of_le h.elapsed_le hbefore)

/-- After a run with a cache that is not crowded and drops unknown names only, just those names are
known that would be anyway, and the dropped ones whose lifetime is not over. -/
theorem isKnown_iff (h : Records backend timeout question w w' exchanges)
    (hdropped : ∀ name ∈ dropped exchanges, isKnown w.cacheNow name = false)
    {cache : MissingCache} (hcache : w.cache = some cache)
    (hroom : (cache.markAll (droppedFrom w.elapsed exchanges)).isCrowded = false) (i : String) :
    isKnown w'.cacheNow i = true ↔
      (cache.asOf w'.elapsed).has i = true ∨ ∃ time, (i, time) ∈ droppedFrom w.elapsed exchanges ∧
        (cache.asOf w'.elapsed).isExpired time = false := by
  rw [isKnown_cacheNow (h.cache_eq hcache)]
  refine MissingCache.has_markAll_iff hroom pairwise_droppedFrom ?_
  -- What is dropped was not known before, and so it is not known anyway.
  intro m hm hstill
  have hmem : m.1 ∈ dropped exchanges := by
    rw [← map_fst_droppedFrom w.elapsed]
    exact List.mem_map_of_mem hm
  have hunknown := hdropped m.1 hmem
  rw [isKnown_cacheNow hcache, MissingCache.has_asOf_of_le h.elapsed_le hstill] at hunknown
  cases hunknown

/-- If such a run is shorter than the lifetime of a name, all dropped names are known after it. -/
theorem isKnown_iff_of_short (h : Records backend timeout question w w' exchanges)
    (hdropped : ∀ name ∈ dropped exchanges, isKnown w.cacheNow name = false)
    {cache : MissingCache} (hcache : w.cache = some cache)
    (hroom : (cache.markAll (droppedFrom w.elapsed exchanges)).isCrowded = false)
    (hshort : ∀ span, cache.lifetime = some span → duration exchanges < span) (i : String) :
    isKnown w'.cacheNow i = true ↔
      (cache.asOf w'.elapsed).has i = true ∨ i ∈ dropped exchanges := by
  have hfresh : ∀ m ∈ droppedFrom w.elapsed exchanges,
      (cache.asOf w'.elapsed).isExpired m.2 = false := by
    intro m hm
    rw [MissingCache.isExpired_eq_false_iff]
    intro span hspan
    have hlong := hshort span hspan
    have hbounds := le_of_mem_droppedFrom hm
    have hend := h.elapsed
    show w'.elapsed < m.2 + span
    omega
  rw [h.isKnown_iff hdropped hcache hroom, ← map_fst_droppedFrom w.elapsed, List.mem_map]
  refine or_congr Iff.rfl ⟨?_, ?_⟩
  · rintro ⟨time, hmem, -⟩
    exact ⟨(i, time), hmem, rfl⟩
  · rintro ⟨m, hm, rfl⟩
    exact ⟨m.2, hm, hfresh m hm⟩

end Records

/-- What holds of the calls, the result and the cache of a healing run with the exchanges. The run
is about the indices, begins in the world `w`, and ends in the world `w'` with the result. -/
structure Healed {σ : Type} (backend : Backend σ) (timeout : Nat) (question : Question)
    (indices : List String) (w w' : World σ) (result : Except SearchError Execution)
    (exchanges : List Exchange) : Prop where
  /-- The backend has answered the calls one after the other. -/
  answered : Answered backend timeout question w.backend exchanges w'.backend
  /-- The calls are those of the exchanges. -/
  calls : w'.calls = w.calls ++ exchanges.map fun e => ⟨question, e.indices⟩
  /-- There is a call for each index that is not known to be missing at most. -/
  length_le : exchanges.length ≤ (unknown w.cacheNow indices).length
  /-- If all are known to be missing there is no call, and the result is empty. -/
  no_call : unknown w.cacheNow indices = [] → exchanges = [] ∧ result = .ok .empty
  /-- Otherwise there is a call, and the first one is on those that are not known to be missing. -/
  first : unknown w.cacheNow indices ≠ [] →
    ∃ e, exchanges.head? = some e ∧ e.indices = unknown w.cacheNow indices
  /-- Each other call is on the indices of the one before it without one occurrence of the name
  that was reported then. -/
  next : ∀ before e f after, exchanges = before ++ e :: f :: after →
    ∃ name, e.missing? = some name ∧ name ∈ e.indices ∧ f.indices = e.indices.erase name
  /-- A success has the response and the indices of the last call. -/
  success_iff : ∀ response covered, result = .ok (.success response covered) ↔
    ∃ before e, exchanges = before ++ [e] ∧ e.answer = .ok response ∧ e.indices = covered
  /-- The result is empty exactly when every index that was not known to be missing was dropped, as
  often as it occurs. -/
  empty_iff : result = .ok .empty ↔ (dropped exchanges).Perm (unknown w.cacheNow indices)
  /-- A fault that names no missing index ends the run. -/
  unnamed : ∀ before e after fault, exchanges = before ++ e :: after → e.answer = .error fault →
    e.missing? = none → after = [] ∧ result = .error (.database (.call fault))
  /-- A report of an index that was not asked about ends the run. -/
  unrequested : ∀ before e after name, exchanges = before ++ e :: after →
    e.missing? = some name → name ∉ e.indices →
    after = [] ∧ result = .error (.database (.unrequestedIndex name))
  /-- A failure comes from such a fault or such a report in the last call. -/
  failure : ∀ error, result = .error error →
    ∃ before e fault, exchanges = before ++ [e] ∧ e.answer = .error fault ∧
      ∀ name, e.missing? = some name → name ∉ e.indices
  /-- The time of the run is that of its exchanges. -/
  elapsed : w'.elapsed = w.elapsed + duration exchanges
  /-- A run without a cache leaves none. -/
  uncached : w.cache = none → w'.cache = none
  /-- A run with a cache tells it of the dropped names, each when it is dropped, and changes nothing
  else in it. -/
  told : ∀ cache, w.cache = some cache →
    w'.cache = some (cache.markAll (droppedFrom w.elapsed exchanges))
  /-- What is known to be missing after the run was known before it, or has been dropped. -/
  added : ∀ i, isKnown w'.cacheNow i = true →
    isKnown w.cacheNow i = true ∨ i ∈ dropped exchanges
  /-- If the cache has room for all names that it has been told of, just those are known after the
  run that would be known anyway, and the dropped ones whose lifetime is not over. -/
  kept : ∀ cache, w.cache = some cache →
    (cache.markAll (droppedFrom w.elapsed exchanges)).isCrowded = false →
    ∀ i, isKnown w'.cacheNow i = true ↔
      (cache.asOf w'.elapsed).has i = true ∨ ∃ time, (i, time) ∈ droppedFrom w.elapsed exchanges ∧
        (cache.asOf w'.elapsed).isExpired time = false
  /-- If besides the run is shorter than the lifetime of a name, these are all the dropped ones. -/
  cached : ∀ cache, w.cache = some cache →
    (cache.markAll (droppedFrom w.elapsed exchanges)).isCrowded = false →
    (∀ span, cache.lifetime = some span → duration exchanges < span) →
    ∀ i, isKnown w'.cacheNow i = true ↔
      (cache.asOf w'.elapsed).has i = true ∨ i ∈ dropped exchanges

namespace Unfolds

variable {candidates : List String} {exchanges : List Exchange}
  {result : Except SearchError Execution}

/-- A run succeeds exactly when its last answer is a response. -/
theorem success_iff (h : Unfolds candidates exchanges result) (response : Json)
    (covered : List String) : result = .ok (.success response covered) ↔
      ∃ before e, exchanges = before ++ [e] ∧ e.answer = .ok response ∧ e.indices = covered := by
  constructor
  · rintro rfl
    obtain ⟨before, e, he, -, hjudge⟩ := h.exists_last (by simp)
    rcases judge_heal_eq_finished hjudge with ⟨r, hr, heq⟩ | ⟨_, -, -, heq⟩ | ⟨_, _, -, -, -, heq⟩
    · simp only [Except.ok.injEq, Execution.success.injEq] at heq
      obtain ⟨rfl, rfl⟩ := heq
      exact ⟨before, e, he, hr, rfl⟩
    · simp at heq
    · simp at heq
  · rintro ⟨before, e, rfl, hr, rfl⟩
    have hnone : e.dropped? = none := by simp [Exchange.dropped?, Exchange.missing?, hr]
    obtain ⟨-, hjudge⟩ := h.last hnone
    rw [hr] at hjudge
    simp only [judge, Verdict.finished.injEq] at hjudge
    exact hjudge.symm

/-- A run is empty exactly when all candidates were dropped. -/
theorem empty_iff (h : Unfolds candidates exchanges result) :
    result = .ok .empty ↔ (dropped exchanges).Perm candidates := by
  obtain ⟨left, hperm, hleft⟩ := h.exists_perm
  rw [← hleft]
  constructor
  · rintro rfl
    rw [List.append_nil] at hperm
    exact hperm.symm
  · -- If the dropped names are all candidates, their number leaves none over.
    intro hall
    have hlength := (hall.trans hperm).length_eq
    rw [List.length_append] at hlength
    exact List.eq_nil_of_length_eq_zero (by omega)

/-- A fault that names no missing index ends a run. -/
theorem unnamed {before after : List Exchange} {e : Exchange} {fault : BackendFault}
    (h : Unfolds candidates (before ++ e :: after) result) (hfault : e.answer = .error fault)
    (hmissing : e.missing? = none) :
    after = [] ∧ result = .error (.database (.call fault)) := by
  obtain ⟨hafter, hjudge⟩ := h.last (by simp [Exchange.dropped?, hmissing])
  simp only [Exchange.missing?, hfault] at hmissing
  rw [hfault] at hjudge
  simp only [judge, hmissing, Verdict.finished.injEq] at hjudge
  exact ⟨hafter, hjudge.symm⟩

/-- A report of an index that was not asked about ends a run. -/
theorem unrequested {before after : List Exchange} {e : Exchange} {name : String}
    (h : Unfolds candidates (before ++ e :: after) result) (hmissing : e.missing? = some name)
    (hmem : name ∉ e.indices) :
    after = [] ∧ result = .error (.database (.unrequestedIndex name)) := by
  obtain ⟨hafter, hjudge⟩ := h.last (by simp [Exchange.dropped?, hmissing, hmem])
  refine ⟨hafter, ?_⟩
  unfold Exchange.missing? at hmissing
  split at hmissing
  · simp at hmissing
  · next fault hfault =>
    rw [hfault] at hjudge
    simp only [judge, hmissing, hmem, if_false, Verdict.finished.injEq] at hjudge
    exact hjudge.symm

/-- A run fails only with such a fault or such a report in its last call. -/
theorem failure {error : SearchError} (h : Unfolds candidates exchanges (.error error)) :
    ∃ before e fault, exchanges = before ++ [e] ∧ e.answer = .error fault ∧
      ∀ name, e.missing? = some name → name ∉ e.indices := by
  obtain ⟨before, e, he, hnone, hjudge⟩ := h.exists_last (by simp)
  have hname : ∀ name, e.missing? = some name → name ∉ e.indices := by
    intro name hmissing hmem
    rw [Exchange.dropped?_eq_some_iff.2 ⟨hmissing, hmem⟩] at hnone
    simp at hnone
  rcases judge_heal_eq_finished hjudge with ⟨_, -, heq⟩ | ⟨fault, hf, -, -⟩ | ⟨fault, _, hf, -, -, -⟩
  · simp at heq
  · exact ⟨before, e, fault, he, hf, hname⟩
  · exact ⟨before, e, fault, he, hf, hname⟩

end Unfolds

/-- Every healing run of a caller who does not give up is such a run, whatever the backend does. -/
theorem healed_execute {σ : Type} (backend : Backend σ) (timeout : Nat) (question : Question)
    (indices : List String) (w : World σ) :
    ∃ exchanges,
      Healed backend timeout question indices w
        (execute backend timeout .heal question none indices w).2
        (execute backend timeout .heal question none indices w).1 exchanges := by
  unfold execute
  rw [candidates_heal]
  -- What is said of the calls and the result follows from the exchanges alone.
  obtain ⟨exchanges, hunfolds, hrecords⟩ := exists_unfolds_attempt backend timeout question
    (unknown w.cacheNow indices) w
  -- What a run drops is one of its candidates, none of which is known.
  have hdropped : ∀ name ∈ dropped exchanges, isKnown w.cacheNow name = false := by
    intro name hname
    obtain ⟨left, hperm, -⟩ := hunfolds.exists_perm
    have hmem : name ∈ unknown w.cacheNow indices :=
      hperm.mem_iff.2 (List.mem_append_left _ hname)
    simpa using (List.mem_filter.1 hmem).2
  refine ⟨exchanges, hrecords.answered, hrecords.calls, hunfolds.length_le, ?_, hunfolds.head?, ?_,
    hunfolds.success_iff, hunfolds.empty_iff, ?_, ?_, ?_, hrecords.elapsed,
    hrecords.cache_eq_none, fun _ => hrecords.cache_eq, hrecords.isKnown_imp,
    fun _ => hrecords.isKnown_iff hdropped, fun _ => hrecords.isKnown_iff_of_short hdropped⟩
  · intro hnil
    have hlength := hunfolds.length_le
    rw [hnil] at hlength ⊢
    rw [attempt_nil]
    exact ⟨List.eq_nil_of_length_eq_zero (Nat.le_zero.1 hlength), rfl⟩
  · rintro before e f after rfl
    exact hunfolds.next
  · rintro before e after fault rfl
    exact hunfolds.unnamed
  · rintro before e after name rfl
    exact hunfolds.unrequested
  · intro error herror
    rw [herror] at hunfolds
    exact hunfolds.failure

/-- With room for one name, a dropped name is known after the run until its second is over. -/
example :
    let cache := MissingCache.bounded 1 1 fun _ _ => none
    let w : World Store :=
      { backend := { Store.withIndex "b" {} with latency := 600 }, cache := some cache }
    let ended := execute Store.backend 1000 .heal .mapping none ["a", "b"] w
    ended.2.calls.map Call.indices = [["a", "b"], ["b"]] ∧
      isKnown ended.2.cacheNow "a" = true ∧ isKnown (ended.2.after 400).cacheNow "a" = false := by
  decide +kernel

/-- Settings for a cache without room. -/
def roomless : Settings := { cacheCapacity := 0 }

/-- A world with an empty store and a cache without room. -/
def roomlessWorld : World Store where
  backend := {}
  cache := some (.bounded 0 300 fun _ _ => none)

/-- Settings with a cache without room are accepted. A run with this cache drops a missing index,
and the cache does not know it afterwards. -/
theorem not_kept_without_room :
    let ended := execute Store.backend roomless.timeout .heal .mapping none ["a"] roomlessWorld
    roomless.check = .ok () ∧
      Service.freshCache roomless (fun _ _ => none) = .ok roomlessWorld.cache ∧
      ended.1 = .ok .empty ∧ ended.2.calls = [⟨.mapping, ["a"]⟩] ∧
      ¬ ∀ i, isKnown ended.2.cacheNow i = true ↔
        isKnown roomlessWorld.cacheNow i = true ∨ i = "a" := by
  intro ended
  have hdrop : judge .heal ["a"]
      (pendingIn Store.backend roomless.timeout .mapping ["a"] roomlessWorld).answer =
        .without "a" := by
    let reported : Exchange := ⟨["a"], .error (Store.missingFault "a"), 0⟩
    have hdropped : reported.dropped? = some "a" := by decide +kernel
    exact judge_heal_eq_without_iff.2 hdropped
  have hended : ended = (.ok .empty,
      afterDrop Store.backend roomless.timeout .mapping ["a"] "a" roomlessWorld) := by
    have hnext := attempt_of_without Store.backend roomless.timeout .heal .mapping
      (List.cons_ne_nil "a" []) hdrop
    rw [List.erase_cons_head, attempt_nil] at hnext
    exact hnext
  rw [hended]
  refine ⟨rfl, rfl, rfl, rfl, fun hall => ?_⟩
  have hknown := (hall "a").2 (Or.inr rfl)
  -- The name is marked, but there is no room for it.
  obtain ⟨cache, hcache, hcapacity⟩ : ∃ cache,
      (afterDrop Store.backend roomless.timeout .mapping ["a"] "a" roomlessWorld).cacheNow =
        some cache ∧ cache.capacity = some 0 := ⟨_, rfl, rfl⟩
  rw [hcache, isKnown, Option.any_some, MissingCache.has_of_noRoom hcapacity] at hknown
  cases hknown

end Run

end CrashQuery

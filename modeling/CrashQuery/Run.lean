import CrashQuery.Backend.Basic
import CrashQuery.Backend.Missing
import CrashQuery.Error
import CrashQuery.MissingCache

/-!
# Runs over indices that may be missing

A run asks the backend about a list of indices. When an index is reported missing, a healing run
drops it and asks again, so that the list grows shorter with every call; a strict run fails. What a
call means for the run is decided by `Run.judge`, and `Run.attempt` makes the calls.
-/

namespace CrashQuery

/-- What a run does about a missing index. -/
inductive MissingPolicy where
  /-- It goes on without it. -/
  | heal
  /-- It fails. -/
  | fail
  deriving DecidableEq

/-- The end of a run that did not fail. -/
inductive Execution where
  /-- The response, and the indices that it covers. -/
  | success (response : Json) (indices : List String)
  /-- All indices are missing. -/
  | empty

/-- What surrounds a run: the backend, the cache if there is one, the calls made so far, and the
time that has passed. Only calls take time. -/
structure World (σ : Type) where
  /-- The state of the backend. -/
  backend : σ
  /-- The cache of missing indices. -/
  cache : Option MissingCache := none
  /-- The calls in order. -/
  calls : List Call := []
  /-- The milliseconds that have passed. -/
  elapsed : Nat := 0

namespace World

variable {σ : Type}

/-- The world after a call that has not been answered. -/
def called (w : World σ) (call : Call) : World σ := { w with calls := w.calls ++ [call] }

/-- The world some milliseconds later. -/
def after (w : World σ) (ms : Nat) : World σ := { w with elapsed := w.elapsed + ms }

/-- The world after the answer to a call. -/
def answered (w : World σ) (pending : Pending σ) : World σ :=
  { w.after pending.delay with backend := pending.state }

/-- The cache at the present time. -/
def cacheNow (w : World σ) : Option MissingCache := w.cache.map (·.asOf w.elapsed)

/-- The world in which the cache remembers that an index is missing. -/
def marked (w : World σ) (name : String) : World σ :=
  { w with cache := w.cacheNow.map (·.mark name) }

end World

/-- The stages of a run. -/
inductive Stage where
  /-- About to call the backend on so many indices. -/
  | ready (count : Nat)
  /-- Waiting for the backend. -/
  | executing
  /-- The backend has answered. -/
  | success
  /-- An index was reported missing. -/
  | missing (name : String)
  /-- No index is left. -/
  | empty
  /-- The run has failed. -/
  | fatal

/-- The stage in words. -/
def Stage.label : Stage → String
  | .ready count => "ready(" ++ toString count ++ " indices)"
  | .executing => "executing"
  | .success => "success"
  | .missing name => "missing-index(" ++ name ++ ")"
  | .empty => "empty"
  | .fatal => "fatal"

namespace Run

/-- What an answer means for a run. -/
inductive Verdict where
  /-- The run ends. -/
  | finished (result : Except SearchError Execution)
  /-- The run goes on without the index. -/
  | without (missing : String)

/-- What the answer to a call on the candidates means. -/
def judge (policy : MissingPolicy) (candidates : List String) : Answer → Verdict
  | .ok response => .finished (.ok (.success response candidates))
  | .error fault =>
    match fault.missingIndex? with
    | none => .finished (.error (.database (.call fault)))
    | some name =>
      match policy with
      | .fail => .finished (.error (.indexNotFound name))
      | .heal =>
        if name ∈ candidates then .without name
        else .finished (.error (.database (.unrequestedIndex name)))

/-- A run goes on only without one of its candidates. -/
theorem mem_of_judge_eq_without {policy : MissingPolicy} {candidates : List String}
    {answer : Answer} {name : String} (h : judge policy candidates answer = .without name) :
    name ∈ candidates := by
  unfold judge at h
  split at h
  · simp at h
  · split at h
    · simp at h
    · split at h
      · simp at h
      · split at h
        · next hmem =>
          simp only [Verdict.without.injEq] at h
          exact h ▸ hmem
        · simp at h

/-- A call with a limit on its time: after `timeout` milliseconds it has failed. -/
def askWithin {σ : Type} (backend : Backend σ) (timeout : Nat) (call : Call) (state : σ) :
    Pending σ :=
  let pending := backend.ask call state
  if pending.delay ≤ timeout then pending
  else ⟨timeout, .error (.timedOut timeout), state⟩

/-- Whether someone with so many milliseconds left gives up before the delay is over. -/
def givesUp (patience : Option Nat) (delay : Nat) : Bool :=
  match patience with
  | some left => decide (left ≤ delay)
  | none => false

/-- Asks about the candidates until the run ends; the caller gives up after `patience`
milliseconds. -/
def attempt {σ : Type} (backend : Backend σ) (timeout : Nat) (policy : MissingPolicy)
    (question : Question) (patience : Option Nat) (candidates : List String) (w : World σ) :
    Except SearchError Execution × World σ :=
  if candidates = [] then (.ok .empty, w)
  else
    let call : Call := ⟨question, candidates⟩
    let pending := askWithin backend timeout call w.backend
    let called := w.called call
    -- A call that is given up has been made, but has not changed the backend.
    if givesUp patience pending.delay then (.error .cancelled, called.after (patience.getD 0))
    else
      let answered := called.answered pending
      match _h : judge policy candidates pending.answer with
      | .finished result => (result, answered)
      | .without name =>
        attempt backend timeout policy question (patience.map (· - pending.delay))
          (candidates.erase name) (answered.marked name)
termination_by candidates.length
decreasing_by
  have hmem := mem_of_judge_eq_without _h
  have hpos := List.length_pos_of_mem hmem
  rw [List.length_erase_of_mem hmem]
  omega

/-- The indices that a run begins with: a healing run leaves out those known to be missing. -/
def candidates (policy : MissingPolicy) (cache : Option MissingCache) (indices : List String) :
    List String :=
  match policy, cache with
  | .heal, some cache => cache.keepPresent indices
  | _, _ => indices

/-- A run over the indices. -/
def execute {σ : Type} (backend : Backend σ) (timeout : Nat) (policy : MissingPolicy)
    (question : Question) (patience : Option Nat) (indices : List String) (w : World σ) :
    Except SearchError Execution × World σ :=
  attempt backend timeout policy question patience (candidates policy w.cacheNow indices) w

end Run

end CrashQuery

import CrashQuery.Proofs.Run.History
import Mathlib.Logic.Function.Iterate

/-!
# Healing runs in small steps

A run that shares its world with others is taken apart into steps between which the others may act:
a look-up of one index in the cache, a call of the backend, and a mark of one name. `Process.step`
takes one of them, and `Process.exists_iterate_start` shows that the steps of a process that is
alone are `Run.execute`. Each step lowers `Phase.work`, so that a process ends after a bounded
number of its own steps, whatever the others do.
-/

namespace CrashQuery

namespace Run

/-- What a healing run is about. -/
structure Job where
  /-- What is asked. -/
  question : Question
  /-- The indices that are asked. -/
  indices : List String

/-- Where a healing run stands. -/
inductive Phase where
  /-- It looks up the rest of its indices, and keeps those that are not known to be missing. -/
  | checking (kept rest : List String)
  /-- It calls the backend on the candidates next. -/
  | calling (candidates : List String)
  /-- It marks a name next, and goes on with the candidates. -/
  | marking (name : String) (candidates : List String)
  /-- It is over. -/
  | ended (result : Except SearchError Execution)

/-- The greatest number of steps that are left. -/
def Phase.work : Phase → Nat
  | .checking kept rest => 2 * (kept.length + rest.length) + rest.length + 2
  | .calling candidates => 2 * candidates.length + 1
  | .marking _ candidates => 2 * candidates.length + 2
  | .ended _ => 0

/-- Only a run that is over has no work left. -/
theorem Phase.exists_ended {phase : Phase} (h : phase.work = 0) :
    ∃ result, phase = .ended result := by
  cases phase with
  | ended result => exact ⟨result, rfl⟩
  | _ => simp [work] at h

/-- A healing run among others. -/
structure Process where
  /-- What it is about. -/
  job : Job
  /-- Where it stands. -/
  phase : Phase
  /-- Its exchanges with the backend so far. -/
  exchanges : List Exchange := []

/-- The process at its beginning. -/
def Process.start (job : Job) : Process := ⟨job, .checking [] job.indices, []⟩

/-- The work of a process at its beginning: three steps for each index at most, and two. -/
theorem Process.work_start (job : Job) :
    (Process.start job).phase.work = 3 * job.indices.length + 2 := by
  simp only [start, Phase.work, List.length_nil]
  omega

/-- Where a run stands after an answer to a call on the candidates. -/
def phaseAfter (candidates : List String) (answer : Answer) : Phase :=
  match judge .heal candidates answer with
  | .finished result => .ended result
  | .without name => .marking name (candidates.erase name)

namespace Process

variable {σ : Type} (backend : Backend σ) (timeout : Nat)

/-- The next step of a process in the world that it shares. -/
def step (p : Process) (w : World σ) : Process × World σ :=
  match p.phase with
  | .checking kept [] => ({ p with phase := .calling kept }, w)
  | .checking kept (i :: rest) =>
    ({ p with phase := .checking (if isKnown w.cacheNow i then kept else kept ++ [i]) rest }, w)
  | .calling [] => ({ p with phase := .ended (.ok .empty) }, w)
  | .calling candidates =>
    let answer := (pendingIn backend timeout p.job.question candidates w).answer
    (⟨p.job, phaseAfter candidates answer,
        p.exchanges ++ [exchangeIn backend timeout p.job.question candidates w]⟩,
      afterAnswer backend timeout p.job.question candidates w)
  | .marking name candidates => ({ p with phase := .calling candidates }, w.marked name)
  | .ended _ => (p, w)

/-- What a step can do to a process and to its world. -/
inductive Moves : Process → World σ → Process → World σ → Prop where
  /-- A known index is left out. -/
  | skip {job kept i rest exchanges w} (h : isKnown w.cacheNow i = true) :
    Moves ⟨job, .checking kept (i :: rest), exchanges⟩ w ⟨job, .checking kept rest, exchanges⟩ w
  /-- An unknown index is kept. -/
  | keep {job kept i rest exchanges w} (h : isKnown w.cacheNow i = false) :
    Moves ⟨job, .checking kept (i :: rest), exchanges⟩ w
      ⟨job, .checking (kept ++ [i]) rest, exchanges⟩ w
  /-- All indices have been looked up. -/
  | checked {job kept exchanges w} :
    Moves ⟨job, .checking kept [], exchanges⟩ w ⟨job, .calling kept, exchanges⟩ w
  /-- No candidate is left. -/
  | stop {job exchanges w} :
    Moves ⟨job, .calling [], exchanges⟩ w ⟨job, .ended (.ok .empty), exchanges⟩ w
  /-- A call ends the run. -/
  | finish {job candidates exchanges w result} (hne : candidates ≠ [])
    (hjudge : judge .heal candidates
      (pendingIn backend timeout job.question candidates w).answer = .finished result) :
    Moves ⟨job, .calling candidates, exchanges⟩ w
      ⟨job, .ended result, exchanges ++ [exchangeIn backend timeout job.question candidates w]⟩
      (afterAnswer backend timeout job.question candidates w)
  /-- A call reports one of its candidates, which is dropped. -/
  | drop {job candidates exchanges w name} (hne : candidates ≠ [])
    (hjudge : judge .heal candidates
      (pendingIn backend timeout job.question candidates w).answer = .without name) :
    Moves ⟨job, .calling candidates, exchanges⟩ w
      ⟨job, .marking name (candidates.erase name),
        exchanges ++ [exchangeIn backend timeout job.question candidates w]⟩
      (afterAnswer backend timeout job.question candidates w)
  /-- A dropped name is marked. -/
  | mark {job name candidates exchanges w} :
    Moves ⟨job, .marking name candidates, exchanges⟩ w ⟨job, .calling candidates, exchanges⟩
      (w.marked name)
  /-- The run is over. -/
  | rest {job result exchanges w} :
    Moves ⟨job, .ended result, exchanges⟩ w ⟨job, .ended result, exchanges⟩ w

/-- A step is one of the moves. -/
theorem moves_step (p : Process) (w : World σ) :
    Moves backend timeout p w (p.step backend timeout w).1 (p.step backend timeout w).2 := by
  obtain ⟨job, phase, exchanges⟩ := p
  cases phase with
  | checking kept rest =>
    cases rest with
    | nil => exact .checked
    | cons i rest =>
      cases hknown : isKnown w.cacheNow i with
      | true => simpa [step, hknown] using .skip hknown
      | false => simpa [step, hknown] using .keep hknown
  | calling candidates =>
    cases candidates with
    | nil => exact .stop
    | cons c cs =>
      simp only [step, phaseAfter]
      split
      · next result hjudge => exact .finish (List.cons_ne_nil c cs) hjudge
      · next name hjudge => exact .drop (List.cons_ne_nil c cs) hjudge
  | marking name candidates => exact .mark
  | ended result => exact .rest

variable {backend timeout} {p p' : Process} {w w' : World σ}

/-- A move leaves the job. -/
theorem Moves.job_eq (h : Moves backend timeout p w p' w') : p'.job = p.job := by
  cases h <;> rfl

/-- A move adds to the exchanges. -/
theorem Moves.exchanges_subset (h : Moves backend timeout p w p' w') :
    p.exchanges ⊆ p'.exchanges := by
  cases h with
  | finish | drop => exact List.subset_append_left _ _
  | _ => exact List.Subset.refl _

/-- A move leaves less work, unless there is none: a name is dropped by the call before its mark. -/
theorem Moves.work_le (h : Moves backend timeout p w p' w') :
    p'.phase.work ≤ p.phase.work - 1 := by
  cases h with
  | drop hne hjudge =>
    have hmem := mem_of_judge_eq_without hjudge
    have hpos := List.length_pos_of_mem hmem
    simp only [Phase.work]
    rw [List.length_erase_of_mem hmem]
    omega
  | skip | keep =>
    simp only [Phase.work, List.length_append, List.length_cons, List.length_nil]
    omega
  | _ => simp [Phase.work]

section Alone

variable (backend timeout) (job : Job) (exchanges : List Exchange)

/-- A step of a process that is alone in its world. -/
def stepAlone (s : Process × World σ) : Process × World σ := s.1.step backend timeout s.2

/-- Alone, a process looks up its indices and keeps the unknown ones. -/
theorem iterate_checking (kept rest : List String) (w : World σ) :
    (stepAlone backend timeout)^[rest.length + 1] (⟨job, .checking kept rest, exchanges⟩, w) =
      (⟨job, .calling (kept ++ unknown w.cacheNow rest), exchanges⟩, w) := by
  -- The kept indices grow while the rest is looked up; alone, the cache stays as it is.
  induction rest generalizing kept with
  | nil => simp [stepAlone, step, unknown]
  | cons i rest ih =>
    rw [List.length_cons, Function.iterate_succ_apply]
    cases hknown : isKnown w.cacheNow i with
    | true =>
      have hstep : stepAlone backend timeout (⟨job, .checking kept (i :: rest), exchanges⟩, w) =
          (⟨job, .checking kept rest, exchanges⟩, w) := by
        simp [stepAlone, step, hknown]
      rw [hstep, ih]
      simp [unknown, hknown]
    | false =>
      have hstep : stepAlone backend timeout (⟨job, .checking kept (i :: rest), exchanges⟩, w) =
          (⟨job, .checking (kept ++ [i]) rest, exchanges⟩, w) := by
        simp [stepAlone, step, hknown]
      rw [hstep, ih]
      simp [unknown, hknown]

variable {candidates : List String} {w : World σ}

/-- Alone, a process ends with the call that ends the attempt. -/
theorem stepAlone_of_finished {result : Except SearchError Execution} (hne : candidates ≠ [])
    (h : judge .heal candidates (pendingIn backend timeout job.question candidates w).answer =
      .finished result) :
    stepAlone backend timeout (⟨job, .calling candidates, exchanges⟩, w) =
      (⟨job, .ended result,
          exchanges ++ [exchangeIn backend timeout job.question candidates w]⟩,
        afterAnswer backend timeout job.question candidates w) := by
  cases candidates with
  | nil => exact absurd rfl hne
  | cons c cs => simp [stepAlone, step, phaseAfter, h]

/-- Alone, a process drops a name and marks it in two steps. -/
theorem iterate_two_of_without {name : String} (hne : candidates ≠ [])
    (h : judge .heal candidates (pendingIn backend timeout job.question candidates w).answer =
      .without name) :
    (stepAlone backend timeout)^[2] (⟨job, .calling candidates, exchanges⟩, w) =
      (⟨job, .calling (candidates.erase name),
          exchanges ++ [exchangeIn backend timeout job.question candidates w]⟩,
        afterDrop backend timeout job.question candidates name w) := by
  cases candidates with
  | nil => exact absurd rfl hne
  | cons c cs =>
    rw [Function.iterate_succ_apply, Function.iterate_one]
    simp only [stepAlone, step, phaseAfter, h]
    rfl

/-- Alone, a process that is calling makes the attempt, and its exchanges are the calls of it. -/
theorem exists_iterate_calling (candidates : List String) (w : World σ) :
    ∃ n new,
      (stepAlone backend timeout)^[n] (⟨job, .calling candidates, exchanges⟩, w) =
        (⟨job, .ended (attempt backend timeout .heal job.question none candidates w).1,
            exchanges ++ new⟩,
          (attempt backend timeout .heal job.question none candidates w).2) ∧
      (attempt backend timeout .heal job.question none candidates w).2.calls =
        w.calls ++ new.map fun e => ⟨job.question, e.indices⟩ := by
  -- A drop takes two steps, after which the same holds of one candidate less.
  induction hn : candidates.length using Nat.strongRecOn generalizing candidates exchanges w with
  | ind n ih =>
    by_cases hne : candidates = []
    · subst hne
      rw [attempt_nil]
      exact ⟨1, [], by simp [stepAlone, step], by simp⟩
    · cases hjudge : judge .heal candidates
          (pendingIn backend timeout job.question candidates w).answer with
      | finished result =>
        rw [attempt_of_finished backend timeout .heal job.question hne hjudge]
        exact ⟨1, _, stepAlone_of_finished backend timeout job exchanges hne hjudge, rfl⟩
      | without name =>
        rw [attempt_of_without backend timeout .heal job.question hne hjudge]
        have hmem := mem_of_judge_eq_without hjudge
        have hlt : (candidates.erase name).length < n := by
          have hpos := List.length_pos_of_mem hmem
          rw [List.length_erase_of_mem hmem]
          omega
        obtain ⟨k, new, hiterate, hcalls⟩ := ih _ hlt
          (exchanges ++ [exchangeIn backend timeout job.question candidates w])
          _ (afterDrop backend timeout job.question candidates name w) rfl
        refine ⟨k + 2,
          exchangeIn backend timeout job.question candidates w :: new, ?_, ?_⟩
        · rw [Function.iterate_add_apply,
            iterate_two_of_without backend timeout job exchanges hne hjudge, hiterate]
          simp
        · rw [hcalls]
          simp [exchangeIn]

/-- Alone, a process is `execute`: it ends with the same result, in the same world, and with the
same calls. -/
theorem exists_iterate_start (w : World σ) :
    ∃ n exchanges,
      (stepAlone backend timeout)^[n] (start job, w) =
        (⟨job, .ended (execute backend timeout .heal job.question none job.indices w).1, exchanges⟩,
          (execute backend timeout .heal job.question none job.indices w).2) ∧
      (execute backend timeout .heal job.question none job.indices w).2.calls =
        w.calls ++ exchanges.map fun e => ⟨job.question, e.indices⟩ := by
  unfold execute
  rw [candidates_heal]
  obtain ⟨n, exchanges, hiterate, hcalls⟩ :=
    exists_iterate_calling backend timeout job [] (unknown w.cacheNow job.indices) w
  -- First the look-ups, one for each index, and then the calls.
  refine ⟨n + (job.indices.length + 1), exchanges, ?_, hcalls⟩
  rw [Function.iterate_add_apply, start, iterate_checking, List.nil_append, hiterate,
    List.nil_append]

end Alone

end Process

end Run

end CrashQuery

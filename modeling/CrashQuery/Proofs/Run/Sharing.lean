import CrashQuery.Backend.Store
import CrashQuery.Proofs.Run.Steps

/-!
# Healing runs that share a cache

A `System` is a world with a cache and processes in it, of which one after the other takes a step,
in any order. When the backend serves a fixed set of indices, what the cache holds is missing, so
that leaving it out early changes no result: `System.transparent_run` says that every process ends
as it would alone and without a cache, after as many calls at most. The invariant of one process is
`Process.Sound`: the candidates that it has left hold the present indices of its job, and the calls
that it has made and the missing candidates that it has left are together no more than the missing
indices of its job.
-/

namespace CrashQuery

namespace Run

/-- What a backend that has a fixed set of indices does with calls on the given names, as long as
its state is a legal one. -/
structure Serves {σ : Type} (backend : Backend σ) (timeout : Nat) (names : String → Prop)
    (present : String → Bool) (respond : Call → Json) (legal : σ → Prop) : Prop where
  /-- Calls keep the state legal. -/
  keeps : ∀ call s, legal s → legal (backend.ask call s).state
  /-- Answers come in time. -/
  prompt : ∀ call s, legal s → (backend.ask call s).delay ≤ timeout
  /-- A call on indices that are all present has a response, which the call decides. -/
  responds : ∀ call s, legal s → (∀ i ∈ call.indices, names i ∧ present i = true) →
    (backend.ask call s).answer = .ok (respond call)
  /-- Any other call fails with the report of one of its missing indices. -/
  reports : ∀ call s, legal s → (∀ i ∈ call.indices, names i) →
    (∃ i ∈ call.indices, present i = false) →
    ∃ fault i, (backend.ask call s).answer = .error fault ∧ fault.missingIndex? = some i ∧
      i ∈ call.indices ∧ present i = false

section Outcome

variable (present : String → Bool) (respond : Call → Json)

/-- The indices that are present, in order. -/
def found (indices : List String) : List String := indices.filter present

/-- The indices that are missing, in order. -/
def lost (indices : List String) : List String := indices.filter fun i => !present i

/-- The result of a run about the indices that are present: empty if there are none, and otherwise
the response to a call on them. -/
def outcome (question : Question) (indices : List String) : Except SearchError Execution :=
  if found present indices = [] then .ok .empty
  else .ok (.success (respond ⟨question, found present indices⟩) (found present indices))

/-- The calls of a run without a cache: one for each missing index, and one for the others. -/
def callCount (indices : List String) : Nat :=
  (lost present indices).length + if found present indices = [] then 0 else 1

end Outcome

section Serves

variable {σ : Type} {backend : Backend σ} {timeout : Nat} {names : String → Prop}
  {present : String → Bool} {respond : Call → Json} {legal : σ → Prop}
  {question : Question} {candidates : List String} {w : World σ}

/-- The answer to a call is the one that the backend gives, since it comes in time. -/
theorem Serves.pendingIn_eq (h : Serves backend timeout names present respond legal)
    (hlegal : legal w.backend) :
    pendingIn backend timeout question candidates w =
      backend.ask ⟨question, candidates⟩ w.backend := by
  unfold pendingIn askWithin
  exact if_pos (h.prompt _ _ hlegal)

/-- What a call on some candidates means for a run: it succeeds if all are present, and otherwise
the run goes on without one that is missing. -/
theorem Serves.judge_cases (h : Serves backend timeout names present respond legal)
    (hlegal : legal w.backend) (hnames : ∀ i ∈ candidates, names i) :
    (lost present candidates = [] ∧ found present candidates = candidates ∧
      judge .heal candidates (pendingIn backend timeout question candidates w).answer =
        .finished (.ok (.success (respond ⟨question, candidates⟩) candidates))) ∨
      ∃ name, name ∈ candidates ∧ present name = false ∧
        judge .heal candidates (pendingIn backend timeout question candidates w).answer =
          .without name := by
  rw [h.pendingIn_eq hlegal]
  by_cases hall : ∀ i ∈ candidates, present i = true
  · have hanswer := h.responds ⟨question, candidates⟩ w.backend hlegal
      fun i hi => ⟨hnames i hi, hall i hi⟩
    refine Or.inl ⟨?_, List.filter_eq_self.2 hall, by rw [hanswer]; rfl⟩
    rw [lost, List.filter_eq_nil_iff]
    intro i hi
    simp [hall i hi]
  · have hsome : ∃ i ∈ candidates, present i = false := by simpa using hall
    obtain ⟨fault, name, hanswer, hmissing, hmem, habsent⟩ :=
      h.reports ⟨question, candidates⟩ w.backend hlegal hnames hsome
    refine Or.inr ⟨name, hmem, habsent, ?_⟩
    rw [hanswer]
    simp only [judge, hmissing]
    rw [if_pos hmem]

/-- A call keeps the state of the backend legal. -/
theorem Serves.legal_afterAnswer (h : Serves backend timeout names present respond legal)
    (hlegal : legal w.backend) :
    legal (afterAnswer backend timeout question candidates w).backend := by
  unfold afterAnswer
  rw [h.pendingIn_eq hlegal]
  exact h.keeps _ _ hlegal

/-- A missing index that is dropped leaves the present ones. -/
theorem found_erase {name : String} (habsent : present name = false) (indices : List String) :
    found present (indices.erase name) = found present indices := by
  have hnot : name ∉ found present indices := by simp [found, habsent]
  calc
    found present (indices.erase name) = (found present indices).erase name :=
      List.erase_filter.symm
    _ = found present indices := List.erase_of_not_mem hnot

/-- A missing index that is dropped was one of the missing ones. -/
theorem length_lost_erase {name : String} {indices : List String} (hmem : name ∈ indices)
    (habsent : present name = false) :
    (lost present (indices.erase name)).length + 1 = (lost present indices).length := by
  have hlost : name ∈ lost present indices := by simp [lost, hmem, habsent]
  have hpos := List.length_pos_of_mem hlost
  have heq : lost present (indices.erase name) = (lost present indices).erase name :=
    List.erase_filter.symm
  rw [heq, List.length_erase_of_mem hlost]
  omega

variable (question) in
/-- Without a cache a run about the candidates has the result that belongs to the present ones, and
makes a call for each missing one and one for the others. -/
theorem Serves.attempt_uncached (h : Serves backend timeout names present respond legal)
    (hlegal : legal w.backend) (hnames : ∀ i ∈ candidates, names i) :
    (attempt backend timeout .heal question none candidates w).1 =
        outcome present respond question candidates ∧
      (attempt backend timeout .heal question none candidates w).2.calls.length =
        w.calls.length + callCount present candidates := by
  -- Each report leaves one candidate less, and the same ones that are present.
  induction hn : candidates.length using Nat.strongRecOn generalizing candidates w with
  | ind n ih =>
    by_cases hne : candidates = []
    · subst hne
      rw [attempt_nil]
      simp [outcome, callCount, found, lost]
    · rcases h.judge_cases hlegal hnames with ⟨hlost, hfound, hjudge⟩ | ⟨name, hmem, habsent, hjudge⟩
      · rw [attempt_of_finished backend timeout .heal question hne hjudge]
        unfold outcome callCount
        rw [hfound, hlost, if_neg hne, if_neg hne]
        simp
      · rw [attempt_of_without backend timeout .heal question hne hjudge]
        have hlt : (candidates.erase name).length < n := by
          have hpos := List.length_pos_of_mem hmem
          rw [List.length_erase_of_mem hmem]
          omega
        have hlegal' : legal (afterDrop backend timeout question candidates name w).backend :=
          h.legal_afterAnswer hlegal
        obtain ⟨hresult, hcalls⟩ := ih _ hlt hlegal'
          (fun i hi => hnames i (List.mem_of_mem_erase hi)) rfl
        rw [hresult, hcalls]
        have hfound := found_erase habsent candidates
        have hlost := length_lost_erase hmem habsent
        have hlength : (afterDrop backend timeout question candidates name w).calls.length =
            w.calls.length + 1 := by simp
        unfold outcome callCount
        rw [hfound, hlength]
        exact ⟨rfl, by omega⟩

end Serves

/-- The run for a job alone and without a cache, from a state of the backend. -/
def Job.runAlone {σ : Type} (backend : Backend σ) (timeout : Nat) (job : Job) (state : σ) :
    Except SearchError Execution × World σ :=
  execute backend timeout .heal job.question none job.indices { backend := state }

/-- Alone and without a cache, a run has the result that belongs to the present indices, and makes
a call for each missing one and one for the others. -/
theorem Serves.runAlone {σ : Type} {backend : Backend σ} {timeout : Nat} {names : String → Prop}
    {present : String → Bool} {respond : Call → Json} {legal : σ → Prop} {job : Job} {state : σ}
    (h : Serves backend timeout names present respond legal) (hlegal : legal state)
    (hnames : ∀ i ∈ job.indices, names i) :
    (job.runAlone backend timeout state).1 = outcome present respond job.question job.indices ∧
      (job.runAlone backend timeout state).2.calls.length = callCount present job.indices := by
  have hrun : job.runAlone backend timeout state =
      attempt backend timeout .heal job.question none job.indices { backend := state } := rfl
  have hlegal' : legal (World.mk state none [] 0).backend := hlegal
  obtain ⟨hresult, hcalls⟩ := h.attempt_uncached job.question hlegal' hnames
  rw [hrun]
  refine ⟨hresult, ?_⟩
  rw [hcalls]
  simp

/-- Processes in a world that they share. -/
structure System (σ : Type) where
  /-- The world. -/
  world : World σ
  /-- The processes. -/
  processes : List Process

namespace System

variable {σ : Type} (backend : Backend σ) (timeout : Nat)

/-- The processes for some jobs at their beginning, with an empty cache. -/
def start (state : σ) (jobs : List Job) : System σ :=
  ⟨{ backend := state, cache := some {} }, jobs.map Process.start⟩

/-- The step of the process with the given number; without such a process nothing happens. -/
def step (s : System σ) (k : Nat) : System σ :=
  match s.processes[k]? with
  | none => s
  | some p =>
    let (p, world) := p.step backend timeout s.world
    ⟨world, s.processes.set k p⟩

/-- The steps of the processes with the given numbers, one after the other. -/
def run (schedule : List Nat) (s : System σ) : System σ := schedule.foldl (step backend timeout) s

end System

section Sound

/-- Whether a cache has been told of a name. -/
def IsTold (cache : Option MissingCache) (name : String) : Prop := ∃ c ∈ cache, name ∈ c.names

/-- A cache has been told of what it knows. -/
theorem isTold_of_isKnown {σ : Type} {w : World σ} {i : String}
    (h : isKnown w.cacheNow i = true) : IsTold w.cache i := by
  obtain ⟨now, hnow, hknown⟩ := Option.any_eq_true _ _ |>.1 h
  obtain ⟨cache, hcache, rfl⟩ := Option.map_eq_some_iff.1 hnow
  have hname : i ∈ (cache.asOf w.elapsed).names := MissingCache.mem_names_of_has hknown
  exact ⟨cache, hcache, hname⟩

variable {σ : Type} {backend : Backend σ} {timeout : Nat} {names : String → Prop}
  {present : String → Bool} {respond : Call → Json} {legal : σ → Prop}

variable (present) in
/-- Whether a run for the job can have the candidates left after so many calls: they hold the
present indices of the job, and the calls and the missing ones among them are no more than the
missing indices of the job. -/
structure Job.Leaves (job : Job) (calls : Nat) (candidates : List String) : Prop where
  /-- They come from the job. -/
  sublist : candidates.Sublist job.indices
  /-- They hold the present indices. -/
  found_eq : found present candidates = found present job.indices
  /-- Each call so far has dropped a missing index. -/
  length_le : calls + (lost present candidates).length ≤ (lost present job.indices).length

variable (present) in
/-- Whether a name is missing and has been reported by a call of the process that asked for it. -/
def Process.HasReported (p : Process) (name : String) : Prop :=
  present name = false ∧ ∃ e ∈ p.exchanges, e.missing? = some name ∧ name ∈ e.indices

variable (present respond) in
/-- Whether a process is on its way to the result that belongs to the present indices of its job. -/
def Process.Sound (p : Process) : Prop :=
  match p.phase with
  | .checking kept rest => p.job.Leaves present p.exchanges.length (kept ++ rest)
  | .calling candidates => p.job.Leaves present p.exchanges.length candidates
  | .marking name candidates =>
    p.HasReported present name ∧ p.job.Leaves present p.exchanges.length candidates
  | .ended result =>
    result = outcome present respond p.job.question p.job.indices ∧
      p.exchanges.length ≤ callCount present p.job.indices

/-- A process is on its way at its beginning. -/
theorem Process.sound_start (job : Job) : (Process.start job).Sound present respond :=
  ⟨List.Sublist.refl _, rfl, by simp [start]⟩

/-- A process on its way has made no more calls than its run makes alone. -/
theorem Process.Sound.length_le {p : Process} (h : p.Sound present respond) :
    p.exchanges.length ≤ callCount present p.job.indices := by
  have hleaves : ∀ candidates, p.job.Leaves present p.exchanges.length candidates →
      p.exchanges.length ≤ callCount present p.job.indices := by
    intro candidates hleaves
    have hlength := hleaves.length_le
    unfold callCount
    omega
  unfold Process.Sound at h
  split at h
  · exact hleaves _ h
  · exact hleaves _ h
  · exact hleaves _ h.2
  · exact h.2

/-- A process on its way ends with the result that belongs to the present indices of its job. -/
theorem Process.Sound.outcome_eq {p : Process} (h : p.Sound present respond)
    {result : Except SearchError Execution} (hended : p.phase = .ended result) :
    result = outcome present respond p.job.question p.job.indices := by
  unfold Process.Sound at h
  rw [hended] at h
  exact h.1

namespace Job.Leaves

variable {job : Job} {calls : Nat}

/-- A missing index can be left out of the candidates without a call. -/
theorem skip {kept rest : List String} {i : String}
    (h : job.Leaves present calls (kept ++ i :: rest)) (habsent : present i = false) :
    job.Leaves present calls (kept ++ rest) := by
  have hsub : (kept ++ rest).Sublist (kept ++ i :: rest) :=
    (List.Sublist.refl kept).append (List.sublist_cons_self i rest)
  refine ⟨hsub.trans h.sublist, ?_, ?_⟩
  · rw [← h.found_eq]
    simp [found, habsent]
  · have hlost := (hsub.filter fun i => !present i).length_le
    have hlength := h.length_le
    unfold lost at hlength ⊢
    omega

/-- A call that drops a missing index leaves the other candidates. -/
theorem drop {candidates : List String} {name : String} (h : job.Leaves present calls candidates)
    (hmem : name ∈ candidates) (habsent : present name = false) :
    job.Leaves present (calls + 1) (candidates.erase name) := by
  refine ⟨List.erase_sublist.trans h.sublist, ?_, ?_⟩
  · rw [found_erase habsent]
    exact h.found_eq
  · have hlost := length_lost_erase hmem habsent
    have hlength := h.length_le
    omega

/-- A run that has no candidate left is about missing indices only. -/
theorem stop (h : job.Leaves present calls []) :
    .ok .empty = outcome present respond job.question job.indices ∧
      calls ≤ callCount present job.indices := by
  have hfound : found present job.indices = [] := h.found_eq.symm
  have hlength := h.length_le
  unfold outcome callCount
  rw [if_pos hfound]
  exact ⟨rfl, by omega⟩

/-- A call on candidates that are all present ends a run with the result that belongs to them. -/
theorem finish {candidates : List String} (h : job.Leaves present calls candidates)
    (hne : candidates ≠ []) (hfound : found present candidates = candidates) :
    .ok (.success (respond ⟨job.question, candidates⟩) candidates) =
        outcome present respond job.question job.indices ∧
      calls + 1 ≤ callCount present job.indices := by
  have hjob : found present job.indices = candidates := h.found_eq.symm.trans hfound
  have hlength := h.length_le
  unfold outcome callCount
  rw [hjob, if_neg hne, if_neg hne]
  exact ⟨rfl, by omega⟩

end Job.Leaves

/-- A move keeps a process on its way, whatever the others have put in the cache, as long as that is
missing. -/
theorem Process.Moves.sound {p p' : Process} {w w' : World σ}
    (h : Moves backend timeout p w p' w')
    (hserves : Serves backend timeout names present respond legal) (hlegal : legal w.backend)
    (hnames : ∀ i ∈ p.job.indices, names i)
    (hcache : ∀ i, isKnown w.cacheNow i = true → present i = false)
    (hsound : p.Sound present respond) : p'.Sound present respond := by
  cases h with
  -- Only here does it matter what the others have put in the cache.
  | skip hknown => exact Job.Leaves.skip hsound (hcache _ hknown)
  | @keep job kept i rest exchanges _ hknown =>
    show job.Leaves present exchanges.length (kept ++ [i] ++ rest)
    rw [List.append_assoc]
    exact hsound
  | @checked job kept exchanges =>
    show job.Leaves present exchanges.length kept
    rw [← List.append_nil kept]
    exact hsound
  | stop => exact Job.Leaves.stop hsound
  | @finish job candidates exchanges _ result hne hjudge =>
    have hleaves : job.Leaves present exchanges.length candidates := hsound
    have hcand : ∀ i ∈ candidates, names i := fun i hi => hnames i (hleaves.sublist.subset hi)
    -- A call that ends the run was on indices that are all present.
    rcases hserves.judge_cases hlegal hcand with ⟨-, hfound, heq⟩ | ⟨name, -, -, heq⟩
    · rw [hjudge, Verdict.finished.injEq] at heq
      subst heq
      unfold Sound
      simp only [List.length_append, List.length_cons, List.length_nil]
      exact hleaves.finish hne hfound
    · rw [hjudge] at heq
      simp at heq
  | @drop job candidates exchanges _ name hne hjudge =>
    have hleaves : job.Leaves present exchanges.length candidates := hsound
    have hcand : ∀ i ∈ candidates, names i := fun i hi => hnames i (hleaves.sublist.subset hi)
    have hdropped : (exchangeIn backend timeout job.question candidates w).dropped? = some name :=
      judge_heal_eq_without_iff.1 hjudge
    have hreport := Exchange.dropped?_eq_some_iff.1 hdropped
    -- A call that drops a name was told about a missing one, whichever the backend chose.
    rcases hserves.judge_cases hlegal hcand with ⟨-, -, heq⟩ | ⟨name', hmem, habsent, heq⟩
    · rw [hjudge] at heq
      simp at heq
    · rw [hjudge, Verdict.without.injEq] at heq
      subst heq
      refine ⟨⟨habsent, _, List.mem_append_right _ List.mem_cons_self, hreport⟩, ?_⟩
      simp only [List.length_append, List.length_cons, List.length_nil]
      exact hleaves.drop hmem habsent
  | mark => exact hsound.2
  | rest => exact hsound

/-- A move keeps the state of the backend legal. -/
theorem Process.Moves.legal_backend {p p' : Process} {w w' : World σ}
    (h : Moves backend timeout p w p' w')
    (hserves : Serves backend timeout names present respond legal) (hlegal : legal w.backend) :
    legal w'.backend := by
  cases h with
  | finish | drop => exact hserves.legal_afterAnswer hlegal
  | _ => exact hlegal

/-- What a move tells the cache has been reported by the process. -/
theorem Process.Moves.told {p p' : Process} {w w' : World σ}
    (h : Moves backend timeout p w p' w') (hsound : p.Sound present respond) {i : String}
    (htold : IsTold w'.cache i) : IsTold w.cache i ∨ p'.HasReported present i := by
  cases h with
  | @mark job name candidates exchanges =>
    obtain ⟨cache', hcache', hname⟩ := htold
    obtain ⟨now, hnow, rfl⟩ := Option.map_eq_some_iff.1 hcache'
    obtain ⟨cache, hcache, rfl⟩ := Option.map_eq_some_iff.1 hnow
    rcases List.mem_insert_iff.1 hname with rfl | hbefore
    · exact Or.inr hsound.1
    · exact Or.inl ⟨cache, hcache, hbefore⟩
  | _ => exact Or.inl htold

namespace System

variable (names present respond legal) in
/-- Whether what the processes have done to a world is right: the cache holds missing indices that
one of them has asked about, and each of them is on its way. -/
structure Sound (s : System σ) : Prop where
  /-- The state of the backend is legal. -/
  legal_backend : legal s.world.backend
  /-- What the cache has been told of has been reported. -/
  told : ∀ i, IsTold s.world.cache i → ∃ p ∈ s.processes, p.HasReported present i
  /-- The jobs are about names that the backend serves. -/
  served : ∀ p ∈ s.processes, ∀ i ∈ p.job.indices, names i
  /-- The processes are on their way. -/
  processes : ∀ p ∈ s.processes, p.Sound present respond

/-- At the beginning the cache is empty, and the processes are on their way. -/
theorem sound_start {state : σ} (hlegal : legal state) {jobs : List Job}
    (hnames : ∀ job ∈ jobs, ∀ i ∈ job.indices, names i) :
    (start state jobs).Sound names present respond legal := by
  refine ⟨hlegal, ?_, ?_, ?_⟩
  · rintro i ⟨cache, hcache, hi⟩
    obtain rfl := Option.some.inj hcache
    cases hi
  · intro p hp
    obtain ⟨job, hjob, rfl⟩ := List.mem_map.1 hp
    exact hnames job hjob
  · intro p hp
    obtain ⟨job, -, rfl⟩ := List.mem_map.1 hp
    exact Process.sound_start job

variable (backend timeout) in
/-- A step moves one process, or nothing. -/
theorem step_cases (s : System σ) (k : Nat) :
    (s.processes[k]? = none ∧ s.step backend timeout k = s) ∨
      ∃ p p' w', s.processes[k]? = some p ∧ Process.Moves backend timeout p s.world p' w' ∧
        s.step backend timeout k = ⟨w', s.processes.set k p'⟩ := by
  unfold step
  cases hk : s.processes[k]? with
  | none => exact Or.inl ⟨rfl, rfl⟩
  | some p => exact Or.inr ⟨p, _, _, rfl, p.moves_step backend timeout s.world, rfl⟩

/-- A step keeps what the processes have done right. -/
theorem Sound.step {s : System σ} (h : s.Sound names present respond legal)
    (hserves : Serves backend timeout names present respond legal) (k : Nat) :
    (s.step backend timeout k).Sound names present respond legal := by
  rcases s.step_cases backend timeout k with ⟨-, hs⟩ | ⟨p, p', w', hk, hmoves, hs⟩
  · rw [hs]
    exact h
  · rw [hs]
    have hp : p ∈ s.processes := List.mem_of_getElem? hk
    have hp' : p' ∈ s.processes.set k p' :=
      List.mem_set (List.getElem?_eq_some_iff.1 hk).1 p'
    have hcache : ∀ i, isKnown s.world.cacheNow i = true → present i = false := by
      intro i hi
      obtain ⟨q, -, habsent, -⟩ := h.told i (isTold_of_isKnown hi)
      exact habsent
    refine ⟨hmoves.legal_backend hserves h.legal_backend, ?_, ?_, ?_⟩
    · intro i hi
      rcases hmoves.told (h.processes p hp) hi with hbefore | hreported
      · -- What a process has reported it has still reported after its step.
        obtain ⟨q, hq, habsent, e, he, hmissing⟩ := h.told i hbefore
        obtain ⟨j, hj⟩ := List.mem_iff_getElem?.1 hq
        by_cases hjk : k = j
        · subst hjk
          rw [hk, Option.some.injEq] at hj
          subst hj
          exact ⟨p', hp', habsent, e, hmoves.exchanges_subset he, hmissing⟩
        · refine ⟨q, List.mem_iff_getElem?.2 ⟨j, ?_⟩, habsent, e, he, hmissing⟩
          rw [List.getElem?_set_ne hjk]
          exact hj
      · exact ⟨p', hp', hreported⟩
    · intro q hq
      rcases List.mem_or_eq_of_mem_set hq with hq | rfl
      · exact h.served q hq
      · rw [hmoves.job_eq]
        exact h.served p hp
    · intro q hq
      rcases List.mem_or_eq_of_mem_set hq with hq | rfl
      · exact h.processes q hq
      · exact hmoves.sound hserves h.legal_backend (h.served p hp) hcache (h.processes p hp)

/-- The steps of a schedule keep what the processes have done right. -/
theorem Sound.run {s : System σ} (h : s.Sound names present respond legal)
    (hserves : Serves backend timeout names present respond legal) (schedule : List Nat) :
    (s.run backend timeout schedule).Sound names present respond legal := by
  induction schedule generalizing s with
  | nil => exact h
  | cons k rest ih => exact ih (h.step hserves k)

variable (backend timeout) in
/-- A step keeps the job of a process, and leaves it less work if it is its own. -/
theorem exists_step (s : System σ) (j : Nat) {k : Nat} {p : Process}
    (hk : s.processes[k]? = some p) :
    ∃ p', (s.step backend timeout j).processes[k]? = some p' ∧ p'.job = p.job ∧
      p'.phase.work ≤ p.phase.work - if j = k then 1 else 0 := by
  rcases s.step_cases backend timeout j with ⟨hj, hs⟩ | ⟨q, q', w', hj, hmoves, hs⟩
  · have hjk : j ≠ k := by
      rintro rfl
      rw [hj] at hk
      simp at hk
    rw [hs, if_neg hjk]
    exact ⟨p, hk, rfl, Nat.le_refl _⟩
  · rw [hs]
    -- The step of another process leaves this one where it stands.
    by_cases hjk : j = k
    · subst hjk
      rw [hk, Option.some.injEq] at hj
      subst hj
      rw [if_pos rfl]
      have hlt := (List.getElem?_eq_some_iff.1 hk).1
      exact ⟨q', List.getElem?_set_self hlt, hmoves.job_eq, hmoves.work_le⟩
    · rw [if_neg hjk]
      refine ⟨p, ?_, rfl, Nat.le_refl _⟩
      rw [List.getElem?_set_ne hjk]
      exact hk

variable (backend timeout) in
/-- The steps of a schedule keep the job of a process, and each of its own leaves it less work. -/
theorem exists_run (s : System σ) (schedule : List Nat) {k : Nat} {p : Process}
    (hk : s.processes[k]? = some p) :
    ∃ p', (s.run backend timeout schedule).processes[k]? = some p' ∧ p'.job = p.job ∧
      p'.phase.work ≤ p.phase.work - schedule.count k := by
  induction schedule generalizing s p with
  | nil => exact ⟨p, hk, rfl, Nat.le_refl _⟩
  | cons j rest ih =>
    obtain ⟨q, hq, hjob, hwork⟩ := s.exists_step backend timeout j hk
    obtain ⟨p', hp', hjob', hwork'⟩ := ih (s.step backend timeout j) hq
    refine ⟨p', hp', hjob'.trans hjob, ?_⟩
    simp only [List.count_cons, beq_iff_eq]
    omega

/-- The cache is only an optimization. When a backend serves a fixed set of indices, and processes
that share a cache, which is empty at first, take their steps in any order, then
- every name in the cache was reported missing by a call that asked about it,
- no process makes more calls than its run makes alone and without a cache,
- a process that ends has the result that its run has alone and without a cache, which is empty if
  none of its indices is present, and else the response to a call on the present ones in order, and
- a process ends once it has taken enough steps, whatever the others do. -/
theorem transparent_run {state : σ} {jobs : List Job}
    (hserves : Serves backend timeout names present respond legal) (hlegal : legal state)
    (hnames : ∀ job ∈ jobs, ∀ i ∈ job.indices, names i) (schedule : List Nat) :
    (∀ i, isKnown ((start state jobs).run backend timeout schedule).world.cacheNow i = true →
      ∃ p ∈ ((start state jobs).run backend timeout schedule).processes, ∃ e ∈ p.exchanges,
        e.missing? = some i ∧ i ∈ e.indices) ∧
    ∀ k job, jobs[k]? = some job →
      ∃ p, ((start state jobs).run backend timeout schedule).processes[k]? = some p ∧
        (∀ alone, legal alone →
          p.exchanges.length ≤ (job.runAlone backend timeout alone).2.calls.length) ∧
        (∀ result, p.phase = .ended result →
          result = outcome present respond job.question job.indices ∧
          ∀ alone, legal alone → result = (job.runAlone backend timeout alone).1) ∧
        (3 * job.indices.length + 2 ≤ schedule.count k → ∃ result, p.phase = .ended result) := by
  -- The invariant holds at the end of every schedule, and says all but that a process ends.
  have hstart : (start state jobs).Sound names present respond legal := sound_start hlegal hnames
  have hsound := hstart.run hserves schedule
  constructor
  · intro i hi
    obtain ⟨p, hp, -, e, he, hmissing⟩ := hsound.told i (isTold_of_isKnown hi)
    exact ⟨p, hp, e, he, hmissing⟩
  · intro k job hjob
    have hk : (start state jobs).processes[k]? = some (Process.start job) := by
      simp [start, hjob]
    obtain ⟨p, hp, hpjob, hwork⟩ :=
      (start state jobs).exists_run backend timeout schedule hk
    have hmem := List.mem_of_getElem? hp
    have hjobs : p.job = job := hpjob
    have hps := hsound.processes p hmem
    have hserved : ∀ i ∈ job.indices, names i := by
      rw [← hjobs]
      exact hsound.served p hmem
    refine ⟨p, hp, ?_, ?_, ?_⟩
    · intro alone halone
      obtain ⟨-, hcalls⟩ := hserves.runAlone halone hserved
      rw [hcalls, ← hjobs]
      exact hps.length_le
    · intro result hresult
      have hout := hps.outcome_eq hresult
      rw [hjobs] at hout
      refine ⟨hout, ?_⟩
      intro alone halone
      obtain ⟨halone_result, -⟩ := hserves.runAlone halone hserved
      rw [hout, halone_result]
    · -- Each of its own steps has left the process less work, until there is none.
      intro hcount
      have hzero : p.phase.work = 0 := by
        rw [Process.work_start] at hwork
        omega
      exact Phase.exists_ended hzero

end System

end Sound

/-- A store serves the indices that it has, unless failures are waiting, for names that its reports
give back. -/
theorem serves_store {s : Store} {timeout : Nat} (hfailures : s.failures = [])
    (hlatency : s.latency ≤ timeout) :
    Serves Store.backend timeout (fun i => (Store.missingFault i).missingIndex? = some i)
      s.hasIndex
      (fun call =>
        match call.question with
        | .search body => s.searchAnswer call.indices body
        | .mapping => s.mappingAnswer call.indices)
      (fun s' => s' = s) := by
  have hask : ∀ call, Store.backend.ask call s = ⟨s.latency, s.answer call, s⟩ := by
    intro call
    simp only [Store.backend, Store.ask, hfailures]
  refine ⟨?_, ?_, ?_, ?_⟩
  · intro call s' hs
    rw [hs, hask]
  · intro call s' hs
    rw [hs, hask]
    exact hlatency
  · intro call s' hs hall
    have hnone : call.indices.find? (fun i => !s.hasIndex i) = none := by
      rw [List.find?_eq_none]
      intro i hi
      simp [(hall i hi).2]
    rw [hs, hask]
    simp only [Store.answer, hnone]
    cases call.question <;> rfl
  · rintro call s' hs hnames ⟨i, hi, habsent⟩
    rw [hs, hask]
    cases hfind : call.indices.find? fun i => !s.hasIndex i with
    | none =>
      rw [List.find?_eq_none] at hfind
      exact absurd habsent (by simpa using hfind i hi)
    | some missing =>
      have hmem := List.mem_of_find?_eq_some hfind
      have hmissing := List.find?_some hfind
      refine ⟨Store.missingFault missing, missing, ?_, hnames missing hmem, hmem,
        by simpa using hmissing⟩
      simp only [Store.answer, hfind]

namespace System

/-- Two processes take turns over a store with one of their two indices. The second one ends with
that index, after two calls at most. -/
theorem transparent_run_turns :
    ∃ p, ((start (Store.withIndex "b" {}) [⟨.mapping, ["a", "b"]⟩, ⟨.mapping, ["b", "a"]⟩]).run
        Store.backend 0 (List.replicate 8 [0, 1]).flatten).processes[1]? = some p ∧
      p.phase = .ended (.ok (.success (.obj []) ["b"])) ∧ p.exchanges.length ≤ 2 := by
  have hfailures : (Store.withIndex "b" {}).failures = [] := rfl
  have hlatency : (Store.withIndex "b" {}).latency ≤ 0 := Nat.le_refl 0
  have hnames : ∀ job ∈ ([⟨.mapping, ["a", "b"]⟩, ⟨.mapping, ["b", "a"]⟩] : List Job),
      ∀ i ∈ job.indices, (Store.missingFault i).missingIndex? = some i := by
    decide
  obtain ⟨-, hall⟩ := transparent_run (serves_store hfailures hlatency) rfl hnames
    (List.replicate 8 [0, 1]).flatten
  obtain ⟨p, hp, hcalls, hresult, hended⟩ := hall 1 ⟨.mapping, ["b", "a"]⟩ rfl
  obtain ⟨result, hphase⟩ := hended (by decide)
  refine ⟨p, hp, ?_, ?_⟩
  · rw [hphase, (hresult result hphase).1]
    rfl
  · have hserved := hnames ⟨.mapping, ["b", "a"]⟩ (by simp)
    have hcount := ((serves_store hfailures hlatency).runAlone rfl hserved).2
    have hle := hcalls _ rfl
    rw [hcount] at hle
    exact hle

end System

end Run

end CrashQuery

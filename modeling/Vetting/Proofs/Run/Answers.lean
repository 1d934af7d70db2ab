import Mathlib.Data.List.Perm.Basic
import Vetting.Run.Join

/-!
# What joined runs answer

A run that is driven to its end has one answer, whatever schemas it opens and however often it pauses.  The
answer of a join follows from the answers of its checks: all have passed, or the failure of one of them
comes out (`allPass_answer`); one that has passed comes out, or the failure of one where all have failed
(`firstPass_answer`).
-/

namespace Vetting.Run

variable {α β γ ε ι σ : Type}

/-- Opening schemas does not change the answer. -/
@[simp] theorem answer_openingAll (schemas : List Handle) (rest : Run α) :
    (openingAll schemas rest).answer = rest.answer := by
  unfold openingAll
  induction schemas with
  | nil => rfl
  | cons schema others ih => simpa only [List.foldr_cons, answer] using ih

/-- Pausing does not change the answer. -/
@[simp] theorem answer_pausing (count : Nat) (rest : Run α) : (pausing count rest).answer = rest.answer := by
  induction count with
  | zero => rfl
  | succ count ih => simpa only [pausing, answer] using ih

/-- What comes after a run depends on its answer only. -/
theorem bind_congr {run : Run α} {first second : α → Run β}
    (same : first run.answer = second run.answer) : run.bind first = run.bind second := by
  induction run with
  | done answer => exact same
  | opening schema rest ih => simp only [bind, ih same]
  | paused rest ih => simp only [bind, ih same]

/-- The answer that a run comes to from where it stands. -/
def State.answer : State α → α
  | finished answer => answer
  | pending rest => rest.answer

/-- A turn changes nothing about the answer. -/
theorem answer_poll (run : Run α) : run.poll.2.answer = run.answer := by
  induction run with
  | done answer => rfl
  | opening schema rest ih => exact ih
  | paused rest => rfl

/-- The answer of the first turn is the answer of the run. -/
theorem answer_of_answerAtOnce? {run : Run α} {answer : α} (atOnce : run.answerAtOnce? = some answer) :
    run.answer = answer := by
  rw [← answer_poll]
  unfold answerAtOnce? at atOnce
  cases stands : run.poll.2 with
  | finished found =>
      rw [stands] at atOnce
      exact Option.some.inj atOnce
  | pending rest =>
      rw [stands] at atOnce
      cases atOnce

/-! ## Queues -/

section Serving

variable {absorb : σ → ι → β → σ ⊕ γ} {finish : σ → γ} {state : σ} {waited : Nat} {name : ι} {run : Run β}
  {rest : List (ι × Run β)} {schemas : List Handle} {later : Run β}

/-- A queue whose front check is over absorbs its result. -/
theorem serve_of_finished {result : β} (turn : run.poll = (schemas, .finished result)) :
    serve absorb finish state waited ((name, run) :: rest) =
      openingAll schemas (match absorb state name result with
        | .inl next => serve absorb finish next 0 rest
        | .inr answer => done answer) := by
  rw [serve]
  split
  next turned =>
    obtain ⟨rfl, same⟩ := Prod.mk.inj (turn.symm.trans turned)
    obtain rfl := State.finished.inj same
    cases absorb state name result <;> rfl
  next turned => cases turn.symm.trans turned

/-- A queue whose front check waits puts it to its back. -/
theorem serve_of_pending (turn : run.poll = (schemas, .pending later)) :
    serve absorb finish state waited ((name, run) :: rest) =
      openingAll schemas (
        if min 2 (rest.length + 1) ≤ waited + 1 then
          paused (serve absorb finish state 0 (rest ++ [(name, later)]))
        else serve absorb finish state (waited + 1) (rest ++ [(name, later)])) := by
  rw [serve]
  split
  next turned => cases turn.symm.trans turned
  next turned =>
    obtain ⟨rfl, same⟩ := Prod.mk.inj (turn.symm.trans turned)
    obtain rfl := State.pending.inj same
    rfl

/-- A queue needs fewer turns once its front check is over. -/
theorem queueTurns_lt_cons (name : ι) (run : Run β) (rest : List (ι × Run β)) :
    queueTurns rest < queueTurns ((name, run) :: rest) := by
  simp only [queueTurns]
  omega

/-- A queue needs fewer turns once its front check has had one and waits at its back. -/
theorem queueTurns_requeue (turn : run.poll = (schemas, .pending later)) :
    queueTurns (rest ++ [(name, later)]) < queueTurns ((name, run) :: rest) := by
  have := pauses_of_poll_pending turn
  simp only [queueTurns, queueTurns_append]
  omega

end Serving

/-- The checks of a queue with the answers that they come to. -/
def settled (queue : List (ι × Run β)) : List (ι × β) :=
  queue.map (Prod.map id answer)

@[simp] theorem settled_cons (name : ι) (run : Run β) (rest : List (ι × Run β)) :
    settled ((name, run) :: rest) = (name, run.answer) :: settled rest := rfl

/-- What holds of the answers of a queue, in whatever order, and is kept as they are absorbed one by one,
decides what the queue answers. -/
theorem serve_answer {absorb : σ → ι → β → σ ⊕ γ} {finish : σ → γ}
    (holds : σ → List (ι × β) → Prop) {goal : γ → Prop}
    (anyOrder : ∀ {state : σ} {first second : List (ι × β)}, first.Perm second →
      holds state first → holds state second)
    (absorbed : ∀ {state : σ} {name : ι} {result : β} {rest : List (ι × β)},
      holds state ((name, result) :: rest) →
        match absorb state name result with
        | .inl next => holds next rest
        | .inr answer => goal answer)
    (finished : ∀ {state : σ}, holds state [] → goal (finish state))
    {state : σ} {waited : Nat} {queue : List (ι × Run β)} (start : holds state (settled queue)) :
    goal (serve absorb finish state waited queue).answer := by
  -- By induction on the turns that the queue still needs: every step of the queue uses one of them up.
  induction turns : queueTurns queue using Nat.strongRecOn generalizing state waited queue with
  | ind count ih =>
      cases queue with
      | nil =>
          rw [serve]
          exact finished start
      | cons check rest =>
          obtain ⟨name, run⟩ := check
          have answered := answer_poll run
          rw [settled_cons, ← answered] at start
          rw [serve]
          split
          next schemas result turn =>
            rw [turn] at start
            have step := absorbed start
            rw [answer_openingAll]
            simp only [State.answer] at step
            cases absorbing : absorb state name result with
            | inl next =>
                rw [absorbing] at step
                exact ih _ (turns ▸ queueTurns_lt_cons name run rest) step rfl
            | inr answer =>
                rw [absorbing] at step
                exact step
          next schemas later turn =>
            rw [turn] at start
            have fewer : queueTurns (rest ++ [(name, later)]) < count := turns ▸ queueTurns_requeue turn
            have turned : holds state (settled (rest ++ [(name, later)])) := by
              refine anyOrder ?_ start
              unfold settled
              rw [List.map_append]
              exact (List.perm_append_singleton _ _).symm
            rw [answer_openingAll]
            split
            · exact ih _ fewer turned rfl
            · exact ih _ fewer turned rfl

/-! ## Rounds -/

section Rounds

variable {tasks : List (Task ε α)} {schemas : List Handle}

/-- Rounds end with the failure of one of them. -/
theorem inRounds_of_error {failure : ε} (turn : round tasks = (schemas, .error failure)) :
    inRounds tasks = openingAll schemas (done (.error failure)) := by
  rw [inRounds]
  split
  next turned =>
    obtain ⟨rfl, same⟩ := Prod.mk.inj (turn.symm.trans turned)
    obtain rfl := Except.error.inj same
    rfl
  next turned => cases turn.symm.trans turned

/-- Rounds end once all checks have passed, and go on until then. -/
theorem inRounds_of_ok {later : List (Task ε α)} (turn : round tasks = (schemas, .ok later)) :
    inRounds tasks = openingAll schemas (match answers? later with
      | some answers => done (.ok answers)
      | none => paused (inRounds later)) := by
  rw [inRounds]
  split
  next turned => cases turn.symm.trans turned
  next turned =>
    obtain ⟨rfl, same⟩ := Prod.mk.inj (turn.symm.trans turned)
    obtain rfl := Except.ok.inj same
    split
    next passed => rw [passed]
    next unfinished => rw [unfinished]

end Rounds

/-- Checks with these results come together to that one: all have passed, or one has failed like that. -/
def ComeTogether (results : List (Except ε α)) : Except ε (List α) → Prop
  | .ok answers => results = answers.map .ok
  | .error failure => .error failure ∈ results

/-- The answer that a check of a join comes to. -/
def Task.answer : Task ε α → Except ε α
  | running run => run.answer
  | passed answer => .ok answer

/-- A round leads from the checks to that outcome: the answers are as before, or one check has failed. -/
def LeadsTo (tasks : List (Task ε α)) : Except ε (List (Task ε α)) → Prop
  | .ok later => later.map Task.answer = tasks.map Task.answer
  | .error failure => .error failure ∈ tasks.map Task.answer

/-- A round of several checks leads on as the round of the others does, if the first one keeps its answer. -/
theorem LeadsTo.cons {rest : List (Task ε α)} {outcome : Except ε (List (Task ε α))} {own now : Task ε α}
    (leads : LeadsTo rest outcome) (same : now.answer = own.answer) :
    LeadsTo (own :: rest) (outcome.map (now :: ·)) := by
  cases outcome with
  | error failure => exact List.mem_cons_of_mem _ leads
  | ok later => simpa only [Except.map, LeadsTo, List.map_cons, same, List.cons.injEq, true_and] using leads

/-- A round of checks keeps their answers, or one of them has failed. -/
theorem leadsTo_round (tasks : List (Task ε α)) : LeadsTo tasks (round tasks).2 := by
  induction tasks with
  | nil => rfl
  | cons task rest ih =>
      cases task with
      | passed found => exact ih.cons rfl
      | running run =>
          have answered := answer_poll run
          rw [round]
          split
          next schemas failure turn =>
            rw [turn] at answered
            exact List.mem_cons.mpr (.inl answered)
          next schemas found turn =>
            rw [turn] at answered
            exact ih.cons answered
          next schemas later turn =>
            rw [turn] at answered
            exact ih.cons answered

/-- If all checks have passed, their answers are what they were to come to. -/
theorem answers_of_answers? {tasks : List (Task ε α)} {answers : List α}
    (passed : answers? tasks = some answers) : tasks.map Task.answer = answers.map .ok := by
  induction tasks generalizing answers with
  | nil =>
      obtain rfl := Option.some.inj passed
      rfl
  | cons task rest ih =>
      cases task with
      | running run => cases passed
      | passed found =>
          rw [answers?, Option.map_eq_some_iff] at passed
          obtain ⟨others, restPassed, rfl⟩ := passed
          simp only [List.map_cons, ih restPassed, Task.answer]

/-- Checks in rounds come together to what their answers call for. -/
theorem inRounds_answer (tasks : List (Task ε α)) :
    ComeTogether (tasks.map Task.answer) (inRounds tasks).answer := by
  induction needed : turns tasks using Nat.strongRecOn generalizing tasks with
  | ind count ih =>
      have step := leadsTo_round tasks
      rw [inRounds]
      split
      next schemas failure turn =>
        rw [turn] at step
        rw [answer_openingAll]
        exact step
      next schemas later turn =>
        rw [turn] at step
        rw [← show later.map Task.answer = tasks.map Task.answer from step]
        split
        next answers passed =>
          rw [answer_openingAll]
          exact answers_of_answers? passed
        next unfinished =>
          rw [answer_openingAll]
          exact ih _ (needed ▸ (turns_round turn).2 unfinished) later rfl

/-! ## Results in order -/

/-- What is known of the results: those that are there are right, and the others are still in the queue. -/
structure Known (results : List (Except ε α)) (known : List (Option (Except ε α)))
    (queue : List (Nat × Except ε α)) : Prop where
  length_eq : known.length = results.length
  right : ∀ (place : Nat) (result : Except ε α), known[place]? = some (some result) →
    results[place]? = some result
  waiting : ∀ place : Nat, known[place]? = some none → ∃ result, (place, result) ∈ queue
  queued : ∀ place result, (place, result) ∈ queue → results[place]? = some result

/-- Checks with these results, taken in their order, come to that one: all have passed, or this is the first
failure. -/
def ComeInOrder (results : List (Except ε α)) : Except ε (List α) → Prop
  | .ok answers => results = answers.map .ok
  | .error failure =>
    ∃ (answers : List α) (rest : List (Except ε α)), results = answers.map .ok ++ .error failure :: rest

/-- What checks come to in their order they may also come to together. -/
theorem ComeInOrder.comeTogether {results : List (Except ε α)} {outcome : Except ε (List α)}
    (inOrder : ComeInOrder results outcome) : ComeTogether results outcome := by
  cases outcome with
  | ok answers => exact inOrder
  | error failure =>
      obtain ⟨answers, rest, rfl⟩ := inOrder
      exact List.mem_append_right _ List.mem_cons_self

/-- A check that has passed changes nothing about what those behind it come to. -/
theorem ComeInOrder.cons {others : List (Except ε α)} {outcome : Except ε (List α)}
    (inOrder : ComeInOrder others outcome) (answer : α) :
    ComeInOrder (.ok answer :: others) (outcome.map (answer :: ·)) := by
  cases outcome with
  | ok answers => exact congrArg (.ok answer :: ·) inOrder
  | error failure =>
      obtain ⟨answers, rest, rfl⟩ := inOrder
      exact ⟨answer :: answers, rest, rfl⟩

/-- What has been settled in order is what the results in order call for. -/
theorem verdict?_comeInOrder {results : List (Except ε α)} {known : List (Option (Except ε α))}
    {verdict : Except ε (List α)} (length_eq : known.length = results.length)
    (right : ∀ (place : Nat) (result : Except ε α), known[place]? = some (some result) →
      results[place]? = some result)
    (taken : verdict? known = some verdict) : ComeInOrder results verdict := by
  induction known generalizing results verdict with
  | nil =>
      obtain rfl := Option.some.inj taken
      exact List.length_eq_zero_iff.mp length_eq.symm
  | cons entry rest ih =>
      cases results with
      | nil => simp at length_eq
      | cons result others =>
          cases entry with
          | none => cases taken
          | some found =>
              obtain rfl : result = found := by simpa using right 0 found rfl
              cases result with
              | error failure =>
                  obtain rfl := Option.some.inj taken
                  exact ⟨[], others, rfl⟩
              | ok answer =>
                  rw [verdict?, Option.map_eq_some_iff] at taken
                  obtain ⟨later, restTaken, rfl⟩ := taken
                  have rightRest : ∀ (place : Nat) (result : Except ε α), rest[place]? = some (some result) →
                      others[place]? = some result := fun place result there => right (place + 1) result there
                  exact (ih (by simpa using length_eq) rightRest restTaken).cons answer

/-- As long as there is no verdict, some result is missing. -/
theorem exists_missing {known : List (Option (Except ε α))} (undecided : verdict? known = none) :
    ∃ place : Nat, known[place]? = some none := by
  induction known with
  | nil => cases undecided
  | cons entry rest ih =>
      match entry with
      | none => exact ⟨0, rfl⟩
      | some (.error failure) => cases undecided
      | some (.ok answer) =>
          rw [verdict?, Option.map_eq_none_iff] at undecided
          obtain ⟨place, missing⟩ := ih undecided
          exact ⟨place + 1, missing⟩

namespace Known

variable {results : List (Except ε α)} {known : List (Option (Except ε α))}
  {queue : List (Nat × Except ε α)}

/-- In whatever order the queue is, the same is known of the results. -/
theorem anyOrder {other : List (Nat × Except ε α)} (same : queue.Perm other)
    (holds : Known results known queue) : Known results known other where
  length_eq := holds.length_eq
  right := holds.right
  waiting place missing := by
    obtain ⟨result, member⟩ := holds.waiting place missing
    exact ⟨result, same.mem_iff.mp member⟩
  queued place result member := holds.queued place result (same.mem_iff.mpr member)

/-- The front of the queue is taken down at its place. -/
theorem set {place : Nat} {result : Except ε α} {rest : List (Nat × Except ε α)}
    (holds : Known results known ((place, result) :: rest)) :
    Known results (known.set place (some result)) rest where
  length_eq := by rw [List.length_set, holds.length_eq]
  right other found there := by
    rw [List.getElem?_set] at there
    split at there
    next same =>
      subst same
      split at there
      · obtain rfl := Option.some.inj (Option.some.inj there)
        exact holds.queued place result List.mem_cons_self
      · cases there
    next => exact holds.right other found there
  waiting other missing := by
    rw [List.getElem?_set] at missing
    split at missing
    next => split at missing <;> cases missing
    next distinct =>
      obtain ⟨found, member⟩ := holds.waiting other missing
      rcases List.mem_cons.mp member with front | later
      · exact absurd (Prod.mk.inj front).1.symm distinct
      · exact ⟨found, later⟩
  queued other found member := holds.queued other found (List.mem_cons_of_mem _ member)

/-- At the beginning nothing is known, and all checks are in the queue. -/
theorem start (checks : List (Run (Except ε α))) :
    Known (checks.map answer) (checks.map fun _ => none)
      (settled ((List.range checks.length).zip checks)) where
  length_eq := by simp only [List.length_map]
  right place result there := by
    rw [List.getElem?_map] at there
    obtain ⟨check, -, nothing⟩ := Option.map_eq_some_iff.mp there
    cases nothing
  waiting place missing := by
    rw [List.getElem?_map] at missing
    obtain ⟨check, found, -⟩ := Option.map_eq_some_iff.mp missing
    obtain ⟨within, rfl⟩ := List.getElem?_eq_some_iff.mp found
    refine ⟨checks[place].answer, List.mem_map.mpr ⟨(place, checks[place]), ?_, rfl⟩⟩
    refine List.mem_iff_getElem.mpr ⟨place, by simpa using within, ?_⟩
    rw [List.getElem_zip, List.getElem_range]
  queued place result member := by
    obtain ⟨⟨name, check⟩, paired, same⟩ := List.mem_map.mp member
    obtain ⟨rfl, rfl⟩ := Prod.mk.inj same
    obtain ⟨position, within, entry⟩ := List.mem_iff_getElem.mp paired
    rw [List.getElem_zip, List.getElem_range] at entry
    obtain ⟨rfl, rfl⟩ := Prod.mk.inj entry
    rw [id_eq, List.getElem?_map, List.getElem?_eq_getElem, Option.map_some]

end Known

/-- Checks in order come to what their answers call for. -/
theorem inOrder_answer (checks : List (Run (Except ε α))) :
    ComeInOrder (checks.map answer) (inOrder checks).answer := by
  unfold inOrder
  refine serve_answer
    (fun known queue => Known (checks.map answer) known queue ∧ (known ≠ [] → verdict? known = none))
    ?_ ?_ ?_ ⟨Known.start checks, ?_⟩
  · intro known first second same holds
    exact ⟨holds.1.anyOrder same, holds.2⟩
  · intro known place result rest holds
    have next := holds.1.set
    cases taken : verdict? (known.set place (some result)) with
    | none =>
        simp only [taken]
        exact ⟨next, fun _ => trivial⟩
    | some verdict =>
        simp only [taken]
        exact verdict?_comeInOrder next.length_eq next.right taken
  · intro known holds
    by_cases nothing : known = []
    · have empty := holds.1.length_eq
      rw [nothing] at empty
      rw [List.length_eq_zero_iff.mp empty.symm]
      rfl
    · obtain ⟨place, missing⟩ := exists_missing (holds.2 nothing)
      obtain ⟨result, member⟩ := holds.1.waiting place missing
      cases member
  · intro checked
    cases checks with
    | nil => exact absurd rfl checked
    | cons check rest => rfl

/-- A join of checks that all have to pass ends with their answers, or with the failure of one. -/
theorem allPass_answer (checks : List (Run (Except ε α))) :
    ComeTogether (checks.map answer) (allPass checks).answer := by
  unfold allPass
  split
  · have together := inRounds_answer (checks.map Task.running)
    rwa [List.map_map] at together
  · exact (inOrder_answer checks).comeTogether

/-! ## The first to pass -/

/-- Of checks with these results that one comes first: one that has passed, or the failure of one where all
have failed, or nothing where there is no check. -/
def FirstOf (results : List (Except ε α)) : Option (Except ε α) → Prop
  | some (.ok answer) => .ok answer ∈ results
  | some (.error failure) => .error failure ∈ results ∧ ∀ result ∈ results, ∃ other, result = .error other
  | none => results = []

/-- What is known while no check has passed: the first failure, and which checks may still pass. -/
structure Tried (results : List (Except ε α)) (failure : Option ε) (queue : List (Unit × Except ε α)) :
    Prop where
  queued : ∀ entry ∈ queue, entry.2 ∈ results
  failed : ∀ result ∈ results, ((), result) ∈ queue ∨ ∃ other, result = .error other
  failure : match failure with
    | none => queue.length = results.length
    | some first => .error first ∈ results

/-- The first check to pass is one whose answer calls for that. -/
theorem firstPass_answer (checks : List (Run (Except ε α))) :
    FirstOf (checks.map answer) (firstPass checks).answer := by
  unfold firstPass
  refine serve_answer (Tried (checks.map answer)) ?_ ?_ ?_ ⟨?_, ?_, ?_⟩
  · intro failure first second same tried
    refine ⟨fun entry member => tried.queued entry (same.mem_iff.mpr member), fun result member => ?_, ?_⟩
    · rw [← same.mem_iff]
      exact tried.failed result member
    · have failed := tried.failure
      cases failure with
      | none => exact same.length_eq.symm.trans failed
      | some first => exact failed
  · intro failure name result rest tried
    have inResults := tried.queued _ List.mem_cons_self
    cases result with
    | ok answer => exact inResults
    | error other =>
        refine ⟨fun entry member => tried.queued entry (List.mem_cons_of_mem _ member),
          fun result member => ?_, ?_⟩
        · rcases tried.failed result member with waiting | failed
          · rcases List.mem_cons.mp waiting with front | later
            · exact .inr ⟨other, (Prod.mk.inj front).2⟩
            · exact .inl later
          · exact .inr failed
        · cases failure with
          | none => exact inResults
          | some first => exact tried.failure
  · intro failure tried
    have allFailed : ∀ result ∈ checks.map answer, ∃ other, result = .error other := by
      intro result member
      exact (tried.failed result member).resolve_left (List.not_mem_nil)
    cases failure with
    | none => exact List.length_eq_zero_iff.mp tried.failure.symm
    | some first => exact ⟨tried.failure, allFailed⟩
  · intro entry member
    obtain ⟨check, queued, rfl⟩ := List.mem_map.mp member
    obtain ⟨check, present, rfl⟩ := List.mem_map.mp queued
    exact List.mem_map_of_mem present
  · intro result member
    obtain ⟨check, present, rfl⟩ := List.mem_map.mp member
    exact .inl (List.mem_map.mpr ⟨((), check), List.mem_map_of_mem present, rfl⟩)
  · simp only [settled, List.length_map]

end Vetting.Run

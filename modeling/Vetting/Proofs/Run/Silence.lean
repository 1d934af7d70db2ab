import Vetting.Proofs.Run.Answers

/-!
# Runs without their openings

Silencing a run takes its openings away and leaves its pauses and its answer (`Run.silent`).  No join looks at what
its checks open, so it may be silenced check by check (`silent_allPass`, `silent_firstPass`).  Two runs that are the
same once silenced pause at the same points and come to the same answer.
-/

namespace Vetting.Run

variable {α β γ ε ι σ : Type}

/-- The run without its openings. -/
def silent : Run α → Run α
  | done answer => done answer
  | opening _ rest => silent rest
  | paused rest => paused (silent rest)

/-- Openings are left out before a run goes on and after it. -/
@[simp] theorem silent_bind (run : Run α) (next : α → Run β) :
    (run.bind next).silent = run.silent.bind fun answer => (next answer).silent := by
  induction run with
  | done answer => rfl
  | opening schema rest ih => exact ih
  | paused rest ih => exact congrArg paused ih

/-- Openings in front of a run are left out. -/
@[simp] theorem silent_openingAll (schemas : List Handle) (rest : Run α) :
    (openingAll schemas rest).silent = rest.silent := by
  unfold openingAll
  induction schemas with
  | nil => rfl
  | cons schema others ih => exact ih

/-- A run comes to the same answer without its openings. -/
@[simp] theorem answer_silent (run : Run α) : run.silent.answer = run.answer := by
  induction run with
  | done answer => rfl
  | opening schema rest ih => exact ih
  | paused rest ih => exact ih

/-- A run pauses as often without its openings. -/
@[simp] theorem pauses_silent (run : Run α) : run.silent.pauses = run.pauses := by
  induction run with
  | done answer => rfl
  | opening schema rest ih => exact ih
  | paused rest ih => exact congrArg (· + 1) ih

/-- A run that opens nothing is silent as it is. -/
theorem silent_of_opened {run : Run α} (nothing : run.opened = []) : run.silent = run := by
  induction run with
  | done answer => rfl
  | opening schema rest => cases nothing
  | paused rest ih => exact congrArg paused (ih nothing)

/-- Where a run stands after one turn, without the openings to come. -/
def State.silent : State α → State α
  | finished answer => finished answer
  | pending rest => pending rest.silent

/-- A turn of a run without its openings opens nothing and goes on without openings. -/
theorem poll_silent (run : Run α) : run.silent.poll = ([], run.poll.2.silent) := by
  induction run with
  | done answer => rfl
  | opening schema rest ih => exact ih
  | paused rest => rfl

/-! ## Rounds -/

/-- The check without its openings. -/
def Task.silent : Task ε α → Task ε α
  | running run => running run.silent
  | passed answer => passed answer

/-- A round of checks without their openings opens nothing and comes to the same. -/
theorem round_silent (tasks : List (Task ε α)) :
    round (tasks.map Task.silent) = ([], (round tasks).2.map (List.map Task.silent)) := by
  induction tasks with
  | nil => rfl
  | cons task rest ih =>
      -- What comes of the other checks, with the first one put in front again.
      have behind : ∀ now : Task ε α,
          ((round rest).2.map (List.map Task.silent)).map (now.silent :: ·) =
            ((round rest).2.map (now :: ·)).map (List.map Task.silent) := by
        intro now
        cases (round rest).2 <;> rfl
      cases task with
      | passed answer =>
          simp only [List.map_cons, Task.silent, round, ih]
          exact congrArg (Prod.mk []) (behind (.passed answer))
      | running run =>
          simp only [List.map_cons, Task.silent, round, poll_silent, ih]
          cases turn : run.poll with
          | mk schemas state =>
              cases state with
              | pending later => exact congrArg (Prod.mk []) (behind (.running later))
              | finished result =>
                  cases result with
                  | error failure => rfl
                  | ok answer => exact congrArg (Prod.mk []) (behind (.passed answer))

/-- The same checks have passed without their openings. -/
theorem answers?_silent (tasks : List (Task ε α)) : answers? (tasks.map Task.silent) = answers? tasks := by
  induction tasks with
  | nil => rfl
  | cons task rest ih =>
      cases task with
      | running run => rfl
      | passed answer => exact congrArg (Option.map (answer :: ·)) ih

/-- Openings are left out of checks in rounds one by one. -/
theorem silent_inRounds (tasks : List (Task ε α)) : (inRounds tasks).silent = inRounds (tasks.map Task.silent) := by
  induction needed : turns tasks using Nat.strongRecOn generalizing tasks with
  | ind count ih =>
      have silenced := round_silent tasks
      cases turn : round tasks with
      | mk schemas result =>
          rw [turn] at silenced
          cases result with
          | error failure =>
              rw [inRounds_of_error turn, inRounds_of_error silenced, silent_openingAll]
              rfl
          | ok later =>
              rw [inRounds_of_ok turn, inRounds_of_ok silenced, answers?_silent, silent_openingAll]
              cases unfinished : answers? later with
              | some answers => rfl
              | none => exact congrArg paused (ih _ (needed ▸ (turns_round turn).2 unfinished) later rfl)

/-! ## Queues -/

/-- A queue is silenced check by check, whatever becomes of their results. -/
theorem silent_serve (absorb : σ → ι → β → σ ⊕ γ) (finish : σ → γ) (state : σ) (waited : Nat)
    (queue : List (ι × Run β)) :
    (serve absorb finish state waited queue).silent =
      serve absorb finish state waited (queue.map (Prod.map id silent)) := by
  induction needed : queueTurns queue using Nat.strongRecOn generalizing state waited queue with
  | ind count ih =>
      cases queue with
      | nil =>
          rw [List.map_nil, serve]
          rfl
      | cons check rest =>
          obtain ⟨name, run⟩ := check
          have silenced := poll_silent run
          cases turn : run.poll with
          | mk schemas stands =>
              rw [turn] at silenced
              rw [List.map_cons, Prod.map_apply, id_eq]
              cases stands with
              | finished result =>
                  rw [serve_of_finished turn, serve_of_finished silenced, silent_openingAll]
                  cases absorb state name result with
                  | inl next => exact ih _ (needed ▸ queueTurns_lt_cons name run rest) next 0 rest rfl
                  | inr answer => rfl
              | pending later =>
                  have fewer : queueTurns (rest ++ [(name, later)]) < count := needed ▸ queueTurns_requeue turn
                  have behind : rest.map (Prod.map id silent) ++ [(name, later.silent)] =
                      (rest ++ [(name, later)]).map (Prod.map id silent) := by
                    rw [List.map_append]
                    rfl
                  rw [serve_of_pending turn, serve_of_pending silenced, silent_openingAll, List.length_map, behind]
                  split
                  · exact congrArg paused (ih _ fewer state 0 _ rfl)
                  · exact ih _ fewer state (waited + 1) _ rfl

variable (checks : List (Run (Except ε α)))

/-- Openings are left out of checks in order one by one. -/
theorem silent_inOrder : (inOrder checks).silent = inOrder (checks.map silent) := by
  unfold inOrder
  rw [silent_serve, List.map_map, List.length_map, List.zip_map_right]
  rfl

/-- **All must pass.**  Their join is silenced check by check. -/
theorem silent_allPass : (allPass checks).silent = allPass (checks.map silent) := by
  unfold allPass
  rw [List.length_map]
  split
  · rw [silent_inRounds, List.map_map, List.map_map]
    rfl
  · exact silent_inOrder checks

/-- **The first to pass.**  So is the join that ends with the first check to pass. -/
theorem silent_firstPass : (firstPass checks).silent = firstPass (checks.map silent) := by
  unfold firstPass
  rw [silent_serve, List.map_map, List.map_map]
  rfl

end Vetting.Run

import Vetting.Run.Basic

/-!
# Joining runs

Several checks run side by side, and every turn of the join gives turns to some of them.

`allPass` waits for all checks and ends early with a failure.  Up to thirty checks are polled in order, each
once in a turn, and the first failure that is met ends the join.  More checks wait in a queue, and their
results are taken in the order of the checks only, so a failure stays unseen while an earlier check runs.

`firstPass` keeps its checks in such a queue and ends with the first that passes.

A queue serves its front check; a check that pauses goes to the back.  The turn of a queue ends when two
checks in a row, or its only one, have paused.
-/

namespace Vetting.Run

variable {ε α : Type}

/-- A check of a join, still running or passed. -/
inductive Task (ε α : Type) where
  | running (run : Run (Except ε α))
  | passed (answer : α)

/-- How many turns the check still needs at most. -/
def Task.turns : Task ε α → Nat
  | running run => run.pauses + 1
  | passed _ => 0

/-- How many turns the checks still need at most, taken together. -/
def turns : List (Task ε α) → Nat
  | [] => 0
  | task :: rest => task.turns + turns rest

/-- One turn for every check that still runs: the schemas they open, and the first failure, or where the
checks stand. -/
def round : List (Task ε α) → List Handle × Except ε (List (Task ε α))
  | [] => ([], .ok [])
  | .passed answer :: rest =>
    let (schemas, result) := round rest
    (schemas, result.map (.passed answer :: ·))
  | .running run :: rest =>
    match run.poll with
    | (schemas, .finished (.error failure)) => (schemas, .error failure)
    | (schemas, .finished (.ok answer)) =>
      let (others, result) := round rest
      (schemas ++ others, result.map (.passed answer :: ·))
    | (schemas, .pending later) =>
      let (others, result) := round rest
      (schemas ++ others, result.map (.running later :: ·))

/-- The answers of the checks, once all of them have passed. -/
def answers? : List (Task ε α) → Option (List α)
  | [] => some []
  | .running _ :: _ => none
  | .passed answer :: rest => (answers? rest).map (answer :: ·)

/-- A round takes no more turns than there were, and fewer unless all checks have passed. -/
theorem turns_round {tasks later : List (Task ε α)} {schemas : List Handle}
    (turn : round tasks = (schemas, .ok later)) :
    turns later ≤ turns tasks ∧ (answers? later = none → turns later < turns tasks) := by
  induction tasks generalizing schemas later with
  | nil =>
    simp only [round, Prod.mk.injEq, Except.ok.injEq] at turn
    obtain ⟨-, rfl⟩ := turn
    simp [answers?]
  | cons task rest ih =>
    cases task with
    | passed answer =>
      cases next : round rest with
      | mk others result =>
        cases result with
        | error failure => simp [round, next, Except.map] at turn
        | ok stepped =>
          simp only [round, next, Except.map, Prod.mk.injEq, Except.ok.injEq] at turn
          obtain ⟨-, rfl⟩ := turn
          have := ih next
          simp only [turns, Task.turns, Nat.zero_add, answers?,
            Option.map_eq_none_iff] at this ⊢
          exact this
    | running run =>
      cases polled : run.poll with
      | mk opened state =>
        cases state with
        | finished outcome =>
          cases outcome with
          | error failure => simp [round, polled] at turn
          | ok answer =>
            cases next : round rest with
            | mk others result =>
              cases result with
              | error failure => simp [round, polled, next, Except.map] at turn
              | ok stepped =>
                simp only [round, polled, next, Except.map, Prod.mk.injEq, Except.ok.injEq] at turn
                obtain ⟨-, rfl⟩ := turn
                have := (ih next).1
                simp only [turns, Task.turns] at this ⊢
                omega
        | pending waiting =>
          cases next : round rest with
          | mk others result =>
            cases result with
            | error failure => simp [round, polled, next, Except.map] at turn
            | ok stepped =>
              simp only [round, polled, next, Except.map, Prod.mk.injEq, Except.ok.injEq] at turn
              obtain ⟨-, rfl⟩ := turn
              have := (ih next).1
              have := pauses_of_poll_pending polled
              simp only [turns, Task.turns] at *
              omega

/-- Gives all checks turns until one fails or all have passed. -/
def inRounds (tasks : List (Task ε α)) : Run (Except ε (List α)) :=
  match _turn : round tasks with
  | (schemas, .error failure) => openingAll schemas (done (.error failure))
  | (schemas, .ok later) =>
    match _unfinished : answers? later with
    | some answers => openingAll schemas (done (.ok answers))
    | none => openingAll schemas (paused (inRounds later))
termination_by turns tasks
decreasing_by exact (turns_round _turn).2 _unfinished

/-- How many turns the checks of a queue need at most. -/
def queueTurns {ι β : Type} : List (ι × Run β) → Nat
  | [] => 0
  | (_, run) :: rest => run.pauses + 1 + queueTurns rest

/-- The turns of a queue are those of its front and its back. -/
theorem queueTurns_append {ι β : Type} (front back : List (ι × Run β)) :
    queueTurns (front ++ back) = queueTurns front + queueTurns back := by
  induction front with
  | nil => simp [queueTurns]
  | cons check rest ih => simp [queueTurns, ih]; omega

/-- Serves the checks of a queue.  `absorb` takes in the result of a check and may end the join, `finish`
gives the answer of an empty queue, and `waited` counts the checks that have just paused in a row. -/
def serve {ι β σ γ : Type} (absorb : σ → ι → β → σ ⊕ γ) (finish : σ → γ) (state : σ) (waited : Nat)
    (queue : List (ι × Run β)) : Run γ :=
  match queue with
  | [] => done (finish state)
  | (name, run) :: rest =>
    match _turn : run.poll with
    | (schemas, .finished result) =>
      openingAll schemas (match absorb state name result with
        | .inl next => serve absorb finish next 0 rest
        | .inr answer => done answer)
    | (schemas, .pending later) =>
      openingAll schemas (
        if min 2 (rest.length + 1) ≤ waited + 1 then
          paused (serve absorb finish state 0 (rest ++ [(name, later)]))
        else serve absorb finish state (waited + 1) (rest ++ [(name, later)]))
termination_by queueTurns queue
decreasing_by
  · simp [queueTurns]
  · have := pauses_of_poll_pending _turn
    simp [queueTurns, queueTurns_append]
    omega
  · have := pauses_of_poll_pending _turn
    simp [queueTurns, queueTurns_append]
    omega

/-- The verdict on results that are taken in order: the first failure among the leading known ones, or all
answers. -/
def verdict? : List (Option (Except ε α)) → Option (Except ε (List α))
  | [] => some (.ok [])
  | none :: _ => none
  | some (.error failure) :: _ => some (.error failure)
  | some (.ok answer) :: rest => (verdict? rest).map fun others => others.map (answer :: ·)

/-- Takes the results of a queue in the order of the checks. -/
def inOrder (checks : List (Run (Except ε α))) : Run (Except ε (List α)) :=
  serve
    (fun results place result =>
      let results := results.set place (some result)
      match verdict? results with
      | some verdict => .inr verdict
      | none => .inl results)
    (fun _ => .ok [])
    (checks.map fun _ => none) 0 ((List.range checks.length).zip checks)

/-- At most this many checks are polled in rounds. -/
def roundLimit : Nat := 30

/-- The answers of all checks, or a failure. -/
def allPass (checks : List (Run (Except ε α))) : Run (Except ε (List α)) :=
  if checks.length ≤ roundLimit then inRounds (checks.map .running) else inOrder checks

/-- The answer of the first check that passes, else the first failure; nothing without checks. -/
def firstPass (checks : List (Run (Except ε α))) : Run (Option (Except ε α)) :=
  serve
    (fun failure (_ : Unit) result =>
      match result with
      | .ok answer => .inr (some (.ok answer))
      | .error other => .inl (some (failure.getD other)))
    (fun failure => failure.map .error)
    none 0 (checks.map fun check => ((), check))

end Vetting.Run

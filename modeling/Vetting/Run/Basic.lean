/-!
# Computations that run in turns

A run is driven by polling.  One poll gives it one turn, in which it either ends with an answer or pauses
and asks to be polled again.  On the way it opens schemas: the first opening of a schema settles its rules,
so a run says which schemas it opens.
-/

namespace Vetting

/-- The identity of a schema. -/
abbrev Handle := Nat

/-- Things that stand for schemas and have their handles. -/
class Identified (σ : Type) where
  handle : σ → Handle

/-- A computation that opens schemas and pauses before it ends with an answer. -/
inductive Run (α : Type) where
  | done (answer : α)
  | opening (schema : Handle) (rest : Run α)
  | paused (rest : Run α)

namespace Run

variable {α β γ : Type}

/-- Runs the second computation on the answer of the first. -/
def bind : Run α → (α → Run β) → Run β
  | done answer, next => next answer
  | opening schema rest, next => opening schema (bind rest next)
  | paused rest, next => paused (bind rest next)

instance : Monad Run where
  pure := done
  bind := bind

/-- Opens schemas one after the other, then goes on. -/
def openingAll (schemas : List Handle) (rest : Run α) : Run α :=
  schemas.foldr opening rest

/-- Pauses that many times, then goes on. -/
def pausing : Nat → Run α → Run α
  | 0, rest => rest
  | count + 1, rest => paused (pausing count rest)

/-- How often the run pauses. -/
def pauses : Run α → Nat
  | done _ => 0
  | opening _ rest => pauses rest
  | paused rest => pauses rest + 1

/-- The answer of a run that is driven to its end. -/
def answer : Run α → α
  | done answer => answer
  | opening _ rest => answer rest
  | paused rest => answer rest

/-- All schemas that the run opens. -/
def opened : Run α → List Handle
  | done _ => []
  | opening schema rest => schema :: opened rest
  | paused rest => opened rest

/-- Where a run stands after one turn. -/
inductive State (α : Type) where
  | finished (answer : α)
  | pending (rest : Run α)

/-- One turn: the schemas that it opens, and where the run stands after it. -/
def poll : Run α → List Handle × State α
  | done answer => ([], .finished answer)
  | opening schema rest =>
    let (schemas, state) := poll rest
    (schema :: schemas, state)
  | paused rest => ([], .pending rest)

/-- The answer, if the first turn brings it. -/
def answerAtOnce? (run : Run α) : Option α :=
  match run.poll.2 with
  | .finished answer => some answer
  | .pending _ => none

/-- A run that is over goes on with what comes next. -/
@[simp] theorem done_bind (answer : α) (next : α → Run β) : (done answer).bind next = next answer := rfl

/-- A run that goes on to be over is itself. -/
@[simp] theorem bind_done (run : Run α) : run.bind done = run := by
  induction run with
  | done answer => rfl
  | opening schema rest ih => simp [bind, ih]
  | paused rest ih => simp [bind, ih]

/-- Runs may be joined in any grouping. -/
theorem bind_bind (run : Run α) (next : α → Run β) (last : β → Run γ) :
    (run.bind next).bind last = run.bind fun answer => (next answer).bind last := by
  induction run with
  | done answer => rfl
  | opening schema rest ih => simp [bind, ih]
  | paused rest ih => simp [bind, ih]

/-- The pauses of a run that goes on are those of both parts. -/
@[simp] theorem pauses_bind (run : Run α) (next : α → Run β) :
    (run.bind next).pauses = run.pauses + (next run.answer).pauses := by
  induction run with
  | done answer => simp [bind, pauses, Run.answer]
  | opening schema rest ih => simpa [bind, pauses, Run.answer] using ih
  | paused rest ih => simp [bind, pauses, Run.answer, ih]; omega

/-- The answer of a run that goes on is that of its last part. -/
@[simp] theorem answer_bind (run : Run α) (next : α → Run β) :
    (run.bind next).answer = (next run.answer).answer := by
  induction run with
  | done answer => rfl
  | opening schema rest ih => simpa [bind, Run.answer] using ih
  | paused rest ih => simpa [bind, Run.answer] using ih

/-- A turn that leaves the run pending uses up one of its pauses. -/
theorem pauses_of_poll_pending {run rest : Run α} {schemas : List Handle}
    (turn : run.poll = (schemas, .pending rest)) : rest.pauses + 1 = run.pauses := by
  induction run generalizing schemas with
  | done answer => simp [poll] at turn
  | opening schema inner ih =>
    cases polled : inner.poll with
    | mk found state =>
      rw [poll, polled] at turn
      simp only [Prod.mk.injEq] at turn
      obtain ⟨-, rfl⟩ := turn
      simpa [pauses] using ih polled
  | paused inner ih =>
    simp only [poll, Prod.mk.injEq, State.pending.injEq] at turn
    obtain ⟨-, rfl⟩ := turn
    rfl

/-- A run that never pauses ends in its first turn. -/
theorem answerAtOnce?_of_pauses_eq_zero {run : Run α} (steady : run.pauses = 0) :
    run.answerAtOnce? = some run.answer := by
  induction run with
  | done answer => rfl
  | opening schema rest ih => simpa [answerAtOnce?, poll, Run.answer] using ih steady
  | paused rest ih => simp [pauses] at steady

end Run

end Vetting

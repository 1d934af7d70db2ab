import Vetting.Proofs.Run.Answers

/-!
# What runs are allowed to do

A licence says which schemas a run may open, and whether it may pause.  That a run keeps to it is proved piece by
piece, along with what is known of its answer (`Obeys`): a join keeps to a licence if all its checks do
(`Obeys.allPass`, `Obeys.firstPass`).

A run that may not pause ends in its first turn and opens in it whatever it opens at all
(`poll_of_pauses_eq_zero`).
-/

namespace Vetting.Run

variable {α β γ ε ι σ : Type}

/-- What a run may do before it answers. -/
structure Licence where
  /-- It may open these schemas. -/
  opens : Handle → Prop
  /-- It may pause. -/
  waits : Prop

variable {licence : Licence}

/-- The run keeps to a licence and comes to one of these answers. -/
def Obeys (licence : Licence) (answers : α → Prop) : Run α → Prop
  | done answer => answers answer
  | opening schema rest => licence.opens schema ∧ rest.Obeys licence answers
  | paused rest => licence.waits ∧ rest.Obeys licence answers

/-- Where a run that keeps to a licence stands after one turn. -/
def State.Obeys (licence : Licence) (answers : α → Prop) : State α → Prop
  | finished answer => answers answer
  | pending rest => licence.waits ∧ rest.Obeys licence answers

/-- If the result is a failure, it is one of these. -/
def FailsOnly (failures : ε → Prop) : Except ε α → Prop
  | .ok _ => True
  | .error failure => failures failure

namespace Obeys

variable {answers : α → Prop}

/-- A run that keeps to a licence keeps to a wider one. -/
theorem mono {wider : Licence} {further : α → Prop} (opens : ∀ schema, licence.opens schema → wider.opens schema)
    (waits : licence.waits → wider.waits) (weaker : ∀ answer, answers answer → further answer) {run : Run α}
    (obeys : run.Obeys licence answers) : run.Obeys wider further := by
  induction run with
  | done answer => exact weaker answer obeys
  | opening schema rest ih => exact ⟨opens schema obeys.1, ih obeys.2⟩
  | paused rest ih => exact ⟨waits obeys.1, ih obeys.2⟩

/-- A run keeps to a licence if it goes on within it from every allowed answer. -/
theorem bind {further : β → Prop} {run : Run α} {next : α → Run β} (obeys : run.Obeys licence answers)
    (onward : ∀ answer, answers answer → (next answer).Obeys licence further) :
    (run.bind next).Obeys licence further := by
  induction run with
  | done answer => exact onward answer obeys
  | opening schema rest ih => exact ⟨obeys.1, ih obeys.2⟩
  | paused rest ih => exact ⟨obeys.1, ih obeys.2⟩

/-- To open schemas is within a licence that allows each of them. -/
theorem openingAll {schemas : List Handle} {rest : Run α} (allowed : ∀ schema ∈ schemas, licence.opens schema)
    (obeys : rest.Obeys licence answers) : (openingAll schemas rest).Obeys licence answers := by
  induction schemas with
  | nil => exact obeys
  | cons schema others ih =>
      exact ⟨allowed schema List.mem_cons_self, ih fun other member => allowed other (List.mem_cons_of_mem _ member)⟩

/-- To pause is within a licence that allows it. -/
theorem pausing {count : Nat} {rest : Run α} (allowed : count ≠ 0 → licence.waits)
    (obeys : rest.Obeys licence answers) : (pausing count rest).Obeys licence answers := by
  induction count with
  | zero => exact obeys
  | succ count ih => exact ⟨allowed (Nat.succ_ne_zero count), ih fun _ => allowed (Nat.succ_ne_zero count)⟩

/-- A run comes to one of its allowed answers. -/
theorem answer {run : Run α} (obeys : run.Obeys licence answers) : answers run.answer := by
  induction run with
  | done answer => exact obeys
  | opening schema rest ih => exact ih obeys.2
  | paused rest ih => exact ih obeys.2

/-- A run opens only what its licence allows. -/
theorem opened {run : Run α} (obeys : run.Obeys licence answers) : ∀ schema ∈ run.opened, licence.opens schema := by
  induction run with
  | done answer => exact List.forall_mem_nil _
  | opening schema rest ih => exact List.forall_mem_cons.mpr ⟨obeys.1, ih obeys.2⟩
  | paused rest ih => exact ih obeys.2

/-- A run that may not pause does not. -/
theorem pauses_eq_zero (steady : ¬ licence.waits) {run : Run α} (obeys : run.Obeys licence answers) :
    run.pauses = 0 := by
  induction run with
  | done answer => rfl
  | opening schema rest ih => exact ih obeys.2
  | paused rest => exact absurd obeys.1 steady

/-- A turn keeps to the licence, and so does what is left of the run. -/
theorem poll {run : Run α} (obeys : run.Obeys licence answers) :
    (∀ schema ∈ run.poll.1, licence.opens schema) ∧ run.poll.2.Obeys licence answers := by
  induction run with
  | done answer => exact ⟨List.forall_mem_nil _, obeys⟩
  | opening schema rest ih =>
      obtain ⟨opens, stands⟩ := ih obeys.2
      exact ⟨List.forall_mem_cons.mpr ⟨obeys.1, opens⟩, stands⟩
  | paused rest => exact ⟨List.forall_mem_nil _, obeys⟩

end Obeys

/-- Without pauses the first turn is the whole run. -/
theorem poll_of_pauses_eq_zero {run : Run α} (steady : run.pauses = 0) :
    run.poll = (run.opened, .finished run.answer) := by
  induction run with
  | done answer => rfl
  | opening schema rest ih => rw [poll, ih steady, opened, Run.answer]
  | paused rest => cases steady

/-! ## Rounds -/

variable {failures : ε → Prop}

/-- What a check of a join may do from where it stands. -/
def Task.Obeys (licence : Licence) (failures : ε → Prop) : Task ε α → Prop
  | running run => run.Obeys licence (FailsOnly failures)
  | passed _ => True

/-- The check has passed, or it was allowed to pause. -/
def Task.Excused (licence : Licence) : Task ε α → Prop
  | running _ => licence.waits
  | passed _ => True

/-- A round keeps to a licence that all checks keep to, and what still runs after it was allowed to pause. -/
theorem obeys_round {tasks : List (Task ε α)} (all : ∀ task ∈ tasks, task.Obeys licence failures) :
    (∀ schema ∈ (round tasks).1, licence.opens schema) ∧
      match (round tasks).2 with
      | .error failure => failures failure
      | .ok later => ∀ task ∈ later, task.Obeys licence failures ∧ task.Excused licence := by
  induction tasks with
  | nil => exact ⟨List.forall_mem_nil _, List.forall_mem_nil _⟩
  | cons task rest ih =>
      obtain ⟨own, others⟩ := List.forall_mem_cons.mp all
      obtain ⟨restOpens, restStands⟩ := ih others
      -- What the other checks come to, with the first one put in front again.
      have stands : ∀ now : Task ε α, now.Obeys licence failures → now.Excused licence →
          match (round rest).2.map (now :: ·) with
          | .error failure => failures failure
          | .ok later => ∀ task ∈ later, task.Obeys licence failures ∧ task.Excused licence := by
        intro now obeys excused
        cases result : (round rest).2 with
        | error failure =>
            rw [result] at restStands
            exact restStands
        | ok later =>
            rw [result] at restStands
            exact List.forall_mem_cons.mpr ⟨⟨obeys, excused⟩, restStands⟩
      cases task with
      | passed answer => exact ⟨restOpens, stands (.passed answer) trivial trivial⟩
      | running run =>
          obtain ⟨opens, after⟩ := Obeys.poll own
          rw [round]
          split
          next schemas failure turn =>
            rw [turn] at opens after
            exact ⟨opens, after⟩
          next schemas answer turn =>
            rw [turn] at opens
            exact ⟨List.forall_mem_append.mpr ⟨opens, restOpens⟩, stands (.passed answer) trivial trivial⟩
          next schemas later turn =>
            rw [turn] at opens after
            exact ⟨List.forall_mem_append.mpr ⟨opens, restOpens⟩, stands (.running later) after.2 after.1⟩

/-- As long as the answers of the checks are not complete, one of the checks runs. -/
theorem waits_of_unfinished {tasks : List (Task ε α)} (excused : ∀ task ∈ tasks, task.Excused licence)
    (unfinished : answers? tasks = none) : licence.waits := by
  induction tasks with
  | nil => cases unfinished
  | cons task rest ih =>
      obtain ⟨own, others⟩ := List.forall_mem_cons.mp excused
      cases task with
      | running run => exact own
      | passed answer => exact ih others (Option.map_eq_none_iff.mp unfinished)

/-- Checks in rounds keep to the licence that each of them keeps to. -/
theorem Obeys.inRounds {tasks : List (Task ε α)} (all : ∀ task ∈ tasks, task.Obeys licence failures) :
    (inRounds tasks).Obeys licence (FailsOnly failures) := by
  induction needed : turns tasks using Nat.strongRecOn generalizing tasks with
  | ind count ih =>
      obtain ⟨opens, stands⟩ := obeys_round all
      rw [Run.inRounds]
      split
      next schemas failure turn =>
        rw [turn] at opens stands
        exact .openingAll opens stands
      next schemas later turn =>
        rw [turn] at opens stands
        split
        next answers passed => exact .openingAll opens trivial
        next unfinished =>
          have waits := waits_of_unfinished (fun task member => (stands task member).2) unfinished
          have fewer := needed ▸ (turns_round turn).2 unfinished
          exact .openingAll opens ⟨waits, ih _ fewer (fun task member => (stands task member).1) rfl⟩

/-! ## Queues -/

/-- A queue keeps to a licence that all its checks keep to.  What holds of its state at first, and is kept by every
result that it absorbs, decides about its answer. -/
theorem Obeys.serve {absorb : σ → ι → β → σ ⊕ γ} {finish : σ → γ} {answers : γ → Prop} (results : β → Prop)
    (holds : σ → Prop)
    (absorbed : ∀ {state : σ} {name : ι} {result : β}, holds state → results result →
      match absorb state name result with
      | .inl next => holds next
      | .inr answer => answers answer)
    (finished : ∀ {state : σ}, holds state → answers (finish state))
    {state : σ} {waited : Nat} {queue : List (ι × Run β)} (start : holds state)
    (all : ∀ check ∈ queue, check.2.Obeys licence results) :
    (serve absorb finish state waited queue).Obeys licence answers := by
  induction needed : queueTurns queue using Nat.strongRecOn generalizing state waited queue with
  | ind count ih =>
      cases queue with
      | nil =>
          rw [Run.serve]
          exact finished start
      | cons check rest =>
          obtain ⟨name, run⟩ := check
          obtain ⟨own, others⟩ := List.forall_mem_cons.mp all
          obtain ⟨opens, stands⟩ := Obeys.poll own
          rw [Run.serve]
          split
          next schemas result turn =>
            rw [turn] at opens stands
            refine .openingAll opens ?_
            have step := @absorbed state name result start stands
            cases absorbing : absorb state name result with
            | inl next =>
                rw [absorbing] at step
                exact ih _ (needed ▸ queueTurns_lt_cons name run rest) step others rfl
            | inr answer =>
                rw [absorbing] at step
                exact step
          next schemas later turn =>
            rw [turn] at opens stands
            have fewer : queueTurns (rest ++ [(name, later)]) < count := needed ▸ queueTurns_requeue turn
            have turned : ∀ check ∈ rest ++ [(name, later)], check.2.Obeys licence results :=
              List.forall_mem_append.mpr ⟨others, List.forall_mem_singleton.mpr stands.2⟩
            refine .openingAll opens ?_
            split
            · exact ⟨stands.1, ih _ fewer start turned rfl⟩
            · exact ih _ fewer start turned rfl

/-- A verdict on results is one of their failures, if it is a failure. -/
theorem failsOnly_verdict? {results : List (Option (Except ε α))} {verdict : Except ε (List α)}
    (all : ∀ result, some result ∈ results → FailsOnly failures result)
    (taken : verdict? results = some verdict) : FailsOnly failures verdict := by
  induction results generalizing verdict with
  | nil =>
      obtain rfl := Option.some.inj taken
      trivial
  | cons entry rest ih =>
      match entry with
      | none => cases taken
      | some (.error failure) =>
          obtain rfl := Option.some.inj taken
          exact all (.error failure) List.mem_cons_self
      | some (.ok answer) =>
          rw [verdict?, Option.map_eq_some_iff] at taken
          obtain ⟨others, restTaken, rfl⟩ := taken
          have further := ih (fun result member => all result (List.mem_cons_of_mem _ member)) restTaken
          cases others with
          | error failure => exact further
          | ok answers => trivial

variable {checks : List (Run (Except ε α))}

/-- Checks in order keep to the licence that each of them keeps to. -/
theorem Obeys.inOrder (all : ∀ check ∈ checks, check.Obeys licence (FailsOnly failures)) :
    (inOrder checks).Obeys licence (FailsOnly failures) := by
  unfold Run.inOrder
  refine .serve (FailsOnly failures)
    (fun known => ∀ result, some result ∈ known → FailsOnly failures result) ?_ (fun _ => trivial) ?_ ?_
  · intro known place result right own
    have recorded : ∀ other, some other ∈ known.set place (some result) → FailsOnly failures other := by
      intro other member
      rcases List.mem_or_eq_of_mem_set member with before | same
      · exact right other before
      · obtain rfl := Option.some.inj same
        exact own
    simp only
    split
    next next taken =>
      split at taken
      · cases taken
      · obtain rfl := Sum.inl.inj taken
        exact recorded
    next answer taken =>
      split at taken
      next verdict reached =>
        obtain rfl := Sum.inr.inj taken
        exact failsOnly_verdict? recorded reached
      · cases taken
  · intro result member
    obtain ⟨check, -, nothing⟩ := List.mem_map.mp member
    cases nothing
  · intro entry member
    exact all entry.2 (List.of_mem_zip member).2

/-- **All must pass.**  A join of any number of checks keeps to a licence that all of them keep to, and fails only as
one of them does. -/
theorem Obeys.allPass (all : ∀ check ∈ checks, check.Obeys licence (FailsOnly failures)) :
    (allPass checks).Obeys licence (FailsOnly failures) := by
  unfold Run.allPass
  split
  · refine .inRounds fun task member => ?_
    obtain ⟨check, given, rfl⟩ := List.mem_map.mp member
    exact all check given
  · exact .inOrder all

/-- **The first to pass.**  The same holds of the join that ends with the first check to pass. -/
theorem Obeys.firstPass (all : ∀ check ∈ checks, check.Obeys licence (FailsOnly failures)) :
    (firstPass checks).Obeys licence (fun answer => ∀ failure, answer = some (.error failure) → failures failure) := by
  unfold Run.firstPass
  refine .serve (FailsOnly failures) (fun failure => ∀ found ∈ failure, failures found) ?_ ?_ ?_ ?_
  · intro failure _ result known own
    cases result with
    | ok answer => exact fun other same => by cases same
    | error other =>
        intro found same
        obtain rfl := Option.some.inj same
        cases failure with
        | none => exact own
        | some first => exact known first rfl
  · intro failure known found same
    obtain ⟨first, there, brought⟩ := Option.map_eq_some_iff.mp same
    exact Except.error.inj brought ▸ known first there
  · exact fun found same => by cases same
  · intro entry member
    obtain ⟨check, given, rfl⟩ := List.mem_map.mp member
    exact all check given

end Vetting.Run

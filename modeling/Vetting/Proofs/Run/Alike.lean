import Vetting.Proofs.Related
import Vetting.Proofs.Run.Answers

/-!
# Runs that are alike

Two runs are alike if they open the same schemas and pause at the same points, and related answers come out of
them (`Run.Alike`).  Which check of a join is served, and which result ends it, is decided by the pauses and by
whether a result is a failure, never by what the failure says.  So joins of checks that are alike are alike
(`Run.Alike.allPass`, `Run.Alike.firstPass`).
-/

namespace Vetting

variable {α β γ δ ε ζ ι σ τ : Type}

/-- Both results are answers, or both are failures, and they are related. -/
inductive Matching (failures : ε → ζ → Prop) (answers : α → β → Prop) : Except ε α → Except ζ β → Prop where
  | ok {answer : α} {other : β} (related : answers answer other) : Matching failures answers (.ok answer) (.ok other)
  | error {failure : ε} {other : ζ} (related : failures failure other) :
      Matching failures answers (.error failure) (.error other)

/-- Results that match still do when related things are made of their answers. -/
theorem Matching.map {failures : ε → ζ → Prop} {answers : α → β → Prop} {further : γ → δ → Prop}
    {result : Except ε α} {other : Except ζ β} (matching : Matching failures answers result other) {f : α → γ}
    {g : β → δ}
    (onward : ∀ answer other, answers answer other → further (f answer) (g other)) :
    Matching failures further (result.map f) (other.map g) := by
  cases matching with
  | ok related => exact .ok (onward _ _ related)
  | error related => exact .error related

/-- Results that match do so under wider relations. -/
theorem Matching.mono {failures wider : ε → ζ → Prop} {answers further : α → β → Prop} {result : Except ε α}
    {other : Except ζ β} (matching : Matching failures answers result other)
    (failed : ∀ failure other, failures failure other → wider failure other)
    (answered : ∀ answer other, answers answer other → further answer other) : Matching wider further result other := by
  cases matching with
  | ok related => exact .ok (answered _ _ related)
  | error related => exact .error (failed _ _ related)

namespace Run

variable {related : α → β → Prop}

/-- The runs open the same schemas, pause at the same points and come to related answers. -/
inductive Alike (related : α → β → Prop) : Run α → Run β → Prop where
  | done {answer : α} {other : β} (answers : related answer other) : Alike related (done answer) (done other)
  | opening (schema : Handle) {rest : Run α} {other : Run β} (further : Alike related rest other) :
      Alike related (opening schema rest) (opening schema other)
  | paused {rest : Run α} {other : Run β} (further : Alike related rest other) :
      Alike related (paused rest) (paused other)

/-- After one turn both runs are over with related answers, or both wait and go on alike. -/
inductive State.Alike (related : α → β → Prop) : State α → State β → Prop where
  | finished {answer : α} {other : β} (answers : related answer other) :
      Alike related (finished answer) (finished other)
  | pending {rest : Run α} {other : Run β} (further : rest.Alike related other) :
      Alike related (pending rest) (pending other)

namespace Alike

variable {first : Run α} {second : Run β}

/-- Runs that are alike stay alike when they go on alike from related answers. -/
theorem bind {further : γ → δ → Prop} {next : α → Run γ} {other : β → Run δ} (alike : first.Alike related second)
    (onward : ∀ answer answer', related answer answer' → (next answer).Alike further (other answer')) :
    (first.bind next).Alike further (second.bind other) := by
  induction alike with
  | done answers => exact onward _ _ answers
  | opening schema _ ih => exact .opening schema ih
  | paused _ ih => exact .paused ih

/-- Runs that are alike are so under a wider relation. -/
theorem mono {wider : α → β → Prop} (alike : first.Alike related second)
    (weaker : ∀ answer other, related answer other → wider answer other) : first.Alike wider second := by
  induction alike with
  | done answers => exact .done (weaker _ _ answers)
  | opening schema _ ih => exact .opening schema ih
  | paused _ ih => exact .paused ih

/-- Runs that are alike stay alike when the same schemas are opened before them. -/
theorem openingAll (schemas : List Handle) (alike : first.Alike related second) :
    (openingAll schemas first).Alike related (openingAll schemas second) := by
  unfold Run.openingAll
  induction schemas with
  | nil => exact alike
  | cons schema _ ih => exact .opening schema ih

/-- Runs that are alike stay alike when the same pauses are put before them. -/
theorem pausing (count : Nat) (alike : first.Alike related second) :
    (pausing count first).Alike related (pausing count second) := by
  induction count with
  | zero => exact alike
  | succ _ ih => exact .paused ih

/-- Runs that are alike come to related answers. -/
theorem answer (alike : first.Alike related second) : related first.answer second.answer := by
  induction alike with
  | done answers => exact answers
  | opening _ _ ih => exact ih
  | paused _ ih => exact ih

/-- Runs that are alike open the same schemas. -/
theorem opened (alike : first.Alike related second) : first.opened = second.opened := by
  induction alike with
  | done _ => rfl
  | opening schema _ ih => exact congrArg (schema :: ·) ih
  | paused _ ih => exact ih

/-- One turn opens the same schemas in both runs, and leaves them alike. -/
theorem poll (alike : first.Alike related second) :
    first.poll.1 = second.poll.1 ∧ first.poll.2.Alike related second.poll.2 := by
  induction alike with
  | done answers => exact ⟨rfl, .finished answers⟩
  | opening schema _ ih => exact ⟨congrArg (schema :: ·) ih.1, ih.2⟩
  | paused further _ => exact ⟨rfl, .pending further⟩

/-- Both runs answer in their first turn, or neither does. -/
theorem answerAtOnce? (alike : first.Alike related second) :
    Option.Rel related first.answerAtOnce? second.answerAtOnce? := by
  unfold Run.answerAtOnce?
  generalize first.poll.2 = state, second.poll.2 = state', alike.poll.2 = stands
  cases stands with
  | finished answers => exact .some answers
  | pending _ => exact .none

end Alike

/-! ## Rounds -/

section Rounds

variable {failures : ε → ζ → Prop}

/-- The checks run alike, or both have passed with the same answer. -/
inductive Task.Alike (failures : ε → ζ → Prop) : Task ε α → Task ζ α → Prop where
  | running {run : Run (Except ε α)} {other : Run (Except ζ α)} (alike : run.Alike (Matching failures Eq) other) :
      Alike failures (running run) (running other)
  | passed (answer : α) : Alike failures (passed answer) (passed answer)

variable {tasks : List (Task ε α)} {others : List (Task ζ α)}

/-- A round of checks that are alike opens the same schemas and leaves the checks alike. -/
theorem alike_round (alike : List.Forall₂ (Task.Alike failures) tasks others) :
    (round tasks).1 = (round others).1 ∧
      Matching failures (List.Forall₂ (Task.Alike failures)) (round tasks).2 (round others).2 := by
  induction alike with
  | nil => exact ⟨rfl, .ok .nil⟩
  | @cons task other rest further own _ ih =>
      obtain ⟨opens, stands⟩ := ih
      cases own with
      | passed answer => exact ⟨opens, stands.map fun _ _ later => .cons (.passed answer) later⟩
      | @running run other own =>
          obtain ⟨polled, after⟩ := own.poll
          simp only [round]
          cases turn : run.poll with
          | mk schemas state =>
              cases turned : other.poll with
              | mk schemas' state' =>
                  rw [turn, turned] at polled after
                  obtain rfl : schemas = schemas' := polled
                  cases after with
                  | pending waiting =>
                      exact ⟨congrArg (schemas ++ ·) opens, stands.map fun _ _ later => .cons (.running waiting) later⟩
                  | finished answers =>
                      cases answers with
                      | error failed => exact ⟨rfl, .error failed⟩
                      | @ok answer _ same =>
                          obtain rfl := same
                          exact ⟨congrArg (schemas ++ ·) opens,
                            stands.map fun _ _ later => .cons (.passed answer) later⟩

/-- Checks that run alike have passed with the same answers, or neither all have. -/
theorem answers?_of_alike (alike : List.Forall₂ (Task.Alike failures) tasks others) :
    answers? tasks = answers? others := by
  induction alike with
  | nil => rfl
  | cons own _ ih =>
      cases own with
      | running _ => rfl
      | passed answer => exact congrArg (Option.map (answer :: ·)) ih

/-- Checks that run alike in rounds come to results that match. -/
theorem Alike.inRounds (alike : List.Forall₂ (Task.Alike failures) tasks others) :
    (inRounds tasks).Alike (Matching failures Eq) (inRounds others) := by
  -- The turns that the first checks still need shrink with every round, and the others keep pace.
  induction needed : turns tasks using Nat.strongRecOn generalizing tasks others with
  | ind count ih =>
      obtain ⟨opens, stands⟩ := alike_round alike
      cases turn : round tasks with
      | mk schemas result =>
          cases turned : round others with
          | mk schemas' result' =>
              rw [turn, turned] at opens stands
              obtain rfl : schemas = schemas' := opens
              cases stands with
              | error failed =>
                  rw [inRounds_of_error turn, inRounds_of_error turned]
                  exact .openingAll schemas (.done (.error failed))
              | @ok later later' waiting =>
                  rw [inRounds_of_ok turn, inRounds_of_ok turned, ← answers?_of_alike waiting]
                  refine .openingAll schemas ?_
                  cases unfinished : answers? later with
                  | some answers => exact .done (.ok rfl)
                  | none => exact .paused (ih _ (needed ▸ (turns_round turn).2 unfinished) waiting rfl)

end Rounds

/-! ## Queues -/

/-- The checks have the same name and are alike. -/
def NamedAlike (results : β → γ → Prop) (check : ι × Run β) (other : ι × Run γ) : Prop :=
  check.1 = other.1 ∧ check.2.Alike results other.2

/-- Queues are served alike if their checks are alike, and their states stay related while related results are
absorbed. -/
theorem Alike.serve (results : β → γ → Prop) (states : σ → τ → Prop) {answers : α → δ → Prop}
    {absorb : σ → ι → β → σ ⊕ α} {absorb' : τ → ι → γ → τ ⊕ δ} {finish : σ → α} {finish' : τ → δ}
    (absorbed : ∀ {state : σ} {state' : τ} {name : ι} {result : β} {result' : γ}, states state state' →
      results result result' → Sum.LiftRel states answers (absorb state name result) (absorb' state' name result'))
    (finished : ∀ {state : σ} {state' : τ}, states state state' → answers (finish state) (finish' state'))
    {state : σ} {state' : τ} {waited : Nat} {queue : List (ι × Run β)} {queue' : List (ι × Run γ)}
    (start : states state state') (alike : List.Forall₂ (NamedAlike results) queue queue') :
    (serve absorb finish state waited queue).Alike answers (serve absorb' finish' state' waited queue') := by
  induction needed : queueTurns queue using Nat.strongRecOn generalizing state state' waited queue queue' with
  | ind count ih =>
      cases alike with
      | nil =>
          rw [Run.serve, Run.serve]
          exact .done (finished start)
      | @cons check check' rest rest' own others =>
          obtain ⟨name, run⟩ := check
          obtain ⟨name', run'⟩ := check'
          obtain ⟨rfl, own⟩ : name = name' ∧ run.Alike results run' := own
          obtain ⟨polled, after⟩ := own.poll
          cases turn : run.poll with
          | mk schemas stands =>
              cases turned : run'.poll with
              | mk schemas' stands' =>
                  rw [turn, turned] at polled after
                  obtain rfl : schemas = schemas' := polled
                  cases after with
                  | @finished result result' said =>
                      rw [serve_of_finished turn, serve_of_finished turned]
                      refine .openingAll schemas ?_
                      have step := @absorbed state state' name result result' start said
                      generalize absorb state name result = next, absorb' state' name result' = next' at step
                      cases step with
                      | inl kept => exact ih _ (needed ▸ queueTurns_lt_cons name run rest) kept others rfl
                      | inr ended => exact .done ended
                  | @pending later later' waiting =>
                      have fewer : queueTurns (rest ++ [(name, later)]) < count := needed ▸ queueTurns_requeue turn
                      have behind : List.Forall₂ (NamedAlike results) (rest ++ [(name, later)])
                          (rest' ++ [(name, later')]) := List.rel_append others (.cons ⟨rfl, waiting⟩ .nil)
                      rw [serve_of_pending turn, serve_of_pending turned, others.length_eq]
                      refine .openingAll schemas ?_
                      split
                      · exact .paused (ih _ fewer start behind rfl)
                      · exact ih _ fewer start behind rfl

section Results

variable {failures : ε → ζ → Prop}

/-- Verdicts are taken from the same results, as far as they are known. -/
theorem alike_verdict? {known : List (Option (Except ε α))} {known' : List (Option (Except ζ α))}
    (same : List.Forall₂ (Option.Rel (Matching failures Eq)) known known') :
    Option.Rel (Matching failures Eq) (verdict? known) (verdict? known') := by
  induction same with
  | nil => exact .some (.ok rfl)
  | @cons _ _ rest rest' own _ ih =>
      cases own with
      | none => exact .none
      | some result =>
          cases result with
          | error failed => exact .some (.error failed)
          | @ok answer _ equal =>
              obtain rfl := equal
              simp only [verdict?]
              generalize verdict? rest = others, verdict? rest' = others' at ih ⊢
              cases ih with
              | none => exact .none
              | some further => exact .some (further.map fun _ _ same => congrArg (answer :: ·) same)

variable {checks : List (Run (Except ε α))} {checks' : List (Run (Except ζ α))}
  (alike : List.Forall₂ (Alike (Matching failures Eq)) checks checks')

include alike

/-- Checks that run alike, taken in their order, come to results that match. -/
theorem Alike.inOrder : (inOrder checks).Alike (Matching failures Eq) (inOrder checks') := by
  unfold Run.inOrder
  refine .serve (Matching failures Eq) (List.Forall₂ (Option.Rel (Matching failures Eq))) ?_ ?_ ?_ ?_
  · intro known known' place result result' same own
    have recorded := forall₂_set same place (Option.Rel.some own)
    have taken := alike_verdict? recorded
    dsimp only
    generalize verdict? (known.set place (some result)) = verdict at taken
    generalize verdict? (known'.set place (some result')) = verdict' at taken
    cases taken with
    | none => exact .inl recorded
    | some reached => exact .inr reached
  · exact fun _ => .ok rfl
  · rw [List.forall₂_map_left_iff, List.forall₂_map_right_iff]
    exact alike.imp fun _ _ _ => .none
  · rw [alike.length_eq]
    generalize List.range checks'.length = places
    induction alike generalizing places with
    | nil =>
        rw [List.zip_nil_right, List.zip_nil_right]
        exact .nil
    | cons own _ ih =>
        cases places with
        | nil => exact .nil
        | cons place places => exact .cons ⟨rfl, own⟩ (ih places)

/-- **All must pass.**  Joins of checks that are alike are alike. -/
theorem Alike.allPass : (allPass checks).Alike (Matching failures Eq) (allPass checks') := by
  unfold Run.allPass
  rw [alike.length_eq]
  split
  · refine .inRounds ?_
    rw [List.forall₂_map_left_iff, List.forall₂_map_right_iff]
    exact alike.imp fun _ _ => .running
  · exact .inOrder alike

/-- **The first to pass.**  The same holds of the join that ends with the first check to pass. -/
theorem Alike.firstPass : (firstPass checks).Alike (Option.Rel (Matching failures Eq)) (firstPass checks') := by
  unfold Run.firstPass
  refine .serve (Matching failures Eq) (Option.Rel failures) ?_ ?_ .none ?_
  · intro failure failure' _ result result' same own
    cases own with
    | ok equal => exact .inr (.some (.ok equal))
    | error failed =>
        refine .inl (.some ?_)
        cases same with
        | none => exact failed
        | some earlier => exact earlier
  · intro failure failure' same
    cases same with
    | none => exact .none
    | some failed => exact .some (.error failed)
  · rw [List.forall₂_map_left_iff, List.forall₂_map_right_iff]
    exact alike.imp fun _ _ own => ⟨rfl, own⟩

end Results

end Run

end Vetting

import Vetting.Proofs.Run.Silence

/-!
# Runs that answer for what they open

A run is prompt if it is over as soon as it opens anything, with an answer that this schema is to blame for
(`Run.Prompt`).  So a prompt run opens one schema at most, and this one is to blame for its answer
(`Prompt.blamed_of_opened`).

A failure that a check opens for ends a join of few checks at once, since the checks before it have not opened
anything, and those behind it do not get their turn any more (`Prompt.inRounds`).  Where many checks are joined, this
holds as well if none of them ever pauses (`Prompt.inOrder`).
-/

namespace Vetting.Run

variable {α β γ ε ι σ : Type} {blamed : Handle → α → Prop}

/-- Whatever the run opens, it is over then, with an answer that this schema is to blame for. -/
inductive Prompt (blamed : Handle → α → Prop) : Run α → Prop where
  | done (answer : α) : Prompt blamed (done answer)
  | opening {schema : Handle} {answer : α} (blame : blamed schema answer) :
      Prompt blamed (opening schema (done answer))
  | paused {rest : Run α} (later : Prompt blamed rest) : Prompt blamed (paused rest)

namespace Prompt

variable {run : Run α}

/-- A run that is prompt is so if more may be blamed. -/
theorem mono {wider : Handle → α → Prop} (weaker : ∀ schema answer, blamed schema answer → wider schema answer)
    (prompt : run.Prompt blamed) : run.Prompt wider := by
  induction prompt with
  | done answer => exact .done answer
  | opening blame => exact .opening (weaker _ _ blame)
  | paused _ ih => exact .paused ih

/-- Answers that a schema is to blame for have to be passed on at once. -/
theorem bind {further : Handle → β → Prop} {next : α → Run β} (prompt : run.Prompt blamed)
    (onward : ∀ answer, (next answer).Prompt further)
    (passedOn : ∀ schema answer, blamed schema answer → ∃ other, next answer = .done other ∧ further schema other) :
    (run.bind next).Prompt further := by
  induction prompt with
  | done answer => exact onward answer
  | @opening schema answer blame =>
      obtain ⟨other, ended, blame⟩ := passedOn schema answer blame
      rw [Run.bind, done_bind, ended]
      exact .opening blame
  | paused _ ih => exact .paused ih

/-- A run that opens nothing is prompt. -/
theorem silent (run : Run α) : run.silent.Prompt blamed := by
  induction run with
  | done answer => exact .done answer
  | opening schema rest ih => exact ih
  | paused rest ih => exact .paused ih

/-- What a prompt run opens is the only thing that it opens, and to blame for its answer. -/
theorem blamed_of_opened (prompt : run.Prompt blamed) {schema : Handle} (member : schema ∈ run.opened) :
    run.opened = [schema] ∧ blamed schema run.answer := by
  induction prompt with
  | done answer => cases member
  | opening blame =>
      obtain rfl := List.mem_singleton.mp member
      exact ⟨rfl, blame⟩
  | paused _ ih => exact ih member

end Prompt

/-! ## Rounds -/

/-- The result is a failure that the schema is to blame for. -/
def Blamed (blames : Handle → ε → Prop) (schema : Handle) : Except ε α → Prop
  | .ok _ => False
  | .error failure => blames schema failure

variable {blames : Handle → ε → Prop}

/-- A check that still runs is prompt. -/
def Task.Prompt (blames : Handle → ε → Prop) : Task ε α → Prop
  | running run => run.Prompt (Blamed blames)
  | passed _ => True

/-- A round ends with a failure that the only opened schema is to blame for, or opens nothing. -/
inductive RoundPrompt (blames : Handle → ε → Prop) : List Handle × Except ε (List (Task ε α)) → Prop where
  | blamed {schema : Handle} {failure : ε} (blame : blames schema failure) :
      RoundPrompt blames ([schema], .error failure)
  | failed (failure : ε) : RoundPrompt blames ([], .error failure)
  | further {later : List (Task ε α)} (all : ∀ task ∈ later, task.Prompt blames) : RoundPrompt blames ([], .ok later)

/-- A round stays prompt when a check that is prompt comes in front. -/
theorem RoundPrompt.cons {turn : List Handle × Except ε (List (Task ε α))} (prompt : RoundPrompt blames turn)
    (now : Task ε α) (own : now.Prompt blames) : RoundPrompt blames (turn.1, turn.2.map (now :: ·)) := by
  cases prompt with
  | blamed blame => exact .blamed blame
  | failed failure => exact .failed failure
  | further all => exact .further (List.forall_mem_cons.mpr ⟨own, all⟩)

/-- A round of checks that are prompt is prompt. -/
theorem roundPrompt_round {tasks : List (Task ε α)} (all : ∀ task ∈ tasks, task.Prompt blames) :
    RoundPrompt blames (round tasks) := by
  induction tasks with
  | nil => exact .further (List.forall_mem_nil _)
  | cons task rest ih =>
      obtain ⟨own, others⟩ := List.forall_mem_cons.mp all
      have behind := ih others
      cases task with
      | passed answer => exact behind.cons (.passed answer) trivial
      | running run =>
          cases own with
          | done result =>
              cases result with
              | error failure => exact .failed failure
              | ok answer => exact behind.cons (.passed answer) trivial
          | @opening schema result blame =>
              cases result with
              | error failure => exact .blamed blame
              | ok answer => cases blame
          | @paused later prompt => exact behind.cons (.running later) prompt

/-- A failure that a check opens for ends the rounds. -/
theorem Prompt.inRounds {tasks : List (Task ε α)} (all : ∀ task ∈ tasks, task.Prompt blames) :
    (inRounds tasks).Prompt (Blamed blames) := by
  induction needed : turns tasks using Nat.strongRecOn generalizing tasks with
  | ind count ih =>
      have prompt := roundPrompt_round all
      cases turn : round tasks with
      | mk schemas result =>
          rw [turn] at prompt
          cases prompt with
          | blamed blame =>
              rw [inRounds_of_error turn]
              exact .opening blame
          | failed failure =>
              rw [inRounds_of_error turn]
              exact .done _
          | @further later all =>
              rw [inRounds_of_ok turn]
              cases unfinished : answers? later with
              | some answers => exact .done _
              | none => exact .paused (ih _ (needed ▸ (turns_round turn).2 unfinished) all rfl)

/-! ## Queues -/

/-- Results that are known to be answers. -/
def answered (answers : List α) : List (Option (Except ε α)) :=
  answers.map fun answer => some (.ok answer)

/-- Answers that are known do not change the verdict on the results behind them. -/
theorem verdict?_answered_append (answers : List α) (results : List (Option (Except ε α))) :
    verdict? (answered answers ++ results) = (verdict? results).map (Except.map (answers ++ ·)) := by
  induction answers with
  | nil =>
      change verdict? results = _
      cases verdict? results with
      | none => rfl
      | some verdict => cases verdict <;> rfl
  | cons answer others ih =>
      change (verdict? (answered others ++ results)).map _ = _
      rw [ih, Option.map_map]
      congr 1
      funext verdict
      cases verdict <;> rfl

/-- Takes the result of a check down at its place, and brings the verdict once there is one. -/
def takeDown (results : List (Option (Except ε α))) (place : Nat) (result : Except ε α) :
    List (Option (Except ε α)) ⊕ Except ε (List α) :=
  let results := results.set place (some result)
  match verdict? results with
  | some verdict => .inr verdict
  | none => .inl results

/-- The check behind the known answers decides if it fails, and otherwise if it is the last one. -/
theorem takeDown_answered (answers : List α) (others : List β) (result : Except ε α) :
    takeDown (answered answers ++ none :: others.map fun _ => none) answers.length result =
      match result with
      | .error failure => .inr (.error failure)
      | .ok answer =>
        if others.isEmpty then .inr (.ok (answers ++ [answer]))
        else .inl (answered (answers ++ [answer]) ++ others.map fun _ => none) := by
  have set : (answered answers ++ none :: others.map fun _ => (none : Option (Except ε α))).set answers.length
      (some result) = answered answers ++ some result :: others.map fun _ => none := by
    unfold answered
    rw [List.set_append_right _ _ (Nat.le_of_eq (List.length_map _)), List.length_map, Nat.sub_self,
      List.set_cons_zero]
  simp only [takeDown, set, verdict?_answered_append]
  cases result with
  | error failure => rfl
  | ok answer =>
      cases others with
      | nil => rfl
      | cons other others =>
          simp only [answered, List.map_append, List.append_assoc]
          rfl

/-- What is left of a join in order after its first checks have passed with these answers. -/
def inOrderFrom (answers : List α) (waited : Nat) (checks : List (Run (Except ε α))) : Run (Except ε (List α)) :=
  serve takeDown (fun _ => .ok []) (answered answers ++ checks.map fun _ => none) waited
    ((List.range' answers.length checks.length).zip checks)

/-- Checks are taken in order from the first place on. -/
theorem inOrder_eq (checks : List (Run (Except ε α))) : inOrder checks = inOrderFrom [] 0 checks := by
  unfold inOrder inOrderFrom
  rw [List.length_nil, ← List.range_eq_range']
  congr 1
  funext results place result
  simp only [takeDown]
  cases verdict? (results.set place (some result)) <;> rfl

/-- The first check that is left decides as soon as it is over, unless it passes and others are left. -/
theorem inOrderFrom_of_finished {check : Run (Except ε α)} {schemas : List Handle} {result : Except ε α}
    (turn : check.poll = (schemas, .finished result)) (answers : List α) (waited : Nat)
    (rest : List (Run (Except ε α))) :
    inOrderFrom answers waited (check :: rest) =
      openingAll schemas (match result with
        | .error failure => done (.error failure)
        | .ok answer =>
          if rest.isEmpty then done (.ok (answers ++ [answer])) else inOrderFrom (answers ++ [answer]) 0 rest) := by
  unfold inOrderFrom
  rw [List.length_cons, List.range'_succ, List.zip_cons_cons, serve_of_finished turn, List.map_cons, takeDown_answered]
  cases result with
  | error failure => rfl
  | ok answer =>
      dsimp only
      rw [List.length_append]
      cases rest <;> rfl

/-- A queue whose checks never pause serves them in their order, so nothing is unknown before a check that fails. -/
theorem Prompt.inOrderFrom {checks : List (Run (Except ε α))} (steady : ∀ check ∈ checks, check.pauses = 0)
    (all : ∀ check ∈ checks, check.Prompt (Blamed blames)) (answers : List α) (waited : Nat) :
    (inOrderFrom answers waited checks).Prompt (Blamed blames) := by
  induction checks generalizing answers waited with
  | nil =>
      rw [Run.inOrderFrom, List.zip_nil_right, serve]
      exact .done _
  | cons check rest ih =>
      obtain ⟨steadyOwn, steadyRest⟩ := List.forall_mem_cons.mp steady
      obtain ⟨own, others⟩ := List.forall_mem_cons.mp all
      cases own with
      | done result =>
          rw [inOrderFrom_of_finished rfl]
          cases result with
          | error failure => exact .done _
          | ok answer =>
              dsimp only [openingAll, List.foldr_nil]
              split
              · exact .done _
              · exact ih steadyRest others (answers ++ [answer]) 0
      | @opening schema result blame =>
          rw [inOrderFrom_of_finished rfl]
          cases result with
          | error failure => exact .opening blame
          | ok answer => cases blame
      | paused later => cases steadyOwn

/-- Checks that never pause are prompt in order if each of them is. -/
theorem Prompt.inOrder {checks : List (Run (Except ε α))} (steady : ∀ check ∈ checks, check.pauses = 0)
    (all : ∀ check ∈ checks, check.Prompt (Blamed blames)) : (inOrder checks).Prompt (Blamed blames) := by
  rw [inOrder_eq]
  exact .inOrderFrom steady all [] 0

/-! ## Joins -/

variable {checks : List (Run (Except ε α))}

/-- Checks that open nothing are what they are without their openings. -/
theorem map_silent (nothing : ∀ check ∈ checks, check.silent = check) : checks.map silent = checks :=
  (List.map_congr_left nothing).trans (List.map_id checks)

/-- **All must pass.**  A failure that a check opens for ends the join unless there are many checks, one of which may
pause while another one opens something. -/
theorem Prompt.allPass
    (orderly : checks.length ≤ roundLimit ∨ (∀ check ∈ checks, check.pauses = 0) ∨
      ∀ check ∈ checks, check.silent = check)
    (all : ∀ check ∈ checks, check.Prompt (Blamed blames)) : (allPass checks).Prompt (Blamed blames) := by
  have rounds : (Run.inRounds (checks.map Task.running)).Prompt (Blamed blames) := by
    refine .inRounds fun task member => ?_
    obtain ⟨check, given, rfl⟩ := List.mem_map.mp member
    exact all check given
  rcases orderly with few | steady | nothing
  · rwa [Run.allPass, if_pos few]
  · unfold Run.allPass
    split
    · exact rounds
    · exact .inOrder steady all
  · rw [← map_silent nothing, ← silent_allPass]
    exact .silent _

/-- What the front check of a queue opens comes first. -/
theorem serve_opening (absorb : σ → ι → β → σ ⊕ γ) (finish : σ → γ) (state : σ) (waited : Nat) (name : ι)
    (schema : Handle) (run : Run β) (queue : List (ι × Run β)) :
    serve absorb finish state waited ((name, .opening schema run) :: queue) =
      .opening schema (serve absorb finish state waited ((name, run) :: queue)) := by
  cases turn : run.poll with
  | mk schemas stands =>
      have opening : (opening schema run).poll = (schema :: schemas, stands) := by rw [poll, turn]
      cases stands with
      | finished result =>
          rw [serve_of_finished turn, serve_of_finished opening]
          rfl
      | pending later =>
          rw [serve_of_pending turn, serve_of_pending opening]
          rfl

/-- What comes first of a single check is the result of this check. -/
theorem firstPass_singleton (check : Run (Except ε α)) :
    firstPass [check] = check.bind fun result => .done (some result) := by
  unfold firstPass
  rw [List.map_singleton]
  induction check with
  | done result =>
      rw [serve_of_finished rfl]
      cases result with
      | ok answer => rfl
      | error failure =>
          dsimp only [openingAll, List.foldr_nil]
          rw [serve]
          rfl
  | opening schema rest ih =>
      rw [serve_opening, ih]
      rfl
  | paused rest ih =>
      rw [serve_of_pending rfl]
      exact congrArg paused ih

/-- **The first to pass.**  A failure that a check opens for ends the join if this is the only check. -/
theorem Prompt.firstPass (alone : checks.length ≤ 1 ∨ ∀ check ∈ checks, check.silent = check)
    (all : ∀ check ∈ checks, check.Prompt (Blamed blames)) :
    (firstPass checks).Prompt fun schema first => ∃ failure, first = some (.error failure) ∧ blames schema failure := by
  rcases alone with alone | nothing
  · match checks with
    | [] =>
        unfold Run.firstPass
        rw [List.map_nil, serve]
        exact .done _
    | [check] =>
        rw [firstPass_singleton]
        refine (all check (List.mem_singleton_self check)).bind (fun _ => .done _) fun schema result blame => ?_
        cases result with
        | ok answer => cases blame
        | error failure => exact ⟨_, rfl, failure, rfl, blame⟩
  · rw [← map_silent nothing, ← silent_firstPass]
    exact .silent _

end Vetting.Run

import Mathlib.Data.Prod.Lex
import Vetting.Proofs.Run.Completion

/-!
# Which check decides a join

Checks are over in the order of their pauses, and those that pause equally often in the order in which they are
given (`Run.finish`).  A join of few checks that all have to pass ends with the failure that comes first in this
order; many checks are heard as they are given, and the first failure among them ends the join, however soon
another one has failed (`allPass_answer_foremost`).  A join that ends with the first check to pass answers with the
check that passes first, and with the one that fails first where none passes (`firstPass_answer_foremost`).
-/

namespace Vetting.Run

variable {α β ε κ σ : Type}

/-- The entry at the place is wanted, and no wanted entry ranks before it. -/
structure Foremost [LE κ] (rank : Nat → σ → κ) (wanted : σ → Prop) (entries : List σ) (place : Nat) (entry : σ) :
    Prop where
  found : entries[place]? = some entry
  wants : wanted entry
  first : ∀ other rival, entries[other]? = some rival → wanted rival → rank place entry ≤ rank other rival

/-- When a check at the place is over: after its pauses, and behind the checks before it that pause equally
often. -/
def finish (place : Nat) (check : Run β) : Nat ×ₗ Nat :=
  toLex (check.pauses, place)

/-- No two checks at different places finish at the same time. -/
theorem finish_apart (place other : Nat) (check rival : Run β) (level : finish place check = finish other rival) :
    place = other :=
  (Prod.mk.inj (toLex.injective level)).2

/-- The check passes in the end. -/
def Succeeds (check : Run (Except ε α)) : Prop :=
  ∃ answer, check.answer = .ok answer

/-- The check fails in the end. -/
def Fails (check : Run (Except ε α)) : Prop :=
  ∃ failure, check.answer = .error failure

namespace Foremost

variable {rank : Nat → σ → κ} {wanted : σ → Prop} {entries : List σ} {place : Nat} {entry : σ}

/-- Where ranks tell places apart there is one foremost entry at most. -/
theorem unique [PartialOrder κ] (apart : ∀ place other entry rival, rank place entry = rank other rival → place = other)
    {other : Nat} {rival : σ} (foremost : Foremost rank wanted entries place entry)
    (again : Foremost rank wanted entries other rival) : entry = rival := by
  have level := le_antisymm (foremost.first other rival again.found again.wants)
    (again.first place entry foremost.found foremost.wants)
  obtain rfl := apart _ _ _ _ level
  exact Option.some.inj (foremost.found.symm.trans again.found)

/-- What is foremost among translated entries has been so before. -/
theorem map_iff [LE κ] {τ : Type} {f : τ → σ} {entries : List τ} :
    Foremost rank wanted (entries.map f) place entry ↔
      ∃ origin, f origin = entry ∧
        Foremost (fun place origin => rank place (f origin)) (fun origin => wanted (f origin)) entries place
          origin := by
  constructor
  · intro foremost
    have found := foremost.found
    rw [List.getElem?_map, Option.map_eq_some_iff] at found
    obtain ⟨origin, found, rfl⟩ := found
    refine ⟨origin, rfl, found, foremost.wants, fun other rival there => ?_⟩
    apply foremost.first
    rw [List.getElem?_map, there, Option.map_some]
  · rintro ⟨origin, rfl, foremost⟩
    refine ⟨by rw [List.getElem?_map, foremost.found, Option.map_some], foremost.wants, fun other rival there => ?_⟩
    rw [List.getElem?_map, Option.map_eq_some_iff] at there
    obtain ⟨rival, there, rfl⟩ := there
    exact foremost.first other rival there

end Foremost

/-! ## The earliest check -/

/-- When a check that is known by its pauses is over. -/
def dueAt (place : Nat) (check : Nat × β) : Nat ×ₗ Nat :=
  toLex (check.1, place)

section Earliest

variable {wanted : Nat × β → Bool} {head check : Nat × β} {checks rest : List (Nat × β)} {place : Nat}

/-- The earliest check of a list is its first one or the earliest of the others. -/
theorem earliest_cons (check : Nat × β) (rest : List (Nat × β)) :
    earliest (check :: rest) = sooner (some check) (earliest rest) := rfl

/-- There is an earliest check exactly if there is any. -/
theorem earliest_eq_none_iff : earliest checks = none ↔ checks = [] := by
  cases checks with
  | nil => exact iff_of_true rfl rfl
  | cons check rest =>
      refine iff_of_false ?_ (List.cons_ne_nil check rest)
      rw [earliest_cons]
      cases earliest rest with
      | none => exact Option.some_ne_none check
      | some second =>
          simp only [sooner]
          split <;> exact Option.some_ne_none _

/-- A wanted check at the front is foremost if no wanted one behind it pauses less. -/
theorem foremost_front (wants : wanted head = true)
    (behind : ∀ rival ∈ rest, wanted rival = true → head.1 ≤ rival.1) :
    Foremost dueAt (wanted · = true) (head :: rest) 0 head := by
  refine ⟨rfl, wants, fun other rival there rivals => ?_⟩
  cases other with
  | zero =>
      obtain rfl := Option.some.inj there
      exact le_refl _
  | succ other =>
      have later := behind rival (List.mem_of_getElem? there) rivals
      simp only [dueAt, Prod.Lex.toLex_le_toLex]
      omega

/-- The foremost check stays so behind one that is not wanted or pauses more often. -/
theorem Foremost.behind (foremost : Foremost dueAt (wanted · = true) rest place check)
    (later : wanted head = true → check.1 < head.1) :
    Foremost dueAt (wanted · = true) (head :: rest) (place + 1) check := by
  refine ⟨foremost.found, foremost.wants, fun other rival there rivals => ?_⟩
  cases other with
  | zero =>
      obtain rfl := Option.some.inj there
      have := later rivals
      simp only [dueAt, Prod.Lex.toLex_le_toLex]
      omega
  | succ other =>
      have before := foremost.first other rival there rivals
      simp only [dueAt, Prod.Lex.toLex_le_toLex] at before ⊢
      omega

/-- The earliest of the wanted checks is over before all others that are wanted. -/
theorem exists_foremost_of_earliest (soonest : earliest (checks.filter wanted) = some check) :
    ∃ place, Foremost dueAt (wanted · = true) checks place check := by
  induction checks generalizing check with
  | nil => cases soonest
  | cons head rest ih =>
      cases own : wanted head with
      | false =>
          have unwanted : ¬ wanted head = true := by rw [own]; exact Bool.false_ne_true
          rw [List.filter_cons_of_neg unwanted] at soonest
          obtain ⟨place, foremost⟩ := ih soonest
          exact ⟨place + 1, foremost.behind fun wants => absurd wants unwanted⟩
      | true =>
          rw [List.filter_cons_of_pos own, earliest_cons] at soonest
          cases others : earliest (rest.filter wanted) with
          | none =>
              rw [others] at soonest
              obtain rfl := Option.some.inj soonest
              refine ⟨0, foremost_front own fun rival member wants => ?_⟩
              have kept := List.mem_filter.mpr ⟨member, wants⟩
              rw [earliest_eq_none_iff.mp others] at kept
              cases kept
          | some second =>
              obtain ⟨place, foremost⟩ := ih others
              rw [others] at soonest
              simp only [sooner] at soonest
              split at soonest
              next noLater =>
                obtain rfl := Option.some.inj soonest
                refine ⟨0, foremost_front own fun rival member wants => ?_⟩
                obtain ⟨other, there⟩ := List.getElem?_of_mem member
                have before := foremost.first other rival there wants
                simp only [dueAt, Prod.Lex.toLex_le_toLex] at before
                unfold NoLater at noLater
                omega
              next later =>
                obtain rfl := Option.some.inj soonest
                exact ⟨place + 1, foremost.behind fun _ => Nat.lt_of_not_le later⟩

/-- The earliest of the wanted checks is the one that is foremost by the time it is due. -/
theorem earliest_filter_eq_some_iff :
    earliest (checks.filter wanted) = some check ↔ ∃ place, Foremost dueAt (wanted · = true) checks place check := by
  refine ⟨exists_foremost_of_earliest, fun ⟨place, foremost⟩ => ?_⟩
  cases soonest : earliest (checks.filter wanted) with
  | none =>
      have kept := List.mem_filter.mpr ⟨List.mem_of_getElem? foremost.found, foremost.wants⟩
      rw [earliest_eq_none_iff.mp soonest] at kept
      cases kept
  | some second =>
      obtain ⟨other, again⟩ := exists_foremost_of_earliest soonest
      refine congrArg some (again.unique (fun place other _ _ level => ?_) foremost)
      exact (Prod.mk.inj (toLex.injective level)).2

end Earliest

/-! ## Rounds -/

/-- How often a check of a join still pauses, and what it comes to. -/
def Task.due : Task ε α → Nat × Except ε α
  | running run => (run.pauses, run.answer)
  | passed answer => (0, .ok answer)

/-- The check comes to a failure. -/
def failing (check : Nat × Except ε α) : Bool :=
  !check.2.isOk

/-- The checks of a join that fail in the end. -/
def failures (tasks : List (Task ε α)) : List (Nat × Except ε α) :=
  (tasks.map Task.due).filter failing

/-- A check that passes adds no failure. -/
theorem failures_cons_of_ok {task : Task ε α} {answer : α} (passes : task.due.2 = .ok answer)
    (rest : List (Task ε α)) : failures (task :: rest) = failures rest := by
  unfold failures
  rw [List.map_cons, List.filter_cons_of_neg]
  simp only [failing, passes, Except.isOk, Except.toBool, Bool.not_true, Bool.false_eq_true, not_false_eq_true]

/-- A check that fails adds its failure, due when it is over. -/
theorem failures_cons_of_error {task : Task ε α} {failure : ε} (fails : task.due.2 = .error failure)
    (rest : List (Task ε α)) : failures (task :: rest) = task.due :: failures rest := by
  unfold failures
  rw [List.map_cons, List.filter_cons_of_pos]
  simp only [failing, fails, Except.isOk, Except.toBool, Bool.not_false]

/-- If every check pauses once more, the earliest one does so, too. -/
theorem earliest_delayed (checks : List (Nat × β)) :
    earliest (checks.map delayed) = (earliest checks).map delayed := by
  induction checks with
  | nil => rfl
  | cons check rest ih =>
      rw [List.map_cons, earliest_cons, earliest_cons, ih]
      cases earliest rest with
      | none => rfl
      | some second =>
          have same : NoLater (delayed check) (delayed second) ↔ NoLater check second := by
            unfold NoLater delayed
            omega
          simp only [Option.map_some, sooner, same]
          split <;> rfl

/-- A round takes these failing checks to that outcome: the earliest of them has failed just now, or all of them
have paused once more. -/
def Elapses (before : List (Nat × Except ε α)) : Except ε (List (Task ε α)) → Prop
  | .error failure => earliest before = some (0, .error failure)
  | .ok later => before = (failures later).map delayed

/-- A check that passes in the end has no part in this. -/
theorem Elapses.cons_of_ok {before : List (Nat × Except ε α)} {outcome : Except ε (List (Task ε α))} {now : Task ε α}
    {answer : α} (elapses : Elapses before outcome) (passes : now.due.2 = .ok answer) :
    Elapses before (outcome.map (now :: ·)) := by
  cases outcome with
  | error failure => exact elapses
  | ok later => rwa [Except.map, Elapses, failures_cons_of_ok passes]

/-- A check that fails later does not fail before one that fails just now. -/
theorem Elapses.cons_of_error {before : List (Nat × Except ε α)} {outcome : Except ε (List (Task ε α))}
    {now : Task ε α} {failure : ε} (elapses : Elapses before outcome) (fails : now.due.2 = .error failure) :
    Elapses (delayed now.due :: before) (outcome.map (now :: ·)) := by
  cases outcome with
  | error other =>
      have elapses : earliest before = some (0, .error other) := elapses
      have later : ¬ NoLater (delayed now.due) ((0, .error other) : Nat × Except ε α) := Nat.not_succ_le_zero _
      rw [Except.map, Elapses, earliest_cons, elapses, sooner, if_neg later]
  | ok later =>
      have elapses : before = (failures later).map delayed := elapses
      rw [Except.map, Elapses, failures_cons_of_error fails, List.map_cons, elapses]

/-- One round either ends with the earliest failure, or brings every failure one pause closer. -/
theorem elapses_round (tasks : List (Task ε α)) : Elapses (failures tasks) (round tasks).2 := by
  induction tasks with
  | nil => rfl
  | cons task rest ih =>
      cases task with
      | passed found =>
          rw [failures_cons_of_ok rfl]
          exact ih.cons_of_ok rfl
      | running run =>
          have answered := answer_poll run
          rw [round]
          split
          next schemas failure turn =>
            rw [turn] at answered
            have due : (Task.running run).due = (0, .error failure) :=
              Prod.ext (pauses_of_poll_finished turn) answered.symm
            rw [failures_cons_of_error (congrArg Prod.snd due), due, Elapses, earliest_cons]
            cases earliest (failures rest) with
            | none => rfl
            | some second =>
                have noLater : NoLater (0, .error failure) second := Nat.zero_le _
                rw [sooner, if_pos noLater]
          next schemas found turn =>
            rw [turn] at answered
            have passes : (Task.running run).due.2 = .ok found := answered.symm
            rw [failures_cons_of_ok passes]
            exact ih.cons_of_ok rfl
          next schemas later turn =>
            rw [turn] at answered
            have due : (Task.running run).due = delayed (Task.running later).due :=
              Prod.ext (pauses_of_poll_pending turn).symm answered.symm
            cases comes : (Task.running later).due.2 with
            | ok found =>
                have passes : (Task.running run).due.2 = .ok found := (congrArg Prod.snd due).trans comes
                rw [failures_cons_of_ok passes]
                exact ih.cons_of_ok comes
            | error failure =>
                have fails : (Task.running run).due.2 = .error failure := (congrArg Prod.snd due).trans comes
                rw [failures_cons_of_error fails, due]
                exact ih.cons_of_error comes

/-- Rounds end with the earliest failure. -/
theorem earliest_of_inRounds {tasks : List (Task ε α)} {failure : ε}
    (failed : (inRounds tasks).answer = .error failure) :
    ∃ pauses, earliest (failures tasks) = some (pauses, .error failure) := by
  -- The turns that the checks still need shrink with every round, and with them the pauses of those that fail.
  induction needed : turns tasks using Nat.strongRecOn generalizing tasks with
  | ind count ih =>
      have step := elapses_round tasks
      cases turn : round tasks with
      | mk schemas outcome =>
          rw [turn] at step
          cases outcome with
          | error other =>
              rw [inRounds_of_error turn, answer_openingAll] at failed
              obtain rfl := Except.error.inj failed
              exact ⟨0, step⟩
          | ok later =>
              have step : failures tasks = (failures later).map delayed := step
              rw [inRounds_of_ok turn, answer_openingAll] at failed
              cases unfinished : answers? later with
              | some answers =>
                  rw [unfinished] at failed
                  cases failed
              | none =>
                  rw [unfinished] at failed
                  obtain ⟨pauses, soonest⟩ := ih _ (needed ▸ (turns_round turn).2 unfinished) failed rfl
                  refine ⟨pauses + 1, ?_⟩
                  rw [step, earliest_delayed, soonest]
                  rfl

/-! ## All must pass -/

section AllPass

variable {checks : List (Run (Except ε α))} {failure : ε}

/-- A check is counted among the failing ones exactly if it fails. -/
theorem failing_iff_fails (check : Run (Except ε α)) : failing (check.pauses, check.answer) = true ↔ Fails check := by
  unfold failing Fails
  cases check.answer with
  | ok answer => exact iff_of_false Bool.false_ne_true fun ⟨_, same⟩ => by cases same
  | error failure => exact iff_of_true rfl ⟨failure, rfl⟩

/-- Checks that are given turns in rounds end with the failure of the one that fails first. -/
theorem exists_foremost_of_inRounds (failed : (inRounds (checks.map Task.running)).answer = .error failure) :
    ∃ place check, check.answer = .error failure ∧ Foremost finish Fails checks place check := by
  obtain ⟨pauses, soonest⟩ := earliest_of_inRounds failed
  rw [failures, List.map_map] at soonest
  obtain ⟨place, foremost⟩ := exists_foremost_of_earliest soonest
  obtain ⟨check, same, foremost⟩ := Foremost.map_iff.mp foremost
  refine ⟨place, check, congrArg Prod.snd same, foremost.found, (failing_iff_fails check).mp foremost.wants, ?_⟩
  exact fun other rival there fails => foremost.first other rival there ((failing_iff_fails rival).mpr fails)

/-- Checks whose results are taken in their order end with the first failure among them. -/
theorem exists_foremost_of_inOrder (failed : (inOrder checks).answer = .error failure) :
    ∃ place check, check.answer = .error failure ∧ Foremost (fun place _ => place) Fails checks place check := by
  have comes := inOrder_answer checks
  rw [failed] at comes
  obtain ⟨answers, rest, results⟩ := comes
  have result : ∀ place, (checks[place]?).map answer = (answers.map .ok ++ .error failure :: rest)[place]? :=
    fun place => by rw [← results, List.getElem?_map]
  have decides := result answers.length
  rw [List.getElem?_append_right (Nat.le_of_eq (List.length_map _)), List.length_map, Nat.sub_self] at decides
  obtain ⟨check, found, fails⟩ := Option.map_eq_some_iff.mp decides
  refine ⟨answers.length, check, fails, found, ⟨failure, fails⟩, fun other rival there ⟨fault, rivalFails⟩ => ?_⟩
  refine Nat.le_of_not_lt fun before => ?_
  have passes := result other
  rw [there, List.getElem?_append_left (by rwa [List.length_map]), List.getElem?_map, List.getElem?_eq_getElem before,
    Option.map_some, Option.map_some, rivalFails] at passes
  cases passes

/-- A join of checks that all have to pass ends with their answers exactly if all of them pass. -/
theorem allPass_answer_eq_ok_iff {answers : List α} :
    (allPass checks).answer = .ok answers ↔ checks.map answer = answers.map .ok := by
  have together := allPass_answer checks
  constructor
  · intro ended
    rwa [ended] at together
  · intro passed
    cases ended : (allPass checks).answer with
    | ok others =>
        rw [ended] at together
        have same : others.map Except.ok = answers.map Except.ok := together.symm.trans passed
        rw [List.map_injective_iff.mpr (fun _ _ => Except.ok.inj) same]
    | error failure =>
        rw [ended] at together
        have failed : .error failure ∈ answers.map Except.ok := passed ▸ together
        obtain ⟨_, _, same⟩ := List.mem_map.mp failed
        cases same

/-- The failure that comes out of a join is that of the foremost check that fails. -/
theorem exists_foremost_of_allPass (failed : (allPass checks).answer = .error failure) :
    ∃ place check, check.answer = .error failure ∧
      if checks.length ≤ 30 then Foremost finish Fails checks place check
      else Foremost (fun place _ => place) Fails checks place check := by
  by_cases few : checks.length ≤ 30
  · have rounds : allPass checks = inRounds (checks.map Task.running) := if_pos few
    rw [rounds] at failed
    simpa only [few, ↓reduceIte] using exists_foremost_of_inRounds failed
  · have queue : allPass checks = inOrder checks := if_neg few
    rw [queue] at failed
    simpa only [few, ↓reduceIte] using exists_foremost_of_inOrder failed

/-- Where no check pauses, it is the failure of the first check that fails, as they are given. -/
theorem exists_first_of_allPass (steady : ∀ check ∈ checks, check.pauses = 0)
    (failed : (allPass checks).answer = .error failure) :
    ∃ before check after, checks = before ++ check :: after ∧ check.answer = .error failure ∧
      ∀ other ∈ before, Succeeds other := by
  obtain ⟨place, check, fails, foremost⟩ := exists_foremost_of_allPass failed
  have first : Foremost (fun place _ => place) Fails checks place check := by
    split at foremost
    · refine ⟨foremost.found, foremost.wants, fun other rival there rivals => ?_⟩
      have sooner := foremost.first other rival there rivals
      rw [finish, finish, steady _ (List.mem_of_getElem? foremost.found), steady _ (List.mem_of_getElem? there),
        Prod.Lex.toLex_le_toLex] at sooner
      simpa only [lt_self_iff_false, true_and, false_or] using sooner
    · exact foremost
  obtain ⟨within, rfl⟩ := List.getElem?_eq_some_iff.mp first.found
  refine ⟨checks.take place, checks[place], checks.drop (place + 1), ?_, fails, fun other earlier => ?_⟩
  · rw [← List.drop_eq_getElem_cons within, List.take_append_drop]
  · obtain ⟨position, before, rfl⟩ := List.mem_take_iff_getElem.mp earlier
    have present := (Nat.lt_min.mp before).2
    cases said : checks[position].answer with
    | ok answer => exact ⟨answer, said⟩
    | error fault =>
        have sooner := first.first position checks[position] (List.getElem?_eq_getElem present) ⟨fault, said⟩
        exact absurd (Nat.lt_min.mp before).1 (Nat.not_lt.mpr sooner)

/-- **All must pass.**  A join of checks that all have to pass ends with their answers, as they are given, exactly if
all of them pass.  Otherwise it ends with the failure of the check that fails first, where there are thirty checks or
fewer, and with the first failure in the list, where there are more. -/
theorem allPass_answer_foremost (checks : List (Run (Except ε α))) :
    (∀ answers, (allPass checks).answer = .ok answers ↔ checks.map answer = answers.map .ok) ∧
      ∀ failure, (allPass checks).answer = .error failure ↔
        ∃ place check, check.answer = .error failure ∧
          if checks.length ≤ 30 then Foremost finish Fails checks place check
          else Foremost (fun place _ => place) Fails checks place check := by
  refine ⟨fun answers => allPass_answer_eq_ok_iff, fun failure => ⟨exists_foremost_of_allPass, ?_⟩⟩
  rintro ⟨place, check, fails, foremost⟩
  have member : check ∈ checks := by
    split at foremost <;> exact List.mem_of_getElem? foremost.found
  cases ended : (allPass checks).answer with
  | ok answers =>
      have failed : .error failure ∈ answers.map Except.ok := by
        rw [← allPass_answer_eq_ok_iff.mp ended, ← fails]
        exact List.mem_map_of_mem member
      obtain ⟨_, _, same⟩ := List.mem_map.mp failed
      cases same
  | error other =>
      obtain ⟨place', check', fails', foremost'⟩ := exists_foremost_of_allPass ended
      have same : check = check' := by
        split at foremost
        next few =>
          rw [if_pos few] at foremost'
          exact foremost.unique finish_apart foremost'
        next many =>
          rw [if_neg many] at foremost'
          exact foremost.unique (fun _ _ _ _ level => level) foremost'
      rw [same, fails'] at fails
      rw [Except.error.inj fails]

end AllPass

/-! ## The first to pass -/

section FirstPass

variable {checks : List (Run (Except ε α))}

/-- The candidates of a race are all checks, with the pauses that they take. -/
theorem candidates_eq (checks : List (Run (Except ε α))) :
    candidates checks = checks.map fun check => (check.pauses, (), check.answer) := by
  simp only [candidates, timed, List.map_map, Function.comp_def]

/-- No candidate passes if there is none among the earliest ones that do. -/
theorem fails_of_earliest_eq_none (none : earliest ((candidates checks).filter passes) = none) :
    ∀ check ∈ checks, Fails check := by
  intro check member
  have given : (check.pauses, (), check.answer) ∈ candidates checks := by
    rw [candidates_eq]
    exact List.mem_map_of_mem member
  cases answered : check.answer with
  | error failure => exact ⟨failure, answered⟩
  | ok answer =>
      rw [answered] at given
      have kept := List.mem_filter.mpr ⟨given, show passes (check.pauses, (), .ok answer) = true from rfl⟩
      rw [earliest_eq_none_iff.mp none] at kept
      cases kept

/-- The race goes to the earliest check that passes. -/
theorem firstPass_answer_of_earliest {check : Nat × Unit × Except ε α}
    (soonest : earliest ((candidates checks).filter passes) = some check) :
    (firstPass checks).answer = some check.2.2 := by
  rw [firstPass_answer_earliest, soonest]
  rfl

/-- If no check passes, the race comes to the earliest failure. -/
theorem firstPass_answer_of_fails (none : earliest ((candidates checks).filter passes) = none) :
    (firstPass checks).answer = (earliest (candidates checks)).map fun check => check.2.2 := by
  rw [firstPass_answer_earliest, none]
  rfl

/-- The earliest of the wanted candidates is the foremost of the wanted checks. -/
theorem earliest_candidates_iff {keep : Nat × Unit × Except ε α → Bool} {wanted : Run (Except ε α) → Prop}
    (agree : ∀ check : Run (Except ε α), keep (check.pauses, (), check.answer) = true ↔ wanted check)
    {winner : Nat × Unit × Except ε α} :
    earliest ((candidates checks).filter keep) = some winner ↔
      ∃ place check, Foremost finish wanted checks place check ∧ (check.pauses, (), check.answer) = winner := by
  obtain rfl : (fun check : Run (Except ε α) => keep (check.pauses, (), check.answer) = true) = wanted :=
    funext fun check => propext (agree check)
  rw [earliest_filter_eq_some_iff, candidates_eq]
  constructor
  · rintro ⟨place, foremost⟩
    obtain ⟨check, same, foremost⟩ := Foremost.map_iff.mp foremost
    exact ⟨place, check, foremost, same⟩
  · rintro ⟨place, check, foremost, same⟩
    exact ⟨place, Foremost.map_iff.mpr ⟨check, same, foremost⟩⟩

/-- A check is counted among the passing ones exactly if it succeeds. -/
theorem passes_iff_succeeds (check : Run (Except ε α)) :
    passes (check.pauses, (), check.answer) = true ↔ Succeeds check := by
  unfold passes Succeeds
  cases check.answer with
  | ok answer => exact iff_of_true rfl ⟨answer, rfl⟩
  | error failure => exact iff_of_false Bool.false_ne_true fun ⟨_, same⟩ => by cases same

/-- Of checks that pause equally often the first one is the earliest. -/
theorem earliest_of_level {level : Nat} {entries : List (Nat × β)} (all : ∀ entry ∈ entries, entry.1 = level) :
    earliest entries = entries.head? := by
  induction entries with
  | nil => rfl
  | cons entry rest ih =>
      obtain ⟨own, others⟩ := List.forall_mem_cons.mp all
      rw [earliest_cons, ih others, List.head?_cons]
      cases rest with
      | nil => rfl
      | cons second rest =>
          have noLater : NoLater entry second := Nat.le_of_eq (own.trans (others second List.mem_cons_self).symm)
          rw [List.head?_cons, sooner, if_pos noLater]

/-- Where no check pauses, the first one that passes decides, and the first of all where none does. -/
theorem firstPass_answer_of_steady (steady : ∀ check ∈ checks, check.pauses = 0) :
    (firstPass checks).answer = ((checks.map answer).find? Except.isOk).or (checks.map answer).head? := by
  have level : ∀ candidate ∈ candidates checks, candidate.1 = 0 := by
    rw [candidates_eq]
    intro candidate member
    obtain ⟨check, given, rfl⟩ := List.mem_map.mp member
    exact steady check given
  have chosen : ((earliest ((candidates checks).filter passes)).map fun check => check.2.2) =
      (checks.map answer).find? Except.isOk := by
    rw [earliest_of_level fun candidate member => level candidate (List.mem_filter.mp member).1, List.head?_filter,
      candidates_eq, List.find?_map, List.find?_map, Option.map_map]
    rfl
  cases soonest : earliest ((candidates checks).filter passes) with
  | some winner => rw [firstPass_answer_of_earliest soonest, ← chosen, soonest, Option.map_some, Option.some_or]
  | none =>
      rw [firstPass_answer_of_fails soonest, ← chosen, soonest, Option.map_none, Option.none_or,
        earliest_of_level level, candidates_eq, List.head?_map, List.head?_map, Option.map_map]
      rfl

/-- **The first to pass.**  Without checks nothing comes out of a join that ends with the first check to pass.  If
some check passes, the answer of the one that passes and is over first comes out; if all of them fail, the failure
of the one that is over first. -/
theorem firstPass_answer_foremost (checks : List (Run (Except ε α))) :
    ((firstPass checks).answer = none ↔ checks = []) ∧
      (∀ answer, (firstPass checks).answer = some (.ok answer) ↔
        ∃ place check, Foremost finish Succeeds checks place check ∧ check.answer = .ok answer) ∧
      ∀ failure, (firstPass checks).answer = some (.error failure) ↔
        (∀ check ∈ checks, Fails check) ∧
          ∃ place check, Foremost finish (fun _ => True) checks place check ∧ check.answer = .error failure := by
  cases soonest : earliest ((candidates checks).filter passes) with
  | some winner =>
      obtain ⟨place, check, foremost, rfl⟩ := (earliest_candidates_iff passes_iff_succeeds).mp soonest
      obtain ⟨passed, succeeds⟩ := foremost.wants
      have member := List.mem_of_getElem? foremost.found
      rw [firstPass_answer_of_earliest soonest]
      refine ⟨iff_of_false (Option.some_ne_none _) (List.ne_nil_of_mem member), fun answer => ?_, fun failure => ?_⟩
      · rw [Option.some.injEq]
        refine ⟨fun same => ⟨place, check, foremost, same⟩, ?_⟩
        rintro ⟨other, rival, again, same⟩
        rwa [foremost.unique finish_apart again]
      · rw [Option.some.injEq]
        refine iff_of_false (fun same => ?_) fun ⟨allFail, _⟩ => ?_
        · cases succeeds.symm.trans same
        · obtain ⟨_, fails⟩ := allFail check member
          cases succeeds.symm.trans fails
  | none =>
      have allFail := fails_of_earliest_eq_none soonest
      have first : ∀ winner, earliest (candidates checks) = some winner ↔
          ∃ place check, Foremost finish (fun _ => True) checks place check ∧
            (check.pauses, (), check.answer) = winner := by
        intro winner
        have all : earliest ((candidates checks).filter fun _ => true) = some winner ↔ _ :=
          earliest_candidates_iff fun _ => iff_of_true rfl trivial
        rwa [List.filter_true] at all
      simp only [firstPass_answer_of_fails soonest, Option.map_eq_some_iff, first]
      refine ⟨?_, fun answer => iff_of_false ?_ ?_, fun failure => ⟨?_, ?_⟩⟩
      · rw [Option.map_eq_none_iff, earliest_eq_none_iff, candidates_eq, List.map_eq_nil_iff]
      · rintro ⟨_, ⟨place, check, foremost, rfl⟩, passed⟩
        obtain ⟨_, fails⟩ := allFail check (List.mem_of_getElem? foremost.found)
        cases fails.symm.trans passed
      · rintro ⟨place, check, foremost, passed⟩
        obtain ⟨_, fails⟩ := allFail check (List.mem_of_getElem? foremost.found)
        cases fails.symm.trans passed
      · rintro ⟨_, ⟨place, check, foremost, rfl⟩, failed⟩
        exact ⟨allFail, place, check, foremost, failed⟩
      · rintro ⟨_, place, check, foremost, failed⟩
        exact ⟨_, ⟨place, check, foremost, rfl⟩, failed⟩

end FirstPass

end Vetting.Run

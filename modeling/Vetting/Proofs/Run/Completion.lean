import Mathlib.Data.List.Sort
import Vetting.Proofs.Run.Answers

/-!
# The order of completion

A queue serves its checks in turn, so they complete in the order of their pauses, and those that pause
equally often in the order in which they were queued (`serve_answer_completion`).  A join that ends with the
first check to pass therefore answers with the earliest one that passes, and with the failure of the earliest
one where none does (`firstPass_answer_earliest`).
-/

namespace Vetting.Run

variable {α β γ ε ι σ : Type}

/-- The first check pauses no more often than the second. -/
def NoLater (first second : Nat × β) : Prop :=
  first.1 ≤ second.1

instance : DecidableRel (NoLater : Nat × β → Nat × β → Prop) :=
  fun first second => inferInstanceAs (Decidable (first.1 ≤ second.1))

/-- The checks of a queue with how often each of them pauses. -/
def timed (queue : List (ι × Run β)) : List (Nat × ι × β) :=
  queue.map fun check => (check.2.pauses, check.1, check.2.answer)

/-- A check that has paused once before. -/
def delayed (check : Nat × β) : Nat × β :=
  (check.1 + 1, check.2)

/-- The checks in the order in which they complete. -/
def completion (checks : List (Nat × β)) : List (Nat × β) :=
  checks.insertionSort NoLater

/-- Absorbs results one after the other. -/
def absorbAll (absorb : σ → ι → β → σ ⊕ γ) (finish : σ → γ) (state : σ) : List (Nat × ι × β) → γ
  | [] => finish state
  | (_, name, result) :: rest =>
    match absorb state name result with
    | .inl next => absorbAll absorb finish next rest
    | .inr answer => answer

/-- A check that does not pause completes first, if all that were queued before it pause. -/
theorem completion_insert {check : Nat × β} {before after : List (Nat × β)} (ready : check.1 = 0)
    (waiting : ∀ other ∈ before, 0 < other.1) :
    completion (before ++ check :: after) = check :: completion (before ++ after) := by
  unfold completion
  induction before with
  | nil =>
      refine List.insertionSort_cons_of_forall_rel NoLater fun other _ => ?_
      unfold NoLater
      omega
  | cons other rest ih =>
      have later : ¬ NoLater other check := by
        have := waiting other List.mem_cons_self
        unfold NoLater
        omega
      rw [List.cons_append, List.insertionSort_cons, ih fun check member =>
        waiting check (List.mem_cons_of_mem _ member), List.orderedInsert_of_not_le _ _ later,
        List.cons_append, List.insertionSort_cons]

/-- A pause of all checks changes nothing about their order. -/
theorem completion_delayed (checks : List (Nat × β)) :
    completion (checks.map delayed) = (completion checks).map delayed := by
  refine (List.map_insertionSort NoLater NoLater delayed checks fun first _ second _ => ?_).symm
  unfold NoLater delayed
  omega

/-- If every check pauses once more, what they are absorbed into is the same. -/
theorem absorbAll_delayed (absorb : σ → ι → β → σ ⊕ γ) (finish : σ → γ) (state : σ)
    (checks : List (Nat × ι × β)) :
    absorbAll absorb finish state (checks.map delayed) = absorbAll absorb finish state checks := by
  induction checks generalizing state with
  | nil => rfl
  | cons check rest ih =>
      obtain ⟨pauses, name, result⟩ := check
      simp only [List.map_cons, delayed, absorbAll]
      cases absorb state name result with
      | inl next => exact ih next
      | inr answer => rfl

/-- One turn uses up a pause, or ends a run that has none left. -/
theorem pauses_of_poll_finished {run : Run α} {schemas : List Handle} {answer : α}
    (turn : run.poll = (schemas, .finished answer)) : run.pauses = 0 := by
  induction run generalizing schemas with
  | done found => rfl
  | opening schema rest ih =>
      simp only [poll, Prod.mk.injEq] at turn
      exact ih (Prod.ext rfl turn.2)
  | paused rest => simp [poll] at turn

/-- A queue absorbs the results of its checks in the order in which they complete.  In the middle of a round
the checks at the back have been served once more than those in front. -/
theorem serve_answer_round (absorb : σ → ι → β → σ ⊕ γ) (finish : σ → γ) (state : σ) (waited : Nat)
    (front back : List (ι × Run β)) :
    (serve absorb finish state waited (front ++ back)).answer =
      absorbAll absorb finish state (completion ((timed back).map delayed ++ timed front)) := by
  -- By induction on the turns that the queue still needs, as the queue itself runs.
  induction turns : queueTurns (front ++ back) using Nat.strongRecOn generalizing state waited front back with
  | ind count ih =>
      have step : ∀ (name : ι) (run : Run β) (front back : List (ι × Run β)),
          queueTurns ((name, run) :: (front ++ back)) = count →
          (serve absorb finish state waited ((name, run) :: (front ++ back))).answer =
            absorbAll absorb finish state
              (completion ((timed back).map delayed ++ timed ((name, run) :: front))) := by
        intro name run front back turns
        have answered := answer_poll run
        rw [serve]
        split
        next schemas result turn =>
          rw [turn] at answered
          have first : completion ((timed back).map delayed ++ timed ((name, run) :: front)) =
              (run.pauses, name, run.answer) :: completion ((timed back).map delayed ++ timed front) := by
            refine completion_insert (pauses_of_poll_finished turn) fun other member => ?_
            obtain ⟨check, -, rfl⟩ := List.mem_map.mp member
            exact Nat.succ_pos _
          rw [answer_openingAll, first, absorbAll, ← show result = run.answer from answered]
          cases absorb state name result with
          | inr answer => rfl
          | inl next =>
              exact ih _ (turns ▸ queueTurns_lt_cons name run (front ++ back)) next 0 front back rfl
        next schemas later turn =>
          rw [turn] at answered
          have fewer : queueTurns (front ++ (back ++ [(name, later)])) < count := by
            rw [← turns, ← List.append_assoc]
            exact queueTurns_requeue turn
          have same : (timed (back ++ [(name, later)])).map delayed ++ timed front =
              (timed back).map delayed ++ timed ((name, run) :: front) := by
            have pauses := pauses_of_poll_pending turn
            have answer : later.answer = run.answer := answered
            simp only [timed, delayed, List.map_append, List.map_cons, List.map_nil, pauses, answer,
              List.append_assoc, List.cons_append, List.nil_append]
          rw [answer_openingAll, List.append_assoc, ← same]
          split
          · exact ih _ fewer state 0 front (back ++ [(name, later)]) rfl
          · exact ih _ fewer state (waited + 1) front (back ++ [(name, later)]) rfl
      cases front with
      | cons check rest =>
          obtain ⟨name, run⟩ := check
          exact step name run rest back turns
      | nil =>
          -- A round is over: all checks have been served equally often.
          cases back with
          | nil =>
              rw [List.append_nil, serve]
              rfl
          | cons check rest =>
              obtain ⟨name, run⟩ := check
              have next := step name run rest [] (by rw [List.append_nil]; exact turns)
              rw [List.append_nil] at next
              rw [List.nil_append, next]
              simp only [timed, List.map_nil, List.nil_append, List.append_nil]
              rw [completion_delayed, absorbAll_delayed]

/-- **Completion order.**  A queue absorbs the results of its checks in the order in which they complete. -/
theorem serve_answer_completion (absorb : σ → ι → β → σ ⊕ γ) (finish : σ → γ) (state : σ)
    (queue : List (ι × Run β)) :
    (serve absorb finish state 0 queue).answer =
      absorbAll absorb finish state (completion (timed queue)) := by
  have round := serve_answer_round absorb finish state 0 queue []
  rwa [List.append_nil] at round

/-! ## The earliest check -/

/-- Of two checks the one that completes first. -/
def sooner : Option (Nat × β) → Option (Nat × β) → Option (Nat × β)
  | none, second => second
  | some first, none => some first
  | some first, some second => if NoLater first second then some first else some second

/-- The check that completes first. -/
def earliest (checks : List (Nat × β)) : Option (Nat × β) :=
  checks.foldr (fun check others => sooner (some check) others) none

/-- Nothing comes no sooner than something. -/
theorem sooner_none (first : Option (Nat × β)) : sooner first none = first := by
  cases first <;> rfl

/-- Of three checks the soonest may be chosen in two ways. -/
theorem sooner_assoc (first second third : Option (Nat × β)) :
    sooner (sooner first second) third = sooner first (sooner second third) := by
  cases first with
  | none => rfl
  | some first =>
      cases second with
      | none => rfl
      | some second =>
          cases third with
          | none => rw [sooner_none, sooner_none]
          | some third =>
              simp only [sooner]
              by_cases left : NoLater first second <;> by_cases right : NoLater second third <;>
                by_cases across : NoLater first third <;>
                simp only [left, right, across, ↓reduceIte] <;>
                unfold NoLater at left right across <;> omega

/-- A check is no sooner than itself. -/
theorem sooner_self (check : Option (Nat × β)) : sooner check check = check := by
  cases check with
  | none => rfl
  | some check => exact if_pos (Nat.le_refl _)

/-- The earliest of two lists is the sooner one of the earliest of each. -/
theorem earliest_append (first second : List (Nat × β)) :
    earliest (first ++ second) = sooner (earliest first) (earliest second) := by
  induction first with
  | nil => rfl
  | cons check rest ih =>
      unfold earliest at ih ⊢
      rw [List.cons_append, List.foldr_cons, List.foldr_cons, ih, sooner_assoc]

/-- The first one to complete that has a property is the earliest of those that have it. -/
theorem find?_completion (wanted : Nat × β → Bool) (checks : List (Nat × β)) :
    (completion checks).find? wanted = earliest (checks.filter wanted) := by
  have inserted : ∀ (check : Nat × β) (sorted : List (Nat × β)), sorted.Pairwise NoLater →
      (sorted.orderedInsert NoLater check).find? wanted =
        if wanted check then sooner (some check) (sorted.find? wanted) else sorted.find? wanted := by
    intro check sorted rising
    induction sorted with
    | nil => cases own : wanted check <;> simp [own, sooner]
    | cons other rest ih =>
        obtain ⟨first, rest_rising⟩ := List.pairwise_cons.mp rising
        by_cases earlier : NoLater check other
        · rw [List.orderedInsert_cons_of_le _ _ earlier, List.find?_cons]
          cases own : wanted check with
          | false => rfl
          | true =>
              simp only [↓reduceIte]
              cases found : (other :: rest).find? wanted with
              | none => rfl
              | some second =>
                  have below : NoLater check second := by
                    rcases List.mem_cons.mp (List.mem_of_find?_eq_some found) with rfl | later
                    · exact earlier
                    · exact Nat.le_trans earlier (first second later)
                  exact (if_pos below).symm
        · rw [List.orderedInsert_of_not_le _ _ earlier, List.find?_cons, List.find?_cons,
            ih rest_rising]
          cases wanted other with
          | false => rfl
          | true =>
              cases wanted check with
              | false => rfl
              | true => exact (if_neg earlier).symm
  have rising : ∀ checks : List (Nat × β), (completion checks).Pairwise NoLater := by
    intro checks
    have : Std.Total (NoLater : Nat × β → Nat × β → Prop) := ⟨fun _ _ => Nat.le_total _ _⟩
    have : IsTrans (Nat × β) NoLater := ⟨fun _ _ _ => Nat.le_trans⟩
    exact List.pairwise_insertionSort NoLater checks
  induction checks with
  | nil => rfl
  | cons check rest ih =>
      have next := inserted check (completion rest) (rising rest)
      rw [ih] at next
      unfold completion at next ⊢
      rw [List.insertionSort_cons, next, List.filter_cons]
      cases wanted check <;> rfl

/-! ## The first to pass -/

/-- The checks of a join that ends with the first one to pass. -/
def candidates (checks : List (Run (Except ε α))) : List (Nat × Unit × Except ε α) :=
  timed (checks.map fun check => ((), check))

/-- The check passes. -/
def passes (check : Nat × Unit × Except ε α) : Bool :=
  check.2.2.isOk

/-- Taking results one after the other, until one has passed. -/
theorem absorbAll_first {absorb : Option ε → Unit → Except ε α → Option ε ⊕ Option (Except ε α)}
    (passed : ∀ failure answer, absorb failure () (.ok answer) = .inr (some (.ok answer)))
    (failed : ∀ failure other, absorb failure () (.error other) = .inl (some (failure.getD other)))
    (failure : Option ε) (checks : List (Nat × Unit × Except ε α)) :
    absorbAll absorb (fun failure => failure.map .error) failure checks =
      match checks.find? passes with
      | some check => some check.2.2
      | none => (failure.map .error).or (checks.head?.map fun check => check.2.2) := by
  induction checks generalizing failure with
  | nil => cases failure <;> rfl
  | cons check rest ih =>
      obtain ⟨pauses, _, result⟩ := check
      cases result with
      | ok answer =>
          simp only [absorbAll, passed]
          rfl
      | error other =>
          simp only [absorbAll, failed, ih]
          rw [List.find?_cons_of_neg (by simp [passes, Except.isOk, Except.toBool])]
          cases rest.find? passes with
          | some check => rfl
          | none => cases failure <;> rfl

/-- **The earliest check.**  A join that ends with the first check to pass answers with the earliest one that
passes, and with the failure of the earliest one where none does. -/
theorem firstPass_answer_earliest (checks : List (Run (Except ε α))) :
    (firstPass checks).answer =
      ((earliest ((candidates checks).filter passes)).orElse fun _ => earliest (candidates checks)).map
        fun check => check.2.2 := by
  unfold firstPass
  have head : (completion (candidates checks)).head? = earliest (candidates checks) := by
    have all := find?_completion (fun _ => true) (candidates checks)
    rw [List.filter_true] at all
    rw [← all]
    cases completion (candidates checks) <;> rfl
  rw [serve_answer_completion, absorbAll_first (fun _ _ => rfl) (fun _ _ => rfl),
    ← show candidates checks = timed (checks.map fun check => ((), check)) from rfl, find?_completion, head]
  cases earliest ((candidates checks).filter passes) <;> rfl

/-! ## The same winner -/

/-- A check that does not complete first is not missed behind any further one. -/
theorem sooner_absorb {first third : Option (Nat × β)} (second : Option (Nat × β))
    (beaten : sooner first third = first) : sooner (sooner first second) third = sooner first second := by
  cases third with
  | none => exact sooner_none _
  | some third =>
      cases first with
      | none => cases beaten
      | some first =>
          cases second with
          | none => exact beaten
          | some second =>
              simp only [sooner] at beaten ⊢
              by_cases front : NoLater first third
              · by_cases order : NoLater first second
                · simp only [order, front, ↓reduceIte]
                · have behind : NoLater second third := by
                    unfold NoLater at front order ⊢
                    omega
                  simp only [order, behind, ↓reduceIte]
              · rw [if_neg front] at beaten
                obtain rfl := Option.some.inj beaten
                exact absurd (Nat.le_refl _) front

/-- However long each member takes, and whichever of them may win, both lists have the same winner. -/
def RaceAlike (left right : List σ) : Prop :=
  ∀ (β : Type) (race : σ → Nat × β) (wanted : Nat × β → Bool),
    earliest ((left.map race).filter wanted) = earliest ((right.map race).filter wanted)

namespace RaceAlike

variable {left right third : List σ}

theorem refl (members : List σ) : RaceAlike members members :=
  fun _ _ _ => rfl

theorem symm (alike : RaceAlike left right) : RaceAlike right left :=
  fun β race wanted => (alike β race wanted).symm

theorem trans (first : RaceAlike left right) (second : RaceAlike right third) : RaceAlike left third :=
  fun β race wanted => (first β race wanted).trans (second β race wanted)

/-- Further members join in both lists. -/
theorem append (alike : RaceAlike left right) (further : List σ) :
    RaceAlike (left ++ further) (right ++ further) := by
  intro β race wanted
  simp only [List.map_append, List.filter_append, earliest_append, alike β race wanted]

/-- The last members join once more. -/
theorem again (members last : List σ) : RaceAlike (members ++ last) (members ++ last ++ last) := by
  intro β race wanted
  simp only [List.map_append, List.filter_append, earliest_append, sooner_assoc, sooner_self]

/-- Members that bring nothing bring nothing behind further ones. -/
theorem absorb {again : List σ} (alike : RaceAlike left (left ++ again)) (further : List σ) :
    RaceAlike (left ++ further) (left ++ further ++ again) := by
  intro β race wanted
  have beaten := alike β race wanted
  simp only [List.map_append, List.filter_append, earliest_append] at beaten ⊢
  exact (sooner_absorb _ beaten.symm).symm

/-- Lists that are alike in every race stay alike when their members are translated. -/
theorem map {τ : Type} (f : σ → τ) (alike : RaceAlike left right) :
    RaceAlike (left.map f) (right.map f) := by
  intro β race wanted
  simpa only [List.map_map] using alike β (race ∘ f) wanted

end RaceAlike

/-- A join that ends with the first check to pass has the same answer for lists with the same winner. -/
theorem firstPass_answer_of_raceAlike {left right : List σ} (alike : RaceAlike left right)
    (check : σ → Run (Except ε α)) :
    (firstPass (left.map check)).answer = (firstPass (right.map check)).answer := by
  have candidates_map : ∀ members : List σ, candidates (members.map check) =
      members.map fun member => ((check member).pauses, (), (check member).answer) := by
    intro members
    simp only [candidates, timed, List.map_map, Function.comp_def]
  have all := alike _ (fun member => ((check member).pauses, (), (check member).answer)) fun _ => true
  rw [List.filter_true, List.filter_true] at all
  rw [firstPass_answer_earliest, firstPass_answer_earliest, candidates_map, candidates_map, all,
    alike _ (fun member => ((check member).pauses, (), (check member).answer)) passes]

end Vetting.Run

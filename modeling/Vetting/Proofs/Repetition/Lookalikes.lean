import Vetting.Proofs.Repetition.Heard

/-!
# Lists that look alike

Two lists of instances look alike if their entries resemble each other one by one; loosely, if they do so
apart from `optional` rules, wherever these stand.  Whatever is wired next finds the same in both, and leaves
behind lists that look alike again (`Lookalikes.rounds`).
-/

namespace Vetting

variable {σ : Type}

/-- The instance is one of an `optional` rule. -/
def Instance.IsOptional (entry : Instance σ) : Prop :=
  entry.rule.unwired = .optional false

theorem Instance.IsOptional.of_call_eq {entry next : Instance σ} (optional : entry.IsOptional)
    (same : next.call = entry.call) : next.IsOptional :=
  (Prod.mk.inj same).1.trans optional

/-- The entries resemble each other one by one, loosely apart from `optional` rules. -/
inductive Lookalikes (loose : Prop) : List (Instance σ) → List (Instance σ) → Prop
  | nil : Lookalikes loose [] []
  | cons {left right : Instance σ} {first second : List (Instance σ)} (same : left.Resembles right)
      (rest : Lookalikes loose first second) : Lookalikes loose (left :: first) (right :: second)
  | left {entry : Instance σ} {first second : List (Instance σ)} (allowed : loose) (optional : entry.IsOptional)
      (rest : Lookalikes loose first second) : Lookalikes loose (entry :: first) second
  | right {entry : Instance σ} {first second : List (Instance σ)} (allowed : loose) (optional : entry.IsOptional)
      (rest : Lookalikes loose first second) : Lookalikes loose first (entry :: second)

namespace Instance.Resembles

variable {left right : Instance σ}

/-- Instances that resemble each other can be changed alike, or not at all. -/
theorem amend (same : left.Resembles right) (change : Change σ) :
    Option.Rel Instance.Resembles (left.amend change.amendment) (right.amend change.amendment) := by
  cases made : left.amend change.amendment with
  | some next =>
      obtain ⟨rule, amended, rfl⟩ := Option.map_eq_some_iff.mp made
      obtain ⟨other, alike, resembles⟩ := change.exists_of_resembles same.rule amended
      rw [Instance.amend, alike]
      exact .some ⟨same.arguments, resembles⟩
  | none =>
      cases madeRight : right.amend change.amendment with
      | none => exact .none
      | some next =>
          obtain ⟨rule, amended, rfl⟩ := Option.map_eq_some_iff.mp madeRight
          obtain ⟨other, alike, -⟩ := change.exists_of_resembles same.rule.symm amended
          rw [Instance.amend, alike] at made
          cases made

/-- The same change leaves instances alike that were. -/
theorem changed_congr (same : left.Resembles right) (change : Change σ) :
    (left.changed change).Resembles (right.changed change) := by
  have both := same.amend change
  unfold Instance.changed
  cases made : left.amend change.amendment with
  | some next =>
      rw [made] at both
      cases madeRight : right.amend change.amendment with
      | some other =>
          rw [madeRight] at both
          cases both with
          | some alike => exact alike
      | none =>
          rw [madeRight] at both
          cases both
  | none =>
      rw [made] at both
      cases madeRight : right.amend change.amendment with
      | some other =>
          rw [madeRight] at both
          cases both
      | none => exact same

theorem changedBy_congr (same : left.Resembles right) (changes : List (Change σ)) :
    (left.changedBy changes).Resembles (right.changedBy changes) := by
  unfold Instance.changedBy
  induction changes generalizing left right with
  | nil => exact same
  | cons change rest ih => exact ih (same.changed_congr change)

end Instance.Resembles

namespace Lookalikes

variable {loose : Prop} {first second : List (Instance σ)}

/-- Lists with instances that resemble each other look alike. -/
theorem of_forall₂ (all : List.Forall₂ Instance.Resembles first second) : Lookalikes loose first second := by
  induction all with
  | nil => exact .nil
  | cons same _ ih => exact .cons same ih

/-- Lists that look alike do so behind lists that do. -/
theorem append {third fourth : List (Instance σ)} (one : Lookalikes loose first second)
    (two : Lookalikes loose third fourth) : Lookalikes loose (first ++ third) (second ++ fourth) := by
  induction one with
  | nil => exact two
  | cons same _ ih => exact .cons same ih
  | left allowed optional _ ih => exact .left allowed optional ih
  | right allowed optional _ ih => exact .right allowed optional ih

theorem trans_forall₂ {third : List (Instance σ)} (alike : Lookalikes loose first second)
    (all : List.Forall₂ Instance.Resembles second third) : Lookalikes loose first third := by
  induction alike generalizing third with
  | nil =>
      cases all
      exact .nil
  | cons same _ ih =>
      cases all with
      | cons head rest => exact .cons (same.trans head) (ih rest)
  | left allowed optional _ ih => exact .left allowed optional (ih all)
  | right allowed optional _ ih =>
      cases all with
      | cons head rest => exact .right allowed (optional.of_call_eq head.call_eq.symm) (ih rest)

/-- The same changes, made to every instance, leave lists looking alike that did. -/
theorem changedBy (alike : Lookalikes loose first second) (changes : List (Change σ)) :
    Lookalikes loose (first.map (Instance.changedBy changes)) (second.map (Instance.changedBy changes)) := by
  induction alike with
  | nil => exact .nil
  | cons same _ ih => exact .cons (same.changedBy_congr changes) ih
  | left allowed optional _ ih =>
      exact .left allowed (optional.of_call_eq (Instance.becomes_changedBy _ changes).call_eq) ih
  | right allowed optional _ ih =>
      exact .right allowed (optional.of_call_eq (Instance.becomes_changedBy _ changes).call_eq) ih

/-- Lists look alike when those calls are dropped from both that satisfy a condition on the call. -/
theorem filter (alike : Lookalikes loose first second) {keep : Instance σ → Bool}
    (calls : ∀ left right : Instance σ, left.call = right.call → keep left = keep right) :
    Lookalikes loose (first.filter keep) (second.filter keep) := by
  induction alike with
  | nil => exact .nil
  | @cons left right _ _ same _ ih =>
      have both := calls left right same.call_eq
      cases kept : keep right with
      | true =>
          rw [List.filter_cons_of_pos (both.trans kept), List.filter_cons_of_pos kept]
          exact .cons same ih
      | false =>
          rw [List.filter_cons_of_neg (by rw [both, kept]; exact Bool.false_ne_true),
            List.filter_cons_of_neg (by rw [kept]; exact Bool.false_ne_true)]
          exact ih
  | left allowed optional _ ih =>
      rw [List.filter_cons]
      split
      · exact .left allowed optional ih
      · exact ih
  | right allowed optional _ ih =>
      rw [List.filter_cons]
      split
      · exact .right allowed optional ih
      · exact ih

/-- Entries of any other sort than `optional` are found in both lists. -/
theorem any_eq (alike : Lookalikes loose first second) {wanted : Instance σ → Bool}
    (calls : ∀ left right : Instance σ, left.call = right.call → wanted left = wanted right)
    (others : ∀ entry : Instance σ, entry.IsOptional → wanted entry = false) :
    first.any wanted = second.any wanted := by
  induction alike with
  | nil => rfl
  | cons same _ ih => rw [List.any_cons, List.any_cons, calls _ _ same.call_eq, ih]
  | left _ optional _ ih => rw [List.any_cons, others _ optional, Bool.false_or, ih]
  | right _ optional _ ih => rw [List.any_cons, others _ optional, Bool.false_or, ih]

/-- Only `required` changes `optional` rules. -/
theorem amend_optional {change : Change σ} (other : change ≠ .disable) {entry : Instance σ}
    (optional : entry.IsOptional) : entry.amend change.amendment = none := by
  obtain ⟨rule, arguments⟩ := entry
  cases rule with
  | optional enabled =>
      cases change with
      | disable => exact absurd rfl other
      | _ => rfl
  | _ => cases optional

theorem rel_map {α β γ δ : Type} {related : α → β → Prop} {other : γ → δ → Prop} {left : Option α}
    {right : Option β} {f : α → γ} {g : β → δ} (both : Option.Rel related left right)
    (step : ∀ a b, related a b → other (f a) (g b)) : Option.Rel other (left.map f) (right.map g) := by
  cases both with
  | none => exact .none
  | some same => exact .some (step _ _ same)

/-- A change that does not switch off is made to the first instance in both lists or in neither, and leaves them
looking alike. -/
theorem firstChanged? {change : Change σ} (other : change ≠ .disable) (alike : Lookalikes loose first second) :
    Option.Rel (Lookalikes loose) (firstChanged? first change) (firstChanged? second change) := by
  have passed : ∀ {entry : Instance σ} (rest : List (Instance σ)), entry.IsOptional →
      amendFirst? (Instance.amend change.amendment) (entry :: rest) =
        (amendFirst? (Instance.amend change.amendment) rest).map (entry :: ·) := by
    intro entry rest optional
    rw [amendFirst?, amend_optional other optional]
  unfold Vetting.firstChanged?
  induction alike with
  | nil => exact .none
  | @cons left right firstRest secondRest same rest ih =>
      have both := same.amend change
      rw [amendFirst?, amendFirst?]
      generalize left.amend change.amendment = one at both
      generalize right.amend change.amendment = two at both
      cases both with
      | none => exact rel_map ih fun _ _ more => .cons same more
      | some next => exact .some (.cons next rest)
  | left allowed optional _ ih =>
      have step := rel_map (g := id) ih fun _ _ more => Lookalikes.left allowed optional more
      rwa [Option.map_id, id_eq, ← passed _ optional] at step
  | right allowed optional _ ih =>
      have step := rel_map (f := id) ih fun _ _ more => Lookalikes.right allowed optional more
      rwa [Option.map_id, id_eq, ← passed _ optional] at step

/-- A change that does not switch off, made to the last instance, leaves lists looking alike that did. -/
theorem lastChanged {change : Change σ} (other : change ≠ .disable) (alike : Lookalikes loose first second) :
    Lookalikes loose (lastChanged first change) (lastChanged second change) := by
  have passed : ∀ {entry : Instance σ} (rest : List (Instance σ)), entry.IsOptional →
      amendLast? (Instance.amend change.amendment) (entry :: rest) =
        (amendLast? (Instance.amend change.amendment) rest).map (entry :: ·) := by
    intro entry rest optional
    rw [amendLast?, amend_optional other optional]
    cases amendLast? (Instance.amend change.amendment) rest <;> rfl
  have reached : Option.Rel (Lookalikes loose) (amendLast? (Instance.amend change.amendment) first)
      (amendLast? (Instance.amend change.amendment) second) := by
    induction alike with
    | nil => exact .none
    | @cons left right firstRest secondRest same rest ih =>
        have both := same.amend change
        rw [amendLast?, amendLast?]
        generalize amendLast? (Instance.amend change.amendment) firstRest = one at ih
        generalize amendLast? (Instance.amend change.amendment) secondRest = two at ih
        cases ih with
        | some later => exact .some (.cons same later)
        | none => exact rel_map both fun _ _ next => .cons next rest
    | left allowed optional _ ih =>
        have step := rel_map (g := id) ih fun _ _ more => Lookalikes.left allowed optional more
        rwa [Option.map_id, id_eq, ← passed _ optional] at step
    | right allowed optional _ ih =>
        have step := rel_map (f := id) ih fun _ _ more => Lookalikes.right allowed optional more
        rwa [Option.map_id, id_eq, ← passed _ optional] at step
  unfold Vetting.lastChanged
  generalize amendLast? (Instance.amend change.amendment) first = one at reached
  generalize amendLast? (Instance.amend change.amendment) second = two at reached
  cases reached with
  | none => exact alike
  | some changed => exact changed

end Lookalikes

/-! ## Rounds among lists that look alike -/

/-- Only `required` disables. -/
theorem Rule.Does.ne_disable {own : Rule σ} {deed : Deed σ} (does : own.Does deed) :
    ∀ change ∈ deed.backwards ++ deed.handedOver.toList, change ≠ .disable := by
  cases does with
  | _ => simp [Deed.alone, Deed.modifying, Deed.gathering]

namespace Lookalikes

variable {loose : Prop} {first second : List (Instance σ)} {deed : Deed σ}

theorem foldl_lastChanged {changes : List (Change σ)} (others : ∀ change ∈ changes, change ≠ .disable)
    (alike : Lookalikes loose first second) :
    Lookalikes loose (changes.foldl Vetting.lastChanged first) (changes.foldl Vetting.lastChanged second) := by
  induction changes generalizing first second with
  | nil => exact alike
  | cons change rest ih =>
      exact ih (fun other member => others other (List.mem_cons_of_mem _ member))
        (alike.lastChanged (others change List.mem_cons_self))

/-- A deed finds the same and does the same. -/
theorem onBefore {own : Rule σ} (does : own.Does deed) (alike : Lookalikes loose first second) :
    (deed.onBefore first).1 = (deed.onBefore second).1 ∧
      Lookalikes loose (deed.onBefore first).2 (deed.onBefore second).2 := by
  have others := does.ne_disable
  have earlier : Lookalikes loose (deed.onEarlier first) (deed.onEarlier second) :=
    foldl_lastChanged (fun change member => others change (List.mem_append_left _ member))
      (alike.changedBy deed.everywhere)
  unfold Deed.onBefore
  cases given : deed.handedOver with
  | none => exact ⟨rfl, earlier⟩
  | some change =>
      have reached := earlier.firstChanged?
        (others change (List.mem_append_right _ (Option.mem_toList.mpr given)))
      simp only [Option.bind_some]
      generalize Vetting.firstChanged? (deed.onEarlier first) change = one at reached
      generalize Vetting.firstChanged? (deed.onEarlier second) change = two at reached
      cases reached with
      | none => exact ⟨rfl, earlier⟩
      | some changed => exact ⟨rfl, changed⟩

/-- A key map is known to both lists or to neither. -/
theorem knowsKeys_eq (alike : Lookalikes loose first second) (after : List (Instance σ)) :
    Deed.knowsKeys ⟨first, after⟩ = Deed.knowsKeys ⟨second, after⟩ := by
  unfold Deed.knowsKeys Siblings.applies
  refine congrArg (· || _) (alike.any_eq ?_ ?_)
  · intro left right same
    rw [Bool.eq_iff_iff, Instance.isSome_amend_keys, Instance.isSome_amend_keys]
    exact ⟨fun keys => keys.of_call_eq same.symm, fun keys => keys.of_call_eq same⟩
  · intro entry optional
    have beyond := @amend_optional _ (.keys [] []) (fun same => nomatch same) entry optional
    exact Option.isSome_eq_false_iff.mpr (Option.isNone_iff_eq_none.mpr beyond)

/-- An instance comes to the same rule between either of the lists. -/
theorem wiredBy_eq {entry : Instance σ} (does : entry.rule.Does deed) (alike : Lookalikes loose first second)
    (after : List (Instance σ)) : entry.wiredBy deed ⟨first, after⟩ = entry.wiredBy deed ⟨second, after⟩ := by
  simp only [Instance.wiredBy, (alike.onBefore does).1, alike.knowsKeys_eq after]

variable [Identified σ]

/-- A round leaves lists looking alike that did. -/
theorem afterRound {entry : Instance σ} (does : entry.rule.Does deed) (alike : Lookalikes loose first second)
    (after : List (Instance σ)) :
    Lookalikes loose (entry.afterRound deed first after).before (entry.afterRound deed second after).before := by
  have siblings := (alike.onBefore does).2
  simp only [Instance.afterRound, Wiring.sifted, alike.wiredBy_eq does after]
  split
  · refine (siblings.filter fun left right same => ?_).append (.cons (.refl _) .nil)
    rw [Instance.same_of_call same rfl]
  · exact siblings

/-- **Rounds among lookalikes.**  Whatever is wired behind one of the lists can be wired behind the other one,
and they look alike still. -/
theorem rounds {after : List (Instance σ)} {count : Nat} {state : Siblings (Instance σ)}
    (standard : ∀ entry ∈ after, entry.IsStandard) (alike : Lookalikes loose first second)
    (ended : Instance.wiring.rounds count ⟨first, after⟩ = .ok state) :
    ∃ next, Instance.wiring.rounds count ⟨second, after⟩ = .ok next ∧ Lookalikes loose state.before next.before ∧
      next.after = state.after := by
  induction count generalizing first second after with
  | zero =>
      obtain rfl := Except.ok.inj ended
      exact ⟨_, rfl, alike, rfl⟩
  | succ count ih =>
      cases after with
      | nil => exact ih standard alike ended
      | cons entry rest =>
          have own := standard entry List.mem_cons_self
          obtain ⟨deed, found, further⟩ := (Instance.rounds_succ_eq_ok own).mp ended
          have each : ∀ other ∈ rest.map deed.onEach, other.IsStandard := by
            intro other member
            obtain ⟨origin, inside, rfl⟩ := List.mem_map.mp member
            exact (standard origin (List.mem_cons_of_mem _ inside)).of_call_eq
              (deed.becomes_onEach origin).call_eq
          obtain ⟨next, same, both, waiting⟩ := ih each (alike.afterRound (Rule.does_of_deed found) rest) further
          exact ⟨next, (Instance.rounds_succ_eq_ok own).mpr ⟨deed, found, same⟩, both, waiting⟩

end Lookalikes

end Vetting

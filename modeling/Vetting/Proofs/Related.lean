import Mathlib.Data.List.Forall2

/-!
# Lists that are related entry by entry

What is found, put or met at a place of one list is related to what stands at that place of the other one.  Relations
between entries that can be turned round, or chained, can be turned round or chained for whole lists.
-/

namespace Vetting

variable {α β γ : Type}

/-- Lists that are related one by one to a list in between are related through it. -/
theorem forall₂_trans {first : α → β → Prop} {second : β → γ → Prop} {left : List α} {middle : List β}
    {right : List γ} (one : List.Forall₂ first left middle) (two : List.Forall₂ second middle right) :
    List.Forall₂ (fun a c => ∃ b, first a b ∧ second b c) left right := by
  induction one generalizing right with
  | nil =>
      cases two
      exact .nil
  | cons head _ ih =>
      cases two with
      | cons next rest => exact .cons ⟨_, head, next⟩ (ih rest)

/-- A relation that can be chained at the entries of the first list. -/
theorem forall₂_trans_of_mem {related : α → α → Prop} {left middle right : List α}
    (chains : ∀ entry ∈ left, ∀ next last, related entry next → related next last → related entry last)
    (one : List.Forall₂ related left middle) (two : List.Forall₂ related middle right) :
    List.Forall₂ related left right := by
  have both := (List.forall₂_and_left _ _).mpr ⟨chains, one⟩
  apply (forall₂_trans both two).imp
  intro entry last steps
  obtain ⟨next, ⟨chain, here⟩, there⟩ := steps
  exact chain next last here there

/-- A relation that can be turned round at the entries of the first list. -/
theorem forall₂_symm_of_mem {related : α → α → Prop} {left right : List α}
    (turns : ∀ entry ∈ left, ∀ other, related entry other → related other entry)
    (all : List.Forall₂ related left right) : List.Forall₂ related right left := by
  have both := (List.forall₂_and_left _ _).mpr ⟨turns, all⟩
  apply List.Forall₂.flip
  exact both.imp fun entry other ⟨turn, same⟩ => turn other same

/-- An entry of the second list is related to one of the first. -/
theorem exists_of_mem_right {related : α → β → Prop} {left : List α} {right : List β} {entry : β}
    (all : List.Forall₂ related left right) (member : entry ∈ right) :
    ∃ origin ∈ left, related origin entry := by
  induction all with
  | nil => cases member
  | cons head _ ih =>
      rcases List.mem_cons.mp member with rfl | later
      · exact ⟨_, List.mem_cons_self, head⟩
      · obtain ⟨origin, inside, same⟩ := ih later
        exact ⟨origin, List.mem_cons_of_mem _ inside, same⟩

/-- The second list can be cut where the first one is. -/
theorem exists_split_of_forall₂ {related : α → β → Prop} {front back : List α} {entry : α}
    {right : List β} (all : List.Forall₂ related (front ++ entry :: back) right) :
    ∃ first next last, right = first ++ next :: last ∧ List.Forall₂ related front first ∧
      related entry next ∧ List.Forall₂ related back last := by
  induction front generalizing right with
  | nil =>
      cases all with
      | cons head rest => exact ⟨[], _, _, rfl, .nil, head, rest⟩
  | cons other rest ih =>
      cases all with
      | cons head more =>
          obtain ⟨first, next, last, rfl, before, here, after⟩ := ih more
          exact ⟨_ :: first, next, last, rfl, .cons head before, here, after⟩

/-- What can be found in lists that are related entry by entry is related. -/
theorem find?_forall₂ {related : α → β → Prop} {left : List α} {right : List β}
    {first : α → Bool} {second : β → Bool} (all : List.Forall₂ related left right)
    (same : ∀ a b, related a b → first a = second b) :
    Option.Rel related (left.find? first) (right.find? second) := by
  induction all with
  | nil => exact .none
  | cons head _ ih =>
      rw [List.find?_cons, List.find?_cons, same _ _ head]
      cases second _ with
      | true => exact .some head
      | false => exact ih

/-- A test that tells related entries alike is met in both lists or in none. -/
theorem any_forall₂ {related : α → β → Prop} {left : List α} {right : List β} {first : α → Bool} {second : β → Bool}
    (all : List.Forall₂ related left right) (same : ∀ a b, related a b → first a = second b) :
    left.any first = right.any second := by
  induction all with
  | nil => rfl
  | cons head _ ih => rw [List.any_cons, List.any_cons, same _ _ head, ih]

/-- Related lists stay so when related entries take the same place. -/
theorem forall₂_set {related : α → β → Prop} {known : List α} {known' : List β}
    (same : List.Forall₂ related known known') (place : Nat) {entry : α} {entry' : β} (own : related entry entry') :
    List.Forall₂ related (known.set place entry) (known'.set place entry') := by
  induction same generalizing place with
  | nil => exact .nil
  | cons head rest ih =>
      cases place with
      | zero => exact .cons own rest
      | succ place => exact .cons head (ih place)

end Vetting

import Vetting.Proofs.Assembly.Deeds

/-!
# What every deed keeps

What holds of all entries holds of them after any rounds, if every change that a deed makes keeps it and every
wiring does (`Instance.forall_rounds`).  So it holds of the rules that come out of an assembly
(`Instance.forall_assemble`).  An assembly that comes to an end has wired all its entries
(`Instance.exists_deed_of_assemble`).
-/

namespace Vetting

variable {σ : Type} [Identified σ]

namespace Instance

/-- Deeds that keep something keep it in all rounds. -/
theorem forall_rounds {holds : Instance σ → Prop} (standard : ∀ entry, holds entry → entry.IsStandard)
    (amended : ∀ {entry other next : Instance σ} {deed : Deed σ} {change : Change σ}, holds entry →
      entry.deed = .ok deed → change ∈ deed.changes → holds other → other.amend change.amendment = some next →
        holds next)
    (wired : ∀ {entry : Instance σ} {deed : Deed σ} (siblings : Siblings (Instance σ)), holds entry →
      entry.deed = .ok deed → holds (entry.wiredBy deed siblings))
    {count : Nat} {before after : List (Instance σ)} {state : Siblings (Instance σ)}
    (start : ∀ entry ∈ before ++ after, holds entry) (ended : wiring.rounds count ⟨before, after⟩ = .ok state) :
    ∀ entry ∈ state.before ++ state.after, holds entry := by
  refine rounds_keep (fun state => ∀ entry ∈ state.before ++ state.after, holds entry)
    (fun {entry deed before after} _ found start => ?_) (fun entry member => standard entry (start entry member)) ended
    start
  have own := start entry (List.mem_append_right _ List.mem_cons_self)
  refine forall_afterRound (amended own found) (wired _ own found) fun other member => start other ?_
  exact ((List.sublist_cons_self entry after).append_left before).subset member

/-- **Invariants.**  What holds of all fresh instances, and is kept by changes and by wiring, holds of all that come
out of an assembly. -/
theorem forall_assemble {holds : Instance σ → Prop} (standard : ∀ entry, holds entry → entry.IsStandard)
    (amended : ∀ {entry other next : Instance σ} {deed : Deed σ} {change : Change σ}, holds entry →
      entry.deed = .ok deed → change ∈ deed.changes → holds other → other.amend change.amendment = some next →
        holds next)
    (wired : ∀ {entry : Instance σ} {deed : Deed σ} (siblings : Siblings (Instance σ)), holds entry →
      entry.deed = .ok deed → holds (entry.wiredBy deed siblings))
    {entries kept : List (Instance σ)} (start : ∀ entry ∈ entries, holds entry)
    (assembled : assemble entries = .ok kept) : ∀ entry ∈ kept, holds entry := by
  rw [assemble, Wiring.assemble_eq] at assembled
  obtain ⟨state, ended, rfl⟩ := Rule.exists_of_map_eq_ok assembled
  have all := forall_rounds standard amended wired
    (fun entry member => start entry ((wiring.ordered_perm entries).mem_iff.mp member)) ended
  exact fun entry member => all entry (List.mem_append_left _ member)

/-- An assembly of standard rules leaves nothing but standard rules. -/
theorem standard_assemble {entries kept : List (Instance σ)} (standard : ∀ entry ∈ entries, entry.IsStandard)
    (assembled : assemble entries = .ok kept) : ∀ entry ∈ kept, entry.IsStandard :=
  forall_assemble (fun _ own => own)
    (fun {_ _ _ _ change} _ _ _ good made => good.of_call_eq (keeps_call change.keeps made))
    (fun siblings own found => own.of_call_eq (call_wiredBy own found siblings)) standard assembled

/-- An assembly that comes to an end has found what each call does. -/
theorem exists_deed_of_assemble {entries kept : List (Instance σ)} (standard : ∀ entry ∈ entries, entry.IsStandard)
    (assembled : assemble entries = .ok kept) :
    ∀ entry ∈ entries, ∃ wired : Instance σ, wired.call = entry.call ∧ ∃ deed, wired.deed = .ok deed := by
  have ofCall : ∀ {left right : Instance σ}, left.call = right.call → (some ∘ call) left = (some ∘ call) right :=
    fun same => congrArg some same
  obtain ⟨-, -, all⟩ := assemble_told
    (fun calls _ => ∀ call ∈ calls, ∃ wired : Instance σ, wired.call = call ∧ ∃ deed, wired.deed = .ok deed) ofCall
    (fun {calls entry deed _ _} _ found earlier call member => by
      rcases List.mem_append.mp member with before | own
      · exact earlier call before
      · obtain rfl := List.mem_singleton.mp own
        exact ⟨entry, rfl, deed, found⟩)
    standard assembled (List.forall_mem_nil _)
  rw [List.filterMap_eq_map] at all
  exact fun entry member =>
    all entry.call (List.mem_map_of_mem ((wiring.ordered_perm entries).mem_iff.mpr member))

end Instance

end Vetting

import Vetting.Proofs.Assembly.Order
import Vetting.Proofs.Rule.Identity

/-!
# Where the rules of an assembly come from

What wiring leaves alone in all entries is found again among the entries that were settled, in the order in
which they were (`Wiring.sublist_of_settle`).  So every rule of an assembly stands for one of the calls
(`Instance.exists_origin_of_assemble`), and the rules stand in the order of their priorities
(`Instance.rising_assemble`).
-/

namespace Vetting

namespace Wiring

variable {ι κ ε : Type} {wiring : Wiring ι ε}

/-- What is kept of the earlier entries and the new one is taken from them in their order. -/
theorem sifted_sublist (before : List ι) (entry : ι) : (wiring.sifted before entry).Sublist (before ++ [entry]) := by
  unfold sifted
  split
  · exact List.filter_sublist.append (List.Sublist.refl _)
  · exact List.sublist_append_left _ _

/-- What wiring leaves alone in all entries is found again among the entries that were settled, in order. -/
theorem sublist_of_settle (view : ι → κ) {rounds : Nat} {before after kept : List ι}
    (keeps : ∀ ⦃entry wired : ι⦄ ⦃siblings amended : Siblings ι⦄,
      wiring.wire entry siblings = .ok (wired, amended) →
        view wired = view entry ∧ amended.map view = siblings.map view)
    (settled : wiring.settle rounds before after = .ok kept) :
    (kept.map view).Sublist (before.map view ++ after.map view) := by
  induction rounds generalizing before after with
  | zero =>
      obtain rfl := Except.ok.inj settled
      exact List.sublist_append_left _ _
  | succ rounds ih =>
      cases after with
      | nil =>
          obtain rfl := Except.ok.inj settled
          exact List.sublist_append_left _ _
      | cons next rest =>
          cases outcome : wiring.wire next ⟨before, rest⟩ with
          | error failure =>
              rw [settle, outcome] at settled
              cases settled
          | ok found =>
              obtain ⟨wired, siblings⟩ := found
              rw [settle, outcome] at settled
              obtain ⟨own, others⟩ := keeps outcome
              obtain ⟨beforeKept, afterKept⟩ := (Siblings.mk.injEq ..).mp others
              have sifted := (wiring.sifted_sublist siblings.before wired).map view
              rw [List.map_append, beforeKept, List.map_singleton, own] at sifted
              have among := (ih settled).trans (sifted.append (List.Sublist.refl _))
              rwa [afterKept, List.append_assoc, List.singleton_append, ← List.map_cons] at among

end Wiring

namespace Instance

variable {σ : Type} [Identified σ] {entries kept : List (Instance σ)}

/-- The rules of an assembly stand for calls that it was made of, in their order. -/
theorem calls_sublist_of_assemble (assembled : assemble entries = .ok kept) :
    (kept.map call).Sublist ((wiring.ordered entries).map call) := by
  have among := Wiring.sublist_of_settle call (fun _ _ _ _ outcome => calls_wire outcome) assembled
  rwa [List.map_nil, List.nil_append] at among

/-- Every rule of an assembly stands for one of the calls that it was made of. -/
theorem exists_origin_of_assemble (assembled : assemble entries = .ok kept) :
    ∀ entry ∈ kept, ∃ origin ∈ entries, origin.call = entry.call := by
  intro entry member
  have among := (calls_sublist_of_assemble assembled).subset (List.mem_map_of_mem member)
  exact List.mem_map.mp (((wiring.ordered_perm entries).map call).mem_iff.mp among)

/-- The rules of an assembly stand in the order of their priorities. -/
theorem rising_assemble (assembled : assemble entries = .ok kept) : kept.Pairwise wiring.Precedes := by
  have told : ∀ left right : Instance σ, wiring.Precedes left right ↔ left.call.1.priority ≤ right.call.1.priority := by
    intro left right
    rw [call, call, Rule.priority_unwired, Rule.priority_unwired]
    rfl
  have rising : ((wiring.ordered entries).map call).Pairwise fun left right => left.1.priority ≤ right.1.priority :=
    List.pairwise_map.mpr ((wiring.ordered_rising entries).imp fun order => (told _ _).mp order)
  have part := rising.sublist (calls_sublist_of_assemble assembled)
  exact (List.pairwise_map.mp part).imp fun order => (told _ _).mpr order

end Instance

end Vetting

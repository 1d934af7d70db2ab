import Mathlib.Data.List.Sort
import Vetting.Rule.Assembly

/-!
# The order of assembly

Entries are put in the order of their priorities, and those of one priority stay as they were.  These two
properties leave a single list (`IsStableOrder.unique`), so an order can be recognised by its tiers.
-/

namespace Vetting.Wiring

variable {ι ε : Type} (wiring : Wiring ι ε)

/-- The first entry may stand before the second one. -/
def Precedes (left right : ι) : Prop :=
  wiring.priority left ≤ wiring.priority right

instance : DecidableRel wiring.Precedes :=
  fun left right => inferInstanceAs (Decidable (wiring.priority left ≤ wiring.priority right))

instance : Std.Total wiring.Precedes :=
  ⟨fun _ _ => Int.le_total _ _⟩

instance : IsTrans ι wiring.Precedes :=
  ⟨fun _ _ _ => Int.le_trans⟩

/-- The entries of one priority. -/
def tier (priority : Int) (entries : List ι) : List ι :=
  entries.filter fun entry => wiring.priority entry = priority

@[simp] theorem tier_nil (priority : Int) : wiring.tier priority [] = [] := rfl

/-- The tier of two lists, one behind the other, is that of the first and then that of the second. -/
theorem tier_append (priority : Int) (first second : List ι) :
    wiring.tier priority (first ++ second) =
      wiring.tier priority first ++ wiring.tier priority second :=
  List.filter_append ..

/-- An entry comes first in its own tier. -/
theorem tier_cons_self {entry : ι} (rest : List ι) :
    wiring.tier (wiring.priority entry) (entry :: rest) =
      entry :: wiring.tier (wiring.priority entry) rest := by
  simp [tier]

/-- An entry is not in the tiers of other priorities. -/
theorem tier_cons_of_ne {priority : Int} {entry : ι} (rest : List ι)
    (other : wiring.priority entry ≠ priority) :
    wiring.tier priority (entry :: rest) = wiring.tier priority rest := by
  simp [tier, other]

/-- The sorted entries are the given ones, by rising priority, and the entries of each priority keep the
order in which they were given. -/
structure IsStableOrder (entries sorted : List ι) : Prop where
  perm : sorted.Perm entries
  rising : sorted.Pairwise wiring.Precedes
  ties : ∀ priority, wiring.tier priority sorted = wiring.tier priority entries

/-- Entries are put in their places as by an insertion into an ordered list. -/
theorem inserted_eq (entry : ι) (entries : List ι) :
    wiring.inserted entry entries = entries.orderedInsert wiring.Precedes entry := by
  induction entries with
  | nil => rfl
  | cons other rest ih =>
      by_cases earlier : wiring.priority entry ≤ wiring.priority other
      · simp only [inserted, List.orderedInsert_cons, Precedes, earlier, ↓reduceIte]
      · simp only [inserted, List.orderedInsert_cons, Precedes, earlier, ↓reduceIte, ih]

/-- Entries are ordered as by an insertion sort. -/
theorem ordered_eq (entries : List ι) :
    wiring.ordered entries = entries.insertionSort wiring.Precedes := by
  induction entries with
  | nil => rfl
  | cons entry rest ih =>
      rw [List.insertionSort_cons, ← ih, ← inserted_eq]
      rfl

/-- Ordering loses nothing and adds nothing. -/
theorem ordered_perm (entries : List ι) : (wiring.ordered entries).Perm entries := by
  rw [ordered_eq]
  exact List.perm_insertionSort _ _

/-- Ordering leaves the number of entries. -/
theorem length_ordered (entries : List ι) : (wiring.ordered entries).length = entries.length :=
  (wiring.ordered_perm entries).length_eq

/-- Ordered entries rise in priority. -/
theorem ordered_rising (entries : List ι) : (wiring.ordered entries).Pairwise wiring.Precedes := by
  rw [ordered_eq]
  exact List.pairwise_insertionSort _ _

/-- A tier is sorted as it stands, so sorting keeps it as a part of the list and, by its length, as it is. -/
theorem tier_ordered (priority : Int) (entries : List ι) :
    wiring.tier priority (wiring.ordered entries) = wiring.tier priority entries := by
  have level : ∀ entry ∈ wiring.tier priority entries, wiring.priority entry = priority := by
    intro entry member
    simpa using (List.mem_filter.mp member).2
  have rising : (wiring.tier priority entries).Pairwise wiring.Precedes := by
    refine List.pairwise_of_forall_mem_list ?_
    intro left inLeft right inRight
    exact le_of_eq ((level left inLeft).trans (level right inRight).symm)
  have kept : (wiring.tier priority entries).Sublist (wiring.ordered entries) := by
    rw [ordered_eq]
    exact List.sublist_insertionSort rising List.filter_sublist
  have within := kept.filter fun entry => decide (wiring.priority entry = priority)
  rw [List.filter_eq_self.mpr (by simpa using level)] at within
  have equallyLong : (wiring.tier priority entries).length =
      (wiring.tier priority (wiring.ordered entries)).length :=
    (((wiring.ordered_perm entries).filter _).length_eq).symm
  exact (within.eq_of_length equallyLong).symm

/-- Ordering is stable: entries of one priority keep their order. -/
theorem ordered_isStableOrder (entries : List ι) :
    wiring.IsStableOrder entries (wiring.ordered entries) :=
  ⟨wiring.ordered_perm entries, wiring.ordered_rising entries, fun _ => wiring.tier_ordered _ _⟩

variable {wiring}

/-- The head of a rising list precedes whatever shares its tier with an entry of the list. -/
theorem precedes_of_tier {head other : ι} {rest others : List ι} (rising : (head :: rest).Pairwise wiring.Precedes)
    (member : other ∈ others)
    (tie : wiring.tier (wiring.priority other) (head :: rest) = wiring.tier (wiring.priority other) others) :
    wiring.Precedes head other := by
  have inTier : other ∈ wiring.tier (wiring.priority other) (head :: rest) := by
    rw [tie]
    exact List.mem_filter.mpr ⟨member, by simp⟩
  rcases List.mem_cons.mp (List.mem_filter.mp inTier).1 with rfl | later
  · exact le_rfl
  · exact List.rel_of_pairwise_cons rising later

/-- Rising lists with the same tiers are the same. -/
theorem eq_of_tiers {first second : List ι} (firstRising : first.Pairwise wiring.Precedes)
    (secondRising : second.Pairwise wiring.Precedes)
    (ties : ∀ priority, wiring.tier priority first = wiring.tier priority second) : first = second := by
  induction first generalizing second with
  | nil =>
      cases second with
      | nil => rfl
      | cons head rest =>
          have tie := ties (wiring.priority head)
          rw [tier_cons_self] at tie
          exact absurd tie.symm (List.cons_ne_nil _ _)
  | cons head rest ih =>
      cases second with
      | nil =>
          have tie := ties (wiring.priority head)
          rw [tier_cons_self] at tie
          exact absurd tie (List.cons_ne_nil _ _)
      | cons other others =>
          -- A head of lower priority would be missing from the other list, so the heads are of one tier.
          have level : wiring.priority head = wiring.priority other :=
            le_antisymm (precedes_of_tier firstRising List.mem_cons_self (ties _))
              (precedes_of_tier secondRising List.mem_cons_self (ties _).symm)
          have tie := ties (wiring.priority head)
          rw [tier_cons_self, level, tier_cons_self] at tie
          obtain ⟨rfl, -⟩ := List.cons.inj tie
          congr 1
          refine ih (List.pairwise_cons.mp firstRising).2 (List.pairwise_cons.mp secondRising).2 ?_
          intro priority
          have tie := ties priority
          by_cases own : wiring.priority head = priority
          · subst own
            simpa only [tier_cons_self, List.cons.injEq, true_and] using tie
          · simpa only [wiring.tier_cons_of_ne _ own] using tie

/-- There is only one stable order. -/
theorem IsStableOrder.unique {entries first second : List ι}
    (left : wiring.IsStableOrder entries first) (right : wiring.IsStableOrder entries second) :
    first = second :=
  eq_of_tiers left.rising right.rising fun priority => (left.ties priority).trans (right.ties priority).symm

end Vetting.Wiring

import Vetting.Proofs.Assembly.Deeds

/-!
# What is seen of the entries of an assembly

A view shows something of some entries, such as the lists of values among the rules.  Where every change tells by
itself what becomes of what is seen of an entry (`Instance.IsView`), the changes of a deed act on what is seen of all
entries in the same way, and a round leaves behind what they make of it, with what is seen of the rule that it has
wired (`Instance.filterMap_before_afterRound`).
-/

namespace Vetting

variable {σ κ : Type}

/-! ## Amending the first or the last entry -/

section Amended

variable {ι : Type} {view : ι → Option κ} {amend : ι → Option ι} {amendSeen : κ → Option κ} {entries : List ι}

/-- A search for the first entry to amend finds the first one of those that are seen, if no other is amended. -/
theorem filterMap_amendFirst?
    (amends : ∀ entry ∈ entries, (amend entry).map view = (view entry).bind fun seen => (amendSeen seen).map some) :
    (amendFirst? amend entries).map (List.filterMap view) = amendFirst? amendSeen (entries.filterMap view) := by
  induction entries with
  | nil => rfl
  | cons entry rest ih =>
      have own := amends entry List.mem_cons_self
      have further := ih fun other member => amends other (List.mem_cons_of_mem _ member)
      rw [amendFirst?]
      cases seen : view entry with
      | none =>
          rw [seen, Option.bind_none, Option.map_eq_none_iff] at own
          rw [own, List.filterMap_cons_none seen, ← further, Option.map_map]
          exact congrFun (congrArg _ (funext fun others => List.filterMap_cons_none seen)) _
      | some found =>
          rw [seen, Option.bind_some] at own
          rw [List.filterMap_cons_some seen, amendFirst?]
          cases made : amend entry with
          | none =>
              rw [made, Option.map_none, eq_comm, Option.map_eq_none_iff] at own
              simp only [own, ← further, Option.map_map]
              exact congrFun (congrArg _ (funext fun others => List.filterMap_cons_some seen)) _
          | some next =>
              rw [made, Option.map_some, eq_comm, Option.map_eq_some_iff] at own
              obtain ⟨changed, reached, shown⟩ := own
              simp only [reached, Option.map_some, List.filterMap_cons_some shown.symm]

/-- And so does a search for the last entry to amend. -/
theorem filterMap_amendLast?
    (amends : ∀ entry ∈ entries, (amend entry).map view = (view entry).bind fun seen => (amendSeen seen).map some) :
    (amendLast? amend entries).map (List.filterMap view) = amendLast? amendSeen (entries.filterMap view) := by
  induction entries with
  | nil => rfl
  | cons entry rest ih =>
      have own := amends entry List.mem_cons_self
      have further := ih fun other member => amends other (List.mem_cons_of_mem _ member)
      rw [amendLast?]
      cases later : amendLast? amend rest with
      | some others =>
          rw [later, Option.map_some] at further
          cases seen : view entry with
          | none => rw [Option.map_some, List.filterMap_cons_none seen, List.filterMap_cons_none seen, further]
          | some found =>
              rw [Option.map_some, List.filterMap_cons_some seen, List.filterMap_cons_some seen, amendLast?, ← further]
      | none =>
          rw [later, Option.map_none] at further
          cases seen : view entry with
          | none =>
              rw [seen, Option.bind_none, Option.map_eq_none_iff] at own
              rw [own, List.filterMap_cons_none seen, ← further]
              rfl
          | some found =>
              rw [seen, Option.bind_some] at own
              rw [List.filterMap_cons_some seen, amendLast?, ← further]
              cases made : amend entry with
              | none =>
                  rw [made, Option.map_none, eq_comm, Option.map_eq_none_iff] at own
                  simp only [own, Option.map_none]
              | some next =>
                  rw [made, Option.map_some, eq_comm, Option.map_eq_some_iff] at own
                  obtain ⟨changed, reached, shown⟩ := own
                  simp only [reached, Option.map_some, List.filterMap_cons_some shown.symm]

end Amended

namespace Instance

/-! ## Views -/

/-- What a change makes of an entry is told by what it makes of what is seen of the entry. -/
def IsView (view : Instance σ → Option κ) (act : Change σ → κ → κ) : Prop :=
  ∀ {entry : Instance σ}, entry.IsStandard → ∀ change, view (entry.changed change) = (view entry).map (act change)

namespace IsView

variable {view : Instance σ → Option κ} {act : Change σ → κ → κ} {entries : List (Instance σ)}

/-- What is seen of an instance after several changes is what they make of what was seen before. -/
theorem changedBy (isView : IsView view act) {entry : Instance σ} (standard : entry.IsStandard)
    (changes : List (Change σ)) : view (entry.changedBy changes) =
      (view entry).map fun seen => changes.foldl (fun seen change => act change seen) seen := by
  unfold Instance.changedBy
  induction changes generalizing entry with
  | nil => exact (Option.map_id_fun'.symm ▸ rfl)
  | cons change rest ih =>
      have becomes : entry.Becomes [change] (entry.changed change) :=
        entry.becomes_changed (List.mem_singleton.mpr rfl)
      rw [List.foldl_cons, ih (standard.of_call_eq becomes.call_eq), isView standard, Option.map_map]
      rfl

/-- What is seen of a list after several changes is what they make of what was seen before. -/
theorem filterMap_changedBy (isView : IsView view act) (standard : ∀ entry ∈ entries, entry.IsStandard)
    (changes : List (Change σ)) : (entries.map (Instance.changedBy changes)).filterMap view =
      (entries.filterMap view).map fun seen => changes.foldl (fun seen change => act change seen) seen := by
  rw [List.filterMap_map, List.map_filterMap]
  exact List.filterMap_congr fun entry member => isView.changedBy (standard entry member) changes

/-- Changes that do nothing to what is seen leave it as it is. -/
theorem filterMap_becomes (isView : IsView view act) {others : List (Instance σ)} {changes : List (Change σ)}
    (standard : ∀ entry ∈ entries, entry.IsStandard) (spares : ∀ change ∈ changes, act change = id)
    (becomes : List.Forall₂ (Becomes changes) entries others) : others.filterMap view = entries.filterMap view := by
  refine Instance.filterMap_becomes (fun change member {entry next} own made => ?_) standard becomes
  have told := isView own change
  rw [changed, made, Option.getD_some, spares change member, Option.map_id_apply] at told
  exact told

end IsView

/-- A list of values stays a list of its kind, whatever is changed. -/
theorem exists_changed_listing (kind : Listing) (set : ListedValues) (operating : Bool) (arguments : Arguments σ)
    (change : Change σ) : ∃ later still,
      ((⟨.listing kind set operating, arguments⟩ : Instance σ).changed change).rule = .listing kind later still := by
  have becomes := becomes_changed (⟨.listing kind set operating, arguments⟩ : Instance σ)
    (List.mem_singleton.mpr (rfl : change = change))
  have sort := (Prod.mk.inj becomes.call_eq).1
  cases changed : ((⟨.listing kind set operating, arguments⟩ : Instance σ).changed change).rule with
  | listing other later still =>
      rw [changed] at sort
      cases sort
      exact ⟨later, still, rfl⟩
  | _ =>
      rw [changed] at sort
      cases sort

/-! ## Rounds -/

/-- Nothing is seen of entries that are left out. -/
theorem filterMap_filter_of_unseen {view : Instance σ → Option κ} {entries : List (Instance σ)}
    {keep : Instance σ → Bool} (unseen : ∀ entry ∈ entries, keep entry = false → view entry = none) :
    (entries.filter keep).filterMap view = entries.filterMap view := by
  rw [List.filterMap_filter]
  apply List.filterMap_congr
  intro entry member
  cases kept : keep entry with
  | true => exact if_pos rfl
  | false => exact (unseen entry member kept).symm

variable [Identified σ] {entry : Instance σ} {deed : Deed σ} {before after : List (Instance σ)}

/-- A round takes nothing away that is seen of earlier rules, if none of these is of the sort of its rule. -/
theorem filterMap_before_afterRound {view : Instance σ → Option κ} (own : entry.IsStandard)
    (earlier : ∀ other ∈ before, other.IsStandard) (found : entry.deed = .ok deed)
    (apart : (entry.wiredBy deed ⟨before, after⟩).rule.operates = true →
      ∀ other ∈ (deed.onBefore before).2, (view other).isSome = true → other.rule.unwired ≠ entry.rule.unwired) :
    (entry.afterRound deed before after).before.filterMap view = (deed.onBefore before).2.filterMap view ++
      if (entry.wiredBy deed ⟨before, after⟩).rule.operates then
        (view (entry.wiredBy deed ⟨before, after⟩)).toList else [] := by
  have wired := call_wiredBy own found ⟨before, after⟩
  cases operates : (entry.wiredBy deed ⟨before, after⟩).rule.operates with
  | false => rw [before_afterRound_of_idle operates, if_neg Bool.false_ne_true, List.append_nil]
  | true =>
      rw [before_afterRound_of_operates operates, List.filterMap_append, if_pos rfl, filterMap_filter_of_unseen]
      · rfl
      · intro other member left
        rw [← Option.not_isSome_iff_eq_none]
        intro seen
        obtain ⟨origin, inside, becomes⟩ := exists_of_mem_right (deed.becomes_onBefore before) member
        have standard := (earlier origin inside).of_call_eq becomes.call_eq
        have same := unwired_eq_of_same standard (own.of_call_eq wired) (by simpa using left)
        exact apart operates other member seen (same.trans (Prod.mk.inj wired).1)

end Instance

end Vetting

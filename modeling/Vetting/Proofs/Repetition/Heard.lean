import Vetting.Proofs.Assembly.Deeds
import Vetting.Proofs.Repetition.Resemblance

/-!
# Deeds that have been heard of

The siblings of a rule have heard of its deed if carrying it out once more would change nothing that matters
(`Deed.Heard`).  They have right after the rule was wired (`Deed.Heard.ofRound`), and they still have after the
rounds of further rules, unless one of these meddles with the rule (`Deed.Heard.rounds`).
-/

namespace Vetting

variable {σ : Type}

/-- The instances have the same arguments, and their rules resemble each other. -/
structure Instance.Resembles (left right : Instance σ) : Prop where
  arguments : left.arguments = right.arguments
  rule : left.rule.Resembles right.rule

namespace Instance.Resembles

variable {left right third : Instance σ}

protected theorem refl (entry : Instance σ) : entry.Resembles entry :=
  ⟨rfl, .refl _⟩

protected theorem trans (first : left.Resembles right) (second : right.Resembles third) : left.Resembles third :=
  ⟨first.arguments.trans second.arguments, first.rule.trans second.rule⟩

theorem call_eq (same : left.Resembles right) : left.call = right.call :=
  Prod.ext same.rule.unwired_eq same.arguments

theorem lists_refl (entries : List (Instance σ)) : List.Forall₂ Instance.Resembles entries entries :=
  List.forall₂_same.mpr fun entry _ => .refl entry

theorem lists_trans {first second third : List (Instance σ)}
    (one : List.Forall₂ Instance.Resembles first second)
    (two : List.Forall₂ Instance.Resembles second third) : List.Forall₂ Instance.Resembles first third :=
  (forall₂_trans one two).imp fun _ _ ⟨_, left, right⟩ => left.trans right

/-- An idle change makes something of an instance that resembles it. -/
theorem of_idle {change : Change σ} {entry next : Instance σ} (idle : change.Idle entry.rule)
    (made : entry.amend change.amendment = some next) : entry.Resembles next := by
  obtain ⟨rule, amended, rfl⟩ := Option.map_eq_some_iff.mp made
  exact ⟨rfl, idle rule amended⟩

theorem changed {change : Change σ} {entry : Instance σ} (idle : change.Idle entry.rule) :
    entry.Resembles (entry.changed change) := by
  unfold Instance.changed
  cases made : entry.amend change.amendment with
  | none => exact .refl entry
  | some next => exact of_idle idle made

theorem changedBy {changes : List (Change σ)} {entry : Instance σ}
    (idle : ∀ change ∈ changes, change.Idle entry.rule) : entry.Resembles (entry.changedBy changes) := by
  unfold Instance.changedBy
  induction changes generalizing entry with
  | nil => exact .refl entry
  | cons change rest ih =>
      have one := changed (idle change List.mem_cons_self)
      refine one.trans (ih fun other member => ?_)
      exact (idle other (List.mem_cons_of_mem _ member)).of_resembles one.rule

end Instance.Resembles

/-! ## Changes to one entry of a list -/

namespace Change

/-- The change can be made to the instance. -/
def reaches (change : Change σ) (entry : Instance σ) : Bool :=
  change.aims entry.rule

/-- Whether a change can be made to an instance is told by the rule that is called. -/
theorem reaches_eq_of_unwired (change : Change σ) {left right : Instance σ}
    (same : left.rule.unwired = right.rule.unwired) : change.reaches left = change.reaches right := by
  unfold reaches
  rw [← aims_unwired, same, aims_unwired]

theorem reaches_eq_of_call (change : Change σ) {left right : Instance σ} (same : left.call = right.call) :
    change.reaches left = change.reaches right :=
  change.reaches_eq_of_unwired (Prod.mk.inj same).1

/-- There is an entry that can be changed like that, and on the first one the change is idle. -/
def IdleFirst (change : Change σ) (entries : List (Instance σ)) : Prop :=
  ∃ entry, entries.find? change.reaches = some entry ∧ change.Idle entry.rule

/-- If an entry can be changed like that, the change is idle on the last one. -/
def IdleLast (change : Change σ) (entries : List (Instance σ)) : Prop :=
  ∀ entry, entries.reverse.find? change.reaches = some entry → change.Idle entry.rule

end Change

namespace Change

variable {change : Change σ} {entries others : List (Instance σ)}

/-- A change that is idle on the first entry it can be made to is so in any list of the same calls whose entries keep
it idle. -/
theorem IdleFirst.of_related {related : Instance σ → Instance σ → Prop}
    (all : List.Forall₂ related entries others)
    (calls : ∀ left right, related left right → left.call = right.call)
    (kept : ∀ left right, related left right → change.Idle left.rule → change.Idle right.rule)
    (idle : change.IdleFirst entries) : change.IdleFirst others := by
  obtain ⟨entry, found, quiet⟩ := idle
  have both := find?_forall₂ all fun left right same => reaches_eq_of_call change (calls left right same)
  rw [found] at both
  cases foundOther : others.find? change.reaches with
  | none =>
      rw [foundOther] at both
      cases both
  | some other =>
      rw [foundOther] at both
      cases both with
      | some same => exact ⟨other, foundOther, kept entry other same quiet⟩

/-- On the last one as well. -/
theorem IdleLast.of_related {related : Instance σ → Instance σ → Prop}
    (all : List.Forall₂ related entries others)
    (calls : ∀ left right, related left right → left.call = right.call)
    (kept : ∀ left right, related left right → change.Idle left.rule → change.Idle right.rule)
    (idle : change.IdleLast entries) : change.IdleLast others := by
  intro other found
  have both := find?_forall₂ (List.forall₂_reverse_iff.mpr all)
    fun left right same => reaches_eq_of_call change (calls left right same)
  rw [found] at both
  cases foundEntry : entries.reverse.find? change.reaches with
  | none =>
      rw [foundEntry] at both
      cases both
  | some entry =>
      rw [foundEntry] at both
      cases both with
      | some same => exact kept entry other same (idle entry foundEntry)

theorem IdleFirst.of_resembles (idle : change.IdleFirst entries)
    (all : List.Forall₂ Instance.Resembles entries others) : change.IdleFirst others :=
  idle.of_related all (fun _ _ same => same.call_eq) fun _ _ same quiet => quiet.of_resembles same.rule

theorem IdleLast.of_resembles (idle : change.IdleLast entries)
    (all : List.Forall₂ Instance.Resembles entries others) : change.IdleLast others :=
  idle.of_related all (fun _ _ same => same.call_eq) fun _ _ same quiet => quiet.of_resembles same.rule

/-- A standard instance takes exactly the changes that can be made to its rule. -/
theorem isSome_amend (change : Change σ) {entry : Instance σ} (standard : entry.IsStandard) :
    (entry.amend change.amendment).isSome = change.reaches entry := by
  rw [Instance.amend, Option.isSome_map, change.isSome_amendment standard.ne_declared, reaches]

/-- An idle change of the first entry finds it and makes nothing else of the entries. -/
theorem IdleFirst.firstChanged? (standard : ∀ entry ∈ entries, entry.IsStandard)
    (idle : change.IdleFirst entries) :
    ∃ changed, firstChanged? entries change = some changed ∧ List.Forall₂ Instance.Resembles entries changed := by
  obtain ⟨entry, found, quiet⟩ := idle
  unfold Vetting.firstChanged?
  induction entries with
  | nil => cases found
  | cons head rest ih =>
      have own := isSome_amend change (standard head List.mem_cons_self)
      rw [amendFirst?]
      rw [List.find?_cons] at found
      cases made : head.amend change.amendment with
      | some next =>
          rw [made] at own
          rw [← own] at found
          obtain rfl := Option.some.inj found
          exact ⟨_, rfl, .cons (.of_idle quiet made) (Instance.Resembles.lists_refl rest)⟩
      | none =>
          rw [made] at own
          rw [← own] at found
          obtain ⟨changed, later, same⟩ := ih (fun other member => standard other (List.mem_cons_of_mem _ member)) found
          exact ⟨head :: changed, by rw [later]; rfl, .cons (.refl head) same⟩

theorem find?_eq_none_of_untouched {others : List (Instance σ)} (standard : ∀ other ∈ others, other.IsStandard)
    (untouched : ∀ other ∈ others, other.amend change.amendment = none) : others.find? change.reaches = none := by
  refine List.find?_eq_none.mpr fun other member => ?_
  rw [← isSome_amend change (standard other member), untouched other member]
  exact Bool.false_ne_true

/-- From the end, the entry that an amendment of the last one has taken is the first to be reached. -/
theorem find?_reverse_of_split {entry : Instance σ} (before : List (Instance σ)) {after : List (Instance σ)}
    (own : change.reaches entry = true) (standard : ∀ other ∈ after, other.IsStandard)
    (untouched : ∀ other ∈ after, other.amend change.amendment = none) :
    (before ++ entry :: after).reverse.find? change.reaches = some entry := by
  have nobody : after.reverse.find? change.reaches = none :=
    find?_eq_none_of_untouched (fun other member => standard other (List.mem_reverse.mp member))
      fun other member => untouched other (List.mem_reverse.mp member)
  rw [List.reverse_append, List.reverse_cons, List.append_assoc, List.find?_append, nobody, Option.none_or,
    List.singleton_append, List.find?_cons_of_pos own]

/-- An idle change of the last entry makes nothing else of the entries. -/
theorem IdleLast.lastChanged (standard : ∀ entry ∈ entries, entry.IsStandard)
    (idle : change.IdleLast entries) : List.Forall₂ Instance.Resembles entries (lastChanged entries change) := by
  unfold Vetting.lastChanged
  cases made : amendLast? (Instance.amend change.amendment) entries with
  | none => exact Instance.Resembles.lists_refl entries
  | some changed =>
      obtain ⟨before, entry, next, after, rfl, rfl, own, untouched⟩ := exists_split_of_amendLast? made
      have reaches : change.reaches entry = true := by
        rw [← isSome_amend change (standard entry (List.mem_append_right before List.mem_cons_self)), own]
        rfl
      have behind := fun other member =>
        standard other (List.mem_append_right before (List.mem_cons_of_mem entry member))
      have quiet := idle entry (find?_reverse_of_split before reaches behind untouched)
      exact List.rel_append (Instance.Resembles.lists_refl before)
        (.cons (.of_idle quiet own) (Instance.Resembles.lists_refl after))

end Change

/-! ## Changes that have been made -/

namespace Change

variable {change : Change σ} {changes : List (Change σ)} {entry next : Instance σ}

/-- A change is idle on instances that it cannot be made to. -/
theorem idle_of_not_reaches (standard : entry.IsStandard) (beyond : change.reaches entry = false) :
    change.Idle entry.rule := by
  intro changed made
  have applies := change.isSome_amendment standard.ne_declared
  rw [made, show change.aims entry.rule = false from beyond] at applies
  cases applies

/-- A change is idle where it has just been made. -/
theorem idle_changed (standard : entry.IsStandard) : change.Idle (entry.changed change).rule := by
  unfold Instance.changed
  cases made : entry.amend change.amendment with
  | none =>
      refine idle_of_not_reaches standard (?_ : change.reaches entry = false)
      rw [← isSome_amend change standard, made]
      rfl
  | some next =>
      obtain ⟨rule, amended, rfl⟩ := Option.map_eq_some_iff.mp made
      exact idle_of_made standard.ne_declared amended

/-- An idle change stays idle under changes that do not disturb it. -/
theorem Idle.becomes (standard : entry.IsStandard) (calm : ∀ other ∈ changes, ¬ other.Disturbs change)
    (idle : change.Idle entry.rule) (becomes : entry.Becomes changes next) : change.Idle next.rule := by
  refine (becomes.keeps (fun entry => entry.IsStandard ∧ change.Idle entry.rule) ?_ ⟨standard, idle⟩).2
  intro other member before after holds made
  have same : after.call = before.call := Instance.keeps_call other.keeps made
  obtain ⟨rule, amended, rfl⟩ := Option.map_eq_some_iff.mp made
  exact ⟨holds.1.of_call_eq same, holds.2.kept holds.1.ne_declared (calm other member) amended⟩

/-- Changes that have been made one after the other are idle if none of them disturbs another. -/
theorem idle_changedBy (standard : entry.IsStandard) (member : change ∈ changes)
    (calm : ∀ other ∈ changes, ¬ other.Disturbs change) : change.Idle (entry.changedBy changes).rule := by
  unfold Instance.changedBy
  induction changes generalizing entry with
  | nil => cases member
  | cons head rest ih =>
      rw [List.foldl_cons]
      have later := fun other member => calm other (List.mem_cons_of_mem head member)
      have next : (entry.changed head).IsStandard :=
        standard.of_call_eq (entry.becomes_changed (List.mem_singleton.mpr rfl)).call_eq
      rcases List.mem_cons.mp member with rfl | inside
      · exact (idle_changed standard).becomes next later (Instance.becomes_changedBy _ rest)
      · exact ih next inside later

/-- What a change has made can be changed like that again, and the change is idle on it. -/
theorem reaches_of_made (standard : entry.IsStandard) (made : entry.amend change.amendment = some next) :
    change.reaches next = true ∧ change.Idle next.rule := by
  have same : next.call = entry.call := Instance.keeps_call change.keeps made
  have applies := isSome_amend change standard
  rw [made] at applies
  refine ⟨(reaches_eq_of_call change same).trans applies.symm, ?_⟩
  obtain ⟨rule, amended, rfl⟩ := Option.map_eq_some_iff.mp made
  exact idle_of_made standard.ne_declared amended

/-- Once made to the last entry that takes it, a change is idle there. -/
theorem idleLast_lastChanged {entries : List (Instance σ)} (standard : ∀ entry ∈ entries, entry.IsStandard) :
    change.IdleLast (lastChanged entries change) := by
  unfold Vetting.lastChanged
  intro last found
  cases made : amendLast? (Instance.amend change.amendment) entries with
  | none =>
      have nobody : entries.reverse.find? change.reaches = none :=
        find?_eq_none_of_untouched (fun other member => standard other (List.mem_reverse.mp member))
          fun other member => amendLast?_eq_none made other (List.mem_reverse.mp member)
      rw [made, Option.getD_none, nobody] at found
      cases found
  | some changed =>
      rw [made, Option.getD_some] at found
      obtain ⟨before, entry, next, after, rfl, rfl, own, untouched⟩ := exists_split_of_amendLast? made
      obtain ⟨reaches, idle⟩ := reaches_of_made (standard entry (List.mem_append_right before List.mem_cons_self)) own
      have behind := fun other member =>
        standard other (List.mem_append_right before (List.mem_cons_of_mem entry member))
      rw [find?_reverse_of_split before reaches behind untouched] at found
      obtain rfl := Option.some.inj found
      exact idle

/-- A change stays idle on the last entry under further changes, unless one of them disturbs it. -/
theorem IdleLast.becomes {entries others : List (Instance σ)} (standard : ∀ entry ∈ entries, entry.IsStandard)
    (calm : ∀ other ∈ changes, ¬ other.Disturbs change) (idle : change.IdleLast entries)
    (becomes : List.Forall₂ (Instance.Becomes changes) entries others) : change.IdleLast others := by
  have both : List.Forall₂ (fun left right => left.IsStandard ∧ Instance.Becomes changes left right)
      entries others :=
    (List.forall₂_and_left _ _).mpr ⟨standard, becomes⟩
  exact idle.of_related both (fun _ _ same => same.2.call_eq.symm)
    fun _ _ same quiet => quiet.becomes same.1 calm same.2

/-- On the first one it does, too. -/
theorem IdleFirst.becomes {entries others : List (Instance σ)} (standard : ∀ entry ∈ entries, entry.IsStandard)
    (calm : ∀ other ∈ changes, ¬ other.Disturbs change) (idle : change.IdleFirst entries)
    (becomes : List.Forall₂ (Instance.Becomes changes) entries others) : change.IdleFirst others := by
  have both : List.Forall₂ (fun left right => left.IsStandard ∧ Instance.Becomes changes left right)
      entries others :=
    (List.forall₂_and_left _ _).mpr ⟨standard, becomes⟩
  exact idle.of_related both (fun _ _ same => same.2.call_eq.symm)
    fun _ _ same quiet => quiet.becomes same.1 calm same.2

theorem standard_of_becomes {entries others : List (Instance σ)} (standard : ∀ entry ∈ entries, entry.IsStandard)
    (becomes : List.Forall₂ (Instance.Becomes changes) entries others) :
    ∀ entry ∈ others, entry.IsStandard := by
  intro entry member
  obtain ⟨origin, inside, same⟩ := exists_of_mem_right becomes member
  exact (standard origin inside).of_call_eq same.call_eq

/-- Changes of the last entries are idle once they have been made, if none of them disturbs another. -/
theorem idleLast_foldl {entries : List (Instance σ)} (standard : ∀ entry ∈ entries, entry.IsStandard)
    (member : change ∈ changes) (calm : ∀ other ∈ changes, ¬ other.Disturbs change) :
    change.IdleLast (changes.foldl lastChanged entries) := by
  induction changes generalizing entries with
  | nil => cases member
  | cons head rest ih =>
      rw [List.foldl_cons]
      have one : List.Forall₂ (Instance.Becomes [head]) entries (lastChanged entries head) :=
        becomes_lastChanged (List.mem_singleton.mpr rfl) entries
      have next := standard_of_becomes standard one
      have later := fun other member => calm other (List.mem_cons_of_mem head member)
      rcases List.mem_cons.mp member with rfl | inside
      · exact (idleLast_lastChanged standard).becomes next later (Deed.becomes_foldl (fun _ member => member) _)
      · exact ih next inside later

/-- Once made to the first entry that takes it, a change is idle there. -/
theorem idleFirst_firstChanged? {entries changed : List (Instance σ)}
    (standard : ∀ entry ∈ entries, entry.IsStandard) (made : firstChanged? entries change = some changed) :
    change.IdleFirst changed := by
  obtain ⟨before, entry, next, after, rfl, rfl, own, untouched⟩ := exists_split_of_amendFirst? made
  obtain ⟨reaches, idle⟩ := reaches_of_made (standard entry (List.mem_append_right before List.mem_cons_self)) own
  have nobody : before.find? change.reaches = none :=
    find?_eq_none_of_untouched (fun other member => standard other (List.mem_append_left _ member)) untouched
  refine ⟨next, ?_, idle⟩
  rw [List.find?_append, nobody, Option.none_or, List.find?_cons_of_pos reaches]

end Change

/-! ## What a deed does once more -/

theorem standard_of_resembles {entries others : List (Instance σ)}
    (same : List.Forall₂ Instance.Resembles entries others)
    (standard : ∀ entry ∈ entries, entry.IsStandard) : ∀ entry ∈ others, entry.IsStandard := by
  intro entry member
  obtain ⟨origin, inside, resembles⟩ := exists_of_mem_right same member
  exact (standard origin inside).of_call_eq resembles.call_eq.symm

namespace Deed

/-- Carrying the deed out once more would change nothing about the earlier siblings, nor about those waiting,
and somebody would act for the rule if it has anything to hand over. -/
structure Heard (deed : Deed σ) (before waiting : List (Instance σ)) : Prop where
  everywhere : ∀ change ∈ deed.everywhere, ∀ entry ∈ before ++ waiting, change.Idle entry.rule
  backwards : ∀ change ∈ deed.backwards, change.IdleLast before
  handedOver : ∀ change, deed.handedOver = some change → change.IdleFirst before

/-- Idle changes of the last entries make nothing else of the entries. -/
theorem resembles_foldl_lastChanged {changes : List (Change σ)} {entries : List (Instance σ)}
    (standard : ∀ entry ∈ entries, entry.IsStandard) (idle : ∀ change ∈ changes, change.IdleLast entries) :
    List.Forall₂ Instance.Resembles entries (changes.foldl lastChanged entries) := by
  induction changes generalizing entries with
  | nil => exact Instance.Resembles.lists_refl entries
  | cons change rest ih =>
      have one := (idle change List.mem_cons_self).lastChanged standard
      refine Instance.Resembles.lists_trans one (ih (standard_of_resembles one standard) ?_)
      exact fun other member => (idle other (List.mem_cons_of_mem _ member)).of_resembles one

/-- A deed that has been heard of changes nothing when it is carried out. -/
theorem Heard.onBefore {deed : Deed σ} {before waiting : List (Instance σ)}
    (standard : ∀ entry ∈ before, entry.IsStandard) (heard : deed.Heard before waiting) :
    (deed.onBefore before).1 = deed.handedOver.isSome ∧
      List.Forall₂ Instance.Resembles before (deed.onBefore before).2 := by
  have each : List.Forall₂ Instance.Resembles before (before.map deed.onEach) := by
    rw [List.forall₂_map_right_iff, List.forall₂_same]
    intro entry member
    exact .changedBy fun change given => heard.everywhere change given entry (List.mem_append_left _ member)
  have earlier : List.Forall₂ Instance.Resembles before (deed.onEarlier before) := by
    refine Instance.Resembles.lists_trans each
      (resembles_foldl_lastChanged (standard_of_resembles each standard) ?_)
    exact fun change member => (heard.backwards change member).of_resembles each
  unfold Deed.onBefore
  cases given : deed.handedOver with
  | none => exact ⟨rfl, earlier⟩
  | some change =>
      have idle := (heard.handedOver change given).of_resembles earlier
      obtain ⟨changed, made, same⟩ := idle.firstChanged? (standard_of_resembles earlier standard)
      simp only [Option.bind_some, made]
      exact ⟨rfl, Instance.Resembles.lists_trans earlier same⟩

/-- No change of a deed disturbs another one of it. -/
theorem calm_of_does {own : Rule σ} {deed : Deed σ} (does : own.Does deed) :
    ∀ change ∈ deed.changes, ∀ other ∈ deed.changes, ¬ other.Disturbs change := by
  cases does with
  | listing kind set operating values =>
      cases kind <;> simp [changes, gathering, Rule.strikes, Change.Disturbs]
  | _ => simp [changes, alone, modifying, gathering, Change.Disturbs]

/-- No rule changes rules of its own sort everywhere. -/
theorem reaches_own {entry : Instance σ} {deed : Deed σ} (does : entry.rule.Does deed) :
    ∀ change ∈ deed.everywhere, change.reaches entry = false := by
  obtain ⟨rule, arguments⟩ := entry
  cases does with
  | listing kind set operating values =>
      cases kind <;> simp [gathering, Rule.strikes, Change.reaches, Change.aims]
  | _ => simp [alone, modifying, gathering, Change.reaches, Change.aims]

/-- A rule that changes the last one of a sort does nothing else. -/
theorem idle_of_backwards {own : Rule σ} {deed : Deed σ} (does : own.Does deed) {change : Change σ}
    (member : change ∈ deed.backwards) :
    deed.handedOver = none ∧ ∀ taken hasKeys, (deed.own taken hasKeys).operates = false := by
  cases does with
  | furtherAlternatives | allowUnknown | allowSparse | allowSingle => exact ⟨rfl, fun _ _ => rfl⟩
  | _ => cases member

/-- A rule that nobody acts for has what it would have handed over. -/
theorem idle_own {own : Rule σ} {deed : Deed σ} (does : own.Does deed) {change : Change σ}
    (given : deed.handedOver = some change) (hasKeys : Bool) : change.Idle (deed.own false hasKeys) := by
  cases does with
  | listing kind set operating values =>
      obtain rfl := Option.some.inj given
      exact Change.idle_add.mpr fun _ value member => List.mem_append_right _ member
  | standIn old value operating =>
      obtain rfl := Option.some.inj given
      intro changed made
      obtain rfl := Option.some.inj made
      exact .refl _
  | keys rule entries =>
      obtain rfl := Option.some.inj given
      intro changed made
      obtain rfl := Option.some.inj made
      refine .ofKeys (Members.putAll_putAll _ _).symm rfl rfl fun pattern => ?_
      simp only [List.mem_append, or_self]
  | _ => cases given

/-- A change that finds nobody to take it cannot be made to anybody. -/
theorem find?_eq_none_of_firstChanged? {change : Change σ} {entries : List (Instance σ)}
    (standard : ∀ entry ∈ entries, entry.IsStandard) (untouched : firstChanged? entries change = none) :
    ∀ entry ∈ entries, change.reaches entry = false := by
  unfold Vetting.firstChanged? at untouched
  induction entries with
  | nil => exact fun _ member => nomatch member
  | cons head rest ih =>
      have applies := Change.isSome_amend change (standard head List.mem_cons_self)
      rw [amendFirst?] at untouched
      cases own : head.amend change.amendment with
      | some next =>
          rw [own] at untouched
          cases untouched
      | none =>
          rw [own] at untouched applies
          intro entry member
          rcases List.mem_cons.mp member with rfl | inside
          · exact applies.symm
          · exact ih (fun other member => standard other (List.mem_cons_of_mem _ member))
              (Option.map_eq_none_iff.mp untouched) entry inside

/-- A rule that gathers is acted for if there is an earlier one of its sort. -/
theorem taken_of_mem {entry : Instance σ} {deed : Deed σ} (found : entry.deed = .ok deed)
    {before : List (Instance σ)} (standard : ∀ other ∈ before, other.IsStandard)
    (gathers : entry.rule.gathers = true) {other : Instance σ} (member : other ∈ before)
    (sort : other.rule.unwired = entry.rule.unwired) : (deed.onBefore before).1 = true := by
  have does := Rule.does_of_deed found
  have hands := does.isSome_handedOver.trans gathers
  obtain ⟨change, given⟩ := Option.isSome_iff_exists.mp hands
  cases reached : firstChanged? (deed.onEarlier before) change with
  | some changed => simp only [Deed.onBefore, given, Option.bind_some, reached]
  | none =>
      have earlierStandard := Change.standard_of_becomes standard (deed.becomes_onEarlier before)
      obtain ⟨next, inside, becomes⟩ := exists_of_mem_right (deed.becomes_onEarlier before).flip member
      have beyond := find?_eq_none_of_firstChanged? earlierStandard reached next inside
      rw [Change.reaches_eq_of_call change (Instance.Becomes.call_eq becomes),
        show change.reaches other = true from (does.aims_of_handedOver given other.rule).mpr sort] at beyond
      cases beyond

theorem standard_map_onEach {deed : Deed σ} {entries : List (Instance σ)}
    (standard : ∀ entry ∈ entries, entry.IsStandard) : ∀ entry ∈ entries.map deed.onEach, entry.IsStandard := by
  intro entry member
  obtain ⟨origin, inside, rfl⟩ := List.mem_map.mp member
  exact (standard origin inside).of_call_eq (deed.becomes_onEach origin).call_eq

section OfRound

variable [Identified σ] {entry : Instance σ} {deed : Deed σ} {change : Change σ} {before after : List (Instance σ)}

/-- What a rule has told every sibling is idle on all of them, and on the rule itself. -/
theorem idle_everywhere (found : entry.deed = .ok deed)
    (standard : ∀ other ∈ before ++ entry :: after, other.IsStandard) (member : change ∈ deed.everywhere)
    {other : Instance σ} (inside : other ∈ (entry.afterRound deed before after).before ++
      (entry.afterRound deed before after).after) : change.Idle other.rule := by
  have does := Rule.does_of_deed found
  have calm := fun next inside => calm_of_does does change (deed.everywhere_subset member) next inside
  have own := standard entry (List.mem_append_right _ List.mem_cons_self)
  have wiredCall := Instance.call_wiredBy own found ⟨before, after⟩
  have each : ∀ first : Instance σ, first.IsStandard → change.Idle (deed.onEach first).rule :=
    fun first standard => Change.idle_changedBy standard member
      fun next inside => calm next (deed.everywhere_subset inside)
  rcases List.mem_append.mp inside with earlier | waiting
  · rcases Instance.origin_of_mem_afterRound earlier with sibling | ⟨rfl, -⟩
    · obtain ⟨first, among, becomes⟩ := exists_of_mem_right (deed.becomes_onBefore_of_each before) sibling
      obtain ⟨origin, stood, rfl⟩ := List.mem_map.mp among
      have originStandard := standard origin (List.mem_append_left _ stood)
      exact (each origin originStandard).becomes
        (originStandard.of_call_eq (deed.becomes_onEach origin).call_eq) calm becomes
    · refine Change.idle_of_not_reaches (own.of_call_eq wiredCall) ?_
      rw [Change.reaches_eq_of_call change wiredCall]
      exact reaches_own does change member
  · obtain ⟨first, among, rfl⟩ := List.mem_map.mp waiting
    exact each first (standard first (List.mem_append_right _ (List.mem_cons_of_mem _ among)))

/-- What a rule has told the last one of a sort is idle on it. -/
theorem idleLast_backwards (found : entry.deed = .ok deed) (standard : ∀ other ∈ before, other.IsStandard)
    (member : change ∈ deed.backwards) : change.IdleLast (entry.afterRound deed before after).before := by
  have does := Rule.does_of_deed found
  obtain ⟨kept, idle⟩ := idle_of_backwards does member
  have earlier : (deed.onBefore before).2 = deed.onEarlier before := by
    simp only [Deed.onBefore, kept, Option.bind_none]
  rw [Instance.before_afterRound_of_idle (idle _ _), earlier]
  exact Change.idleLast_foldl (standard_map_onEach standard) member fun other inside =>
    calm_of_does does change (List.mem_append_left _ (List.mem_append_right _ member)) other
      (List.mem_append_left _ (List.mem_append_right _ inside))

/-- What a rule has handed over is idle on the one who acts for it, and what it has kept on itself. -/
theorem idleFirst_handedOver (found : entry.deed = .ok deed) (asleep : entry.rule.Asleep)
    (standard : ∀ other ∈ before ++ entry :: after, other.IsStandard) (given : deed.handedOver = some change) :
    change.IdleFirst (entry.afterRound deed before after).before := by
  have does := Rule.does_of_deed found
  have own := standard entry (List.mem_append_right _ List.mem_cons_self)
  have earlierStandard := Change.standard_of_becomes
    (fun other member => standard other (List.mem_append_left _ member)) (deed.becomes_onEarlier before)
  cases reached : firstChanged? (deed.onEarlier before) change with
  | some changed =>
      have taken : deed.onBefore before = (true, changed) := by
        simp only [Deed.onBefore, given, Option.bind_some, reached]
      have resting : (entry.wiredBy deed ⟨before, after⟩).rule.operates = false := by
        simp only [Instance.wiredBy, taken]
        exact does.operates_of_taken asleep given _
      rw [Instance.before_afterRound_of_idle resting, taken]
      exact Change.idleFirst_firstChanged? earlierStandard reached
  | none =>
      have left : deed.onBefore before = (false, deed.onEarlier before) := by
        simp only [Deed.onBefore, given, Option.bind_some, reached]
      have operates : (entry.wiredBy deed ⟨before, after⟩).rule.operates = true := by
        simp only [Instance.wiredBy, left]
        exact does.operates_of_kept given _
      have beyond := find?_eq_none_of_firstChanged? earlierStandard reached
      have reaches : change.reaches (entry.wiredBy deed ⟨before, after⟩) = true := by
        rw [Change.reaches_eq_of_call change (Instance.call_wiredBy own found ⟨before, after⟩)]
        exact (does.aims_of_handedOver given entry.rule).mpr rfl
      refine ⟨entry.wiredBy deed ⟨before, after⟩, ?_, ?_⟩
      · have nobody : (List.filter (fun other => !Instance.wiring.same other (entry.wiredBy deed ⟨before, after⟩))
            (deed.onEarlier before)).find? change.reaches = none := by
          refine List.find?_eq_none.mpr fun other member => ?_
          rw [beyond other (List.mem_filter.mp member).1]
          exact Bool.false_ne_true
        rw [Instance.before_afterRound_of_operates operates, left, List.find?_append, nobody, Option.none_or,
          List.find?_cons, reaches]
      · simp only [Instance.wiredBy, left]
        exact idle_own does given _

/-- Right after a rule has been wired its siblings have heard of its deed. -/
theorem Heard.ofRound (found : entry.deed = .ok deed) (asleep : entry.rule.Asleep)
    (standard : ∀ other ∈ before ++ entry :: after, other.IsStandard) :
    deed.Heard (entry.afterRound deed before after).before (entry.afterRound deed before after).after where
  everywhere _ member _ inside := idle_everywhere found standard member inside
  backwards _ member :=
    idleLast_backwards found (fun other member => standard other (List.mem_append_left _ member)) member
  handedOver _ given := idleFirst_handedOver found asleep standard given

end OfRound

end Deed

end Vetting

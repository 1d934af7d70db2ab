import Mathlib.Logic.Relation
import Vetting.Proofs.Assembly.Rounds
import Vetting.Proofs.Assembly.Sifting
import Vetting.Proofs.Related
import Vetting.Proofs.Rule.Deeds

/-!
# Rounds of deeds

A round of standard rules carries out the deed of the rule that it wires (`Instance.exists_deed_of_round`).
What becomes of the earlier rules is then independent of what waits behind those that have been wired, except
for the question whether there is a key map (`Instance.rounds_waiting`).
-/

namespace Vetting

variable {σ : Type}

/-! ## What becomes of the siblings -/

/-- All changes that the deed may make to a sibling. -/
def Deed.changes (deed : Deed σ) : List (Change σ) :=
  deed.everywhere ++ deed.backwards ++ deed.handedOver.toList

namespace Instance

/-- The instance of a standard rule. -/
def IsStandard (entry : Instance σ) : Prop :=
  entry.rule.unwired ∈ Ruleset.standardRules

/-- The rule is as the blueprint of its call has it. -/
def IsFresh (entry : Instance σ) : Prop :=
  entry.rule = entry.rule.unwired.fresh

/-- What the instance does when it is wired. -/
def deed (entry : Instance σ) : Except ArgumentFault (Deed σ) :=
  entry.rule.deed entry.arguments

/-- Standard rules are none of the declared ones. -/
theorem IsStandard.ne_declared {entry : Instance σ} (standard : entry.IsStandard) (declaration : Declaration) :
    entry.rule ≠ .declared declaration :=
  Rule.ne_declared_of_standard standard declaration

/-- Some of the changes, one after the other, make the second instance of the first one. -/
def Becomes (changes : List (Change σ)) : Instance σ → Instance σ → Prop :=
  Relation.ReflTransGen fun entry next => ∃ change ∈ changes, entry.amend change.amendment = some next

namespace Becomes

variable {changes more : List (Change σ)} {entry next : Instance σ}

protected theorem refl (entry : Instance σ) : entry.Becomes changes entry :=
  Relation.ReflTransGen.refl

/-- More changes may be allowed than are made. -/
theorem mono (subset : changes ⊆ more) (becomes : entry.Becomes changes next) : entry.Becomes more next :=
  Relation.ReflTransGen.mono (fun _ _ ⟨change, member, made⟩ => ⟨change, subset member, made⟩) _ _ becomes

/-- What each of the changes keeps is kept by all of them. -/
theorem keeps (holds : Instance σ → Prop)
    (kept : ∀ change ∈ changes, ∀ {entry next}, holds entry → entry.amend change.amendment = some next →
      holds next)
    (becomes : entry.Becomes changes next) (start : holds entry) : holds next := by
  induction becomes with
  | refl => exact start
  | tail _ step ih =>
      obtain ⟨change, member, made⟩ := step
      exact kept change member ih made

/-- Whatever instances become, they come from the same call. -/
theorem call_eq (becomes : entry.Becomes changes next) : next.call = entry.call := by
  refine keeps (fun other => other.call = entry.call) ?_ becomes rfl
  intro change _ before after same made
  rw [← same]
  exact keeps_call change.keeps made

protected theorem trans {last : Instance σ} (first : entry.Becomes changes next)
    (second : next.Becomes changes last) : entry.Becomes changes last :=
  Relation.ReflTransGen.trans first second

/-- A single change is among those that may be made. -/
theorem single {change : Change σ} (member : change ∈ changes)
    (made : entry.amend change.amendment = some next) : entry.Becomes changes next :=
  Relation.ReflTransGen.single ⟨change, member, made⟩

/-- Entries that are left alone have become what they were. -/
theorem lists_refl (entries : List (Instance σ)) : List.Forall₂ (Becomes changes) entries entries :=
  List.forall₂_same.mpr fun entry _ => .refl entry

/-- Changes to a list may be made one after the other. -/
theorem lists_trans {first second third : List (Instance σ)}
    (one : List.Forall₂ (Becomes changes) first second)
    (two : List.Forall₂ (Becomes changes) second third) : List.Forall₂ (Becomes changes) first third :=
  (forall₂_trans one two).imp fun _ _ ⟨_, left, right⟩ => left.trans right

end Becomes

/-- The instances of one call are all standard or none is. -/
theorem IsStandard.of_call_eq {entry next : Instance σ} (standard : entry.IsStandard)
    (same : next.call = entry.call) : next.IsStandard := by
  have unwired : next.rule.unwired = entry.rule.unwired := (Prod.mk.inj same).1
  unfold IsStandard at standard ⊢
  rwa [unwired]

/-- What none of the changes touches is seen of the entries as before. -/
theorem filterMap_becomes {κ : Type} {view : Instance σ → Option κ} {changes : List (Change σ)}
    (untouched : ∀ change ∈ changes, ∀ {entry next : Instance σ}, entry.IsStandard →
      entry.amend change.amendment = some next → view next = view entry)
    {entries others : List (Instance σ)} (standard : ∀ entry ∈ entries, entry.IsStandard)
    (becomes : List.Forall₂ (Becomes changes) entries others) :
    others.filterMap view = entries.filterMap view := by
  induction becomes with
  | nil => rfl
  | @cons entry next _ _ head _ ih =>
      obtain ⟨own, further⟩ := List.forall_mem_cons.mp standard
      have both := head.keeps (fun other => other.IsStandard ∧ view other = view entry)
        (fun change member {before after} good made =>
          ⟨good.1.of_call_eq (keeps_call change.keeps made), (untouched change member good.1 made).trans good.2⟩)
        ⟨own, rfl⟩
      rw [List.filterMap_cons, List.filterMap_cons, both.2, ih further]

/-- An instance becomes what one of the changes makes of it, or it stays. -/
theorem becomes_changed (entry : Instance σ) {change : Change σ} {changes : List (Change σ)}
    (member : change ∈ changes) : entry.Becomes changes (entry.changed change) := by
  unfold changed
  cases made : entry.amend change.amendment with
  | none => exact .refl entry
  | some next => exact .single member made

/-- An instance becomes what the changes make of it, one after the other. -/
theorem becomes_changedBy (entry : Instance σ) (changes : List (Change σ)) :
    entry.Becomes changes (entry.changedBy changes) := by
  unfold changedBy
  induction changes generalizing entry with
  | nil => exact .refl entry
  | cons change rest ih =>
      rw [List.foldl_cons]
      exact (entry.becomes_changed List.mem_cons_self).trans
        ((ih (entry.changed change)).mono (List.subset_cons_self _ _))

end Instance

/-- An amendment of the first entry that takes it leaves the others as they are. -/
theorem exists_split_of_amendFirst? {ι : Type} {amend : ι → Option ι} {entries changed : List ι}
    (made : amendFirst? amend entries = some changed) : ∃ before entry next after,
      entries = before ++ entry :: after ∧ changed = before ++ next :: after ∧ amend entry = some next ∧
        ∀ other ∈ before, amend other = none := by
  induction entries generalizing changed with
  | nil => cases made
  | cons head rest ih =>
      rw [amendFirst?] at made
      cases own : amend head with
      | some next =>
          rw [own] at made
          obtain rfl := Option.some.inj made
          exact ⟨[], head, next, rest, rfl, rfl, own, List.forall_mem_nil _⟩
      | none =>
          rw [own] at made
          obtain ⟨others, found, rfl⟩ := Option.map_eq_some_iff.mp made
          obtain ⟨before, entry, next, after, rfl, rfl, taken, untouched⟩ := ih found
          exact ⟨head :: before, entry, next, after, rfl, rfl, taken, List.forall_mem_cons.mpr ⟨own, untouched⟩⟩

/-- If no last entry can be amended, none can. -/
theorem amendLast?_eq_none {ι : Type} {amend : ι → Option ι} {entries : List ι}
    (untouched : amendLast? amend entries = none) : ∀ entry ∈ entries, amend entry = none := by
  induction entries with
  | nil => exact fun _ member => nomatch member
  | cons head rest ih =>
      rw [amendLast?] at untouched
      cases later : amendLast? amend rest with
      | some others =>
          rw [later] at untouched
          cases untouched
      | none =>
          rw [later] at untouched
          intro entry member
          rcases List.mem_cons.mp member with rfl | inside
          · exact Option.map_eq_none_iff.mp untouched
          · exact ih later entry inside

/-- An amendment of the last entry that takes it leaves the others as they are. -/
theorem exists_split_of_amendLast? {ι : Type} {amend : ι → Option ι} {entries changed : List ι}
    (made : amendLast? amend entries = some changed) : ∃ before entry next after,
      entries = before ++ entry :: after ∧ changed = before ++ next :: after ∧ amend entry = some next ∧
        ∀ other ∈ after, amend other = none := by
  induction entries generalizing changed with
  | nil => cases made
  | cons head rest ih =>
      rw [amendLast?] at made
      cases later : amendLast? amend rest with
      | some others =>
          rw [later] at made
          obtain rfl := Option.some.inj made
          obtain ⟨before, entry, next, after, rfl, rfl, taken, untouched⟩ := ih later
          exact ⟨head :: before, entry, next, after, rfl, rfl, taken, untouched⟩
      | none =>
          rw [later] at made
          obtain ⟨next, own, rfl⟩ := Option.map_eq_some_iff.mp made
          exact ⟨[], head, next, rest, rfl, rfl, own, amendLast?_eq_none later⟩

/-- A change to the first possible entry is one of those that may be made, and the others stay. -/
theorem becomes_firstChanged? {change : Change σ} {changes : List (Change σ)} (member : change ∈ changes)
    {entries changed : List (Instance σ)} (made : firstChanged? entries change = some changed) :
    List.Forall₂ (Instance.Becomes changes) entries changed := by
  obtain ⟨before, entry, next, after, rfl, rfl, own, -⟩ := exists_split_of_amendFirst? made
  exact List.rel_append (Instance.Becomes.lists_refl before)
    (.cons (.single member own) (Instance.Becomes.lists_refl after))

/-- A change to the last possible entry is one of those that may be made, and the others stay. -/
theorem becomes_lastChanged {change : Change σ} {changes : List (Change σ)} (member : change ∈ changes)
    (entries : List (Instance σ)) :
    List.Forall₂ (Instance.Becomes changes) entries (lastChanged entries change) := by
  unfold lastChanged
  cases made : amendLast? (Instance.amend change.amendment) entries with
  | none => exact Instance.Becomes.lists_refl entries
  | some changed =>
      obtain ⟨before, entry, next, after, rfl, rfl, own, -⟩ := exists_split_of_amendLast? made
      exact List.rel_append (Instance.Becomes.lists_refl before)
        (.cons (.single member own) (Instance.Becomes.lists_refl after))

namespace Deed

/-- What a deed does to everybody is made of its changes for everybody. -/
theorem becomes_onEach (deed : Deed σ) (entry : Instance σ) :
    entry.Becomes deed.everywhere (deed.onEach entry) :=
  entry.becomes_changedBy deed.everywhere

/-- What a deed does to everybody is part of what it does. -/
theorem everywhere_subset (deed : Deed σ) : deed.everywhere ⊆ deed.changes :=
  fun _ member => List.mem_append_left _ (List.mem_append_left _ member)

/-- A deed that is done to everybody changes each entry by some of its changes. -/
theorem becomes_map_onEach (deed : Deed σ) (entries : List (Instance σ)) :
    List.Forall₂ (Instance.Becomes deed.changes) entries (entries.map deed.onEach) := by
  rw [List.forall₂_map_right_iff, List.forall₂_same]
  exact fun entry _ => (deed.becomes_onEach entry).mono deed.everywhere_subset

/-- Changes to the last possible entry, one after the other, are some of those that may be made. -/
theorem becomes_foldl {changes more : List (Change σ)} (subset : changes ⊆ more) (entries : List (Instance σ)) :
    List.Forall₂ (Instance.Becomes more) entries (changes.foldl lastChanged entries) := by
  induction changes generalizing entries with
  | nil => exact Instance.Becomes.lists_refl entries
  | cons change rest ih =>
      have member := subset List.mem_cons_self
      exact Instance.Becomes.lists_trans (becomes_lastChanged member entries)
        (ih (fun other later => subset (List.mem_cons_of_mem _ later)) _)

/-- What a deed does to the earlier entries is made of its changes. -/
theorem becomes_onEarlier (deed : Deed σ) (before : List (Instance σ)) :
    List.Forall₂ (Instance.Becomes deed.changes) before (deed.onEarlier before) :=
  Instance.Becomes.lists_trans (deed.becomes_map_onEach before)
    (becomes_foldl (fun _ member => List.mem_append_left _ (List.mem_append_right _ member)) _)

/-- After what the deed does to every sibling, the earlier ones are only changed by what it tells. -/
theorem becomes_onBefore_of_each (deed : Deed σ) (before : List (Instance σ)) :
    List.Forall₂ (Instance.Becomes deed.changes) (before.map deed.onEach) (deed.onBefore before).2 := by
  have earlier : List.Forall₂ (Instance.Becomes deed.changes) (before.map deed.onEach) (deed.onEarlier before) :=
    becomes_foldl (fun change member => List.mem_append_left _ (List.mem_append_right _ member)) _
  unfold onBefore
  split
  next changed taken =>
    obtain ⟨change, given, made⟩ := Option.bind_eq_some_iff.mp taken
    refine Instance.Becomes.lists_trans earlier (becomes_firstChanged? ?_ made)
    exact List.mem_append_right _ (Option.mem_toList.mpr given)
  next => exact earlier

/-- The earlier siblings are only changed by what the deed tells. -/
theorem becomes_onBefore (deed : Deed σ) (before : List (Instance σ)) :
    List.Forall₂ (Instance.Becomes deed.changes) before (deed.onBefore before).2 :=
  Instance.Becomes.lists_trans (deed.becomes_map_onEach before) (deed.becomes_onBefore_of_each before)

end Deed

/-! ## Rounds -/

namespace Instance

/-- The entry as its deed leaves it. -/
def wiredBy (entry : Instance σ) (deed : Deed σ) (siblings : Siblings (Instance σ)) : Instance σ :=
  { entry with rule := deed.own (deed.onBefore siblings.before).1 (Deed.knowsKeys siblings) }

/-- A standard rule is wired as its deed says, or its arguments are at fault. -/
theorem wire_eq {entry : Instance σ} (standard : entry.IsStandard) (siblings : Siblings (Instance σ)) :
    entry.wire siblings = match entry.deed with
      | .error fault => .error (.invalidArguments entry.rule.name fault)
      | .ok deed => .ok (entry.wiredBy deed siblings,
          ⟨(deed.onBefore siblings.before).2, siblings.after.map deed.onEach⟩) := by
  unfold wire
  rw [Rule.wire_eq_perform standard.ne_declared, ← show entry.deed = entry.rule.deed entry.arguments from rfl]
  cases entry.deed with
  | error fault => rfl
  | ok deed => rfl

/-- What a round with that deed leaves behind. -/
def afterRound [Identified σ] (entry : Instance σ) (deed : Deed σ) (before after : List (Instance σ)) :
    Siblings (Instance σ) :=
  ⟨wiring.sifted (deed.onBefore before).2 (entry.wiredBy deed ⟨before, after⟩), after.map deed.onEach⟩

/-- **Rounds of deeds.**  A round with a standard rule ends well exactly if there is a deed, which it carries
out. -/
theorem round_eq_ok [Identified σ] {entry : Instance σ} (standard : entry.IsStandard) {before after : List (Instance σ)}
    {state : Siblings (Instance σ)} :
    wiring.round ⟨before, entry :: after⟩ = .ok state ↔
      ∃ deed, entry.deed = .ok deed ∧ state = entry.afterRound deed before after := by
  have outcome : wiring.round ⟨before, entry :: after⟩ = match entry.deed with
      | .error fault => .error (.invalidArguments entry.rule.name fault)
      | .ok deed => .ok (entry.afterRound deed before after) := by
    unfold Wiring.round
    simp only [wiring, wire_eq standard]
    cases entry.deed with
    | error fault => rfl
    | ok deed => rfl
  rw [outcome]
  cases entry.deed with
  | error fault => simp only [reduceCtorEq, false_and, exists_false]
  | ok deed => simp only [Except.ok.injEq, exists_eq_left', eq_comm]

/-- A wired instance comes from the call that it came from before. -/
theorem call_wiredBy [Identified σ] {entry : Instance σ} (standard : entry.IsStandard) {deed : Deed σ}
    (found : entry.deed = .ok deed) (siblings : Siblings (Instance σ)) :
    (entry.wiredBy deed siblings).call = entry.call := by
  have outcome := wire_eq standard siblings
  rw [found] at outcome
  exact (calls_wire outcome).1

/-- Whether two instances are the same call is told by their calls. -/
theorem same_of_call [Identified σ] {left right first second : Instance σ} (one : left.call = first.call)
    (two : right.call = second.call) : wiring.same left right = wiring.same first second :=
  ((alike_of_call one).same_left right).trans ((alike_of_call two).same_right first)

/-- Instances of one call have one priority. -/
theorem priority_of_call {left right : Instance σ} (same : left.call = right.call) :
    left.rule.priority = right.rule.priority := by
  rw [← Rule.priority_unwired, (Prod.mk.inj same).1, Rule.priority_unwired]

/-- Two instances of one call are of one sort. -/
theorem unwired_eq_of_same [Identified σ] {left right : Instance σ} (standard : left.IsStandard)
    (alsoStandard : right.IsStandard) (same : wiring.same left right = true) :
    left.rule.unwired = right.rule.unwired := by
  simp only [wiring, Instance.same, Bool.and_eq_true, beq_iff_eq] at same
  exact Rule.unwired_eq_of_name standard alsoStandard same.1

/-! ## Key maps -/

/-- The call is that of a key map. -/
def IsKeys (entry : Instance σ) : Prop :=
  entry.rule.unwired = .keys ⟨[], [], false, false⟩

/-- The instances of one call are all key maps or none is. -/
theorem IsKeys.of_call_eq {entry next : Instance σ} (keys : entry.IsKeys) (same : next.call = entry.call) :
    next.IsKeys :=
  (Prod.mk.inj same).1.trans keys

/-- A key map hands over what it has. -/
theorem IsKeys.exists_handedOver {entry : Instance σ} (keys : entry.IsKeys) {deed : Deed σ}
    (found : entry.deed = .ok deed) : ∃ change, deed.handedOver = some change := by
  have does := Rule.does_of_deed found
  obtain ⟨rule, arguments⟩ := entry
  cases rule with
  | keys rule =>
      cases does with
      | alone alone => cases alone
      | keys => exact ⟨_, rfl⟩
  | _ => cases keys

/-- A change to key maps can be made to an instance exactly if it is a key map. -/
theorem isSome_amend_keys (entry : Instance σ) : (entry.amend (.keys [] [])).isSome = true ↔ entry.IsKeys := by
  obtain ⟨rule, arguments⟩ := entry
  cases rule <;> simp [amend, Amendment.keys, IsKeys, Rule.unwired]

/-- A key map is known exactly if there is one among the siblings. -/
theorem knowsKeys_iff (siblings : Siblings (Instance σ)) :
    Deed.knowsKeys siblings = true ↔ ∃ entry ∈ siblings.before ++ siblings.after, entry.IsKeys := by
  simp only [Deed.knowsKeys, Siblings.applies, Bool.or_eq_true, List.any_eq_true, isSome_amend_keys,
    List.mem_append, or_and_right, exists_or]

/-- Whether there is a key map is told by the entries that are there, wherever they stand. -/
theorem knowsKeys_congr {first second : Siblings (Instance σ)}
    (same : ∀ entry, entry ∈ first.before ++ first.after ↔ entry ∈ second.before ++ second.after) :
    Deed.knowsKeys first = Deed.knowsKeys second := by
  rw [Bool.eq_iff_iff, knowsKeys_iff, knowsKeys_iff]
  exact exists_congr fun entry => and_congr_left' (same entry)

/-- An instance that is no key map makes no difference to whether one is known. -/
theorem knowsKeys_cons {entry : Instance σ} (other : ¬ entry.IsKeys) {before after : List (Instance σ)} :
    Deed.knowsKeys ⟨before, entry :: after⟩ = Deed.knowsKeys ⟨before, after⟩ := by
  rw [Bool.eq_iff_iff, knowsKeys_iff, knowsKeys_iff]
  simp only [List.mem_append, List.mem_cons, or_and_right, exists_or, exists_eq_left, other, false_or]

/-- If something has been handed over, there is somebody who could take it. -/
theorem exists_of_firstChanged? {change : Change σ} {entries changed : List (Instance σ)}
    (made : firstChanged? entries change = some changed) :
    ∃ entry ∈ entries, (entry.amend change.amendment).isSome = true := by
  obtain ⟨before, entry, next, after, rfl, -, own, -⟩ := exists_split_of_amendFirst? made
  exact ⟨entry, List.mem_append_right before List.mem_cons_self, Option.isSome_of_eq_some own⟩

/-- Somebody who acts for a rule is of its sort. -/
theorem exists_of_taken {entry : Instance σ} {deed : Deed σ} (found : entry.deed = .ok deed)
    {before : List (Instance σ)} (standard : ∀ other ∈ before, other.IsStandard)
    (taken : (deed.onBefore before).1 = true) :
    ∃ change, deed.handedOver = some change ∧ ∃ other ∈ before, other.rule.unwired = entry.rule.unwired := by
  unfold Deed.onBefore at taken
  split at taken
  next changed reached =>
    obtain ⟨change, given, made⟩ := Option.bind_eq_some_iff.mp reached
    obtain ⟨now, member, applies⟩ := exists_of_firstChanged? made
    obtain ⟨other, inside, becomes⟩ := exists_of_mem_right (deed.becomes_onEarlier before) member
    have same : now.rule.unwired = other.rule.unwired := (Prod.mk.inj becomes.call_eq).1
    refine ⟨change, given, other, inside, ?_⟩
    have standardNow := (standard other inside).of_call_eq becomes.call_eq
    rw [amend, Option.isSome_map, change.isSome_amendment standardNow.ne_declared] at applies
    rw [← same]
    exact ((Rule.does_of_deed found).aims_of_handedOver given now.rule).mp applies
  next => cases taken

/-- A pattern finds the key maps that its siblings are, and is none itself. -/
theorem wiredBy_eq {entry : Instance σ} {deed : Deed σ} (found : entry.deed = .ok deed)
    {before first second : List (Instance σ)}
    (sameKeys : Deed.knowsKeys ⟨before, entry :: first⟩ = Deed.knowsKeys ⟨before, entry :: second⟩) :
    entry.wiredBy deed ⟨before, first⟩ = entry.wiredBy deed ⟨before, second⟩ := by
  unfold wiredBy
  congr 1
  by_cases pattern : ∃ rule, entry.rule = .pattern rule
  · obtain ⟨rule, same⟩ := pattern
    have own : ¬ entry.IsKeys := by
      intro keys
      rw [IsKeys, same] at keys
      cases keys
    rw [← @knowsKeys_cons _ _ own before first, ← @knowsKeys_cons _ _ own before second, sameKeys]
  · exact (Rule.does_of_deed found).own_eq (fun rule same => pattern ⟨rule, same⟩) _ _ _

variable [Identified σ]

/-- A rule that does not operate leaves nothing but what it has changed. -/
theorem before_afterRound_of_idle {entry : Instance σ} {deed : Deed σ} {before after : List (Instance σ)}
    (idle : (entry.wiredBy deed ⟨before, after⟩).rule.operates = false) :
    (entry.afterRound deed before after).before = (deed.onBefore before).2 :=
  if_neg (Bool.eq_false_iff.mp idle)

/-- A rule that operates comes behind the earlier ones and takes the place of those with the same call. -/
theorem before_afterRound_of_operates {entry : Instance σ} {deed : Deed σ} {before after : List (Instance σ)}
    (operates : (entry.wiredBy deed ⟨before, after⟩).rule.operates = true) :
    (entry.afterRound deed before after).before =
      (deed.onBefore before).2.filter (fun other => !wiring.same other (entry.wiredBy deed ⟨before, after⟩)) ++
        [entry.wiredBy deed ⟨before, after⟩] :=
  if_pos operates

/-- What stands in the list after a round has stood there before or has just been wired. -/
theorem origin_of_mem_afterRound {entry : Instance σ} {deed : Deed σ} {before after : List (Instance σ)}
    {other : Instance σ} (member : other ∈ (entry.afterRound deed before after).before) :
    other ∈ (deed.onBefore before).2 ∨
      other = entry.wiredBy deed ⟨before, after⟩ ∧ other.rule.operates = true := by
  cases operates : (entry.wiredBy deed ⟨before, after⟩).rule.operates with
  | true =>
      rw [before_afterRound_of_operates operates] at member
      rcases List.mem_append.mp member with left | right
      · exact .inl (List.mem_filter.mp left).1
      · obtain rfl := List.mem_singleton.mp right
        exact .inr ⟨rfl, operates⟩
  | false =>
      rw [before_afterRound_of_idle operates] at member
      exact .inl member

/-- What the changes of a deed keep, and the wiring of its own rule, holds of all entries after the round. -/
theorem forall_afterRound {holds : Instance σ → Prop} {entry : Instance σ} {deed : Deed σ}
    {before after : List (Instance σ)}
    (amended : ∀ {other next : Instance σ} {change : Change σ}, change ∈ deed.changes → holds other →
      other.amend change.amendment = some next → holds next)
    (wired : holds (entry.wiredBy deed ⟨before, after⟩)) (start : ∀ other ∈ before ++ after, holds other) :
    ∀ other ∈ (entry.afterRound deed before after).before ++ (entry.afterRound deed before after).after,
      holds other := by
  have become : ∀ {changes : List (Change σ)} {other next : Instance σ}, changes ⊆ deed.changes →
      other.Becomes changes next → holds other → holds next :=
    fun subset becomes => becomes.keeps holds fun _ member _ _ good made => amended (subset member) good made
  intro other member
  rcases List.mem_append.mp member with earlier | later
  · rcases origin_of_mem_afterRound earlier with sibling | ⟨rfl, -⟩
    · obtain ⟨first, inside, becomes⟩ := exists_of_mem_right (deed.becomes_onBefore before) sibling
      exact become (fun _ member => member) becomes (start first (List.mem_append_left _ inside))
    · exact wired
  · obtain ⟨first, inside, rfl⟩ := List.mem_map.mp later
    exact become deed.everywhere_subset (deed.becomes_onEach first) (start first (List.mem_append_right _ inside))

/-- A round leaves standard rules standard. -/
theorem standard_afterRound {entry : Instance σ} {deed : Deed σ} (found : entry.deed = .ok deed)
    {before after : List (Instance σ)} (standard : ∀ other ∈ before ++ entry :: after, other.IsStandard) :
    ∀ other ∈ (entry.afterRound deed before after).before ++ (entry.afterRound deed before after).after,
      other.IsStandard := by
  have own := standard entry (List.mem_append_right _ List.mem_cons_self)
  refine forall_afterRound (fun {other next change} _ good made => good.of_call_eq (keeps_call change.keeps made))
    (own.of_call_eq (call_wiredBy own found _)) fun other member => standard other ?_
  exact ((List.sublist_cons_self entry after).append_left before).subset member

/-- A rule gives way to a later one of its sort only. -/
theorem exists_sort_afterRound {entry : Instance σ} {deed : Deed σ} (found : entry.deed = .ok deed)
    (own : entry.IsStandard) {before after : List (Instance σ)} (standard : ∀ other ∈ before, other.IsStandard)
    {sort : Blueprint} (there : ∃ other ∈ before, other.rule.unwired = sort) :
    ∃ other ∈ (entry.afterRound deed before after).before, other.rule.unwired = sort := by
  obtain ⟨first, inside, rfl⟩ := there
  obtain ⟨next, member, becomes⟩ := exists_of_mem_right (deed.becomes_onBefore before).flip inside
  have call := Becomes.call_eq becomes
  simp only [afterRound, Wiring.sifted]
  split
  · by_cases same : wiring.same next (entry.wiredBy deed ⟨before, after⟩) = true
    · refine ⟨_, List.mem_append_right _ (List.mem_singleton.mpr rfl), ?_⟩
      have wiredStandard := own.of_call_eq (call_wiredBy own found ⟨before, after⟩)
      exact (unwired_eq_of_same ((standard first inside).of_call_eq call) wiredStandard same).symm.trans
        (Prod.mk.inj call).1
    · exact ⟨next, List.mem_append_left _ (List.mem_filter.mpr ⟨member, by simpa using same⟩), (Prod.mk.inj call).1⟩
  · exact ⟨next, member, (Prod.mk.inj call).1⟩

/-- A round neither brings a key map nor takes the last one away. -/
theorem knowsKeys_afterRound {entry : Instance σ} {deed : Deed σ} (found : entry.deed = .ok deed)
    {before after : List (Instance σ)} (standard : ∀ other ∈ before ++ entry :: after, other.IsStandard) :
    Deed.knowsKeys (entry.afterRound deed before after) = Deed.knowsKeys ⟨before, entry :: after⟩ := by
  have own : entry.IsStandard := standard entry (List.mem_append_right _ List.mem_cons_self)
  have wiredCall := call_wiredBy own found ⟨before, after⟩
  have changed := deed.becomes_onBefore before
  rw [Bool.eq_iff_iff, knowsKeys_iff, knowsKeys_iff]
  constructor
  · rintro ⟨other, member, keys⟩
    rcases List.mem_append.mp member with earlier | later
    · rcases origin_of_mem_afterRound earlier with sibling | ⟨rfl, -⟩
      · obtain ⟨first, inside, becomes⟩ := exists_of_mem_right changed sibling
        exact ⟨first, List.mem_append_left _ inside, keys.of_call_eq becomes.call_eq.symm⟩
      · exact ⟨entry, List.mem_append_right _ List.mem_cons_self, keys.of_call_eq wiredCall.symm⟩
    · obtain ⟨first, inside, rfl⟩ := List.mem_map.mp later
      exact ⟨first, List.mem_append_right _ (List.mem_cons_of_mem _ inside),
        keys.of_call_eq (deed.becomes_onEach first).call_eq.symm⟩
  · have amongEarlier : (∃ other ∈ before, other.IsKeys) →
        ∃ other ∈ (entry.afterRound deed before after).before, other.IsKeys :=
      exists_sort_afterRound found own fun other member => standard other (List.mem_append_left _ member)
    rintro ⟨other, member, keys⟩
    rcases List.mem_append.mp member with earlier | later
    · obtain ⟨next, inside, nextKeys⟩ := amongEarlier ⟨other, earlier, keys⟩
      exact ⟨next, List.mem_append_left _ inside, nextKeys⟩
    · rcases List.mem_cons.mp later with rfl | waiting
      · obtain ⟨change, given⟩ := keys.exists_handedOver found
        cases taken : (deed.onBefore before).1 with
        | true =>
            obtain ⟨-, -, first, inside, same⟩ := exists_of_taken found
              (fun other member => standard other (List.mem_append_left _ member)) taken
            obtain ⟨next, member, nextKeys⟩ := amongEarlier ⟨first, inside, same.trans keys⟩
            exact ⟨next, List.mem_append_left _ member, nextKeys⟩
        | false =>
            have operates : wiring.operates (other.wiredBy deed ⟨before, after⟩) = true := by
              simp only [wiring, wiredBy, taken]
              exact (Rule.does_of_deed found).operates_of_kept given _
            refine ⟨_, List.mem_append_left _ ?_, keys.of_call_eq wiredCall⟩
            simp only [afterRound, Wiring.sifted, operates, ↓reduceIte]
            exact List.mem_append_right _ (List.mem_singleton.mpr rfl)
      · refine ⟨deed.onEach other, List.mem_append_right _ (List.mem_map_of_mem waiting), ?_⟩
        exact keys.of_call_eq (deed.becomes_onEach other).call_eq

/-! ## Rounds with more or less waiting -/

/-- Rounds go well exactly if the first rule has a deed and the other rounds go well behind it. -/
theorem rounds_succ_eq_ok {entry : Instance σ} (standard : entry.IsStandard) {before after : List (Instance σ)}
    {count : Nat} {state : Siblings (Instance σ)} :
    wiring.rounds (count + 1) ⟨before, entry :: after⟩ = .ok state ↔
      ∃ deed, entry.deed = .ok deed ∧ wiring.rounds count (entry.afterRound deed before after) = .ok state := by
  rw [Wiring.rounds_succ]
  constructor
  · intro ended
    obtain ⟨next, one, rest⟩ := exists_of_bind_eq_ok ended
    obtain ⟨deed, found, rfl⟩ := (round_eq_ok standard).mp one
    exact ⟨deed, found, rest⟩
  · rintro ⟨deed, found, rest⟩
    rw [(round_eq_ok standard).mpr ⟨deed, found, rfl⟩]
    exact rest

/-- The first round of a queue changes the entries that wait behind, in the queue and after it. -/
theorem rounds_queue_eq_ok {entry : Instance σ} (standard : entry.IsStandard) {before later rest : List (Instance σ)}
    {state : Siblings (Instance σ)} :
    wiring.rounds (entry :: later).length ⟨before, entry :: later ++ rest⟩ = .ok state ↔
      ∃ deed, entry.deed = .ok deed ∧ wiring.rounds (later.map deed.onEach).length
        ⟨(entry.afterRound deed before (later ++ rest)).before,
          later.map deed.onEach ++ rest.map deed.onEach⟩ = .ok state := by
  rw [List.length_cons, List.cons_append, rounds_succ_eq_ok standard]
  simp only [List.length_map, ← List.map_append]
  rfl

/-- A round leaves the rules of a queue, and those behind it, standard. -/
theorem standard_afterRound_append {entry : Instance σ} {deed : Deed σ} (found : entry.deed = .ok deed)
    {before later rest : List (Instance σ)}
    (standard : ∀ other ∈ before ++ (entry :: later ++ rest), other.IsStandard) :
    ∀ other ∈ (entry.afterRound deed before (later ++ rest)).before ++
      (later.map deed.onEach ++ rest.map deed.onEach), other.IsStandard := by
  rw [← List.map_append]
  exact standard_afterRound found standard

/-- A round leaves open or settled whether a key map is known, also where a queue waits. -/
theorem knowsKeys_afterRound_append {entry : Instance σ} {deed : Deed σ} (found : entry.deed = .ok deed)
    {before later rest : List (Instance σ)}
    (standard : ∀ other ∈ before ++ (entry :: later ++ rest), other.IsStandard) :
    Deed.knowsKeys ⟨(entry.afterRound deed before (later ++ rest)).before,
      later.map deed.onEach ++ rest.map deed.onEach⟩ = Deed.knowsKeys ⟨before, entry :: later ++ rest⟩ := by
  rw [← List.map_append]
  exact knowsKeys_afterRound found standard

omit [Identified σ] in
/-- A queue gets shorter by its first entry, while all others may be changed. -/
@[elab_as_elim]
theorem queue_induction {motive : List (Instance σ) → Prop} (nil : motive [])
    (cons : ∀ entry later, (∀ translate : Instance σ → Instance σ, motive (later.map translate)) →
      motive (entry :: later))
    (queue : List (Instance σ)) : motive queue := by
  induction count : queue.length generalizing queue with
  | zero =>
      obtain rfl := List.length_eq_zero_iff.mp count
      exact nil
  | succ size ih =>
      obtain ⟨entry, later, rfl⟩ := List.exists_cons_of_length_eq_add_one count
      exact cons entry later fun translate => ih _ (by simpa using count)

/-- What every round keeps is kept by all of them. -/
theorem rounds_keep (holds : Siblings (Instance σ) → Prop)
    (step : ∀ {entry deed before after}, (∀ other ∈ before ++ entry :: after, other.IsStandard) →
      entry.deed = .ok deed → holds ⟨before, entry :: after⟩ → holds (entry.afterRound deed before after))
    {count : Nat} {before after : List (Instance σ)} {state : Siblings (Instance σ)}
    (standard : ∀ other ∈ before ++ after, other.IsStandard)
    (ended : wiring.rounds count ⟨before, after⟩ = .ok state) (start : holds ⟨before, after⟩) : holds state := by
  induction count generalizing before after with
  | zero =>
      obtain rfl := Except.ok.inj ended
      exact start
  | succ count ih =>
      cases after with
      | nil => exact ih standard ended start
      | cons entry rest =>
          have own : entry.IsStandard := standard entry (List.mem_append_right _ List.mem_cons_self)
          obtain ⟨deed, found, further⟩ := (rounds_succ_eq_ok own).mp ended
          exact ih (standard_afterRound found standard) further (step standard found start)

/-- A picture that each round changes by what its call says is changed by all calls, in the order in which they are
wired. -/
theorem rounds_foldl {κ π : Type} {told : Instance σ → Option κ} (write : π → κ → π)
    (shows : π → Siblings (Instance σ) → Prop)
    (ofCall : ∀ {left right : Instance σ}, left.call = right.call → told left = told right)
    (step : ∀ {picture entry deed before after}, (∀ other ∈ before ++ entry :: after, other.IsStandard) →
      entry.deed = .ok deed → shows picture ⟨before, entry :: after⟩ →
        shows ((told entry).toList.foldl write picture) (entry.afterRound deed before after))
    {count : Nat} {picture : π} {before after : List (Instance σ)} {state : Siblings (Instance σ)}
    (standard : ∀ other ∈ before ++ after, other.IsStandard) (all : after.length = count)
    (ended : wiring.rounds count ⟨before, after⟩ = .ok state) (start : shows picture ⟨before, after⟩) :
    shows ((after.filterMap told).foldl write picture) state := by
  subst all
  induction after using queue_induction generalizing picture before with
  | nil =>
      obtain rfl := Except.ok.inj ended
      exact start
  | cons entry rest ih =>
      have own : entry.IsStandard := standard entry (List.mem_append_right _ List.mem_cons_self)
      obtain ⟨deed, found, further⟩ := (rounds_succ_eq_ok own).mp ended
      rw [← List.length_map (f := deed.onEach)] at further
      have next := ih deed.onEach (standard_afterRound found standard) (step standard found start) further
      have waiting : (rest.map deed.onEach).filterMap told = rest.filterMap told := by
        rw [List.filterMap_map]
        exact List.filterMap_congr fun other _ => ofCall (deed.becomes_onEach other).call_eq
      rw [waiting] at next
      cases own : told entry with
      | none =>
          rw [own] at next
          rwa [List.filterMap_cons_none own]
      | some what =>
          rw [own] at next
          rwa [List.filterMap_cons_some own]

/-- A picture that shows what each round does shows what comes out of an assembly, changed by all calls in the order in
which they are wired. -/
theorem assemble_foldl {κ π : Type} {told : Instance σ → Option κ} (write : π → κ → π)
    (shows : π → Siblings (Instance σ) → Prop)
    (ofCall : ∀ {left right : Instance σ}, left.call = right.call → told left = told right)
    (step : ∀ {picture entry deed before after}, (∀ other ∈ before ++ entry :: after, other.IsStandard) →
      entry.deed = .ok deed → shows picture ⟨before, entry :: after⟩ →
        shows ((told entry).toList.foldl write picture) (entry.afterRound deed before after))
    {picture : π} {entries kept : List (Instance σ)} (standard : ∀ entry ∈ entries, entry.IsStandard)
    (assembled : assemble entries = .ok kept) (start : shows picture ⟨[], wiring.ordered entries⟩) :
    ∃ state, state.before = kept ∧ shows (((wiring.ordered entries).filterMap told).foldl write picture) state := by
  rw [assemble, Wiring.assemble_eq] at assembled
  obtain ⟨state, ended, rfl⟩ := Rule.exists_of_map_eq_ok assembled
  refine ⟨state, rfl, rounds_foldl write shows ofCall step (fun entry member => ?_) (wiring.length_ordered entries) ended
    start⟩
  exact standard entry ((wiring.ordered_perm entries).mem_iff.mp member)

/-- The same of a picture that is the list of what has been told so far. -/
theorem assemble_told {κ : Type} {told : Instance σ → Option κ} (shows : List κ → Siblings (Instance σ) → Prop)
    (ofCall : ∀ {left right : Instance σ}, left.call = right.call → told left = told right)
    (step : ∀ {earlier entry deed before after}, (∀ other ∈ before ++ entry :: after, other.IsStandard) →
      entry.deed = .ok deed → shows earlier ⟨before, entry :: after⟩ →
        shows (earlier ++ (told entry).toList) (entry.afterRound deed before after))
    {entries kept : List (Instance σ)} (standard : ∀ entry ∈ entries, entry.IsStandard)
    (assembled : assemble entries = .ok kept) (start : shows [] ⟨[], wiring.ordered entries⟩) :
    ∃ state, state.before = kept ∧ shows ((wiring.ordered entries).filterMap told) state := by
  have concat : ∀ earlier later : List κ, later.foldl (fun all what => all ++ [what]) earlier = earlier ++ later := by
    intro earlier later
    rw [List.foldl_append_eq_append, ← List.flatMap_def, List.flatMap_singleton']
  obtain ⟨state, rfl, shown⟩ := assemble_foldl (fun all what => all ++ [what]) shows ofCall
    (fun standard found shown => by rw [concat]; exact step standard found shown) standard assembled start
  rw [concat, List.nil_append] at shown
  exact ⟨state, rfl, shown⟩

/-- Rounds leave standard rules behind, and a key map exactly if there was one before. -/
theorem standard_rounds {count : Nat} {before after : List (Instance σ)} {state : Siblings (Instance σ)}
    (ended : wiring.rounds count ⟨before, after⟩ = .ok state)
    (standard : ∀ entry ∈ before ++ after, entry.IsStandard) :
    (∀ entry ∈ state.before ++ state.after, entry.IsStandard) ∧
      Deed.knowsKeys state = Deed.knowsKeys ⟨before, after⟩ := by
  refine rounds_keep (fun state => (∀ entry ∈ state.before ++ state.after, entry.IsStandard) ∧
    Deed.knowsKeys state = _) (fun standard found holds => ?_) standard ended ⟨standard, rfl⟩
  exact ⟨standard_afterRound found standard, (knowsKeys_afterRound found standard).trans holds.2⟩

/-- **More waiting.**  What the first rounds leave behind does not depend on what waits behind them, as long
as there is a key map in both cases or in none; and whatever waits there is changed in the same way. -/
theorem rounds_waiting {queue before first second : List (Instance σ)} {state : Siblings (Instance σ)}
    (standard : ∀ entry ∈ before ++ (queue ++ first), entry.IsStandard)
    (alsoStandard : ∀ entry ∈ second, entry.IsStandard)
    (sameKeys : Deed.knowsKeys ⟨before, queue ++ first⟩ = Deed.knowsKeys ⟨before, queue ++ second⟩)
    (ended : wiring.rounds queue.length ⟨before, queue ++ first⟩ = .ok state) :
    ∃ translate : Instance σ → Instance σ,
      (∀ entry : Instance σ, ∃ changes, entry.Becomes changes (translate entry)) ∧
      wiring.rounds queue.length ⟨before, queue ++ second⟩ = .ok ⟨state.before, second.map translate⟩ ∧
      state.after = first.map translate := by
  induction queue using queue_induction generalizing before first second with
  | nil =>
      obtain rfl := Except.ok.inj ended
      refine ⟨id, fun entry => ⟨[], .refl entry⟩, ?_, ?_⟩
      · simp only [List.nil_append, List.length_nil, Wiring.rounds_zero, List.map_id]
      · simp only [List.nil_append, List.map_id]
  | cons entry rest ih =>
      have own : entry.IsStandard := standard entry (List.mem_append_right _ List.mem_cons_self)
      have standardSecond : ∀ other ∈ before ++ (entry :: rest ++ second), other.IsStandard := by
        intro other member
        simp only [List.mem_append] at member standard
        rcases member with earlier | queued | waiting
        · exact standard other (.inl earlier)
        · exact standard other (.inr (.inl queued))
        · exact alsoStandard other waiting
      obtain ⟨deed, found, further⟩ := (rounds_queue_eq_ok own).mp ended
      have wired : entry.wiredBy deed ⟨before, rest ++ first⟩ = entry.wiredBy deed ⟨before, rest ++ second⟩ :=
        wiredBy_eq found sameKeys
      have sameBefore : (entry.afterRound deed before (rest ++ second)).before =
          (entry.afterRound deed before (rest ++ first)).before := by
        simp only [afterRound, wired]
      have keys := knowsKeys_afterRound_append found standard
      have keysSecond := knowsKeys_afterRound_append found standardSecond
      rw [sameBefore] at keysSecond
      have waitingStandard : ∀ other ∈ second.map deed.onEach, other.IsStandard :=
        List.forall_mem_map.mpr fun other inside =>
          (alsoStandard other inside).of_call_eq (deed.becomes_onEach other).call_eq
      obtain ⟨translate, becomes, ended, waiting⟩ := ih deed.onEach (standard_afterRound_append found standard)
        waitingStandard (keys.trans (sameKeys.trans keysSecond.symm)) further
      refine ⟨translate ∘ deed.onEach, fun other => ?_, ?_, ?_⟩
      · obtain ⟨changes, more⟩ := becomes (deed.onEach other)
        exact ⟨deed.everywhere ++ changes, ((deed.becomes_onEach other).mono (List.subset_append_left _ _)).trans
          (more.mono (List.subset_append_right _ _))⟩
      · refine (rounds_queue_eq_ok own).mpr ⟨deed, found, ?_⟩
        rw [sameBefore, ended, List.map_map]
      · rw [waiting, List.map_map]

end Instance

end Vetting

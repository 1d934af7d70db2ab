import Vetting.Proofs.Repetition.Meddling

/-!
# Rules that stay

A rule that neither hands over what it has nor only acts on others stays in the list (`Rule.stays`).  No rule
of its tier acts on it unless it meddles, so it stands where it is, as it is, until the same call comes again
(`Instance.Stands.rounds`).
-/

namespace Vetting

variable {σ : Type}

namespace Rule

/-- The wired rule takes part in validations, whatever its siblings are. -/
def stays {τ : Type} : Rule τ → Bool
  | optional _ | custom _ | alternatives _ | pattern _ | array _ _ | items _ | ordered _ | unique _
  | length _ _ _ | number _ _ | multiple _ | precision _ | regex _ | address _ | reference _ | check _ => true
  | _ => false

@[simp] theorem stays_unwired {τ : Type} (own : Rule τ) : own.unwired.stays = own.stays := by
  cases own <;> rfl

/-- The wired rule takes no part in validations, whatever its siblings are. -/
def isSilent {τ : Type} : Rule τ → Bool
  | any | furtherAlternatives | allowUnknown | allowSparse | allowSingle | insensitive => true
  | _ => false

@[simp] theorem isSilent_unwired {τ : Type} (own : Rule τ) : own.unwired.isSilent = own.isSilent := by
  cases own <;> rfl

/-- A silent rule does not operate. -/
theorem operates_of_isSilent {τ : Type} {own : Rule τ} (silent : own.isSilent = true) : own.operates = false := by
  cases own <;> first | rfl | cases silent

/-- Only a rule that meddles changes a rule of its tier that stays. -/
theorem not_aims_of_stays {τ υ : Type} {own : Rule τ} (stays : own.stays = true) {later : Rule υ}
    (apart : later.meddles own = false) (level : later.priority = own.priority) {change : Change σ}
    (makes : later.makes change = true) : change.aims own = false := by
  cases own with
  | optional enabled =>
      cases change with
      | disable =>
          cases later with
          | check test => cases test <;> cases level
          | _ => cases makes
      | _ => rfl
  | alternatives schemas =>
      cases change with
      | alternatives further =>
          cases later with
          | furtherAlternatives => cases apart
          | check test => cases test <;> cases makes
          | _ => cases makes
      | _ => rfl
  | pattern rule =>
      cases change with
      | patternUnknown allow =>
          obtain rfl := eq_allowUnknown_of_makes (.inr makes)
          cases apart
      | _ => rfl
  | array one holes =>
      cases change with
      | sparse allow =>
          obtain rfl := eq_allowSparse_of_makes makes
          cases apart
      | single allow =>
          obtain rfl := eq_allowSingle_of_makes makes
          cases apart
      | _ => rfl
  | any | listing _ _ _ | standIn _ _ | furtherAlternatives | keys _ | allowUnknown | allowSparse | allowSingle
  | insensitive | declared _ => cases stays
  | _ => cases change <;> rfl

namespace Does

variable {own : Rule σ} {deed : Deed σ}

/-- A rule that stays where it is called hands nothing over. -/
theorem handedOver_of_stays (does : own.Does deed) (stays : own.stays = true) : deed.handedOver = none := by
  cases does with
  | listing | standIn | keys => cases stays
  | _ => rfl

/-- A rule that stays where it is called operates, whatever its siblings have done. -/
theorem operates_of_stays (does : own.Does deed) (stays : own.stays = true) (taken hasKeys : Bool) :
    (deed.own taken hasKeys).operates = true := by
  have same := does.unwired_own taken hasKeys
  have still : (deed.own taken hasKeys).stays = true := by rw [← stays_unwired, same, stays_unwired, stays]
  cases made : deed.own taken hasKeys with
  | any | listing _ _ _ | standIn _ _ | furtherAlternatives | keys _ | allowUnknown | allowSparse | allowSingle
  | insensitive | declared _ =>
      rw [made] at still
      cases still
  | _ => rfl

/-- A rule that does not stay takes part in validations only if it has kept what it has. -/
theorem operates_of_not_stays (does : own.Does deed) (standard : own.unwired ∈ Ruleset.standardRules)
    (asleep : own.Asleep) (stays : own.stays = false) {taken : Bool}
    (handed : taken = deed.handedOver.isSome) (hasKeys : Bool) :
    (deed.own taken hasKeys).operates = false := by
  cases given : deed.handedOver with
  | some change =>
      rw [handed, given]
      exact does.operates_of_taken asleep given hasKeys
  | none =>
      have same := does.unwired_own taken hasKeys
      have gone : (deed.own taken hasKeys).stays = false := by rw [← stays_unwired, same, stays_unwired, stays]
      have alone : (deed.own taken hasKeys).gathers = false := by
        rw [← gathers_unwired, same, gathers_unwired, ← does.isSome_handedOver, given, Option.isSome_none]
      have declared : ∀ declaration, deed.own taken hasKeys ≠ .declared declaration :=
        ne_declared_of_standard (same ▸ standard)
      cases made : deed.own taken hasKeys with
      | any | furtherAlternatives | allowUnknown | allowSparse | allowSingle | insensitive => rfl
      | listing _ _ _ | standIn _ _ | keys _ =>
          rw [made] at alone
          cases alone
      | declared declaration => exact absurd made (declared declaration)
      | _ =>
          rw [made] at gone
          cases gone

end Does

end Rule

/-! ## Where a rule stands -/

namespace Instance

/-- What no change reaches becomes nothing else. -/
theorem Becomes.eq {changes : List (Change σ)} {entry next : Instance σ} (standard : entry.IsStandard)
    (beyond : ∀ change ∈ changes, change.reaches entry = false) (becomes : entry.Becomes changes next) :
    next = entry := by
  refine becomes.keeps (fun other => other = entry) ?_ rfl
  rintro change member before after rfl made
  have applies := Change.isSome_amend change standard
  rw [made, beyond change member] at applies
  cases applies

/-- The calls of the entries whose rules are not silent. -/
def loudCalls (entries : List (Instance σ)) : List (Blueprint × Arguments σ) :=
  (entries.filter fun entry => !entry.rule.isSilent).map call

theorem loudCalls_eq_of_calls {first second : List (Instance σ)} (same : first.map call = second.map call) :
    loudCalls first = loudCalls second := by
  have told : ∀ entries : List (Instance σ),
      loudCalls entries = (entries.map call).filter fun known => !known.1.isSilent := by
    intro entries
    unfold loudCalls
    rw [List.filter_map]
    refine congrArg (List.map call) (List.filter_congr fun entry _ => ?_)
    exact congrArg (!·) (Rule.isSilent_unwired entry.rule).symm
  rw [told, told, same]

theorem loudCalls_map {translate : Instance σ → Instance σ} (calls : ∀ other, (translate other).call = other.call)
    (entries : List (Instance σ)) : loudCalls (entries.map translate) = loudCalls entries := by
  refine loudCalls_eq_of_calls ?_
  rw [List.map_map]
  exact List.map_congr_left fun other _ => calls other

theorem loudCalls_cons (entry : Instance σ) (entries : List (Instance σ)) :
    loudCalls (entry :: entries) = loudCalls [entry] ++ loudCalls entries := by
  rw [← List.singleton_append]
  simp only [loudCalls, List.filter_append, List.map_append]

/-- The sort of a rule that stays. -/
def lastingSort? (entry : Instance σ) : Option Blueprint :=
  if entry.rule.stays then some entry.rule.unwired else none

variable [Identified σ]

/-- The rule stands in the list, no other entry is the same call, and behind it are only calls of those given. -/
def Stands (kept : Instance σ) (calls : List (Blueprint × Arguments σ)) (before : List (Instance σ)) : Prop :=
  ∃ front back, before = front ++ kept :: back ∧
    (∀ other ∈ front ++ back, wiring.same other kept = false) ∧ ∀ other ∈ back, other.call ∈ calls

/-- A rule that stays stands at the end of the list right after its round. -/
theorem Stands.ofRound {entry : Instance σ} {deed : Deed σ} (found : entry.deed = .ok deed)
    (stays : entry.rule.stays = true) (before after : List (Instance σ)) :
    Stands (entry.wiredBy deed ⟨before, after⟩) [] (entry.afterRound deed before after).before := by
  have operates : (entry.wiredBy deed ⟨before, after⟩).rule.operates = true :=
    (Rule.does_of_deed found).operates_of_stays stays _ _
  refine ⟨_, [], before_afterRound_of_operates operates, ?_, fun other member => nomatch member⟩
  intro other member
  rw [List.append_nil] at member
  simpa using (List.mem_filter.mp member).2

variable {kept : Instance σ} {calls more : List (Blueprint × Arguments σ)} {before after : List (Instance σ)}

theorem Stands.mono (subset : calls ⊆ more) (stands : Stands kept calls before) : Stands kept more before := by
  obtain ⟨front, back, split, others, known⟩ := stands
  exact ⟨front, back, split, others, fun other member => subset (known other member)⟩

/-- Changes that do not reach the rule leave it where it stands. -/
theorem Stands.becomes {changes : List (Change σ)} (standard : kept.IsStandard)
    (beyond : ∀ change ∈ changes, change.reaches kept = false) (stands : Stands kept calls before)
    (becomes : List.Forall₂ (Becomes changes) before after) : Stands kept calls after := by
  obtain ⟨front, back, rfl, others, known⟩ := stands
  obtain ⟨first, next, last, rfl, frontBecomes, ownBecomes, backBecomes⟩ := exists_split_of_forall₂ becomes
  obtain rfl : next = kept := ownBecomes.eq standard beyond
  refine ⟨first, last, rfl, fun other member => ?_, fun other member => ?_⟩
  · obtain ⟨origin, stood, same⟩ := exists_of_mem_right (List.rel_append frontBecomes backBecomes) member
    rw [same_of_call same.call_eq rfl, others origin stood]
  · obtain ⟨origin, stood, same⟩ := exists_of_mem_right backBecomes member
    rw [same.call_eq]
    exact known origin stood

/-- Another call that comes to the end of the list leaves the rule where it stands. -/
theorem Stands.concat {wired : Instance σ} (unlike : wiring.same wired kept = false ∧ wiring.same kept wired = false)
    (stands : Stands kept calls before) :
    Stands kept (wired.call :: calls) (before.filter (fun other => !wiring.same other wired) ++ [wired]) := by
  obtain ⟨front, back, rfl, others, known⟩ := stands
  have retained : (!wiring.same kept wired) = true := by rw [unlike.2, Bool.not_false]
  refine ⟨front.filter fun other => !wiring.same other wired,
    (back.filter fun other => !wiring.same other wired) ++ [wired], ?_, ?_, ?_⟩
  · rw [List.filter_append, List.filter_cons, if_pos retained, List.append_assoc, List.cons_append]
  · intro other member
    simp only [List.mem_append, List.mem_filter, List.mem_singleton] at member
    rcases member with ⟨inside, -⟩ | ⟨inside, -⟩ | rfl
    · exact others other (List.mem_append_left _ inside)
    · exact others other (List.mem_append_right _ inside)
    · exact unlike.1
  · intro other member
    simp only [List.mem_append, List.mem_filter, List.mem_singleton] at member
    rcases member with ⟨inside, -⟩ | rfl
    · exact List.mem_cons_of_mem _ (known other inside)
    · exact List.mem_cons_self

/-- The round of another rule of the tier that does not meddle leaves the rule where it stands. -/
theorem Stands.round {entry : Instance σ} {deed : Deed σ} (stays : kept.rule.stays = true)
    (found : entry.deed = .ok deed) (standard : ∀ other ∈ before ++ entry :: after, other.IsStandard)
    (apart : entry.rule.meddles kept.rule = false) (level : entry.rule.priority = kept.rule.priority)
    (unlike : wiring.same entry kept = false ∧ wiring.same kept entry = false)
    (stands : Stands kept calls before) :
    Stands kept (loudCalls [entry] ++ calls) (entry.afterRound deed before after).before := by
  have does := Rule.does_of_deed found
  have entryStandard := standard entry (List.mem_append_right _ List.mem_cons_self)
  have keptStandard : kept.IsStandard := by
    obtain ⟨front, back, rfl, -⟩ := stands
    exact standard kept (by simp)
  have siblings := stands.becomes keptStandard
    (fun change member => Rule.not_aims_of_stays stays apart level (does.makes change member))
    (deed.becomes_onBefore before)
  cases operates : (entry.wiredBy deed ⟨before, after⟩).rule.operates with
  | false =>
      rw [before_afterRound_of_idle operates]
      exact siblings.mono (List.subset_append_right _ _)
  | true =>
      have wiredCall := call_wiredBy entryStandard found ⟨before, after⟩
      have loud : entry.rule.isSilent = false := by
        cases silent : entry.rule.isSilent with
        | false => rfl
        | true =>
            rw [← Rule.isSilent_unwired, ← (Prod.mk.inj wiredCall).1, Rule.isSilent_unwired] at silent
            exact absurd operates (Bool.eq_false_iff.mp (Rule.operates_of_isSilent silent))
      have listed : loudCalls [entry] = [entry.call] := by
        simp only [loudCalls, List.filter_cons, loud, Bool.not_false, ↓reduceIte, List.filter_nil, List.map_cons,
          List.map_nil]
      rw [before_afterRound_of_operates operates, listed, ← wiredCall]
      refine siblings.concat ⟨?_, ?_⟩
      · rw [same_of_call wiredCall rfl, unlike.1]
      · rw [same_of_call rfl wiredCall, unlike.2]

/-- **A rule that stays stands where it is.**  So it does until the same call comes again, if no rule of its
tier meddles in between; and the waiting repetition is left as it is. -/
theorem Stands.rounds {own : Instance σ} {queue rest : List (Instance σ)} {state : Siblings (Instance σ)}
    (repeated : kept.call = own.call) (stays : own.rule.stays = true)
    (standard : ∀ other ∈ before ++ (queue ++ own :: rest), other.IsStandard)
    (apart : ∀ other ∈ queue, other.rule.meddles own.rule = false)
    (level : ∀ other ∈ queue, other.rule.priority = own.rule.priority)
    (unlike : ∀ other ∈ queue, wiring.same other own = false ∧ wiring.same own other = false)
    (stands : Stands kept calls before)
    (ended : wiring.rounds queue.length ⟨before, queue ++ own :: rest⟩ = .ok state) :
    (∃ others, state.after = own :: others) ∧ Stands kept (loudCalls queue ++ calls) state.before := by
  induction queue using queue_induction generalizing before rest calls with
  | nil =>
      obtain rfl := Except.ok.inj ended
      exact ⟨⟨rest, rfl⟩, stands⟩
  | cons entry later ih =>
      have first : entry ∈ entry :: later := List.mem_cons_self
      have behind : ∀ other ∈ later, other ∈ entry :: later := fun other => List.mem_cons_of_mem entry
      have ownStandard : own.IsStandard := standard own (by simp)
      obtain ⟨deed, found, further⟩ := (rounds_queue_eq_ok (standard entry (by simp))).mp ended
      have does := Rule.does_of_deed found
      have calls := fun other => (deed.becomes_onEach other).call_eq
      have untouched : deed.onEach own = own := (deed.becomes_onEach own).eq ownStandard fun change member =>
        Rule.not_aims_of_stays stays (apart entry first) (level entry first)
          (does.makes change (deed.everywhere_subset member))
      have keptStays : kept.rule.stays = true := by
        rw [← Rule.stays_unwired, (Prod.mk.inj repeated).1, Rule.stays_unwired, stays]
      have next := stands.round keptStays found standard
        (by rw [meddles_of_call rfl repeated, apart entry first])
        (by rw [priority_of_call repeated, level entry first])
        ⟨by rw [same_of_call rfl repeated, (unlike entry first).1],
          by rw [same_of_call repeated rfl, (unlike entry first).2]⟩
      have nextStandard := standard_afterRound_append found standard
      rw [List.map_cons, untouched] at nextStandard further
      obtain ⟨waiting, still⟩ := ih deed.onEach nextStandard
        (List.forall_mem_map.mpr fun other inside => by
          rw [meddles_of_call (calls other) rfl, apart other (behind other inside)])
        (List.forall_mem_map.mpr fun other inside => by
          rw [priority_of_call (calls other), level other (behind other inside)])
        (List.forall_mem_map.mpr fun other inside => by
          rw [same_of_call (calls other) rfl, same_of_call rfl (calls other)]
          exact unlike other (behind other inside))
        next further
      refine ⟨waiting, still.mono ?_⟩
      rw [loudCalls_map calls, loudCalls_cons entry later]
      intro known member
      simp only [List.mem_append] at member ⊢
      tauto

/-! ## What stays -/

omit [Identified σ] in
/-- Whether a rule stays, and which sort it is of, is told by its call. -/
theorem lastingSort?_of_call {left right : Instance σ} (same : left.call = right.call) :
    left.lastingSort? = right.lastingSort? := by
  have sort := (Prod.mk.inj same).1
  rw [lastingSort?, lastingSort?, ← Rule.stays_unwired left.rule, sort, Rule.stays_unwired]

/-- A round keeps the sorts that are there, and adds the one of its own rule if this stays. -/
theorem exists_sort_afterRound_of_stays {entry : Instance σ} {deed : Deed σ} {before after : List (Instance σ)}
    (standard : ∀ other ∈ before ++ entry :: after, other.IsStandard) (found : entry.deed = .ok deed)
    {sorts : List Blueprint} (there : ∀ sort ∈ sorts, ∃ other ∈ before, other.rule.unwired = sort) :
    ∀ sort ∈ sorts ++ entry.lastingSort?.toList,
      ∃ other ∈ (entry.afterRound deed before after).before, other.rule.unwired = sort := by
  have own := standard entry (List.mem_append_right _ List.mem_cons_self)
  intro sort member
  rcases List.mem_append.mp member with old | new
  · exact exists_sort_afterRound found own (fun other inside => standard other (List.mem_append_left _ inside))
      (there sort old)
  · obtain ⟨stays, rfl⟩ : entry.rule.stays = true ∧ entry.rule.unwired = sort := by
      simpa [lastingSort?] using new
    obtain ⟨front, back, split, -⟩ := Stands.ofRound found stays before after
    refine ⟨entry.wiredBy deed ⟨before, after⟩, ?_, (Prod.mk.inj (call_wiredBy own found ⟨before, after⟩)).1⟩
    rw [split]
    exact List.mem_append_right _ List.mem_cons_self

/-- Of a rule that stays, one of its sort comes out of an assembly. -/
theorem exists_sort_of_stays {entries kept : List (Instance σ)} (standard : ∀ entry ∈ entries, entry.IsStandard)
    (assembled : assemble entries = .ok kept) {entry : Instance σ} (member : entry ∈ entries)
    (stays : entry.rule.stays = true) : ∃ other ∈ kept, other.rule.unwired = entry.rule.unwired := by
  obtain ⟨state, rfl, there⟩ := assemble_told
    (fun sorts state => ∀ sort ∈ sorts, ∃ other ∈ state.before, other.rule.unwired = sort) lastingSort?_of_call
    (fun standard found sorts => exists_sort_afterRound_of_stays standard found sorts) standard assembled
    (List.forall_mem_nil _)
  exact there entry.rule.unwired
    (List.mem_filterMap.mpr ⟨entry, (wiring.ordered_perm entries).mem_iff.mpr member, if_pos stays⟩)

end Instance

end Vetting

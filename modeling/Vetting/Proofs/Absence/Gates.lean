import Mathlib.Data.List.TakeWhile
import Vetting.Proofs.Assembly.Views
import Vetting.Proofs.Listing.Record
import Vetting.Proofs.Repetition.Lookalikes

/-!
# Gates for absent values

An absent value meets the `optional` rules and the lists of valid values before all rules of the last tier.  These
are its gates.  An assembly posts them call by call: an `optional` rule takes the place of an earlier one that is the
same call, the first list of valid values stands for all of them, and `required` turns every `optional` rule off
(`Instance.gates_assemble`).

So the gates let an absent value pass exactly if an `optional` call that is not repeated comes before all calls of
valid values (`Gate.opens_posted`), and never where something is `required` (`Gate.not_opens_posted`).
-/

namespace Vetting

variable {σ : Type}

/-- A rule that an absent value meets before the rules of the last tier. -/
inductive Gate (σ : Type) where
  /-- An `optional` rule with the arguments of its call, and whether it is on. -/
  | optional (enabled : Bool) (arguments : Arguments σ)
  /-- A list of valid values. -/
  | valid

/-- What a call says about absent values. -/
inductive Notice (σ : Type) where
  | optional (arguments : Arguments σ)
  | valid
  | required

namespace Gate

def isValid : Gate σ → Bool
  | valid => true
  | optional _ _ => false

/-- The gate after everything `optional` has been turned off. -/
def closed : Gate σ → Gate σ
  | optional _ arguments => optional false arguments
  | valid => valid

/-- The gate is called for again by an `optional` call with these arguments. -/
def isRepeated [Identified σ] (arguments : Arguments σ) : Gate σ → Bool
  | optional _ earlier => earlier.same arguments
  | valid => false

/-- The gates after one more call. -/
def post [Identified σ] (gates : List (Gate σ)) : Notice σ → List (Gate σ)
  | .optional arguments => gates.filter (fun gate => !gate.isRepeated arguments) ++ [optional true arguments]
  | .valid => if gates.any isValid then gates else gates ++ [valid]
  | .required => gates.map closed

/-- The gates after some calls. -/
def posted [Identified σ] (notices : List (Notice σ)) : List (Gate σ) :=
  notices.foldl post []

/-- An `optional` rule that is on comes before the list of valid values. -/
def opens : List (Gate σ) → Bool
  | [] => false
  | optional true _ :: _ => true
  | optional false _ :: rest => opens rest
  | valid :: _ => false

end Gate

/-- The notice comes from a rule before the last tier. -/
def Notice.isEarly : Notice σ → Bool
  | optional _ | valid => true
  | required => false

/-- The notices in the order in which their calls are wired. -/
def Notice.arranged (notices : List (Notice σ)) : List (Notice σ) :=
  notices.filter isEarly ++ notices.filter fun notice => !notice.isEarly

/-- Of some calls an `optional` one comes before all of valid values, and is not called for again. -/
def Notice.Waived [Identified σ] (notices : List (Notice σ)) : Prop :=
  ∃ before arguments after, notices = before ++ .optional arguments :: after ∧ .valid ∉ before ∧
    ∀ other, .optional other ∈ after → arguments.same other = false

/-! ## Which gates stand open -/

namespace Gate

section Front

variable {gates : List (Gate σ)}

/-- There is a gate of valid values exactly if one is among the gates. -/
theorem any_isValid : gates.any isValid = true ↔ valid ∈ gates := by
  rw [List.any_eq_true]
  constructor
  · rintro ⟨gate, member, sort⟩
    cases gate with
    | valid => exact member
    | optional enabled arguments => cases sort
  · exact fun member => ⟨valid, member, rfl⟩

/-- The gates in front of the list of valid values. -/
def front (gates : List (Gate σ)) : List (Gate σ) :=
  gates.takeWhile fun gate => !gate.isValid

/-- Behind a gate of valid values nothing comes to the front. -/
theorem front_of_valid_mem (member : valid ∈ gates) (further : List (Gate σ)) :
    front (gates ++ further) = front gates := by
  unfold front
  rw [List.takeWhile_append, if_neg]
  intro all
  have own := List.takeWhile_eq_self_iff.mp ((List.takeWhile_prefix _).eq_of_length all) valid member
  cases own

/-- Without a gate of valid values all gates are in front. -/
theorem front_eq_self (free : valid ∉ gates) : front gates = gates := by
  refine List.takeWhile_eq_self_iff.mpr fun gate member => ?_
  cases gate with
  | valid => exact absurd member free
  | optional enabled arguments => rfl

/-- A gate of valid values leaves those before it in front. -/
theorem front_concat_valid (free : valid ∉ gates) : front (gates ++ [valid]) = gates := by
  have same := front_eq_self free
  unfold front at same ⊢
  rw [List.takeWhile_append, if_pos (congrArg List.length same)]
  exact List.append_nil gates

/-- Gates that are all on open if there is one in front of the list of valid values. -/
theorem opens_iff_of_enabled
    (enabled : ∀ on arguments, .optional on arguments ∈ gates → on = true) :
    opens gates = true ↔ ∃ arguments, .optional true arguments ∈ front gates := by
  cases gates with
  | nil => simp [opens, front]
  | cons gate rest =>
      cases gate with
      | valid => simp [opens, front, isValid]
      | optional on arguments =>
          obtain rfl := enabled on arguments List.mem_cons_self
          exact iff_of_true rfl ⟨arguments, by simp [front, isValid]⟩

/-- Closed gates open for nothing. -/
theorem not_opens_closed (gates : List (Gate σ)) : opens (gates.map closed) = false := by
  induction gates with
  | nil => rfl
  | cons gate rest ih =>
      cases gate with
      | valid => rfl
      | optional enabled arguments => exact ih

/-- Taking repeated gates away may come before the choice of those in front or after. -/
theorem front_filter [Identified σ] (arguments : Arguments σ) (gates : List (Gate σ)) :
    front (gates.filter fun gate => !gate.isRepeated arguments) =
      (front gates).filter fun gate => !gate.isRepeated arguments := by
  induction gates with
  | nil => rfl
  | cons gate rest ih =>
      cases gate with
      | valid => rfl
      | optional enabled earlier =>
          cases same : earlier.same arguments <;> simpa [front, isValid, isRepeated, same] using ih

end Front

variable [Identified σ] {notices : List (Notice σ)} {arguments : Arguments σ}

/-- The last notice is posted last. -/
theorem posted_concat (notices : List (Notice σ)) (notice : Notice σ) :
    posted (notices ++ [notice]) = post (posted notices) notice :=
  List.foldl_concat ..

/-- A list of valid values is posted once there is a call for one. -/
theorem valid_mem_posted : valid ∈ posted notices ↔ .valid ∈ notices := by
  induction notices using List.reverseRecOn with
  | nil => exact iff_of_false List.not_mem_nil List.not_mem_nil
  | append_singleton notices notice ih =>
      rw [posted_concat, List.mem_append, ← ih, List.mem_singleton]
      cases notice with
      | required =>
          have same : ∀ gate : Gate σ, gate.closed = valid ↔ gate = valid := by
            intro gate
            cases gate <;> simp [closed]
          simp [post, same]
      | valid =>
          rw [post]
          split
          next there => exact iff_of_true (any_isValid.mp there) (.inr rfl)
          next => simp
      | optional arguments => simp [post, isRepeated]

/-- What nothing has turned off is on. -/
theorem enabled_of_mem_posted (nothing : .required ∉ notices) {enabled : Bool}
    (member : .optional enabled arguments ∈ posted notices) : enabled = true := by
  induction notices using List.reverseRecOn with
  | nil => cases member
  | append_singleton notices notice ih =>
      rw [List.mem_append, not_or, List.mem_singleton] at nothing
      rw [posted_concat] at member
      cases notice with
      | required => exact absurd rfl nothing.2
      | valid =>
          rw [post] at member
          split at member
          · exact ih nothing.1 member
          · exact ih nothing.1 (by simpa using member)
      | optional other =>
          rcases List.mem_append.mp member with earlier | last
          · exact ih nothing.1 (List.mem_filter.mp earlier).1
          · exact (Gate.optional.inj (List.mem_singleton.mp last)).1

/-- The last call decides, or another one does that it does not repeat. -/
theorem exists_split_concat (notice : Notice σ) :
    (∃ before after, notices ++ [notice] = before ++ .optional arguments :: after ∧ .valid ∉ before ∧
        ∀ other, .optional other ∈ after → arguments.same other = false) ↔
      (∃ before after, notices = before ++ .optional arguments :: after ∧ .valid ∉ before ∧
          ∀ other, .optional other ∈ after → arguments.same other = false) ∧
          (∀ other, notice = .optional other → arguments.same other = false) ∨
        notice = .optional arguments ∧ .valid ∉ notices := by
  constructor
  · rintro ⟨before, after, split, free, last⟩
    rcases List.eq_nil_or_concat after with rfl | ⟨further, final, rfl⟩
    · obtain ⟨rfl, same⟩ := List.append_inj' split rfl
      exact .inr ⟨List.singleton_inj.mp same, free⟩
    · rw [List.concat_eq_append] at split last
      rw [← List.cons_append, ← List.append_assoc] at split
      obtain ⟨rfl, same⟩ := List.append_inj' split rfl
      obtain rfl := List.singleton_inj.mp same
      refine .inl ⟨⟨before, further, rfl, free, fun other member => ?_⟩, fun other own => ?_⟩
      · exact last other (List.mem_append_left _ member)
      · exact last other (List.mem_append_right _ (List.mem_singleton.mpr own.symm))
  · rintro (⟨⟨before, after, rfl, free, last⟩, own⟩ | ⟨rfl, free⟩)
    · refine ⟨before, after ++ [notice], by simp, free, fun other member => ?_⟩
      rcases List.mem_append.mp member with inside | final
      · exact last other inside
      · exact own other (List.mem_singleton.mp final).symm
    · exact ⟨notices, [], rfl, free, fun _ member => nomatch member⟩

/-- Where nothing is required, an `optional` rule stands in front of the list of valid values exactly if its call does
and is not called for again. -/
theorem mem_front_posted (nothing : .required ∉ notices) :
    .optional true arguments ∈ front (posted notices) ↔
      ∃ before after, notices = before ++ .optional arguments :: after ∧ .valid ∉ before ∧
        ∀ other, .optional other ∈ after → arguments.same other = false := by
  -- By induction from the last call, which either is the one in question or comes after it.
  induction notices using List.reverseRecOn with
  | nil => simp [posted, front]
  | append_singleton notices notice ih =>
      rw [List.mem_append, not_or, List.mem_singleton] at nothing
      rw [exists_split_concat, ← ih nothing.1, posted_concat]
      cases notice with
      | required => exact absurd rfl nothing.2
      | valid =>
          have same : front (post (posted notices) .valid) = front (posted notices) := by
            rw [post]
            split
            · rfl
            next none =>
              have free := fun there => none (any_isValid.mpr there)
              rw [front_concat_valid free, front_eq_self free]
          simp [same]
      | optional other =>
          rw [post]
          by_cases there : valid ∈ posted notices
          · have still : valid ∈ (posted notices).filter fun gate => !gate.isRepeated other :=
              List.mem_filter.mpr ⟨there, rfl⟩
            rw [front_of_valid_mem still, front_filter, List.mem_filter]
            simp [isRepeated, valid_mem_posted.mp there]
          · have free : valid ∉
                (posted notices).filter (fun gate => !gate.isRepeated other) ++ [optional true other] := by
              simp [there, isRepeated]
            rw [front_eq_self free, front_eq_self there]
            simp [isRepeated, mt valid_mem_posted.mpr there, @eq_comm _ other arguments]

/-- **Absence waived.**  Where nothing is required, the gates let absent values pass if an `optional` call that is not
repeated comes before all calls of valid values. -/
theorem opens_posted (nothing : .required ∉ notices) : opens (posted notices) = true ↔ Notice.Waived notices := by
  rw [opens_iff_of_enabled fun on arguments => enabled_of_mem_posted nothing]
  simp only [mem_front_posted nothing, Notice.Waived]
  exact ⟨fun ⟨arguments, before, after, rest⟩ => ⟨before, arguments, after, rest⟩,
    fun ⟨before, arguments, after, rest⟩ => ⟨arguments, before, after, rest⟩⟩

/-- What is required last closes all gates. -/
theorem not_opens_posted (last : notices.getLast? = some .required) : opens (posted notices) = false := by
  obtain ⟨earlier, rfl⟩ := List.getLast?_eq_some_iff.mp last
  rw [posted_concat]
  exact not_opens_closed _

end Gate

/-! ## The gates of an assembly -/

/-- What a call of the rule with these arguments says about absent values. -/
def Rule.notice? {τ : Type} (rule : Rule τ) (arguments : Arguments σ) : Option (Notice σ) :=
  match rule with
  | optional _ => some (.optional arguments)
  | listing .valid _ _ => some .valid
  | check .required => some .required
  | _ => none

/-- What a rule gives notice of is told by the call that it comes from. -/
theorem Rule.notice?_unwired {τ : Type} (rule : Rule τ) (arguments : Arguments σ) :
    rule.unwired.notice? arguments = rule.notice? arguments := by
  cases rule with
  | listing kind _ _ => cases kind <;> rfl
  | check test => cases test <;> rfl
  | _ => rfl

/-- The rule may let an absent value pass or reject it before the last tier. -/
def Rule.isGate {τ : Type} : Rule τ → Bool
  | optional _ | listing .valid _ _ => true
  | _ => false

/-- Whether a rule is a gate is told by the call that it comes from. -/
theorem Rule.isGate_unwired {τ : Type} (rule : Rule τ) : rule.unwired.isGate = rule.isGate := by
  cases rule with
  | listing kind _ _ => cases kind <;> rfl
  | _ => rfl

namespace Instance

/-- What the call of an instance says about absent values. -/
def notice? (entry : Instance σ) : Option (Notice σ) :=
  entry.rule.notice? entry.arguments

/-- The gate that an entry is. -/
def gate? (entry : Instance σ) : Option (Gate σ) :=
  match entry.rule with
  | .optional enabled => some (.optional enabled entry.arguments)
  | .listing .valid _ _ => some .valid
  | _ => none

/-- The gates among some entries. -/
def gates (entries : List (Instance σ)) : List (Gate σ) :=
  entries.filterMap gate?

/-- An instance has a gate exactly if its rule is one. -/
theorem isSome_gate? (entry : Instance σ) : entry.gate?.isSome = entry.rule.isGate := by
  obtain ⟨rule, arguments⟩ := entry
  cases rule with
  | listing kind _ _ => cases kind <;> rfl
  | _ => rfl

/-- The gates of two lists follow each other. -/
theorem gates_append (first second : List (Instance σ)) : gates (first ++ second) = gates first ++ gates second :=
  List.filterMap_append

/-- A single instance has its own gate, or none. -/
theorem gates_singleton (entry : Instance σ) : gates [entry] = entry.gate?.toList :=
  rfl

/-- There is a gate of valid values exactly if some rule lists such values. -/
theorem mem_gates_valid {entries : List (Instance σ)} :
    .valid ∈ gates entries ↔ ∃ entry ∈ entries, entry.rule.unwired = .listing .valid .empty false := by
  have own : ∀ entry : Instance σ, entry.gate? = some .valid ↔ entry.rule.unwired = .listing .valid .empty false := by
    rintro ⟨rule, arguments⟩
    cases rule with
    | listing kind _ _ => cases kind <;> simp [gate?, Rule.unwired]
    | _ => simp [gate?, Rule.unwired]
  simp only [gates, List.mem_filterMap, own]

/-- Instances of one call give the same notice. -/
theorem notice?_of_call {left right : Instance σ} (same : left.call = right.call) : left.notice? = right.notice? := by
  obtain ⟨unwired, arguments⟩ := Prod.mk.inj same
  rw [notice?, notice?, ← Rule.notice?_unwired, unwired, arguments, Rule.notice?_unwired]

/-- Nothing but `required` touches a gate. -/
theorem gate?_amend {entry next : Instance σ} (standard : entry.IsStandard) {change : Change σ}
    (other : change ≠ .disable) (made : entry.amend change.amendment = some next) : next.gate? = entry.gate? := by
  obtain ⟨rule, arguments⟩ := entry
  obtain ⟨changed, reached, rfl⟩ := Option.map_eq_some_iff.mp made
  cases rule with
  | declared declaration => exact absurd rfl (standard.ne_declared declaration)
  | listing kind set operating =>
      cases change with
      | add sort values | strike sort values =>
          simp only [Change.amendment, Amendment.listing] at reached
          split at reached
          · obtain rfl := Option.some.inj reached
            cases kind <;> rfl
          · cases reached
      | relate relation =>
          obtain rfl := Option.some.inj reached
          cases kind <;> rfl
      | _ => cases reached
  | optional enabled =>
      cases change with
      | disable => exact absurd rfl other
      | _ => cases reached
  | _ => cases change <;> cases reached <;> rfl

/-- To disable `optional` everywhere is to close all gates. -/
theorem gates_disabled (entries : List (Instance σ)) :
    gates (entries.map (changedBy [.disable])) = (gates entries).map Gate.closed := by
  unfold gates
  rw [List.filterMap_map, List.map_filterMap]
  congr 1
  funext entry
  obtain ⟨rule, arguments⟩ := entry
  cases rule with
  | listing kind _ _ => cases kind <;> rfl
  | _ => rfl

/-- Changes that do not disable leave all gates. -/
theorem gates_becomes {entries others : List (Instance σ)} {changes : List (Change σ)} (spares : .disable ∉ changes)
    (standard : ∀ entry ∈ entries, entry.IsStandard) (becomes : List.Forall₂ (Becomes changes) entries others) :
    gates others = gates entries := by
  refine filterMap_becomes (fun change member {_ _} own made => gate?_amend own ?_ made) standard becomes
  rintro rfl
  exact spares member

/-- Only `required` disables anything. -/
theorem disable_not_mem_changes {entry : Instance σ} {deed : Deed σ} (found : entry.deed = .ok deed)
    (other : entry.rule ≠ .check .required) : .disable ∉ deed.changes := by
  intro member
  have makes := (Rule.does_of_deed found).makes _ member
  cases rule : entry.rule with
  | check test => cases test <;> first | exact other rule | (rw [rule] at makes; cases makes)
  | listing kind set operating =>
      rw [rule] at makes
      cases makes
  | _ =>
      rw [rule] at makes
      cases makes

/-- What is required is said by rules of the last tier, and all other notices come from the one before. -/
theorem priority_of_notice? {entry : Instance σ} {notice : Notice σ} (noted : entry.notice? = some notice) :
    entry.rule.priority = if notice.isEarly then 0 else 100 := by
  obtain ⟨rule, arguments⟩ := entry
  cases rule with
  | optional enabled =>
      obtain rfl := Option.some.inj noted
      rfl
  | listing kind set operating =>
      cases kind with
      | valid =>
          obtain rfl := Option.some.inj noted
          rfl
      | invalid | allow => cases noted
  | check test =>
      cases test with
      | required =>
          obtain rfl := Option.some.inj noted
          rfl
      | _ => cases noted
  | _ => cases noted

variable [Identified σ] {entry wired : Instance σ} {deed : Deed σ} {before after : List (Instance σ)}

/-- Of two `optional` calls the later one takes the place of the earlier one if their arguments are the same. -/
theorem gates_filter_of_optional (optional : wired.rule = .optional true) (entries : List (Instance σ)) :
    gates (entries.filter fun other => !wiring.same other wired) =
      (gates entries).filter fun gate => !gate.isRepeated wired.arguments := by
  refine Wiring.filterMap_filter_of_told (fun other gate found => ?_) entries
  obtain ⟨rule, arguments⟩ := other
  cases rule with
  | optional enabled =>
      obtain rfl := Option.some.inj found
      simp only [wiring, same, optional, Rule.name, beq_self_eq_true, Bool.true_and, Gate.isRepeated]
  | listing kind set operating =>
      cases kind with
      | valid =>
          obtain rfl := Option.some.inj found
          simp [wiring, same, optional, Rule.name, Listing.name, Gate.isRepeated]
      | invalid | allow => cases found
  | _ => cases found

/-! ### Rounds -/

/-- A rule that turns nothing off comes behind the earlier gates, if none of them is of its sort. -/
theorem gates_before_afterRound (own : entry.IsStandard) (earlier : ∀ other ∈ before, other.IsStandard)
    (found : entry.deed = .ok deed) (spares : .disable ∉ deed.changes)
    (apart : (entry.wiredBy deed ⟨before, after⟩).rule.operates = true →
      ∀ other ∈ before, other.rule.isGate = true → other.rule.unwired ≠ entry.rule.unwired) :
    gates (entry.afterRound deed before after).before = gates before ++
      if (entry.wiredBy deed ⟨before, after⟩).rule.operates then
        (entry.wiredBy deed ⟨before, after⟩).gate?.toList else [] := by
  have becomes := deed.becomes_onBefore before
  rw [← gates_becomes spares earlier becomes]
  refine filterMap_before_afterRound own earlier found fun operates other member seen same => ?_
  obtain ⟨origin, inside, made⟩ := exists_of_mem_right becomes member
  have sort : other.rule.unwired = origin.rule.unwired := (Prod.mk.inj made.call_eq).1
  rw [isSome_gate?, ← Rule.isGate_unwired, sort, Rule.isGate_unwired] at seen
  exact apart operates origin inside seen (sort.symm.trans same)

/-- A rule that is no gate and turns nothing off leaves the gates as they are. -/
theorem gates_afterRound_of_other (own : entry.IsStandard) (earlier : ∀ other ∈ before, other.IsStandard)
    (found : entry.deed = .ok deed) (noGate : entry.rule.isGate = false) (other : entry.rule ≠ .check .required) :
    gates (entry.afterRound deed before after).before = gates before := by
  have wired : (entry.wiredBy deed ⟨before, after⟩).gate? = none := by
    have sort : (entry.wiredBy deed ⟨before, after⟩).rule.unwired = entry.rule.unwired :=
      (Prod.mk.inj (call_wiredBy own found ⟨before, after⟩)).1
    rw [← Option.not_isSome_iff_eq_none, isSome_gate?, ← Rule.isGate_unwired, sort, Rule.isGate_unwired, noGate]
    exact Bool.false_ne_true
  have apart : ∀ other ∈ before, other.rule.isGate = true → other.rule.unwired ≠ entry.rule.unwired := by
    intro other _ sign same
    rw [← Rule.isGate_unwired, same, Rule.isGate_unwired, noGate] at sign
    cases sign
  rw [gates_before_afterRound own earlier found (disable_not_mem_changes found other) fun _ => apart, wired,
    Option.toList_none, ite_self, List.append_nil]

/-- Wiring `optional` posts it as a notice. -/
theorem gates_afterRound_optional (earlier : ∀ other ∈ before, other.IsStandard)
    (found : entry.deed = .ok deed) {enabled : Bool} (optional : entry.rule = .optional enabled) :
    gates (entry.afterRound deed before after).before = Gate.post (gates before) (.optional entry.arguments) := by
  have alone : entry.rule.deed entry.arguments = .ok deed := found
  rw [optional] at alone
  obtain rfl := Except.ok.inj alone
  have wired : (entry.wiredBy (.alone (.optional true)) ⟨before, after⟩).rule = .optional true := rfl
  have spares := disable_not_mem_changes found (by rw [optional]; exact fun same => nomatch same)
  rw [before_afterRound_of_operates rfl, gates_append, gates_singleton, gates_filter_of_optional wired,
    gates_becomes spares earlier (Deed.becomes_onBefore _ before)]
  rfl

/-- Of the rules that list valid values the first one acts for all. -/
theorem gates_afterRound_valid (own : entry.IsStandard) (earlier : ∀ other ∈ before, other.IsStandard)
    (found : entry.deed = .ok deed) {set : ListedValues} {operating : Bool}
    (listing : entry.rule = .listing .valid set operating) :
    gates (entry.afterRound deed before after).before = Gate.post (gates before) .valid := by
  have does : entry.rule.deed entry.arguments = .ok deed := found
  rw [listing] at does
  obtain ⟨values, -, gathers⟩ := Rule.exists_of_map_eq_ok does
  have spares := disable_not_mem_changes found (by rw [listing]; exact fun same => nomatch same)
  have idle : (deed.onBefore before).1 = true ↔ Gate.valid ∈ gates before := by
    rw [mem_gates_valid]
    constructor
    · intro taken
      obtain ⟨-, -, other, member, sort⟩ := exists_of_taken found earlier taken
      exact ⟨other, member, sort.trans (by rw [listing]; rfl)⟩
    · rintro ⟨other, member, sort⟩
      exact Deed.taken_of_mem found earlier (by rw [listing]; rfl) member (sort.trans (by rw [listing]; rfl))
  have operates : (entry.wiredBy deed ⟨before, after⟩).rule.operates = !(deed.onBefore before).1 := by
    rw [wiredBy, ← gathers]
    cases ((Deed.gathering _ _ _ _).onBefore before).1 <;> rfl
  have apart : (entry.wiredBy deed ⟨before, after⟩).rule.operates = true →
      ∀ other ∈ before, other.rule.isGate = true → other.rule.unwired ≠ entry.rule.unwired := by
    intro active other member _ same
    rw [operates, Bool.not_eq_true', ← Bool.not_eq_true] at active
    exact active (Deed.taken_of_mem found earlier (by rw [listing]; rfl) member same)
  rw [gates_before_afterRound own earlier found spares apart, operates, Gate.post]
  by_cases taken : (deed.onBefore before).1 = true
  · rw [if_pos (Gate.any_isValid.mpr (idle.mp taken)), taken]
    exact List.append_nil _
  · rw [if_neg (mt (idle.mpr ∘ Gate.any_isValid.mp) taken), Bool.eq_false_of_not_eq_true taken, wiredBy, ← gathers]
    cases ((Deed.gathering _ _ _ _).onBefore before).1 <;> rfl

/-- Wiring `required` posts it as a notice. -/
theorem gates_afterRound_required (own : entry.IsStandard) (earlier : ∀ other ∈ before, other.IsStandard)
    (found : entry.deed = .ok deed) (required : entry.rule = .check .required) :
    gates (entry.afterRound deed before after).before = Gate.post (gates before) .required := by
  have disables : entry.rule.deed entry.arguments = .ok deed := found
  rw [required] at disables
  obtain rfl := Except.ok.inj disables
  have outcome : ((Deed.modifying [.disable] [] (.check .required) : Deed σ).onBefore before).2 =
      before.map (changedBy [.disable]) := rfl
  rw [gates, filterMap_before_afterRound own earlier found, outcome]
  · exact (List.append_nil _).trans (gates_disabled before)
  · intro _ other _ seen same
    rw [isSome_gate?, ← Rule.isGate_unwired, same, required] at seen
    cases seen

/-- A round posts what its call says about absent values. -/
theorem gates_afterRound (standard : ∀ other ∈ before ++ entry :: after, other.IsStandard)
    (found : entry.deed = .ok deed) :
    gates (entry.afterRound deed before after).before = entry.notice?.toList.foldl Gate.post (gates before) := by
  have earlier : ∀ other ∈ before, other.IsStandard :=
    fun other member => standard other (List.mem_append_left _ member)
  have own : entry.IsStandard := standard entry (List.mem_append_right _ List.mem_cons_self)
  have otherwise (nothing : entry.notice? = none) (noGate : entry.rule.isGate = false)
      (other : entry.rule ≠ .check .required) : gates (entry.afterRound deed before after).before =
        entry.notice?.toList.foldl Gate.post (gates before) := by
    rw [gates_afterRound_of_other own earlier found noGate other, nothing]
    rfl
  cases rule : entry.rule with
  | optional enabled =>
      rw [gates_afterRound_optional earlier found rule, notice?, rule]
      rfl
  | listing kind set operating =>
      cases kind with
      | valid =>
          rw [gates_afterRound_valid own earlier found rule, notice?, rule]
          rfl
      | invalid | allow => exact otherwise (by rw [notice?, rule]; rfl) (by rw [rule]; rfl) (by rw [rule]; nofun)
  | check test =>
      by_cases required : test = .required
      · rw [gates_afterRound_required own earlier found (rule.trans (congrArg _ required)), notice?, rule, required]
        rfl
      · refine otherwise ?_ (by rw [rule]; rfl) (by rw [rule]; simpa using required)
        rw [notice?, rule]
        cases test <;> first | rfl | exact absurd rfl required
  | _ => exact otherwise (by rw [notice?, rule]; rfl) (by rw [rule]; rfl) (by rw [rule]; nofun)

/-- **What absence meets.**  The gates that come out of an assembly are posted call by call, with what is required
last. -/
theorem gates_assemble {entries kept : List (Instance σ)} (standard : ∀ entry ∈ entries, entry.IsStandard)
    (assembled : assemble entries = .ok kept) :
    gates kept = Gate.posted (Notice.arranged (entries.filterMap notice?)) := by
  obtain ⟨state, rfl, posted⟩ := assemble_foldl Gate.post (fun posted state => gates state.before = posted)
    notice?_of_call (fun standard found same => same ▸ gates_afterRound standard found) standard assembled rfl
  rw [wiring.filterMap_ordered (by decide) (fun _ _ noted => priority_of_notice? noted)] at posted
  exact posted

end Instance

end Vetting

import Vetting.Proofs.Assembly.Invariants
import Vetting.Proofs.Assembly.Views
import Vetting.Proofs.Repetition.Meddling

/-!
# The candidates of alternatives

A call of alternatives nominates its schemas as candidates, and each later call of further ones nominates more for the
last alternatives before it.  At any time the last alternatives among the rules that have been wired have the candidates
that have been nominated since their call (`Nominations.Told`), so this holds of the rules that come out of an assembly,
and where only one call of alternatives is made there are no other ones (`Instance.candidateLists_assemble`).
-/

namespace Vetting

variable {σ : Type}

/-- What a call says about alternatives. -/
inductive Nomination (σ : Type) where
  /-- These are the candidates. -/
  | first (schemas : List σ)
  /-- There are more candidates. -/
  | further (schemas : List σ)

/-- The candidates after a nomination. -/
def Nomination.extend : Option (List σ) → Nomination σ → Option (List σ)
  | _, first schemas => some schemas
  | found, further schemas => found.map (· ++ schemas)

/-- The nomination is one of a call of alternatives. -/
def Nomination.isFirst : Nomination σ → Bool
  | first _ => true
  | further _ => false

namespace Nominations

variable {nominations : List (Nomination σ)}

/-- Whom the last call of alternatives and the calls of further ones behind it nominate. -/
def candidates? (nominations : List (Nomination σ)) : Option (List σ) :=
  nominations.foldl Nomination.extend none

/-- A further nomination extends the candidates. -/
theorem candidates?_concat (nominations : List (Nomination σ)) (nomination : Nomination σ) :
    candidates? (nominations ++ [nomination]) = Nomination.extend (candidates? nominations) nomination :=
  List.foldl_concat ..

/-- The candidates are those of the last call of alternatives and all further ones, in the order of the calls. -/
theorem candidates?_append (earlier : List (Nomination σ)) (schemas : List σ) (tries : List (List σ)) :
    candidates? (earlier ++ .first schemas :: tries.map .further) = some (schemas ++ tries.flatten) := by
  induction tries using List.reverseRecOn with
  | nil => rw [List.map_nil, candidates?_concat, List.flatten_nil, List.append_nil]; rfl
  | append_singleton tries further ih =>
      rw [List.map_append, List.map_singleton, ← List.cons_append, ← List.append_assoc, candidates?_concat, ih,
        List.flatten_append, List.flatten_singleton, ← List.append_assoc]
      rfl

end Nominations

/-! ## Alternatives among the rules -/

/-- The candidates of a rule that has some. -/
def Rule.candidates? : Rule σ → Option (List σ)
  | alternatives candidates => some candidates
  | _ => none

/-- What a call of the rule with these arguments says about alternatives. -/
def Rule.nomination? {τ : Type} (rule : Rule τ) (arguments : Arguments σ) : Option (Nomination σ) :=
  match rule with
  | alternatives _ => arguments.schemas.toOption.map .first
  | furtherAlternatives => arguments.schemas.toOption.map .further
  | _ => none

/-- What a rule nominates is told by the call that it comes from. -/
theorem Rule.nomination?_unwired {τ : Type} (rule : Rule τ) (arguments : Arguments σ) :
    rule.unwired.nomination? arguments = rule.nomination? arguments := by
  cases rule <;> rfl

/-- A rule has candidates exactly if it comes from a call of `alternatives`. -/
theorem Rule.isSome_candidates? (rule : Rule σ) :
    rule.candidates?.isSome = true ↔ rule.unwired = .alternatives [] := by
  cases rule <;> simp [candidates?, unwired]

/-- What the change makes of some candidates. -/
def Change.onCandidates : Change σ → List σ → List σ
  | alternatives further, candidates => candidates ++ further
  | _, candidates => candidates

/-- Only a call of further alternatives makes a change that candidates show. -/
theorem Rule.onCandidates_of_makes {own : Rule σ} (other : own ≠ .furtherAlternatives) {change : Change σ}
    (makes : own.makes change = true) : change.onCandidates = id := by
  cases change with
  | alternatives further =>
      cases own with
      | furtherAlternatives => exact absurd rfl other
      | check test => cases test <;> cases makes
      | _ => cases makes
  | _ => rfl

namespace Instance

/-- What the call of an instance says about alternatives. -/
def nomination? (entry : Instance σ) : Option (Nomination σ) :=
  entry.rule.nomination? entry.arguments

/-- Instances of one call nominate the same. -/
theorem nomination?_of_call {left right : Instance σ} (same : left.call = right.call) :
    left.nomination? = right.nomination? := by
  obtain ⟨unwired, arguments⟩ := Prod.mk.inj same
  rw [nomination?, nomination?, ← Rule.nomination?_unwired, unwired, arguments, Rule.nomination?_unwired]

/-- The candidates of all alternatives among some entries. -/
def candidateLists (entries : List (Instance σ)) : List (List σ) :=
  entries.filterMap fun entry => entry.rule.candidates?

/-- Candidates are changed as the rules are. -/
theorem isView_candidates? : IsView (fun entry : Instance σ => entry.rule.candidates?) Change.onCandidates := by
  rintro ⟨rule, arguments⟩ standard change
  cases rule with
  | declared declaration => exact absurd rfl (standard.ne_declared declaration)
  | listing kind set operating =>
      obtain ⟨later, still, same⟩ := exists_changed_listing kind set operating arguments change
      show (changed _ change).rule.candidates? = none
      rw [same]
      rfl
  | _ => cases change <;> rfl

/-- What is added to the last alternatives is added to the last candidates that are seen. -/
theorem map_candidateLists_lastChanged (entries : List (Instance σ)) (further : List σ) :
    candidateLists (lastChanged entries (.alternatives further)) =
      (amendLast? (fun candidates => some (candidates ++ further)) (candidateLists entries)).getD
        (candidateLists entries) := by
  have reached : (amendLast? (Instance.amend (Change.alternatives further).amendment) entries).map candidateLists =
      amendLast? (fun candidates => some (candidates ++ further)) (candidateLists entries) := by
    refine filterMap_amendLast? fun entry _ => ?_
    obtain ⟨own, arguments⟩ := entry
    cases own <;> rfl
  rw [← reached, lastChanged]
  cases amendLast? (Instance.amend (Change.alternatives further).amendment) entries <;> rfl

end Instance

/-- An amendment that always applies reaches the last entry. -/
theorem getLast?_amendLast? {ι : Type} (f : ι → ι) (entries : List ι) :
    ((amendLast? (fun entry => some (f entry)) entries).getD entries).getLast? = entries.getLast?.map f ∧
      ((amendLast? (fun entry => some (f entry)) entries).getD entries).length = entries.length := by
  induction entries with
  | nil => exact ⟨rfl, rfl⟩
  | cons entry rest ih =>
      rw [amendLast?]
      cases rest with
      | nil => exact ⟨rfl, rfl⟩
      | cons second rest =>
          have reached : ∃ others, amendLast? (fun entry => some (f entry)) (second :: rest) = some others := by
            rw [amendLast?]
            cases amendLast? (fun entry => some (f entry)) rest with
            | some others => exact ⟨_, rfl⟩
            | none => exact ⟨_, rfl⟩
          obtain ⟨others, made⟩ := reached
          rw [made, Option.getD_some] at ih
          rw [made, Option.getD_some, List.length_cons, List.length_cons, ih.2]
          refine ⟨?_, rfl⟩
          have there : others ≠ [] := List.ne_nil_of_length_pos (ih.2 ▸ Nat.succ_pos _)
          obtain ⟨head, tail, rfl⟩ := List.exists_cons_of_ne_nil there
          rw [List.getLast?_cons_cons, List.getLast?_cons_cons, ih.1]

namespace Nominations

/-- What the nominations so far tell of the alternatives that have been wired: the last ones have the candidates, and
there are no more of them than calls. -/
structure Told (nominations : List (Nomination σ)) (state : Siblings (Instance σ)) : Prop where
  last : (Instance.candidateLists state.before).getLast? = candidates? nominations
  few : (Instance.candidateLists state.before).length ≤ nominations.countP Nomination.isFirst

variable [Identified σ] {nominations : List (Nomination σ)} {entry : Instance σ} {deed : Deed σ}
  {before after : List (Instance σ)}

/-- New alternatives come last; earlier ones that are the same call again leave. -/
theorem Told.afterRound_alternatives (told : Told nominations ⟨before, entry :: after⟩) {schemas : List σ}
    (begins : deed = .alone (.alternatives schemas)) :
    Told (nominations ++ [.first schemas]) (entry.afterRound deed before after) := by
  subst begins
  have outcome : ((Deed.alone (.alternatives schemas)).onBefore before).2 = before :=
    congrArg (fun performed => performed.2.before) (Deed.perform_alone (.alternatives schemas) ⟨before, after⟩)
  have left : Instance.candidateLists (entry.afterRound (.alone (.alternatives schemas)) before after).before =
      Instance.candidateLists (before.filter fun other =>
        !Instance.wiring.same other (entry.wiredBy (.alone (.alternatives schemas)) ⟨before, after⟩)) ++ [schemas] := by
    rw [Instance.before_afterRound_of_operates rfl, outcome, Instance.candidateLists, List.filterMap_append]
    rfl
  constructor
  · rw [left, List.getLast?_concat, candidates?_concat]
    rfl
  · rw [left, List.length_append, List.countP_append]
    exact Nat.add_le_add_right
      (((List.filter_sublist).filterMap _).length_le.trans told.few) 1

/-- Further alternatives go to the last ones. -/
theorem Told.afterRound_further (told : Told nominations ⟨before, entry :: after⟩) {further : List σ}
    (adds : deed = .modifying [] [.alternatives further] .furtherAlternatives) :
    Told (nominations ++ [.further further]) (entry.afterRound deed before after) := by
  have outcome : Instance.candidateLists (entry.afterRound deed before after).before =
      (amendLast? (fun candidates => some (candidates ++ further)) (Instance.candidateLists before)).getD
        (Instance.candidateLists before) := by
    have idle : (entry.wiredBy deed ⟨before, after⟩).rule.operates = false := by rw [adds]; rfl
    have all : (deed.onBefore before).2 = lastChanged (before.map deed.onEach) (.alternatives further) := by
      rw [adds]
      rfl
    rw [Instance.before_afterRound_of_idle idle, all, Deed.map_onEach_of_silent (adds ▸ rfl),
      Instance.map_candidateLists_lastChanged]
  obtain ⟨last, length⟩ := getLast?_amendLast? (· ++ further) (Instance.candidateLists before)
  constructor
  · rw [outcome, last, told.last, candidates?_concat]
    rfl
  · rw [outcome, length, List.countP_append]
    exact told.few.trans (Nat.le_add_right _ _)

/-- Any other rule leaves the alternatives as they are. -/
theorem Told.afterRound_other (told : Told nominations ⟨before, entry :: after⟩)
    (standard : ∀ other ∈ before ++ entry :: after, other.IsStandard) (found : entry.deed = .ok deed)
    (none : entry.rule.candidates? = none) (other : entry.rule ≠ .furtherAlternatives) :
    Told nominations (entry.afterRound deed before after) := by
  have earlier : ∀ other ∈ before, other.IsStandard :=
    fun other member => standard other (List.mem_append_left _ member)
  have own := standard entry (List.mem_append_right _ List.mem_cons_self)
  rw [← Option.not_isSome_iff_eq_none, Rule.isSome_candidates?] at none
  have wired : (entry.wiredBy deed ⟨before, after⟩).rule.candidates? = Option.none := by
    rw [← Option.not_isSome_iff_eq_none, Rule.isSome_candidates?, (Prod.mk.inj (Instance.call_wiredBy own found _)).1]
    exact none
  have same : Instance.candidateLists (entry.afterRound deed before after).before =
      Instance.candidateLists before := by
    unfold Instance.candidateLists
    rw [Instance.filterMap_before_afterRound own earlier found, wired, Option.toList_none, ite_self, List.append_nil]
    · refine Instance.isView_candidates?.filterMap_becomes earlier (fun change member => ?_)
        (deed.becomes_onBefore before)
      exact Rule.onCandidates_of_makes other ((Rule.does_of_deed found).makes change member)
    · intro _ other _ seen alike
      exact none (alike ▸ (Rule.isSome_candidates? _).mp seen)
  exact ⟨same ▸ told.last, same ▸ told.few⟩

/-- A round goes on with the nomination of its call. -/
theorem Told.afterRound (told : Told nominations ⟨before, entry :: after⟩)
    (standard : ∀ other ∈ before ++ entry :: after, other.IsStandard) (found : entry.deed = .ok deed) :
    Told (nominations ++ entry.nomination?.toList) (entry.afterRound deed before after) := by
  have does : entry.rule.deed entry.arguments = .ok deed := found
  cases rule : entry.rule with
  | alternatives old =>
      rw [rule] at does
      obtain ⟨schemas, read, begins⟩ := Rule.exists_of_map_eq_ok does
      rw [Instance.nomination?, rule, Rule.nomination?, read]
      exact told.afterRound_alternatives begins.symm
  | furtherAlternatives =>
      rw [rule] at does
      obtain ⟨further, read, adds⟩ := Rule.exists_of_map_eq_ok does
      rw [Instance.nomination?, rule, Rule.nomination?, read]
      exact told.afterRound_further adds.symm
  | _ =>
      have nothing : entry.nomination?.toList = [] := by rw [Instance.nomination?, rule]; rfl
      rw [nothing, List.append_nil]
      exact told.afterRound_other standard found (by rw [rule]; rfl) (by rw [rule]; exact nofun)

end Nominations

namespace Instance

/-- Rules that nominate candidates are in the last tier. -/
theorem priority_of_nomination? {entry : Instance σ} {nomination : Nomination σ}
    (said : entry.nomination? = some nomination) : entry.rule.priority = 100 := by
  obtain ⟨rule, arguments⟩ := entry
  cases rule <;> first | rfl | cases said

variable [Identified σ]

/-- **The candidates.**  The last alternatives that come out of an assembly have the candidates that the calls nominate,
and no more alternatives come out than are called for. -/
theorem candidateLists_assemble {entries kept : List (Instance σ)} (standard : ∀ entry ∈ entries, entry.IsStandard)
    (assembled : assemble entries = .ok kept) :
    (candidateLists kept).getLast? = Nominations.candidates? (entries.filterMap nomination?) ∧
      (candidateLists kept).length ≤ (entries.filterMap nomination?).countP Nomination.isFirst := by
  obtain ⟨state, rfl, told⟩ := assemble_told Nominations.Told nomination?_of_call
    (fun standard found told => told.afterRound standard found) standard assembled ⟨rfl, Nat.le_refl 0⟩
  rw [wiring.filterMap_ordered_of_level fun entry nomination said => priority_of_nomination? said] at told
  exact ⟨told.last, told.few⟩

end Instance

end Vetting

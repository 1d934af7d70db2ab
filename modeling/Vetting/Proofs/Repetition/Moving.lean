import Vetting.Proofs.Assembly.Invariants
import Vetting.Proofs.Repetition.Meddling
import Vetting.Proofs.Repetition.Verdicts

/-!
# Rules that can be moved

A rule is steady about a value if it accepts that very value or turns it down (`Rule.Steady`).  Steady rules
can be asked in any order (`passes_move`).  So are rules that only test (`Rule.steady_of_tests`), and without
conversion all rules of the last tier, about values that are there (`Rule.steady_of_not_convert`).
-/

namespace Vetting

variable {σ : Type} {setting : Setting} {path : Path} {value accepted about : Value} {verdict : Verdict}

namespace Rule

/-- All the good that the rule can say of the value is that it passes, as it is. -/
def Steady (setting : Setting) (path : Path) (value : Value) (rule : Rule Checked) : Prop :=
  ∀ about verdict, (rule.attempt setting path value).answer = (about, .ok verdict) →
    about = value ∧ (verdict = .pass ∨ verdict = .replace value)

/-- The rule says something good of the value. -/
def Accepts (setting : Setting) (path : Path) (value : Value) (rule : Rule Checked) : Prop :=
  ∃ about verdict, (rule.attempt setting path value).answer = (about, .ok verdict)

end Rule

/-- A rule that is steady about a value either accepts it, and the others are asked about it, or turns it down. -/
theorem passes_cons_of_steady {rule : Rule Checked} {rest : List (Rule Checked)}
    (steady : rule.Steady setting path value) :
    Passes setting path (rule :: rest) value accepted ↔
      rule.Accepts setting path value ∧ Passes setting path rest value accepted := by
  rw [passes_cons]
  constructor
  · rintro ⟨about, verdict, said, leads⟩
    refine ⟨⟨about, verdict, said⟩, ?_⟩
    obtain ⟨rfl, rfl | rfl⟩ := steady about verdict said
    · exact leads
    · exact leads
  · rintro ⟨⟨about, verdict, said⟩, rest⟩
    refine ⟨about, verdict, said, ?_⟩
    obtain ⟨rfl, rfl | rfl⟩ := steady about verdict said
    · exact rest
    · exact rest

/-- Steady rules let a value pass together if each of them does. -/
theorem passes_append_of_steady {rules rest : List (Rule Checked)}
    (steady : ∀ rule ∈ rules, rule.Steady setting path value) :
    Passes setting path (rules ++ rest) value accepted ↔
      (∀ rule ∈ rules, rule.Accepts setting path value) ∧ Passes setting path rest value accepted := by
  induction rules with
  | nil => simp only [List.nil_append, List.not_mem_nil, false_implies, implies_true, true_and]
  | cons rule others ih =>
      rw [List.cons_append, passes_cons_of_steady (steady rule List.mem_cons_self),
        ih fun other member => steady other (List.mem_cons_of_mem _ member), List.forall_mem_cons, and_assoc]

/-- Steady rules can be asked in any order. -/
theorem passes_move {rule : Rule Checked} {rules : List (Rule Checked)}
    (steady : ∀ other ∈ rule :: rules, other.Steady setting path value) :
    Passes setting path (rule :: rules) value accepted ↔ Passes setting path (rules ++ [rule]) value accepted := by
  have first : ∀ other ∈ rules, other.Steady setting path value :=
    fun other member => steady other (List.mem_cons_of_mem _ member)
  rw [passes_cons_of_steady (steady rule List.mem_cons_self), passes_append_of_steady first,
    passes_cons_of_steady (steady rule List.mem_cons_self), ← List.append_nil rules,
    passes_append_of_steady first, List.append_nil]
  tauto

/-- What lets the same values pass does so behind the same rules, as far as these lead to such values. -/
theorem passes_append {front first second : List (Rule Checked)} {holds : Value → Prop} (start : holds value)
    (leads : ∀ rule ∈ front, ∀ value about verdict, holds value →
      (rule.attempt setting path value).answer = (about, .ok verdict) → verdict.LeadsTo holds about about)
    (same : ∀ value, holds value →
      (Passes setting path first value accepted ↔ Passes setting path second value accepted)) :
    Passes setting path (front ++ first) value accepted ↔ Passes setting path (front ++ second) value accepted := by
  induction front generalizing value with
  | nil => exact same value start
  | cons rule rest ih =>
      rw [List.cons_append, List.cons_append, passes_cons, passes_cons]
      refine exists_congr fun about => exists_congr fun verdict => and_congr_right fun said => ?_
      have further := leads rule List.mem_cons_self value about verdict start said
      have later := fun other member => leads other (List.mem_cons_of_mem rule member)
      cases verdict with
      | pass => exact ih further later
      | replace next => exact ih further later
      | abort => exact Iff.rfl

/-! ## Steady rules -/

/-- The check may offer another value. -/
def Check.offers : Check → Bool
  | number | boolean | date | lowercase | uppercase | trimmed => true
  | _ => false

theorem Check.convert?_of_not_offers {test : Check} (modest : test.offers = false) (value : Value) :
    test.convert? value = none := by
  cases test <;> first | rfl | cases modest

namespace Rule

/-- The rule lets a value pass as it is, or turns it down. -/
def tests {τ : Type} (rule : Rule τ) : Bool :=
  match rule with
  | listing .invalid _ _ => true
  | _ => rule.isPlain

/-- The rule may offer another value; an array does so only where `single` is called. -/
def offers {τ : Type} (single : Bool) : Rule τ → Bool
  | array _ _ => single
  | precision _ => true
  | check test => test.offers
  | _ => false

@[simp] theorem tests_unwired {τ : Type} (rule : Rule τ) : rule.unwired.tests = rule.tests := by
  cases rule with
  | listing kind set operating => cases kind <;> rfl
  | _ => rfl

@[simp] theorem offers_unwired {τ : Type} (single : Bool) (rule : Rule τ) :
    rule.unwired.offers single = rule.offers single := by
  cases rule <;> rfl

/-- Rules that only test are steady about every value, if they offer nothing. -/
theorem steady_of_tests {rule : Rule σ} (tests : rule.tests = true) (translate : σ → Checked)
    (nothing : setting.convert = true → ∀ value, rule.convert? value = none) :
    (rule.map translate).Steady setting path value := by
  intro about verdict said
  have offer : (rule.map translate).convert? value = rule.convert? value := by
    cases rule <;> rfl
  rcases answer_attempt_eq_ok.mp said with ⟨rfl, judged⟩ | ⟨-, on, offered, -⟩
  · refine ⟨rfl, .inl ?_⟩
    cases rule with
    | listing kind set operating =>
        cases kind with
        | invalid => exact (Judging.immediate_ofBool _ _ _ _).tests.pass_of_ok judged
        | valid | allow => cases tests
    | optional _ | alternatives _ | keys _ | pattern _ | items _ | ordered _ | declared _ => cases tests
    | _ => exact (judge_tests (by rfl) _ _ _).pass_of_ok judged
  · rw [offer, nothing on value] at offered
    cases offered

variable {translate : σ → Checked} {rule : Rule σ}

/-- Without conversion a rule has no other form of a value that is there. -/
theorem leaves_of_attempt (off : setting.convert = false) (present : value.isPresent = true)
    (preserves : ∀ part, (translate part).Preserves) (standard : rule.unwired ∈ Ruleset.standardRules)
    (said : ((rule.map translate).attempt setting path value).answer = (about, .ok verdict)) :
    about = value ∧ verdict.Leaves value := by
  rcases answer_attempt_eq_ok.mp said with ⟨rfl, judged⟩ | ⟨-, on, -⟩
  · exact ⟨rfl, leaves_of_judge off (fun part outcome => preserves part present) standard judged⟩
  · exact absurd (off.symm.trans on) Bool.false_ne_true

/-- Without conversion rules of the last tier are steady about values that are there. -/
theorem steady_of_not_convert (off : setting.convert = false) (present : value.isPresent = true)
    (preserves : ∀ part, (translate part).Preserves) (standard : rule.unwired ∈ Ruleset.standardRules)
    (last : rule.priority = 100) : (rule.map translate).Steady setting path value := by
  intro about verdict said
  obtain ⟨rfl, leaves⟩ := leaves_of_attempt off present preserves standard said
  refine ⟨rfl, ?_⟩
  rcases answer_attempt_eq_ok.mp said with ⟨-, judged⟩ | ⟨-, on, -⟩
  · rcases verdict_of_judge (ne_declared_of_map (ne_declared_of_standard standard)) judged with
      rfl | ⟨-, early⟩ | ⟨next, rfl, -⟩
    · exact .inl rfl
    · exact absurd ((priority_map translate rule).trans last) early
    · exact .inr (congrArg Verdict.replace leaves)
  · exact absurd (off.symm.trans on) Bool.false_ne_true

end Rule

/-! ## Arrays without `single` -/

namespace Instance

/-- The rule takes no single item for a whole array, and does not make another one do so. -/
structure Modest (entry : Instance σ) : Prop where
  standard : entry.IsStandard
  other : entry.rule.unwired ≠ .allowSingle
  modest : ∀ one holes, entry.rule = .array one holes → one = false

variable {entry other next : Instance σ} {deed : Deed σ} {change : Change σ}

/-- An instance is modest after a change by a modest one. -/
theorem Modest.amended (entryModest : entry.Modest) (found : entry.deed = .ok deed) (member : change ∈ deed.changes)
    (modest : other.Modest) (made : other.amend change.amendment = some next) : next.Modest := by
  have call := keeps_call change.keeps made
  refine ⟨modest.standard.of_call_eq call, (Prod.mk.inj call).1 ▸ modest.other, ?_⟩
  obtain ⟨rule, amended, rfl⟩ := Option.map_eq_some_iff.mp made
  obtain ⟨old, arguments⟩ := other
  intro one holes same
  obtain rfl : rule = .array one holes := same
  cases old with
  | array before sparse =>
      cases change with
      | sparse allow =>
          cases amended
          exact modest.modest _ _ rfl
      | single allow =>
          have maker := Rule.eq_allowSingle_of_makes ((Rule.does_of_deed found).makes _ member)
          exact absurd (by rw [maker]; rfl) entryModest.other
      | _ => cases amended
  | _ => exact nomatch change.keeps amended

variable [Identified σ]

/-- A modest instance is modest when it is wired. -/
theorem Modest.wired (modest : entry.Modest) (found : entry.deed = .ok deed) (siblings : Siblings (Instance σ)) :
    (entry.wiredBy deed siblings).Modest := by
  have call := call_wiredBy modest.standard found siblings
  refine ⟨modest.standard.of_call_eq call, (Prod.mk.inj call).1 ▸ modest.other, ?_⟩
  intro one holes same
  obtain ⟨rule, arguments⟩ := entry
  cases rule with
  | array before sparse =>
      obtain rfl := Except.ok.inj found
      obtain ⟨rfl, -⟩ := Rule.array.inj same
      exact modest.modest before sparse rfl
  | _ =>
      have sort := (Prod.mk.inj call).1
      rw [same] at sort
      cases sort

/-- Where `single` is not called, no array of an assembly takes a single item for a whole array. -/
theorem modest_assemble {entries kept : List (Instance σ)} (start : ∀ entry ∈ entries, entry.Modest)
    (assembled : assemble entries = .ok kept) : ∀ entry ∈ kept, entry.Modest :=
  forall_assemble (fun _ modest => modest.standard)
    (fun entryModest found member modest made => entryModest.amended found member modest made)
    (fun siblings modest found => modest.wired found siblings) start assembled

end Instance

/-- A rule that is not said to offer anything offers nothing. -/
theorem Rule.convert?_of_not_offers {rule : Rule σ} {single : Bool} (modest : rule.offers single = false)
    (known : ∀ declaration, rule ≠ .declared declaration)
    (whole : single = false → ∀ one holes, rule = .array one holes → one = false) (value : Value) :
    rule.convert? value = none := by
  cases rule with
  | array one holes =>
      obtain rfl : single = false := modest
      obtain rfl := whole rfl one holes rfl
      rfl
  | precision places => cases modest
  | check test => exact test.convert?_of_not_offers modest value
  | declared declaration => exact absurd rfl (known declaration)
  | _ => rfl

end Vetting

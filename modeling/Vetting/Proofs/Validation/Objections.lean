import Vetting.Proofs.Validation.Inquiry

/-!
# What rules object to

A standard rule that asks no schema inside it judges a value in the same way wherever the value stands
(`Rule.unaided_judge`): it says something good, it leaves the value to a predicate, or it makes one of the
objections of standard rules, each with a name and particulars of its own (`Objection`).  The place of the value
shows in the report alone.
-/

namespace Vetting

variable {σ : Type} {setting : Setting} {value : Value}

/-- What a standard rule may object to in a value, without asking a schema or a predicate: the name under which it
objects, and the particulars. -/
inductive Objection : String → Context → Prop where
  | check (test : Check) : Objection test.name []
  | unlisted (allowed : List Value) : Objection "valid" [("allowed", .array allowed)]
  | listed (value : Value) : Objection "invalid" [("value", value)]
  | alternatives : Objection "alternatives" []
  | keys : Objection "object.keys" []
  | pattern : Objection "object.pattern" []
  | stranger (name : String) : Objection "object.unknown" [("key", .string name)]
  | array : Objection "array" []
  | ordered (count expected : Nat) :
      Objection "array.ordered" [("length", .ofNat count), ("expected", .ofNat expected)]
  | duplicate (item : Value) (place : Nat) :
      Objection "array.unique" [("violator", .ofEntries [("value", item), ("index", .ofNat place)])]
  | uncounted (measure : Measure) (bound : Bound) : Objection (bound.ruleName measure) []
  | length (measure : Measure) (bound : Bound) (count limit : Nat) :
      Objection (bound.ruleName measure) [(measure.name, .ofNat count), (bound.name, .ofNat limit)]
  | number (comparison : Comparison) (limit : Float) :
      Objection comparison.ruleName [(comparison.name, .number limit)]
  | multiple (base : Float) : Objection "number.multiple" [("multiple", .number base)]
  | precision (places limit : Nat) :
      Objection "number.precision" [("precision", .ofNat places), ("limit", .ofNat limit)]
  | regex (source : String) : Objection "string.regex" [("regEx", .string source)]
  | address (reason : String) (allowed : Value) :
      Objection "string.ip" [("reason", .string reason), ("allowed", allowed)]
  | reference (reason : String) (allowed : Value) :
      Objection "string.uri" [("reason", .string reason), ("allowed", allowed)]

namespace Objection

variable {rule : String} {particulars : Context}

/-- No objection is made in the name of predicates. -/
theorem name_ne_custom (objection : Objection rule particulars) : rule ≠ "custom" := by
  cases objection with
  | check test => cases test <;> decide
  | uncounted measure bound | length measure bound => cases bound <;> cases measure <;> decide
  | number comparison => cases comparison <;> decide
  | _ => decide

/-- Only a member that has no place in its object is called by another name than that of the place. -/
theorem key_not_mem (objection : Objection rule particulars) (known : rule ≠ "object.unknown") :
    "key" ∉ particulars.names := by
  cases objection with
  | stranger => exact absurd rfl known
  | length measure bound => cases measure <;> cases bound <;> simp [Members.names, Measure.name, Bound.name]
  | number comparison => cases comparison <;> simp [Members.names, Comparison.name]
  | check | alternatives | keys | pattern | array | uncounted => exact List.not_mem_nil
  | _ => simp [Members.names]

/-- A member that has no place in its object is called by its own name. -/
theorem eq_stranger (objection : Objection rule particulars) (unknown : rule = "object.unknown") :
    ∃ name, particulars = [("key", .string name)] := by
  cases objection with
  | stranger name => exact ⟨name, rfl⟩
  | check test => cases test <;> exact absurd unknown (by decide)
  | uncounted measure bound | length measure bound =>
      cases bound <;> cases measure <;> exact absurd unknown (by decide)
  | number comparison => cases comparison <;> exact absurd unknown (by decide)
  | _ => exact absurd unknown (by decide)

end Objection

/-- A predicate has refused the value at the place, in these words. -/
def Report.ofRefusal (words : String) (path : Path) : Report :=
  (ofRule "custom" path [("message", .string words)]).attach fun _ => some words

/-- The judgement is the same at every place: something good, an objection, or whatever a predicate says. -/
inductive Judging.Unaided (judge : Path → Judging) : Prop where
  | answers (verdict : Verdict) (same : ∀ path, judge path = say verdict)
  | objects {rule : String} {particulars : Context} (objection : Objection rule particulars)
      (same : ∀ path, judge path = fail path rule particulars)
  | leaves (predicate : Predicate) (value : Value) (same : ∀ path, judge path = predicate.toJudging path value)

namespace Judging

/-- A good verdict is the same at every place. -/
theorem unaided_say (verdict : Verdict) : Unaided fun _ => say verdict :=
  .answers verdict fun _ => rfl

/-- A failure that is an objection is the same at every place. -/
theorem unaided_fail {rule : String} {particulars : Context} (objection : Objection rule particulars) :
    Unaided fun path => fail path rule particulars :=
  .objects objection fun _ => rfl

/-- A decision by a switch is the same at every place. -/
theorem unaided_ofBool (passes : Bool) {rule : String} {particulars : Context}
    (objection : Objection rule particulars) : Unaided fun path => ofBool passes path rule particulars := by
  cases passes with
  | true => exact unaided_say .pass
  | false => exact unaided_fail objection

/-- Judgements that agree at every place are unaided together. -/
theorem Unaided.congr {judge other : Path → Judging} (unaided : Unaided judge)
    (same : ∀ path, other path = judge path) : Unaided other :=
  funext same ▸ unaided

end Judging

open Judging

/-! ## Rules that judge by themselves -/

/-- A list of values objects unaided. -/
theorem Listing.unaided_judge (kind : Listing) (set : ListedValues) :
    Unaided fun path => kind.judge set path value := by
  cases kind with
  | valid =>
      simp only [judge]
      split
      · exact unaided_say .abort
      · exact unaided_fail (.unlisted set.values)
  | invalid => exact unaided_ofBool _ (.listed value)
  | allow => exact unaided_say _

/-- The search for a duplicate objects unaided. -/
theorem Criterion.unaided_judge (criterion : Criterion) : Unaided fun path => criterion.judge path value := by
  simp only [judge]
  split
  · exact unaided_fail .array
  · split
    · exact unaided_say .pass
    · exact unaided_fail (.duplicate _ _)

/-- A count objects unaided. -/
theorem unaided_judgeLength (measure : Measure) (bound : Bound) (limit : Nat) :
    Unaided fun path => judgeLength measure bound limit path value := by
  simp only [judgeLength]
  split
  · exact unaided_fail (.uncounted measure bound)
  · exact unaided_ofBool _ (.length measure bound _ limit)

/-- Decimal places are objected to unaided. -/
theorem unaided_judgePrecision (limit : Nat) : Unaided fun path => judgePrecision limit path value := by
  simp only [judgePrecision]
  split
  · exact unaided_fail (.check .number)
  · exact unaided_ofBool _ (.precision _ limit)

/-- Addresses are objected to unaided. -/
theorem AddressOptions.unaided_judge (options : AddressOptions) : Unaided fun path => options.judge path value := by
  simp only [judge]
  split
  · exact unaided_say .pass
  · exact unaided_fail (.address _ options.versionNames)

/-- References are objected to unaided. -/
theorem ReferenceOptions.unaided_judge (options : ReferenceOptions) :
    Unaided fun path => options.judge path value := by
  simp only [judge]
  split
  · exact unaided_say .pass
  · exact unaided_fail (.reference _ options.schemeNames)

/-- A stranger is turned down unaided. -/
theorem unaided_turnDown {rule : String} (objection : Objection rule []) (stranger? : Option String) :
    Unaided fun path => turnDown path rule stranger? := by
  cases stranger? with
  | none => exact unaided_fail objection
  | some name => exact unaided_fail (.stranger name)

/-- A pattern that asks nothing objects unaided. -/
theorem PatternRule.unaided_judge {rule : PatternRule σ} (asks : rule.inquiry? value = none) (translate : σ → Checked) :
    Unaided fun path => ((Rule.pattern rule).map translate).judge setting path value := by
  cases matched : rule.match? with
  | none =>
      refine (unaided_say .pass).congr fun path => ?_
      rw [judge_of_no_inquiry asks, matched]
  | some names =>
      refine (unaided_turnDown .pattern (value.asMembers?.bind (rule.stranger? names.1))).congr fun path => ?_
      rw [judge_of_no_inquiry asks, matched]

/-- Ordered items that are not asked about are objected to unaided. -/
theorem unaided_judgeOrdered {parts : List σ} (asks : orderedInquiry? parts value = none) (translate : σ → Checked) :
    Unaided fun path => ((Rule.ordered parts).map translate).judge setting path value := by
  cases found : value.asItems? with
  | none =>
      refine (unaided_fail .array).congr fun path => ?_
      rw [judge_of_no_orderedInquiry asks, found]
  | some items =>
      refine (unaided_fail (.ordered items.length parts.length)).congr fun path => ?_
      rw [judge_of_no_orderedInquiry asks, found]

/-- **A rule that asks no schema judges everywhere alike.**  It says something good, makes an objection, or leaves
the value to a predicate, and where the value stands makes no difference. -/
theorem Rule.unaided_judge {rule : Rule σ} (asks : rule.inquiry? value = none)
    (single : ∀ parts, rule ≠ .alternatives parts) (standard : ∀ declaration, rule ≠ .declared declaration)
    (translate : σ → Checked) :
    Unaided fun path => (rule.map translate).judge setting path value := by
  cases rule with
  | alternatives parts => exact absurd rfl (single parts)
  | declared declaration => exact absurd rfl (standard declaration)
  | keys rule => exact (unaided_turnDown .keys _).congr fun path => KeyRule.judge_of_no_inquiry asks translate
  | pattern rule => exact PatternRule.unaided_judge asks translate
  | items part =>
      cases part with
      | none => exact unaided_say .pass
      | some part =>
          have none := Option.map_eq_none_iff.mp asks
          refine (unaided_fail .array).congr fun path => ?_
          simp only [map, Option.map_some, judge, judgeEach, none]
  | ordered parts => exact unaided_judgeOrdered asks translate
  | optional enabled => exact unaided_say _
  | listing kind set operating => exact kind.unaided_judge set
  | custom predicate =>
      cases predicate with
      | none => exact unaided_say .pass
      | some predicate => exact .leaves predicate value fun _ => rfl
  | regex expression =>
      cases expression with
      | none => exact unaided_say .pass
      | some expression => exact unaided_ofBool _ (.regex expression.source)
  | array single sparse => exact unaided_ofBool _ .array
  | unique criterion => exact criterion.unaided_judge
  | length measure bound limit => exact unaided_judgeLength measure bound limit
  | number comparison limit => exact unaided_ofBool _ (.number comparison limit)
  | multiple base => exact unaided_ofBool _ (.multiple base)
  | precision places => exact unaided_judgePrecision places
  | address options => exact options.unaided_judge
  | reference options => exact options.unaided_judge
  | check test => exact unaided_ofBool _ (.check test)
  | any | standIn _ _ | furtherAlternatives | allowUnknown | allowSparse | allowSingle | insensitive =>
      exact unaided_say .pass

end Vetting

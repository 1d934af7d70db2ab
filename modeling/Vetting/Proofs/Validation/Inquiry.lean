import Vetting.Proofs.Validation.Conversion

/-!
# What rules ask of the schemas inside them

A rule over the parts of an object or of an array asks the schemas inside it about values one step below the
judged one: a member of an object, which may be absent, or an item of an array.  What it asks depends on the
value alone and not on what the schemas come to (`Rule.inquiry?`), and its judgement is the join of their
answers (`Rule.judge_of_inquiry`).  A rule that asks nothing judges by itself
(`Rule.judge_of_no_inquiry`); only alternatives ask their schemas about the very value.
-/

namespace Vetting

variable {σ τ : Type} {setting : Setting} {path : Path} {value : Value}

/-! ## Walking in a value -/

/-- The value one step below: a member of an object, undefined if it has none of that name, or an item of an
array. -/
def Value.below? : Value → Step → Option Value
  | .object members, .key name => some ((Members.get? members name).getD .undefined)
  | .array items, .index place => items[place]?
  | _, _ => none

/-- The value at the end of a path. -/
def Value.follow? (value : Value) : Path → Option Value
  | [] => some value
  | step :: rest => (value.below? step).bind fun inner => inner.follow? rest

/-! ## Inquiries -/

/-- A value one step below the judged one, and the schema that has to accept it. -/
structure Question (σ : Type) where
  part : σ
  step : Step
  value : Value

/-- What a rule asks of the schemas inside it, and what it makes of the values that they accept. -/
structure Inquiry (σ : Type) where
  questions : List (Question σ)
  rebuild : List Value → Value

namespace Inquiry

/-- Asks about the members of an object. -/
def ofMembers (members : Members Value) (parts : Members σ) : Inquiry σ where
  questions := parts.map fun (name, part) => ⟨part, .key name, (members.get? name).getD .undefined⟩
  rebuild accepted := .object (writeBack members (parts.names.zip accepted))

/-- Asks about the items of an array. -/
def ofItems (items : List (Value × σ)) : Inquiry σ where
  questions := items.zipIdx.map fun ((item, part), place) => ⟨part, .index place, item⟩
  rebuild := .array

/-- The inquiry with a translation of every schema in it. -/
def map (f : σ → τ) (inquiry : Inquiry σ) : Inquiry τ where
  questions := inquiry.questions.map fun question => { question with part := f question.part }
  rebuild := inquiry.rebuild

/-- Questions about members are translated one by one. -/
theorem map_ofMembers (f : σ → τ) (members : Members Value) (parts : Members σ) :
    (ofMembers members parts).map f = ofMembers members (parts.map fun (name, part) => (name, f part)) := by
  simp only [map, ofMembers, Members.names, List.map_map, Function.comp_def]

/-- Questions about items are translated one by one. -/
theorem map_ofItems (f : σ → τ) (items : List (Value × σ)) :
    (ofItems items).map f = ofItems (items.map fun (item, part) => (item, f part)) := by
  simp only [map, ofItems, List.zipIdx_map, List.map_map, Function.comp_def, Prod.map, id]

/-- Every question is about a value one step below. -/
def Descends (value : Value) (inquiry : Inquiry σ) : Prop :=
  ∀ question ∈ inquiry.questions, value.below? question.step = some question.value

/-- Questions about members are about the object that has them. -/
theorem descends_ofMembers (members : Members Value) (parts : Members σ) :
    (ofMembers members parts).Descends (.object members) := by
  intro question asked
  obtain ⟨⟨name, part⟩, -, rfl⟩ := List.mem_map.mp asked
  rfl

/-- Questions about items are about the array that has them. -/
theorem descends_ofItems {items : List Value} {pairs : List (Value × σ)} (same : pairs.map Prod.fst = items) :
    (ofItems pairs).Descends (.array items) := by
  intro question asked
  obtain ⟨⟨⟨item, part⟩, place⟩, found, rfl⟩ := List.mem_map.mp asked
  change items[place]? = some item
  rw [← same, List.getElem?_map, List.mem_zipIdx_iff_getElem?.mp found]
  rfl

end Inquiry

/-- What the schemas inside say of the values that they are asked about. -/
def Inquiry.judge (inquiry : Inquiry σ) (translate : σ → Checked) (setting : Setting) (path : Path) : Judging :=
  .ofParts setting
    (inquiry.questions.map fun question =>
      (translate question.part).accept (path ++ [question.step]) question.value)
    inquiry.rebuild

/-- Judging members is asking about them. -/
theorem judgeMembers_eq (translate : σ → Checked) (setting : Setting) (path : Path) (members : Members Value)
    (parts : Members σ) :
    judgeMembers setting path members (parts.map fun (name, part) => (name, translate part)) =
      (Inquiry.ofMembers members parts).judge translate setting path := by
  have names : Members.names (parts.map fun (name, part) => (name, translate part)) = Members.names parts := by
    simp only [Members.names, List.map_map, Function.comp_def]
  simp only [judgeMembers, Inquiry.judge, Inquiry.ofMembers, names, List.map_map, Function.comp_def, Path.key]

/-- Judging items is asking about them. -/
theorem judgeItems_eq (translate : σ → Checked) (setting : Setting) (path : Path) (items : List (Value × σ)) :
    judgeItems setting path (items.map fun (item, part) => (item, translate part)) =
      (Inquiry.ofItems items).judge translate setting path := by
  simp only [judgeItems, Inquiry.judge, Inquiry.ofItems, List.zipIdx_map, List.map_map, Function.comp_def,
    Prod.map, Path.index, id]

/-! ## Rules -/

/-- What a key map asks of an object without strangers. -/
def KeyRule.inquiry? (rule : KeyRule σ) (value : Value) : Option (Inquiry σ) :=
  value.asMembers?.bind fun members =>
    match rule.stranger? members with
    | some _ => none
    | none => some (.ofMembers members rule.keys)

/-- The first member that has no place beside the pattern. -/
def PatternRule.stranger? (rule : PatternRule σ) (names : Regex) (members : Members Value) : Option String :=
  if rule.hasKeys || rule.allowsUnknown then none
  else members.names.find? fun name => !names.occursIn name

/-- What a pattern asks of an object without strangers. -/
def PatternRule.inquiry? (rule : PatternRule σ) (value : Value) : Option (Inquiry σ) :=
  rule.match?.bind fun (names, part) => value.asMembers?.bind fun members =>
    match rule.stranger? names members with
    | some _ => none
    | none => some (.ofMembers members ((members.names.filter names.occursIn).map fun name => (name, part)))

/-- What a row of schemas asks of an array of its length. -/
def orderedInquiry? (parts : List σ) (value : Value) : Option (Inquiry σ) :=
  value.asItems?.bind fun items =>
    if items.length = parts.length then some (.ofItems (items.zip parts)) else none

/-- What the rule asks of the schemas inside it, once the value is an object or an array that the rule itself
has nothing against. -/
def Rule.inquiry? (value : Value) : Rule σ → Option (Inquiry σ)
  | keys rule => rule.inquiry? value
  | pattern rule => rule.inquiry? value
  | items (some part) => value.asItems?.map fun items => .ofItems (items.map fun item => (item, part))
  | ordered parts => orderedInquiry? parts value
  | _ => none

/-- A container turns a value down for its kind, or an object for a member that has no place in it. -/
def turnDown (path : Path) (rule : String) : (stranger? : Option String) → Judging
  | none => .fail path rule []
  | some name => judgeUnknown path name

namespace KeyRule

variable {rule : KeyRule σ}

/-- A key map asks about the members of an object in which it knows every name. -/
theorem eq_of_inquiry {inquiry : Inquiry σ} (asks : rule.inquiry? value = some inquiry) :
    ∃ members, value = .object members ∧ rule.stranger? members = none ∧
      inquiry = .ofMembers members rule.keys := by
  obtain ⟨members, found, asks⟩ := Option.bind_eq_some_iff.mp asks
  refine ⟨members, Value.asMembers?_eq_some_iff.mp found, ?_⟩
  cases stranger : rule.stranger? members with
  | some name => simp only [stranger, reduceCtorEq] at asks
  | none =>
      simp only [stranger, Option.some.injEq] at asks
      exact ⟨rfl, asks.symm⟩

/-- A key map that asks nothing turns down a stranger, or what is no object. -/
theorem judge_of_no_inquiry (asks : rule.inquiry? value = none) (translate : σ → Checked) :
    ((Rule.keys rule).map translate).judge setting path value =
      turnDown path "object.keys" (value.asMembers?.bind rule.stranger?) := by
  simp only [Rule.map, Rule.judge, judge, stranger?_map]
  cases found : value.asMembers? with
  | none => rfl
  | some members =>
      cases stranger : rule.stranger? members with
      | some name => simp only [stranger, Option.bind_some, turnDown]
      | none => simp only [inquiry?, found, Option.bind_some, stranger, reduceCtorEq] at asks

end KeyRule

namespace PatternRule

variable {rule : PatternRule σ}

/-- A pattern asks about the members that have its names, if the others are no strangers to it. -/
theorem eq_of_inquiry {inquiry : Inquiry σ} (asks : rule.inquiry? value = some inquiry) :
    ∃ names part members, rule.match? = some (names, part) ∧ value = .object members ∧
      rule.stranger? names members = none ∧
      inquiry = .ofMembers members
        (((Members.names members).filter names.occursIn).map fun name => (name, part)) := by
  obtain ⟨⟨names, part⟩, matched, asks⟩ := Option.bind_eq_some_iff.mp asks
  obtain ⟨members, found, asks⟩ := Option.bind_eq_some_iff.mp asks
  refine ⟨names, part, members, matched, Value.asMembers?_eq_some_iff.mp found, ?_⟩
  cases stranger : rule.stranger? names members with
  | some name => simp only [stranger, reduceCtorEq] at asks
  | none =>
      simp only [stranger, Option.some.injEq] at asks
      exact ⟨rfl, asks.symm⟩

/-- A pattern turns an object with a stranger down, and otherwise asks about the members that it names. -/
theorem judge_object {names : Regex} {part : Checked} {rule : PatternRule Checked}
    (matched : rule.match? = some (names, part)) (members : Members Value) :
    rule.judge setting path (.object members) =
      match rule.stranger? names members with
      | some name => judgeUnknown path name
      | none => judgeMembers setting path members
          ((members.names.filter names.occursIn).map fun name => (name, part)) := by
  cases stranger : rule.stranger? names members <;> rw [stranger?] at stranger
  all_goals simp only [judge, matched, Value.asMembers?, stranger]

/-- A pattern that asks nothing turns down a stranger, or what is no object. -/
theorem judge_of_no_inquiry (asks : rule.inquiry? value = none) (translate : σ → Checked) :
    ((Rule.pattern rule).map translate).judge setting path value =
      match rule.match? with
      | none => .say .pass
      | some (names, _) => turnDown path "object.pattern" (value.asMembers?.bind (rule.stranger? names)) := by
  obtain ⟨match?, hasKeys, allowsUnknown⟩ := rule
  cases match? with
  | none => rfl
  | some names =>
      obtain ⟨names, part⟩ := names
      cases found : value.asMembers? with
      | none => simp only [Rule.map, Rule.judge, judge, Option.map_some, found, Option.bind_none, turnDown]
      | some members =>
          obtain rfl := Value.asMembers?_eq_some_iff.mp found
          simp only [inquiry?, Option.bind_some, found, stranger?] at asks
          simp only [Rule.map, Rule.judge]
          rw [judge_object rfl]
          simp only [stranger?, Option.bind_some]
          split
          next stranger =>
            rw [stranger]
            rfl
          next stranger =>
            rw [stranger] at asks
            cases asks

end PatternRule

/-- Ordered items are asked about if there are as many as schemas. -/
theorem eq_of_orderedInquiry {parts : List σ} {inquiry : Inquiry σ}
    (asks : orderedInquiry? parts value = some inquiry) :
    ∃ items, value = .array items ∧ items.length = parts.length ∧ inquiry = .ofItems (items.zip parts) := by
  obtain ⟨items, found, asks⟩ := Option.bind_eq_some_iff.mp asks
  split at asks
  next fits => exact ⟨items, Value.asItems?_eq_some_iff.mp found, fits, (Option.some.inj asks).symm⟩
  · cases asks

/-- Ordered items that are not asked about are turned down for their number, or because there is no array. -/
theorem judge_of_no_orderedInquiry {parts : List σ} (asks : orderedInquiry? parts value = none)
    (translate : σ → Checked) :
    ((Rule.ordered parts).map translate).judge setting path value =
      match value.asItems? with
      | none => .fail path "array" []
      | some items => .fail path "array.ordered"
        [("length", .ofNat items.length), ("expected", .ofNat parts.length)] := by
  simp only [Rule.map, Rule.judge, judgeOrdered, List.length_map]
  cases found : value.asItems? with
  | none => rfl
  | some items =>
      by_cases fits : items.length = parts.length
      · simp only [orderedInquiry?, found, Option.bind_some, fits, ↓reduceIte, reduceCtorEq] at asks
      · simp only [fits, ↓reduceIte]

namespace Rule

/-- A rule asks about values one step below only. -/
theorem descends_of_inquiry {rule : Rule σ} {inquiry : Inquiry σ} (asks : rule.inquiry? value = some inquiry) :
    inquiry.Descends value := by
  cases rule with
  | keys rule =>
      obtain ⟨members, rfl, -, rfl⟩ := KeyRule.eq_of_inquiry asks
      exact Inquiry.descends_ofMembers _ _
  | pattern rule =>
      obtain ⟨names, part, members, -, rfl, -, rfl⟩ := PatternRule.eq_of_inquiry asks
      exact Inquiry.descends_ofMembers _ _
  | items part =>
      cases part with
      | none => cases asks
      | some part =>
          obtain ⟨items, found, rfl⟩ := Option.map_eq_some_iff.mp asks
          obtain rfl := Value.asItems?_eq_some_iff.mp found
          apply Inquiry.descends_ofItems
          simp only [List.map_map, Function.comp_def, List.map_id']
  | ordered parts =>
      obtain ⟨items, rfl, fits, rfl⟩ := eq_of_orderedInquiry asks
      exact Inquiry.descends_ofItems (List.map_fst_zip (Nat.le_of_eq fits))
  | _ => cases asks

/-- A rule that asks the schemas inside it says what they say together. -/
theorem judge_of_inquiry {rule : Rule σ} {inquiry : Inquiry σ} (asks : rule.inquiry? value = some inquiry)
    (translate : σ → Checked) :
    (rule.map translate).judge setting path value = inquiry.judge translate setting path := by
  cases rule with
  | keys rule =>
      obtain ⟨members, rfl, stranger, rfl⟩ := KeyRule.eq_of_inquiry asks
      simp only [map, judge, KeyRule.judge, Value.asMembers?, KeyRule.stranger?_map, stranger]
      exact judgeMembers_eq translate setting path members rule.keys
  | pattern rule =>
      obtain ⟨names, part, members, matched, rfl, stranger, rfl⟩ := PatternRule.eq_of_inquiry asks
      obtain ⟨match?, hasKeys, allowsUnknown⟩ := rule
      obtain rfl : match? = some (names, part) := matched
      simp only [map, judge, Option.map_some]
      rw [PatternRule.judge_object rfl, ← judgeMembers_eq, List.map_map]
      simp only [PatternRule.stranger?] at stranger ⊢
      rw [stranger]
      rfl
  | items part =>
      cases part with
      | none => cases asks
      | some part =>
          obtain ⟨items, found, rfl⟩ := Option.map_eq_some_iff.mp asks
          simp only [map, Option.map_some, judge, judgeEach, found]
          rw [← judgeItems_eq, List.map_map]
          rfl
  | ordered parts =>
      obtain ⟨items, rfl, fits, rfl⟩ := eq_of_orderedInquiry asks
      simp only [map, judge, judgeOrdered, Value.asItems?, List.length_map, fits, ↓reduceIte]
      rw [← judgeItems_eq, List.zip_map_right]
      rfl
  | _ => cases asks

/-- A rule that asks nothing judges by itself, whatever the schemas inside come to; only alternatives ask
theirs about the very value. -/
theorem judge_of_no_inquiry {rule : Rule σ} (asks : rule.inquiry? value = none)
    (other : ∀ parts, rule ≠ .alternatives parts) (first second : σ → Checked) :
    (rule.map first).judge setting path value = (rule.map second).judge setting path value := by
  cases rule with
  | alternatives parts => exact absurd rfl (other parts)
  | keys rule => rw [KeyRule.judge_of_no_inquiry asks, KeyRule.judge_of_no_inquiry asks]
  | pattern rule => rw [PatternRule.judge_of_no_inquiry asks, PatternRule.judge_of_no_inquiry asks]
  | items part =>
      cases part with
      | none => rfl
      | some part =>
          have none := Option.map_eq_none_iff.mp asks
          simp only [map, Option.map_some, judge, judgeEach, none]
  | ordered parts => rw [judge_of_no_orderedInquiry asks, judge_of_no_orderedInquiry asks]
  | custom predicate => cases predicate <;> rfl
  | regex expression => cases expression <;> rfl
  | _ => rfl

/-- What a rule asks does not depend on what is made of the schemas inside it. -/
theorem inquiry?_map (f : σ → τ) (rule : Rule σ) :
    (rule.map f).inquiry? value = (rule.inquiry? value).map (Inquiry.map f) := by
  cases rule with
  | keys rule =>
      simp only [map, inquiry?, KeyRule.inquiry?, KeyRule.stranger?_map]
      cases value.asMembers? with
      | none => rfl
      | some members =>
          simp only [Option.bind_some]
          cases rule.stranger? members with
          | some name => rfl
          | none => exact congrArg some (Inquiry.map_ofMembers f members rule.keys).symm
  | pattern rule =>
      obtain ⟨match?, hasKeys, allowsUnknown⟩ := rule
      cases match? with
      | none => rfl
      | some names =>
          simp only [map, inquiry?, PatternRule.inquiry?, PatternRule.stranger?, Option.map_some, Option.bind_some]
          cases value.asMembers? with
          | none => rfl
          | some members =>
              simp only [Option.bind_some]
              generalize (if (hasKeys || allowsUnknown) = true then none
                else (Members.names members).find? fun name => !names.1.occursIn name) = stranger
              cases stranger with
              | some name => rfl
              | none =>
                  rw [Option.map_some, Inquiry.map_ofMembers, List.map_map]
                  rfl
  | items part =>
      cases part with
      | none => rfl
      | some part =>
          simp only [map, inquiry?, Option.map_some, Option.map_map]
          congr 1
          funext items
          rw [Function.comp_apply, Inquiry.map_ofItems, List.map_map]
          rfl
  | ordered parts =>
      simp only [map, inquiry?, orderedInquiry?, List.length_map]
      cases value.asItems? with
      | none => rfl
      | some items =>
          simp only [Option.bind_some]
          split
          · rw [Option.map_some, Inquiry.map_ofItems, List.zip_map_right]
            rfl
          · rfl
  | _ => rfl

/-! ### Attempts -/

@[simp] theorem convert?_map (f : σ → τ) (rule : Rule σ) : (rule.map f).convert? value = rule.convert? value := by
  cases rule <;> rfl

/-- A rule that asks has no other value to offer. -/
theorem convert?_of_inquiry {rule : Rule σ} {inquiry : Inquiry σ} (asks : rule.inquiry? value = some inquiry)
    (other : Value) : rule.convert? other = none := by
  cases rule with
  | keys _ | pattern _ | items _ | ordered _ => rfl
  | _ => cases asks

/-- A rule that asks judges once. -/
theorem attempt_of_inquiry {rule : Rule σ} {inquiry : Inquiry σ} (asks : rule.inquiry? value = some inquiry)
    (translate : σ → Checked) :
    (rule.map translate).attempt setting path value =
      (inquiry.judge translate setting path).bind fun said => .done (value, said) := by
  unfold attempt
  rw [judge_of_inquiry asks]
  congr 1
  funext said
  simp only [convert?_map, convert?_of_inquiry asks, ite_self]
  split <;> rfl

/-- A rule that offers another value judges it by itself. -/
theorem judge_of_convert {rule : Rule σ} {offered : Value} (offers : rule.convert? value = some offered)
    (first second : σ → Checked) (about : Value) :
    (rule.map first).judge setting path about = (rule.map second).judge setting path about := by
  cases rule with
  | array _ _ | precision _ | check _ | declared _ => rfl
  | _ => cases offers

/-- A rule that asks nothing, and is no alternative, comes to the same whatever the schemas inside come to. -/
theorem attempt_of_no_inquiry {rule : Rule σ} (asks : rule.inquiry? value = none)
    (other : ∀ parts, rule ≠ .alternatives parts) (first second : σ → Checked) :
    (rule.map first).attempt setting path value = (rule.map second).attempt setting path value := by
  unfold attempt
  rw [judge_of_no_inquiry asks other first second]
  congr 1
  funext said
  simp only [convert?_map]
  cases offers : rule.convert? value with
  | none => simp only [ite_self]
  | some offered => simp only [judge_of_convert offers first second]

end Rule

end Vetting

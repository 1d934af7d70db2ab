import Vetting.Proofs.Number.Equality
import Vetting.Proofs.Options.Encoding
import Vetting.Proofs.Rule.Deeds
import Vetting.Proofs.Rule.Translation
import Vetting.Proofs.Value.Alike

/-!
# Arguments that are alike

Arguments are alike if they are alike as values, or one and the same thing (`Argument.Alike`).  From arguments that are
alike the same is read: the same switches, counts, schemas and options, numbers that are equal, and values that are
alike.
-/

namespace Vetting

/-! ## Options -/

namespace Options

open Value (Alike)

variable {members others : Members Value}

/-- Objects with members that are alike have entries that are alike. -/
theorem entry?_alike (alike : ∀ name, Option.Rel Alike (members.get? name) (others.get? name)) (names : List String) :
    Option.Rel Alike (Options.entry? members names) (Options.entry? others names) := by
  have found : Option.Rel Alike (names.findSome? fun name => members.get? name)
      (names.findSome? fun name => others.get? name) := by
    induction names with
    | nil => exact .none
    | cons name rest ih =>
        rw [List.findSome?_cons, List.findSome?_cons]
        have head := alike name
        generalize members.get? name = one at head
        generalize others.get? name = two at head
        cases head with
        | none => exact ih
        | some same => exact .some same
  unfold entry?
  generalize names.findSome? (fun name => members.get? name) = one at found
  generalize names.findSome? (fun name => others.get? name) = two at found
  cases found with
  | none => exact .none
  | @some member other same =>
      have present : other.isPresent = member.isPresent := by
        rw [Value.isPresent, Value.isPresent, same.kind_eq]
      rw [Option.filter_some, Option.filter_some, present]
      cases member.isPresent with
      | true => exact .some same
      | false => exact .none

section Written

variable {α : Type} {write : α → Value} (settled : ∀ item value, (write item).Alike value → value = write item)

include settled

/-- What is like a list of written items is that list. -/
theorem eq_of_forall₂_written {items : List α} {values : List Value}
    (alike : List.Forall₂ Alike (items.map write) values) : values = items.map write := by
  induction items generalizing values with
  | nil =>
      cases alike
      rfl
  | cons item rest ih =>
      cases alike with
      | cons head more => rw [List.map_cons, settled item _ head, ih more]

/-- Entries that are alike list the same. -/
theorem Lists.of_alike {untouched found : List α} {entry other : Option Value} (alike : Option.Rel Alike entry other)
    (lists : Lists write untouched entry found) : Lists write untouched other found := by
  cases lists with
  | untouched =>
      cases alike
      exact .untouched
  | many =>
      cases alike with
      | some same =>
          obtain ⟨values, rfl, all⟩ := same.exists_array
          rw [eq_of_forall₂_written settled all]
          exact .many found
  | single item =>
      cases alike with
      | some same =>
          rw [settled item _ same]
          exact .single item

/-- Entries that are alike choose the same. -/
theorem Chooses.of_alike {untouched found : α} {entry other : Option Value} (alike : Option.Rel Alike entry other)
    (chooses : Chooses write untouched entry found) : Chooses write untouched other found := by
  cases chooses with
  | untouched =>
      cases alike
      exact .untouched
  | chosen =>
      cases alike with
      | some same =>
          rw [settled found _ same]
          exact .chosen found

end Written

/-- From values that are alike the same options are read, if members that are alike say the same options. -/
theorem Survive.read_of_alike {α : Type} {write : α → Value} {read : Value → Except ArgumentFault α}
    {said : α → Members Value → Prop} (survive : Survive write read said)
    (tells : ∀ {options : α} {members others : Members Value},
      (∀ name, Option.Rel Alike (members.get? name) (others.get? name)) → said options members → said options others)
    {value other : Value} (alike : value.Alike other) {options : α} (done : read value = .ok options) :
    read other = .ok options := by
  obtain ⟨members, rfl, told⟩ := (survive.read_iff value options).mp done
  obtain ⟨others, rfl, all⟩ := alike.exists_object
  exact (survive.read_iff _ options).mpr ⟨others, rfl, tells all told⟩

end Options

/-- The same options for addresses are read from values that are alike. -/
theorem AddressOptions.ofValue?_of_alike {value other : Value} (alike : value.Alike other) {options : AddressOptions}
    (done : ofValue? value = .ok options) : ofValue? other = .ok options := by
  refine survive.read_of_alike (fun all told => ?_) alike done
  exact ⟨told.versions.of_alike (fun _ _ same => same.eq_string) (Options.entry?_alike all _),
    told.cidr.of_alike (fun _ _ same => same.eq_string) (Options.entry?_alike all _)⟩

/-- The same options for references are read from values that are alike. -/
theorem ReferenceOptions.ofValue?_of_alike {value other : Value} (alike : value.Alike other)
    {options : ReferenceOptions} (done : ofValue? value = .ok options) : ofValue? other = .ok options := by
  refine survive.read_of_alike (fun all told => ?_) alike done
  exact ⟨told.schemes.of_alike (fun _ _ same => same.eq_string) (Options.entry?_alike all _),
    told.allowsRelative.of_alike (fun _ _ same => same.eq_boolean) (Options.entry?_alike all _)⟩

/-! ## Arguments -/

variable {σ : Type}

namespace Argument

/-- The arguments are one and the same thing, or values that are alike. -/
inductive Alike : Argument σ → Argument σ → Prop where
  | refl (argument : Argument σ) : Alike argument argument
  | value {left right : Value} (alike : left.Alike right) : Alike (.value left) (.value right)

namespace Alike

variable {left right first second : Argument σ}

protected theorem symm (alike : left.Alike right) : right.Alike left := by
  cases alike with
  | refl => exact .refl _
  | value alike => exact .value alike.symm

/-- What is no value is read alike. -/
theorem part_eq {α : Type} {part : Argument σ → Option α} (alike : left.Alike right)
    (noValue : ∀ value, part (.value value) = none) : part left = part right := by
  cases alike with
  | refl => rfl
  | value => rw [noValue, noValue]

/-- Values that are read from arguments which are alike are alike. -/
theorem asValue? (alike : left.Alike right) : Option.Rel Value.Alike left.asValue? right.asValue? := by
  cases alike with
  | refl =>
      cases left.asValue? with
      | none => exact .none
      | some value => exact .some (.refl value)
  | value alike => exact .some alike

variable [Identified σ]

/-- Arguments that are alike are the same as the same arguments. -/
theorem same_eq (one : left.Alike right) (two : first.Alike second) : left.same first = right.same second := by
  cases one with
  | refl =>
      cases two with
      | refl => rfl
      | value alike =>
          cases left with
          | value own => exact (Value.Alike.refl own).same_eq alike
          | _ => rfl
  | value own =>
      cases two with
      | refl =>
          cases first with
          | value other => exact own.same_eq (.refl other)
          | _ => rfl
      | value alike => exact own.same_eq alike

end Alike

/-- The arguments are equal: values that equal each other, or one and the same thing. -/
inductive Equals : Argument σ → Argument σ → Prop where
  | value {left right : Value} (forth : left.same right = true) (back : right.same left = true) :
      Equals (.value left) (.value right)
  | schema (content : σ) : Equals (.schema content) (.schema content)
  | keys (content : Members σ) : Equals (.keys content) (.keys content)
  | regex (content : Regex) : Equals (.regex content) (.regex content)
  | comparator (content : Comparator) : Equals (.comparator content) (.comparator content)
  | predicate (content : Predicate) : Equals (.predicate content) (.predicate content)

namespace Equals

variable {left right : Argument σ}

/-- Equal arguments are alike. -/
theorem alike (equal : left.Equals right) : left.Alike right := by
  cases equal with
  | value forth back => exact .value (.equal forth back)
  | _ => exact .refl _

/-- Equal arguments are the same, for equality and for the search for repeated calls. -/
theorem same [Identified σ] (equal : left.Equals right) : left.same right = true := by
  cases equal with
  | value forth _ => exact forth
  | _ => exact beq_self_eq_true _

end Equals

/-- What equals a translated argument is a translated one, which is like it before the translation as well. -/
theorem Equals.exists_map {τ : Type} {f : σ → τ} {narrow : Argument σ} {other : Argument τ}
    (equal : (narrow.map f).Equals other) : ∃ next : Argument σ, next.map f = other ∧ narrow.Alike next := by
  cases narrow with
  | value content =>
      cases equal with
      | @value _ right forth back => exact ⟨.value right, rfl, .value (.equal forth back)⟩
  | _ =>
      cases equal
      exact ⟨_, rfl, .refl _⟩

end Argument

namespace Arguments

open Argument (Alike)

variable {left right first second : Arguments σ}

/-- Each argument is like itself. -/
theorem alike_refl (arguments : Arguments σ) : List.Forall₂ Alike arguments arguments :=
  List.forall₂_same.mpr fun argument _ => .refl argument

/-- Calls with arguments that are alike are the same as the same calls. -/
theorem same_of_alike [Identified σ] (one : List.Forall₂ Alike left right) (two : List.Forall₂ Alike first second) :
    left.same first = right.same second := by
  induction one generalizing first second with
  | nil => cases two <;> rfl
  | cons head _ ih =>
      cases two with
      | nil => rfl
      | cons next rest => rw [same, same, head.same_eq next, ih rest]

/-- At each place stand arguments that are alike. -/
theorem getElem?_alike (alike : List.Forall₂ Alike left right) (index : Nat) :
    Option.Rel Alike left[index]? right[index]? := by
  induction alike generalizing index with
  | nil => exact .none
  | cons head _ ih =>
      cases index with
      | zero => exact .some head
      | succ index => exact ih index

/-- What is no value is read alike from arguments that are alike. -/
theorem read_eq_of_alike {α : Type} {part : Argument σ → Option α} (alike : List.Forall₂ Alike left right)
    (noValue : ∀ value, part (.value value) = none) (index : Nat) (fault : ArgumentFault) :
    left.read index part fault = right.read index part fault := by
  have both := getElem?_alike alike index
  unfold read
  generalize left[index]? = one at both
  generalize right[index]? = two at both
  cases both with
  | none => rfl
  | some same => rw [Option.bind_some, Option.bind_some, same.part_eq noValue]

/-- What is no value is read alike from all arguments. -/
theorem readAll_eq_of_alike {α : Type} {part : Argument σ → Option α} (alike : List.Forall₂ Alike left right)
    (noValue : ∀ value, part (.value value) = none) (fault : Nat → ArgumentFault) (index : Nat) :
    left.readAll part fault index = right.readAll part fault index := by
  induction alike generalizing index with
  | nil => rfl
  | cons head _ ih => rw [readAll, readAll, head.part_eq noValue, ih]

/-- Values that are read from arguments which are alike are alike. -/
theorem value_of_alike (alike : List.Forall₂ Alike left right) {index : Nat} {value : Value}
    (done : left.value index = .ok value) : ∃ other, right.value index = .ok other ∧ value.Alike other := by
  have both := getElem?_alike alike index
  unfold Arguments.value read at done ⊢
  generalize left[index]? = one at both done
  generalize right[index]? = two at both
  cases both with
  | none => cases done
  | some same =>
      rw [Option.bind_some] at done ⊢
      have values := same.asValue?
      generalize Argument.asValue? _ = content at done values
      generalize Argument.asValue? _ = other at values
      cases values with
      | none => cases done
      | some alike =>
          obtain rfl := Except.ok.inj done
          exact ⟨_, rfl, alike⟩

/-- Numbers that are read from arguments which are alike are equal. -/
theorem number_of_alike (alike : List.Forall₂ Alike left right) {index : Nat} {n : Float}
    (done : left.number index = .ok n) : ∃ other, right.number index = .ok other ∧ (n == other) = true := by
  obtain ⟨value, read, next⟩ := exists_of_bind_eq_ok done
  obtain ⟨other, also, same⟩ := value_of_alike alike read
  cases value with
  | number own =>
      obtain ⟨m, rfl, equal⟩ := same.exists_number
      simp only [Value.asNumber?] at next
      cases nan : own.isNaN with
      | true =>
          rw [nan] at next
          cases next
      | false =>
          rw [nan] at next
          obtain rfl := Except.ok.inj next
          have equal : (own == m) = true := by
            rcases equal with rfl | equal
            · exact (Number.beq_self_iff own).mpr nan
            · exact equal
          refine ⟨m, ?_, equal⟩
          rw [Number.isNaN_congr equal] at nan
          simp only [Arguments.number, also, bind, Except.bind, Value.asNumber?, nan, Bool.false_eq_true, ↓reduceIte]
  | _ => cases next

/-- The same count is read from arguments that are alike. -/
theorem count_of_alike (alike : List.Forall₂ Alike left right) {index : Nat} {limit : Nat}
    (done : left.count index = .ok limit) : right.count index = .ok limit := by
  obtain ⟨n, read, next⟩ := exists_of_bind_eq_ok done
  obtain ⟨m, also, equal⟩ := number_of_alike alike read
  have below : decide (n < 0) = decide (m < 0) := decide_eq_decide.mpr (Number.lt_congr equal 0).1
  have whole : Number.isWhole n = Number.isWhole m := by
    rw [Number.isWhole, Number.isWhole, Number.units?_congr equal]
  have truncated : Number.truncated? n = Number.truncated? m := by
    rw [Number.truncated?, Number.truncated?, Number.units?_congr equal]
  rw [below, whole, truncated] at next
  rw [count, also]
  exact next

/-- The same switch is read from arguments that are alike. -/
theorem flag_of_alike (alike : List.Forall₂ Alike left right) (index : Nat) : left.flag index = right.flag index := by
  have both := getElem?_alike alike index
  unfold flag
  generalize left[index]? = one at both
  generalize right[index]? = two at both
  cases both with
  | none => rfl
  | @some one two same =>
      cases same with
      | refl => rfl
      | @value value other alike =>
          cases value with
          | boolean flag => rw [alike.eq_boolean]
          | _ =>
              have kinds := alike.kind_eq
              cases other <;> cases kinds
              all_goals rfl

/-- Values that are read from all arguments are alike. -/
theorem readAll_asValue?_of_alike (alike : List.Forall₂ Alike left right) {fault : Nat → ArgumentFault} {index : Nat}
    {values : List Value} (done : left.readAll Argument.asValue? fault index = .ok values) :
    ∃ others, right.readAll Argument.asValue? fault index = .ok others ∧ List.Forall₂ Value.Alike values others := by
  induction alike generalizing index values with
  | nil =>
      obtain rfl := Except.ok.inj done
      exact ⟨[], rfl, .nil⟩
  | @cons head next _ _ same _ ih =>
      rw [readAll] at done
      have both := same.asValue?
      cases own : head.asValue? with
      | none =>
          rw [own] at done
          cases done
      | some value =>
          rw [own] at done both
          obtain ⟨rest, read, rfl⟩ := Rule.exists_of_map_eq_ok done
          obtain ⟨others, also, all⟩ := ih read
          cases other : next.asValue? with
          | none =>
              rw [other] at both
              cases both
          | some found =>
              rw [other] at both
              cases both with
              | some alike =>
                  refine ⟨found :: others, ?_, .cons alike all⟩
                  rw [readAll, other]
                  dsimp only
                  rw [also]
                  rfl

/-- Values that are read from arguments which are alike are alike, also if they are the items of an array. -/
theorem values_of_alike (alike : List.Forall₂ Alike left right) {values : List Value}
    (done : left.values = .ok values) :
    ∃ others, right.values = .ok others ∧ List.Forall₂ Value.Alike values others := by
  unfold Arguments.values at done
  split at done
  next items =>
    obtain rfl := Except.ok.inj done
    cases alike with
    | cons head rest =>
        cases rest
        cases head with
        | refl => exact ⟨items, rfl, List.forall₂_same.mpr fun item _ => .refl item⟩
        | value array =>
            obtain ⟨others, rfl, all⟩ := array.exists_array
            exact ⟨others, rfl, all⟩
  next several =>
    obtain ⟨others, also, all⟩ := readAll_asValue?_of_alike alike done
    refine ⟨others, ?_, all⟩
    unfold Arguments.values
    split
    next items =>
      cases alike with
      | cons head rest =>
          cases rest
          cases head.symm with
          | refl => exact absurd rfl (several items)
          | value array =>
              obtain ⟨known, rfl, -⟩ := array.exists_array
              exact absurd rfl (several known)
    next => exact also

/-- The heads of arguments that are alike are alike. -/
theorem head?_alike (alike : List.Forall₂ Alike left right) : Option.Rel Alike left.head? right.head? := by
  cases alike with
  | nil => exact .none
  | cons head _ => exact .some head

/-- Equal arguments are alike. -/
theorem alike_of_equals (equal : List.Forall₂ Argument.Equals left right) : List.Forall₂ Alike left right :=
  equal.imp fun _ _ same => same.alike

/-- Arguments that equal others are the same as themselves. -/
theorem same_self_of_equals [Identified σ] (equal : List.Forall₂ Argument.Equals left right) :
    left.same left = true := by
  have forth : left.same right = true := by
    induction equal with
    | nil => rfl
    | cons head _ ih => rw [same, head.same, ih, Bool.and_self]
  exact (same_of_alike (alike_refl left) (alike_of_equals equal)).trans forth

/-- What equals translated arguments are translated ones, which are like them before the translation as well, and the
very same if they are so afterwards. -/
theorem exists_map_of_equals {τ : Type} {f : σ → τ} {narrow : Arguments σ} {others : Arguments τ}
    (equal : List.Forall₂ Argument.Equals (narrow.map (Argument.map f)) others) :
    ∃ next : Arguments σ, next.map (Argument.map f) = others ∧ List.Forall₂ Alike narrow next ∧
      (others = narrow.map (Argument.map f) → narrow = next) := by
  by_cases identical : others = narrow.map (Argument.map f)
  · exact ⟨narrow, identical.symm, alike_refl narrow, fun _ => rfl⟩
  · obtain ⟨next, same, alike⟩ : ∃ next : Arguments σ, next.map (Argument.map f) = others ∧
        List.Forall₂ Alike narrow next := by
      clear identical
      induction narrow generalizing others with
      | nil =>
          cases equal
          exact ⟨[], rfl, .nil⟩
      | cons argument rest ih =>
          cases equal with
          | cons head more =>
              obtain ⟨next, rfl, own⟩ := head.exists_map
              obtain ⟨later, rfl, all⟩ := ih more
              exact ⟨next :: later, rfl, .cons own all⟩
    exact ⟨next, same, alike, fun other => absurd other identical⟩

end Arguments

namespace Rule

open Argument (Alike)

variable {left right : Arguments σ}

/-- The same criterion is read from arguments that are alike. -/
theorem criterion?_of_alike (alike : List.Forall₂ Alike left right) : criterion? left = criterion? right := by
  have both := Arguments.head?_alike alike
  unfold criterion?
  generalize left.head? = one at both
  generalize right.head? = two at both
  cases both with
  | none => rfl
  | some same =>
      cases same with
      | refl => rfl
      | @value value other alike =>
          cases value with
          | string path => rw [alike.eq_string]
          | _ =>
              have kinds := alike.kind_eq
              cases other <;> cases kinds
              all_goals rfl

/-- The same options are read from arguments that are alike, if they are from values that are. -/
theorem options?_of_alike {α : Type} {ofValue? : Value → Except ArgumentFault α} {standard options : α}
    (reads : ∀ {value other : Value}, value.Alike other → ∀ {options : α}, ofValue? value = .ok options →
      ofValue? other = .ok options)
    (alike : List.Forall₂ Alike left right) (done : options? left ofValue? standard = .ok options) :
    options? right ofValue? standard = .ok options := by
  have both := Arguments.head?_alike alike
  unfold options? at done ⊢
  generalize left.head? = one at both done
  generalize right.head? = two at both
  cases both with
  | none => exact done
  | some same =>
      cases same with
      | refl => exact done
      | value alike => exact reads alike done

end Rule

end Vetting

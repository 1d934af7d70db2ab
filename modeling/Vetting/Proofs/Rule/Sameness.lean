import Vetting.Proofs.Value.PartialEquality
import Vetting.Rule.Amendment
import Vetting.Schema.Basic

/-!
# When two calls are one

Two calls are the same if they are of one rule and have the same arguments.  Arguments that are no values are told apart
by their identity alone, so the sameness of calls is what the equality of values makes of it: symmetric, transitive, and
reflexive but for a NaN in a value (`equality_isPartial`).
-/

namespace Vetting

variable {σ : Type} [Identified σ]

namespace Argument

/-- Equality of arguments is symmetric where no object has a name twice. -/
theorem same_symm {left right : Argument σ} (once : ∀ content, left = .value content → content.NamesOnce)
    (equal : left.same right = true) : right.same left = true := by
  cases left with
  | value content =>
      cases right with
      | value other => exact (once content rfl).same_symm equal
      | _ => cases equal
  | _ =>
      cases right <;> simp only [same, beq_iff_eq, Bool.false_eq_true] at equal ⊢
      all_goals exact equal.symm

/-- Equality of arguments is transitive. -/
theorem same_trans {first second third : Argument σ} (one : first.same second = true)
    (two : second.same third = true) : first.same third = true := by
  cases first with
  | value content =>
      cases second with
      | value other =>
          cases third with
          | value last => exact Value.same_trans one two
          | _ => cases two
      | _ => cases one
  | _ =>
      cases second <;> simp only [same, beq_iff_eq, Bool.false_eq_true] at one
      all_goals
        cases third <;> simp only [same, beq_iff_eq, Bool.false_eq_true] at two ⊢
        exact one.trans two

/-- An argument is equal to itself unless there is a NaN inside. -/
theorem same_self_iff {argument : Argument σ} (once : ∀ content, argument = .value content → content.NamesOnce) :
    argument.same argument = true ↔ ∀ content, argument = .value content → ¬ content.HoldsNaN := by
  cases argument with
  | value content =>
      rw [same, (once content rfl).same_self_iff]
      simp only [value.injEq, forall_eq']
  | _ =>
      apply iff_of_true
      · simp only [same, beq_self_eq_true]
      · exact fun content own => nomatch own

end Argument

namespace Arguments

/-- Lists of arguments are the same exactly if they are so one by one. -/
theorem same_iff (left right : Arguments σ) :
    left.same right = true ↔ List.Forall₂ (fun one other => one.same other = true) left right := by
  induction left generalizing right with
  | nil => cases right <;> simp [same]
  | cons head rest ih => cases right <;> simp [same, ih]

/-- The laws of single arguments hold for rows of them. -/
theorem isPartialEquality : IsPartialEquality (fun left right : Arguments σ => left.same right)
    (fun arguments => ∀ content, .value content ∈ arguments → content.NamesOnce)
    (fun arguments => ∀ content, .value content ∈ arguments → ¬ content.HoldsNaN) where
  symm {left right} once equal := by
    rw [same_iff] at equal ⊢
    apply forall₂_symm_of_mem _ equal
    intro argument listed other
    exact Argument.same_symm fun content own => once content (own ▸ listed)
  trans {first second third} one two := by
    rw [same_iff] at one two ⊢
    exact forall₂_trans_of_mem (fun _ _ _ _ => Argument.same_trans) one two
  refl_iff {arguments} once := by
    have each : ∀ argument ∈ arguments, argument.same argument = true ↔
        ∀ content, argument = .value content → ¬ content.HoldsNaN := fun argument listed =>
      Argument.same_self_iff fun content own => once content (own ▸ listed)
    rw [same_iff, List.forall₂_same, forall₂_congr each]
    constructor
    · intro free content listed
      exact free _ listed content rfl
    · intro free argument listed content own
      exact free content (own ▸ listed)

end Arguments

/-- Two calls are the same exactly if they have the same name and the same arguments. -/
theorem Instance.same_iff (left right : Instance σ) :
    left.same right = true ↔ left.rule.name = right.rule.name ∧ left.arguments.same right.arguments = true := by
  rw [same, Bool.and_eq_true, beq_iff_eq]

/-- Equality of calls is symmetric and transitive, and reflexive for calls without NaN. -/
theorem Instance.isPartialEquality : IsPartialEquality (fun left right : Instance σ => left.same right)
    (fun entry => ∀ content, .value content ∈ entry.arguments → content.NamesOnce)
    (fun entry => ∀ content, .value content ∈ entry.arguments → ¬ content.HoldsNaN) where
  symm {left right} once equal := by
    rw [same_iff] at equal ⊢
    exact ⟨equal.1.symm, Arguments.isPartialEquality.symm once equal.2⟩
  trans {first second third} one two := by
    rw [same_iff] at one two ⊢
    exact ⟨one.1.trans two.1, Arguments.isPartialEquality.trans one.2 two.2⟩
  refl_iff {entry} once := by
    rw [same_iff, eq_self, true_and]
    exact Arguments.isPartialEquality.refl_iff once

/-- **Equality is a partial equivalence.**  Deep equality is symmetric and transitive, does not see the order of members
at any depth, and is reflexive where there is no NaN inside; the sameness of calls is symmetric and transitive too, and
reflexive where no value among the arguments has a NaN inside.  Objects have every name once, as all that are made of
entries do (`Value.namesOnce_ofEntries`). -/
theorem equality_isPartial : IsPartialEquality Value.same Value.NamesOnce (fun value => ¬ value.HoldsNaN) ∧
    (∀ left right other : Value, left.Reorders right → left.NamesOnce → other.NamesOnce →
      left.same other = right.same other ∧ other.same left = other.same right) ∧
    IsPartialEquality (fun left right : Instance σ => left.same right)
      (fun entry => ∀ content, .value content ∈ entry.arguments → content.NamesOnce)
      (fun entry => ∀ content, .value content ∈ entry.arguments → ¬ content.HoldsNaN) := by
  refine ⟨Value.isPartialEquality, ?_, Instance.isPartialEquality⟩
  intro left right other reorders once known
  exact ⟨reorders.same_left other, reorders.same_right once known⟩

/-- An object with another one inside an array. -/
def sheet : Value :=
  .ofEntries [("x", .array [.ofEntries [("p", .number 0), ("q", .null)]]), ("y", .string "b")]

/-- The same members, inside and outside, in another order. -/
def turnedSheet : Value :=
  .ofEntries [("y", .string "b"), ("x", .array [.ofEntries [("q", .null), ("p", .number 0)]])]

/-- The sheet is turned by moving the members of its inner object. -/
theorem sheet_reorders : sheet.Reorders turnedSheet := by
  have inner : (Value.ofEntries [("p", .number 0), ("q", .null)]).Reorders
    (.ofEntries [("q", .null), ("p", .number 0)]) := .members (.swap _ _ _)
  have items := Value.Reorders.item [] [] inner
  have moved := Value.Reorders.member [] [("y", .string "b")] "x" items
  exact moved.trans (.members (.swap _ _ _))

/-- The sheet has every name once. -/
theorem sheet_namesOnce : sheet.NamesOnce := by
  have zero : (Value.number 0).NamesOnce := .leaf ⟨rfl, rfl⟩
  have null : Value.null.NamesOnce := .leaf ⟨rfl, rfl⟩
  have text : (Value.string "b").NamesOnce := .leaf ⟨rfl, rfl⟩
  have inner : (Value.ofEntries [("p", .number 0), ("q", .null)]).NamesOnce :=
    Value.namesOnce_ofEntries (List.forall_mem_cons.mpr ⟨zero, List.forall_mem_singleton.mpr null⟩)
  have items : (Value.array [.ofEntries [("p", .number 0), ("q", .null)]]).NamesOnce :=
    .array (List.forall_mem_singleton.mpr inner)
  exact Value.namesOnce_ofEntries (List.forall_mem_cons.mpr ⟨items, List.forall_mem_singleton.mpr text⟩)

/-- A NaN inside an array. -/
def arrayOfNaN : Value :=
  .array [.number (0 / 0)]

/-- The array has no names at all. -/
theorem arrayOfNaN_namesOnce : arrayOfNaN.NamesOnce :=
  .array (List.forall_mem_singleton.mpr (.leaf ⟨rfl, rfl⟩))

/-- The array has a NaN as its item. -/
theorem arrayOfNaN_holdsNaN : arrayOfNaN.HoldsNaN :=
  .item List.mem_cons_self (.number (by decide +kernel))

/-- A call with one value. -/
def callWith (value : Value) : Instance Schema :=
  ⟨.any, [.value value]⟩

/-- The only value among the arguments of the call is the one that it was made with. -/
theorem forall_mem_callWith_iff {value : Value} {holds : Value → Prop} :
    (∀ content, .value content ∈ (callWith value).arguments → holds content) ↔ holds value := by
  simp only [callWith, List.mem_singleton, Argument.value.injEq, forall_eq]

/-- The sheet equals itself turned, and calls with the two are one; a call with a NaN is not the same as itself. -/
theorem equality_isPartial_ofSheet : sheet.Reorders turnedSheet ∧ sheet.NamesOnce ∧ sheet.same turnedSheet = true ∧
    (callWith turnedSheet).same (callWith sheet) = true ∧
      (callWith arrayOfNaN).same (callWith arrayOfNaN) = false := by
  obtain ⟨-, order, calls⟩ := equality_isPartial (σ := Schema)
  have own : sheet.same sheet = true := by decide +kernel
  have turned : sheet.same turnedSheet = true :=
    (order sheet turnedSheet sheet sheet_reorders sheet_namesOnce sheet_namesOnce).2.symm.trans own
  have call : (callWith sheet).same (callWith turnedSheet) = true := by
    simp only [callWith, Instance.same, Arguments.same, Argument.same, turned, beq_self_eq_true, Bool.and_self]
  refine ⟨sheet_reorders, sheet_namesOnce, turned, ?_, ?_⟩
  · exact calls.symm (forall_mem_callWith_iff.mpr sheet_namesOnce) call
  · have reflexive := calls.refl_iff (forall_mem_callWith_iff.mpr arrayOfNaN_namesOnce)
    rw [forall_mem_callWith_iff] at reflexive
    exact Bool.eq_false_iff.mpr fun same => reflexive.mp same arrayOfNaN_holdsNaN

end Vetting

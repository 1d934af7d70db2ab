import Mathlib.Order.Nat
import Vetting.Regex.Basic

/-!
# Where patterns end

Patterns are matched by moving sets of positions.  Here each pattern is a relation between the position at which it
begins and the one at which it ends, and the moved set holds exactly the positions that it relates to the given ones
(`Pattern.mem_ends_iff`).

Repetitions are searched breadth first.  The search is cut off after as many rounds as the text has characters, and one
more.  Nothing is lost by that: a round that does not move on can be left out (`Linked.of_le`).
-/

namespace Vetting

/-! ## Linked positions -/

/-- So many steps of the relation lead from the first position to the second. -/
def Linked (step : Nat → Nat → Prop) : Nat → Nat → Nat → Prop
  | 0, i, j => i = j
  | count + 1, i, k => ∃ j, step i j ∧ Linked step count j k

namespace Linked

variable {step : Nat → Nat → Prop} {i j k : Nat}

/-- A number of steps may be taken in two portions. -/
theorem add_iff {first second : Nat} :
    Linked step (first + second) i k ↔ ∃ j, Linked step first i j ∧ Linked step second j k := by
  induction first generalizing i with
  | zero => simp only [Nat.zero_add, Linked, exists_eq_left']
  | succ first ih =>
      rw [Nat.succ_add]
      simp only [Linked, ih]
      constructor
      · rintro ⟨next, steps, j, before, behind⟩
        exact ⟨j, ⟨next, steps, before⟩, behind⟩
      · rintro ⟨j, ⟨next, steps, before⟩, behind⟩
        exact ⟨next, steps, j, before, behind⟩

/-- One step is just that. -/
theorem one_iff : Linked step 1 i j ↔ step i j := by
  simp only [Linked, exists_eq_right]

/-- Where no step leads out of the positions found, no row of steps does. -/
theorem mem_of_closed {found : List Nat} (closed : ∀ i ∈ found, ∀ j, step i j → j ∈ found) {count : Nat}
    (member : i ∈ found) (linked : Linked step count i j) : j ∈ found := by
  induction count generalizing i with
  | zero => exact linked ▸ member
  | succ count ih =>
      obtain ⟨next, steps, rest⟩ := linked
      exact ih (closed i member next steps) rest

/-- Steps that never lead back can be so chosen that each of them moves on. -/
theorem of_le (forward : ∀ i j, step i j → i ≤ j) {count : Nat} (linked : Linked step count i j) :
    i ≤ j ∧ ∃ fewer ≤ count, fewer ≤ j - i ∧ Linked step fewer i j := by
  induction count generalizing i with
  | zero =>
      obtain rfl := linked
      exact ⟨Nat.le_refl _, 0, Nat.le_refl _, Nat.zero_le _, rfl⟩
  | succ count ih =>
      obtain ⟨next, steps, rest⟩ := linked
      obtain ⟨behind, fewer, some, short, found⟩ := ih rest
      rcases Nat.eq_or_lt_of_le (forward i next steps) with rfl | further
      · exact ⟨behind, fewer, Nat.le_succ_of_le some, short, found⟩
      · exact ⟨further.le.trans behind, fewer + 1, Nat.succ_le_succ some, by omega, next, steps, found⟩

end Linked

namespace Pattern

/-! ## The search for repetitions -/

section Reach

variable {moved : List Nat → List Nat} {step : Nat → Nat → Prop}

/-- The search finds what is linked by at most as many steps as it has rounds, if only the fresh ones of the positions
found can lead to others. -/
theorem mem_reach (moves : ∀ positions j, j ∈ moved positions ↔ ∃ i ∈ positions, step i j) {rounds : Nat}
    {found fresh : List Nat} (own : fresh ⊆ found) (closed : ∀ i ∈ found, i ∈ fresh ∨ ∀ j, step i j → j ∈ found)
    {j : Nat} : j ∈ reach moved rounds found fresh ↔ ∃ i ∈ found, ∃ count ≤ rounds, Linked step count i j := by
  induction rounds generalizing found fresh with
  | zero =>
      rw [reach]
      simp only [Nat.le_zero, exists_eq_left, Linked, exists_eq_right]
  | succ rounds ih =>
      have stays : ∀ i ∈ found, ∀ j, step i j →
          j ∈ found ∨ j ∈ (moved fresh).filter fun position => !found.contains position := by
        intro i member j steps
        rcases closed i member with new | old
        · by_cases known : j ∈ found
          · exact .inl known
          · refine .inr (List.mem_filter.mpr ⟨(moves fresh j).mpr ⟨i, new, steps⟩, ?_⟩)
            rw [Bool.not_eq_true', ← Bool.not_eq_true, List.contains_iff_mem]
            exact known
        · exact .inl (old j steps)
      have new : ∀ j ∈ (moved fresh).filter fun position => !found.contains position, ∃ i ∈ found, step i j := by
        intro j member
        obtain ⟨i, from_, steps⟩ := (moves fresh j).mp (List.mem_filter.mp member).1
        exact ⟨i, own from_, steps⟩
      rw [reach]
      split
      next none =>
        rw [none] at stays
        refine ⟨fun member => ⟨j, member, 0, Nat.zero_le _, rfl⟩, ?_⟩
        rintro ⟨i, member, count, -, linked⟩
        have closed : ∀ i ∈ found, ∀ j, step i j → j ∈ found := fun i member j steps =>
          (stays i member j steps).resolve_right List.not_mem_nil
        exact linked.mem_of_closed closed member
      next _ =>
        rw [ih (List.subset_append_right _ _) fun i member => ?closed]
        case closed =>
          rcases List.mem_append.mp member with old | fresh
          · exact .inr fun j steps => List.mem_append.mpr (stays i old j steps)
          · exact .inl fresh
        constructor
        · rintro ⟨i, member, count, few, linked⟩
          rcases List.mem_append.mp member with old | fresh
          · exact ⟨i, old, count, Nat.le_succ_of_le few, linked⟩
          · obtain ⟨source, known, steps⟩ := new i fresh
            exact ⟨source, known, count + 1, Nat.succ_le_succ few, i, steps, linked⟩
        · rintro ⟨i, member, count, few, linked⟩
          cases count with
          | zero => exact ⟨i, List.mem_append_left _ member, 0, Nat.zero_le _, linked⟩
          | succ count =>
              obtain ⟨next, steps, rest⟩ := linked
              exact ⟨next, List.mem_append.mpr (stays i member next steps), count, Nat.le_of_succ_le_succ few, rest⟩

/-- A movement that is repeated goes wherever as many steps go. -/
theorem mem_repeat (moves : ∀ positions j, j ∈ moved positions ↔ ∃ i ∈ positions, step i j) {count : Nat}
    {positions : List Nat} {j : Nat} :
    j ∈ Nat.repeat moved count positions ↔ ∃ i ∈ positions, Linked step count i j := by
  induction count generalizing j with
  | zero => simp only [Nat.repeat, Linked, exists_eq_right]
  | succ count ih =>
      rw [Nat.repeat, moves]
      simp only [ih, Linked.add_iff, Linked.one_iff]
      constructor
      · rintro ⟨next, ⟨i, member, linked⟩, steps⟩
        exact ⟨i, member, next, linked, steps⟩
      · rintro ⟨i, member, next, linked, steps⟩
        exact ⟨next, ⟨i, member, linked⟩, steps⟩

end Reach

/-! ## Patterns as relations -/

/-- A repetition with these limits may have so many parts. -/
def Allows (least : Nat) (most : Option Nat) (count : Nat) : Prop :=
  least ≤ count ∧ ∀ limit ∈ most, count ≤ max least limit

/-- The pattern can begin at the first position of the text and end at the second. -/
def Spans (text : Array Char) : Pattern → Nat → Nat → Prop
  | empty, i, j => i = j
  | one set, i, j => takes text set i = true ∧ i + 1 = j
  | sequence first second, i, k => ∃ j, first.Spans text i j ∧ second.Spans text j k
  | either first second, i, j => first.Spans text i j ∨ second.Spans text i j
  | repeated body least most, i, j => ∃ count, Allows least most count ∧ Linked (body.Spans text) count i j
  | start, i, j => i = 0 ∧ i = j
  | finish, i, j => i = text.size ∧ i = j
  | lineStart, i, j => (i = 0 ∨ text[i - 1]? = some '\n') ∧ i = j
  | lineFinish, i, j => (i = text.size ∨ text[i]? = some '\n') ∧ i = j
  | wordBoundary negated, i, j => ((wordBefore text i != wordAfter text i) != negated) = true ∧ i = j

variable {text : Array Char} {pattern : Pattern} {i j : Nat}

/-- A class takes a character within the text only. -/
theorem lt_size_of_takes {set : CharClass} (takes : takes text set i = true) : i < text.size := by
  by_contra beyond
  rw [Pattern.takes, Array.getElem?_eq_none (Nat.le_of_not_lt beyond)] at takes
  cases takes

/-- A pattern never ends before it begins, and one that moves on stays inside the text. -/
theorem Spans.forward (spans : pattern.Spans text i j) : i ≤ j ∧ (i = j ∨ j ≤ text.size) := by
  have linked : ∀ {body : Pattern}, (∀ {i j}, body.Spans text i j → i ≤ j ∧ (i = j ∨ j ≤ text.size)) →
      ∀ {count i j}, Linked (body.Spans text) count i j → i ≤ j ∧ (i = j ∨ j ≤ text.size) := by
    intro body forward count
    induction count with
    | zero =>
        rintro i j rfl
        exact ⟨Nat.le_refl _, .inl rfl⟩
    | succ count ih =>
        rintro i j ⟨next, steps, rest⟩
        have here := forward steps
        have there := ih rest
        omega
  induction pattern generalizing i j with
  | empty => exact ⟨spans.le, .inl spans⟩
  | one set =>
      obtain ⟨takes, rfl⟩ := spans
      exact ⟨Nat.le_succ i, .inr (lt_size_of_takes takes)⟩
  | sequence first second ihFirst ihSecond =>
      obtain ⟨next, before, behind⟩ := spans
      have here := ihFirst before
      have there := ihSecond behind
      omega
  | either first second ihFirst ihSecond =>
      rcases spans with left | right
      · exact ihFirst left
      · exact ihSecond right
  | repeated body least most ih =>
      obtain ⟨count, -, links⟩ := spans
      exact linked ih links
  | start | finish | lineStart | lineFinish | wordBoundary _ => exact ⟨spans.2.le, .inl spans.2⟩

/-- The search of a repetition that has no upper limit takes all rounds that it needs. -/
theorem exists_linked_le_size {body : Pattern} {count : Nat} (linked : Linked (body.Spans text) count i j) :
    ∃ fewer ≤ text.size + 1, Linked (body.Spans text) fewer i j := by
  have forward : (repeated body 0 none).Spans text i j :=
    ⟨count, ⟨Nat.zero_le _, fun limit given => by cases given⟩, linked⟩
  obtain ⟨-, fewer, -, short, found⟩ := linked.of_le fun _ _ spans => spans.forward.1
  have bounds := forward.forward
  exact ⟨fewer, by omega, found⟩

/-- Positions that are filtered are those where the test holds. -/
theorem mem_filter_and_eq {from_ : List Nat} {test : Nat → Bool} {holds : Nat → Prop}
    (decides : ∀ i, test i = true ↔ holds i) : j ∈ from_.filter test ↔ ∃ i ∈ from_, holds i ∧ i = j := by
  simp only [List.mem_filter, decides, exists_eq_right_right]

/-- **Where patterns end.**  From given positions, a pattern can end at exactly those that it relates to one of
them. -/
theorem mem_ends_iff {from_ : List Nat} :
    j ∈ pattern.ends text from_ ↔ ∃ i ∈ from_, pattern.Spans text i j := by
  induction pattern generalizing from_ j with
  | empty => simp only [ends, Spans, exists_eq_right]
  | one set =>
      simp only [ends, Spans, List.mem_map, List.mem_filter, and_assoc]
  | sequence first second ihFirst ihSecond =>
      simp only [ends, Spans, ihSecond, ihFirst]
      constructor
      · rintro ⟨next, ⟨i, member, before⟩, behind⟩
        exact ⟨i, member, next, before, behind⟩
      · rintro ⟨i, member, next, before, behind⟩
        exact ⟨next, ⟨i, member, before⟩, behind⟩
  | either first second ihFirst ihSecond =>
      simp only [ends, Spans, and_or_left, exists_or, ← ihFirst, ← ihSecond, List.mem_append, List.mem_filter]
      by_cases left : j ∈ first.ends text from_
      · simp only [left, true_or]
      · simp only [left, List.contains_eq_mem, decide_false, Bool.not_false, and_true]
  | repeated body least most ih =>
      have moves : ∀ positions j, j ∈ body.ends text positions ↔ ∃ i ∈ positions, body.Spans text i j :=
        fun positions j => ih
      simp only [ends, Spans]
      rw [mem_reach moves (List.Subset.refl _) fun _ member => .inl member]
      simp only [mem_repeat moves]
      constructor
      · rintro ⟨next, ⟨i, member, first⟩, count, few, rest⟩
        refine ⟨i, member, least + count, ⟨Nat.le_add_right _ _, ?_⟩, Linked.add_iff.mpr ⟨next, first, rest⟩⟩
        rintro limit rfl
        simp only at few
        omega
      · rintro ⟨i, member, count, ⟨enough, few⟩, linked⟩
        obtain ⟨more, rfl⟩ := Nat.exists_eq_add_of_le enough
        obtain ⟨next, first, rest⟩ := Linked.add_iff.mp linked
        cases most with
        | none =>
            obtain ⟨fewer, short, found⟩ := exists_linked_le_size rest
            exact ⟨next, ⟨i, member, first⟩, fewer, short, found⟩
        | some limit =>
            have bound := few limit rfl
            exact ⟨next, ⟨i, member, first⟩, more, by simp only; omega, rest⟩
  | start => exact mem_filter_and_eq fun i => beq_iff_eq
  | finish => exact mem_filter_and_eq fun i => beq_iff_eq
  | lineStart => exact mem_filter_and_eq fun i => by rw [Bool.or_eq_true, beq_iff_eq, beq_iff_eq]
  | lineFinish => exact mem_filter_and_eq fun i => by rw [Bool.or_eq_true, beq_iff_eq, beq_iff_eq]
  | wordBoundary negated => exact mem_filter_and_eq fun i => Iff.rfl

/-- A pattern occurs in a text if it can begin and end somewhere in it. -/
theorem occursIn_iff {text : String} :
    pattern.occursIn text = true ↔ ∃ i ≤ text.toList.length, ∃ j, pattern.Spans text.toList.toArray i j := by
  rw [occursIn, Bool.not_eq_true', List.isEmpty_eq_false_iff_exists_mem]
  simp only [mem_ends_iff, List.mem_range, List.size_toArray, Nat.lt_succ_iff]
  constructor
  · rintro ⟨j, i, within, spans⟩
    exact ⟨i, within, j, spans⟩
  · rintro ⟨i, within, j, spans⟩
    exact ⟨j, i, within, spans⟩

end Pattern

end Vetting

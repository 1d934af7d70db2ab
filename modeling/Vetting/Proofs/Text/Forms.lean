import Mathlib.Data.List.DropRight
import Vetting.Text.Blank
import Vetting.Text.Casing

/-!
# Forms of a text

Putting a text in lower case, in upper case or without blanks at its ends once more changes nothing
(`toLower_toLower`, `toUpper_toUpper`, `trim_trim`).

For the two cases this shows in the tables.  A case mapping moves the characters that its runs cover or that it
expands, and where these come to, it moves none (`CaseMapping.settles`).  So each character of a text that has been
mapped stands for itself (`CaseMapping.of_of_mem`), also the two small ones that a capital sigma may become.
-/

namespace Vetting.Text

/-! ## Where runs lead -/

namespace CaseRun

variable {run other : CaseRun} {code : Nat}

/-- A single code point. -/
def single (code : Nat) : CaseRun :=
  ⟨code, code, 1, 0⟩

/-- A single character covers its code. -/
theorem covers_single (code : Nat) : (single code).covers code = true := by
  simp only [covers, single, Nat.le_refl, decide_true, Nat.mod_one, beq_self_eq_true, Bool.and_self]

/-- What the run moves comes to lie before or behind the other run, or between its steps.  Whole tables are put to this
test, pair by pair, so it compares bare numbers. -/
def misses (run other : CaseRun) : Bool :=
  (run.image run.last).blt other.first || other.last.blt (run.image run.first) ||
    (0 ≤ run.first + run.shift && (run.step.beq other.step || run.first.beq run.last) &&
      !(run.image run.first % other.step).beq (other.first % other.step))

/-- Within a run the order of codes is kept. -/
theorem image_mono {low high : Nat} (le : low ≤ high) : run.image low ≤ run.image high := by
  unfold image
  omega

/-- Whole steps in a run are whole steps where it leads. -/
theorem image_eq_add (whole : 0 ≤ run.first + run.shift) (start : run.first ≤ code) :
    run.image code = run.image run.first + (code - run.first) := by
  unfold image
  omega

/-- A run whose images miss another run moves nothing into it. -/
theorem not_covers_image (misses : run.misses other = true) (covered : run.covers code = true) :
    other.covers (run.image code) = false := by
  simp only [covers, Bool.and_eq_true, decide_eq_true_eq, beq_iff_eq] at covered
  obtain ⟨⟨start, stop⟩, steps⟩ := covered
  rw [← Bool.not_eq_true]
  intro also
  simp only [covers, Bool.and_eq_true, decide_eq_true_eq, beq_iff_eq] at also
  obtain ⟨⟨low, high⟩, place⟩ := also
  simp only [CaseRun.misses, Bool.or_eq_true, Bool.and_eq_true, Bool.not_eq_true', Nat.blt_eq, Nat.beq_eq,
    decide_eq_true_eq, ← Bool.not_eq_true, or_assoc, and_assoc] at misses
  rcases misses with before | behind | ⟨whole, even, off⟩
  · exact absurd (low.trans (image_mono stop)) (Nat.not_le.mpr before)
  · exact absurd ((image_mono start).trans high) (Nat.not_le.mpr behind)
  · have same : (code - run.first) % other.step = 0 := by
      rcases even with same | single
      · rw [← same, steps]
      · rw [Nat.sub_eq_zero_of_le (single ▸ stop), Nat.zero_mod]
    refine off ?_
    calc run.image run.first % other.step
        = run.image code % other.step := by
          rw [image_eq_add whole start, Nat.add_mod, same, Nat.add_zero, Nat.mod_mod]
      _ = (other.first + (run.image code - other.first)) % other.step := by rw [Nat.add_sub_cancel' low]
      _ = other.first % other.step := by rw [Nat.add_mod, place, Nat.add_zero, Nat.mod_mod]

end CaseRun

/-! ## Case mappings -/

/-- A mapping of characters by case: a run of ASCII letters, and two tables for all other characters. -/
structure CaseMapping where
  letters : CaseRun
  expansions : List (Nat × List Nat)
  runs : List CaseRun

namespace CaseMapping

/-- The characters that a character is mapped to. -/
def of (mapping : CaseMapping) (c : Char) : List Char :=
  if c.toNat < 0x80 then [Char.ofNat ((imageUnder? [mapping.letters] c.toNat).getD c.toNat)]
  else match mapping.expansions.lookup c.toNat with
    | some codes => codes.map Char.ofNat
    | none => [Char.ofNat ((imageUnder? mapping.runs c.toNat).getD c.toNat)]

/-- The code points that may not stand for themselves, as runs. -/
def movers (mapping : CaseMapping) : List CaseRun :=
  mapping.letters :: mapping.runs ++ mapping.expansions.map fun (code, _) => .single code

/-- The code point stands for itself. -/
def rests (mapping : CaseMapping) (code : Nat) : Bool :=
  mapping.movers.all fun mover => !mover.covers code

/-- Nothing is mapped to a character that is itself mapped to others. -/
def settles (mapping : CaseMapping) : Bool :=
  mapping.rests 0 && (mapping.expansions.all fun entry => entry.2.all mapping.rests) &&
    (mapping.letters :: mapping.runs).all fun run => mapping.movers.all run.misses

variable {mapping : CaseMapping} {c d : Char}

/-- A code that no run covers has no image. -/
theorem imageUnder?_eq_none {runs : List CaseRun} {code : Nat} (clear : ∀ run ∈ runs, run.covers code = false) :
    imageUnder? runs code = none := by
  rw [imageUnder?, Option.map_eq_none_iff, List.find?_eq_none]
  exact fun run member => Bool.not_eq_true _ ▸ clear run member

/-- A code rests if no mover covers it. -/
theorem rests_iff {code : Nat} : mapping.rests code = true ↔ ∀ mover ∈ mapping.movers, mover.covers code = false := by
  simp only [rests, List.all_eq_true, Bool.not_eq_true']

/-- A character that rests is mapped to itself. -/
theorem of_eq_self (rests : mapping.rests c.toNat = true) : mapping.of c = [c] := by
  rw [rests_iff] at rests
  have inRuns : imageUnder? mapping.runs c.toNat = none :=
    imageUnder?_eq_none fun run member => rests run (List.mem_cons_of_mem _ (List.mem_append_left _ member))
  have inLetters : imageUnder? [mapping.letters] c.toNat = none :=
    imageUnder?_eq_none (List.forall_mem_singleton.mpr (rests _ List.mem_cons_self))
  have unexpanded : mapping.expansions.lookup c.toNat = none := by
    rw [List.lookup_eq_none_iff]
    intro entry member
    have clear := rests (.single entry.1) (List.mem_cons_of_mem _ (List.mem_append_right _
      (List.mem_map.mpr ⟨entry, member, rfl⟩)))
    rw [bne_iff_ne]
    intro same
    rw [same, CaseRun.covers_single] at clear
    cases clear
  rw [of, inRuns, inLetters, unexpanded, Option.getD_none, Char.ofNat_toNat, ite_self]

/-- A code point that is none of a character stands for the character zero. -/
theorem toNat_ofNat (code : Nat) : (Char.ofNat code).toNat = code ∨ (Char.ofNat code).toNat = 0 := by
  rw [Char.ofNat]
  by_cases valid : code.isValidChar
  · rw [dif_pos valid]
    exact .inl rfl
  · rw [dif_neg valid]
    exact .inr rfl

/-- A mapping settles if all of its images rest: the code of no character, the expansions, and what runs make of the
codes that they cover. -/
theorem settles_iff : mapping.settles = true ↔ mapping.rests 0 = true ∧
    (∀ entry ∈ mapping.expansions, ∀ code ∈ entry.2, mapping.rests code = true) ∧
      ∀ run ∈ mapping.letters :: mapping.runs, ∀ mover ∈ mapping.movers, run.misses mover = true := by
  simp only [settles, Bool.and_eq_true, List.all_eq_true, and_assoc]

section Settles

variable (settles : mapping.settles = true)

include settles

/-- A code that rests still rests once it has been made a character. -/
theorem rests_ofNat {code : Nat} (rests : mapping.rests code = true) :
    mapping.rests (Char.ofNat code).toNat = true := by
  rcases toNat_ofNat code with same | zero
  · rwa [same]
  · rw [zero]
    exact (settles_iff.mp settles).1

/-- A character that some of the runs lead to is at rest, or they have left it where it was. -/
theorem rests_of_runs {runs : List CaseRun} (own : ∀ run ∈ runs, run ∈ mapping.letters :: mapping.runs) :
    mapping.rests (Char.ofNat ((imageUnder? runs c.toNat).getD c.toNat)).toNat = true ∨
      imageUnder? runs c.toNat = none := by
  cases found : imageUnder? runs c.toNat with
  | none => exact .inr rfl
  | some image =>
      obtain ⟨run, chosen, rfl⟩ := Option.map_eq_some_iff.mp found
      have misses := (settles_iff.mp settles).2.2 run (own run (List.mem_of_find?_eq_some chosen))
      refine .inl (rests_ofNat settles (rests_iff.mpr fun mover moves => ?_))
      exact CaseRun.not_covers_image (misses mover moves) (List.find?_eq_some_iff_append.mp chosen).1

/-- Where a character goes to what some of the runs make of it, that stands for itself. -/
theorem of_eq_self_of_runs {runs : List CaseRun} (own : ∀ run ∈ runs, run ∈ mapping.letters :: mapping.runs)
    (split : mapping.of c = [Char.ofNat ((imageUnder? runs c.toNat).getD c.toNat)]) (member : d ∈ mapping.of c) :
    mapping.of d = [d] := by
  rcases rests_of_runs settles (c := c) own with rests | still
  · rw [split, List.mem_singleton] at member
    exact of_eq_self (member ▸ rests)
  · rw [still, Option.getD_none, Char.ofNat_toNat] at split
    rw [split, List.mem_singleton] at member
    rw [member, split]

/-- **A mapping is through in one go.**  Each character that comes of it stands for itself. -/
theorem of_of_mem (member : d ∈ mapping.of c) : mapping.of d = [d] := by
  by_cases ascii : c.toNat < 0x80
  · exact of_eq_self_of_runs settles (List.forall_mem_singleton.mpr List.mem_cons_self) (if_pos ascii) member
  · cases listed : mapping.expansions.lookup c.toNat with
    | some codes =>
        rw [of, if_neg ascii, listed] at member
        obtain ⟨code, among, rfl⟩ := List.mem_map.mp member
        obtain ⟨before, after, same, -⟩ := List.lookup_eq_some_iff.mp listed
        refine of_eq_self (rests_ofNat settles ((settles_iff.mp settles).2.1 (c.toNat, codes) ?_ code among))
        rw [same]
        exact List.mem_append_right _ List.mem_cons_self
    | none =>
        refine of_eq_self_of_runs settles (fun run (own : run ∈ mapping.runs) => List.mem_cons_of_mem _ own) ?_ member
        rw [of, if_neg ascii, listed]

end Settles

/-- Of an ASCII character comes what becomes of all these. -/
theorem of_eq_singleton (letter : Char → Char) (letters : ∀ code < 0x80,
      letter (Char.ofNat code) = Char.ofNat ((imageUnder? [mapping.letters] code).getD code))
    (ascii : c.toNat < 0x80) : mapping.of c = [letter c] := by
  rw [of, if_pos ascii, ← letters c.toNat ascii, Char.ofNat_toNat]

end CaseMapping

/-! ## Lower case and upper case -/

/-- The mapping to lower case. -/
def lowering : CaseMapping :=
  ⟨⟨0x41, 0x5A, 1, 32⟩, lowerExpansions, lowerRuns⟩

/-- The mapping to upper case. -/
def raising : CaseMapping :=
  ⟨⟨0x61, 0x7A, 1, -32⟩, upperExpansions, upperRuns⟩

/-- The mapping to small letters settles. -/
theorem settles_lowering : lowering.settles = true := by
  decide +kernel

/-- The mapping to capital letters settles. -/
theorem settles_raising : raising.settles = true := by
  decide +kernel

/-- Small letters are found by the mapping to small letters. -/
theorem lowerOf_eq (c : Char) : lowerOf c = lowering.of c := by
  by_cases ascii : c.toNat < 0x80
  · rw [lowerOf, if_pos ascii, CaseMapping.of_eq_singleton Char.toLower (by decide +kernel) ascii]
  · rw [lowerOf, CaseMapping.of, if_neg ascii, if_neg ascii]
    rfl

/-- Capital letters are found by the mapping to capital letters. -/
theorem upperOf_eq (c : Char) : upperOf c = raising.of c := by
  by_cases ascii : c.toNat < 0x80
  · rw [upperOf, if_pos ascii, CaseMapping.of_eq_singleton Char.toUpper (by decide +kernel) ascii]
  · rw [upperOf, CaseMapping.of, if_neg ascii, if_neg ascii]
    rfl

/-- Small characters stand as they are, whatever is around them. -/
theorem lowerAfter_eq_self {text : List Char} (small : ∀ c ∈ text, lowerOf c = [c]) (before : List Char) :
    lowerAfter before text = text := by
  induction text generalizing before with
  | nil => rfl
  | cons c rest ih =>
      obtain ⟨own, others⟩ := List.forall_mem_cons.mp small
      have noSigma : c ≠ 'Σ' := by
        rintro rfl
        exact absurd own (by decide +kernel)
      rw [lowerAfter, if_neg noSigma, own, ih others, List.singleton_append]

/-- A text in lower case is of small characters. -/
theorem lowerOf_of_mem_lowerAfter {before text : List Char} {c : Char} (member : c ∈ lowerAfter before text) :
    lowerOf c = [c] := by
  induction text generalizing before with
  | nil => cases member
  | cons first rest ih =>
      rw [lowerAfter] at member
      split at member
      · rcases List.mem_cons.mp member with rfl | later
        · have sigmas : lowerOf 'ς' = ['ς'] ∧ lowerOf 'σ' = ['σ'] := by decide +kernel
          split
          · exact sigmas.1
          · exact sigmas.2
        · exact ih later
      · rcases List.mem_append.mp member with own | later
        · rw [lowerOf_eq] at own ⊢
          exact CaseMapping.of_of_mem settles_lowering own
        · exact ih later

/-- A text in small letters is in small letters already. -/
theorem toLower_toLower (text : String) : toLower (toLower text) = toLower text := by
  rw [toLower, toLower, String.toList_ofList, lowerAfter_eq_self fun _ => lowerOf_of_mem_lowerAfter]

/-- A text in capital letters is in capital letters already. -/
theorem toUpper_toUpper (text : String) : toUpper (toUpper text) = toUpper text := by
  have large : ∀ c ∈ text.toList.flatMap upperOf, upperOf c = [c] := by
    intro c member
    obtain ⟨first, -, own⟩ := List.mem_flatMap.mp member
    rw [upperOf_eq] at own ⊢
    exact CaseMapping.of_of_mem settles_raising own
  rw [toUpper, toUpper, String.toList_ofList, List.flatMap_congr large, List.flatMap_singleton']

/-! ## Blanks at the ends -/

/-- A text is trimmed at its beginning and at its end. -/
theorem trimmed_eq (text : List Char) : trimmed text = (text.dropWhile isBlank).rdropWhile isBlank :=
  rfl

/-- A trimmed row of characters has nothing more to trim. -/
theorem trimmed_trimmed (text : List Char) : trimmed (trimmed text) = trimmed text := by
  have front : (trimmed text).dropWhile isBlank = trimmed text := by
    rw [List.dropWhile_eq_self_iff]
    intro there
    -- What is cut off at the end leaves the first character that is not blank in front.
    have cut : trimmed text <+: text.dropWhile isBlank := List.rdropWhile_prefix isBlank _
    rw [cut.getElem there]
    exact List.dropWhile_get_zero_not isBlank text (there.trans_le cut.length_le)
  rw [trimmed_eq (trimmed text), front, trimmed_eq, List.rdropWhile_idempotent]

/-- A trimmed text has nothing more to trim. -/
theorem trim_trim (text : String) : trim (trim text) = trim text := by
  rw [trim, trim, String.toList_ofList, trimmed_trimmed]

end Vetting.Text

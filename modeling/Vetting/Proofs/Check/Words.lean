import Vetting.Proofs.Check.Texts
import Vetting.Proofs.Regex.Folding
import Vetting.Proofs.Regex.Language
import Vetting.Proofs.Text.Pieces

/-!
# Words and host names

The shapes of words and of host names, said without patterns (`Check.passes_words_iff`): a row of letters and digits,
and labels with dots between them.  Both shapes ignore case, so they take two characters beyond ASCII for letters
(`Check.not_ascii_only`).
-/

namespace Vetting

open scoped Computability
open Pattern Text

namespace Shape

variable {label text : List Char} {words : Words} {separator : Char}

/-! ## Separators -/

/-- Words that each end in a separator, and one more, are words joined by the separator. -/
theorem mem_separated_iff : text ∈ (words * {[separator]})∗ * words ↔
    ∃ parts, parts ≠ [] ∧ (∀ part ∈ parts, part ∈ words) ∧ [separator].intercalate parts = text := by
  constructor
  · rintro ⟨_, separated, last, member, rfl⟩
    obtain ⟨ended, rfl, each⟩ := Language.mem_kstar.mp separated
    clear separated
    induction ended with
    | nil => exact ⟨[last], List.cons_ne_nil _ _, List.forall_mem_singleton.mpr member, List.intercalate_singleton⟩
    | cons part rest ih =>
        obtain ⟨⟨word, own, _, rfl, rfl⟩, others⟩ := List.forall_mem_cons.mp each
        obtain ⟨parts, some, members, joined⟩ := ih others
        refine ⟨word :: parts, List.cons_ne_nil _ _, List.forall_mem_cons.mpr ⟨own, members⟩, ?_⟩
        rw [List.intercalate_cons_of_ne_nil some, joined]
        exact (List.append_assoc _ _ _).symm
  · rintro ⟨parts, some, members, rfl⟩
    induction parts with
    | nil => exact absurd rfl some
    | cons part rest ih =>
        obtain ⟨own, others⟩ := List.forall_mem_cons.mp members
        rw [← Language.one_add_self_mul_kstar_eq_kstar, add_mul, one_mul, mul_assoc, Language.mem_add]
        cases rest with
        | nil => exact .inl (List.intercalate_singleton ▸ own)
        | cons next more =>
            rw [List.intercalate_cons_cons]
            exact .inr ⟨_, ⟨part, own, _, rfl, rfl⟩, _, ih (List.cons_ne_nil _ _) others, rfl⟩

/-- Words without the separator are joined by it in a text exactly if its pieces are words. -/
theorem mem_separated_iff_pieces (free : ∀ word ∈ words, separator ∉ word) :
    text ∈ (words * {[separator]})∗ * words ↔ ∀ piece ∈ pieces separator text, piece ∈ words := by
  rw [mem_separated_iff]
  constructor
  · rintro ⟨parts, some, members, rfl⟩
    rwa [pieces_intercalate some fun part among => free part (members part among)]
  · intro members
    exact ⟨_, pieces_ne_nil separator text, members, intercalate_pieces separator text⟩

/-! ## Labels -/

/-- A part of a host name: letters, digits and inner hyphens. -/
structure IsLabel (label : List Char) : Prop where
  ne_nil : label ≠ []
  letters : ∀ c ∈ label, IsAlphanumeric c ∨ c = '-'
  opens : label.head? ≠ some '-'
  closes : label.getLast? ≠ some '-'

/-- A letter or digit is no hyphen. -/
theorem ne_hyphen {c : Char} (letter : IsAlphanumeric c) : c ≠ '-' := by
  rintro rfl
  exact absurd letter (by decide)

/-- At the ends of a label stand letters and digits. -/
theorem contains_outer_iff {c : Char} : (CharClass.letters false).contains c = true ↔ IsAlphanumeric c := by
  rw [CharClass.contains_letters_iff, or_iff_left]
  rintro ⟨absent, -⟩
  cases absent

/-- Inside a label hyphens may stand as well. -/
theorem contains_inner_iff {c : Char} : (CharClass.letters true).contains c = true ↔ IsAlphanumeric c ∨ c = '-' := by
  rw [CharClass.contains_letters_iff, and_iff_right rfl]

/-- A label is a letter, or two letters with letters and hyphens between them. -/
theorem isLabel_iff : IsLabel label ↔ (∃ c, IsAlphanumeric c ∧ label = [c]) ∨
    ∃ first inner last, IsAlphanumeric first ∧ (∀ c ∈ inner, IsAlphanumeric c ∨ c = '-') ∧ IsAlphanumeric last ∧
      label = first :: (inner ++ [last]) := by
  constructor
  · rintro ⟨some, letters, opens, closes⟩
    cases label with
    | nil => exact absurd rfl some
    | cons first rest =>
        obtain ⟨own, others⟩ := List.forall_mem_cons.mp letters
        have letter := own.resolve_right fun same => opens (same ▸ rfl)
        rcases List.eq_nil_or_concat' rest with rfl | ⟨inner, last, rfl⟩
        · exact .inl ⟨first, letter, rfl⟩
        · obtain ⟨middle, final⟩ := List.forall_mem_append.mp others
          rw [← List.cons_append, List.getLast?_concat] at closes
          have ending := (final last List.mem_cons_self).resolve_right fun same => closes (same ▸ rfl)
          exact .inr ⟨first, inner, last, letter, middle, ending, rfl⟩
  · rintro (⟨c, letter, rfl⟩ | ⟨first, inner, last, letter, middle, ending, rfl⟩)
    · exact ⟨List.cons_ne_nil _ _, List.forall_mem_singleton.mpr (.inl letter),
        fun same => ne_hyphen letter (Option.some.inj same), fun same => ne_hyphen letter (Option.some.inj same)⟩
    · refine ⟨List.cons_ne_nil _ _, ?_, fun same => ne_hyphen letter (Option.some.inj same), fun same => ?_⟩
      · exact List.forall_mem_cons.mpr ⟨.inl letter,
          List.forall_mem_append.mpr ⟨middle, List.forall_mem_singleton.mpr (.inl ending)⟩⟩
      · rw [← List.cons_append, List.getLast?_concat] at same
        exact ne_hyphen ending (Option.some.inj same)

/-- The pattern of a label matches labels and nothing else. -/
theorem mem_language_hostLabel_iff : label ∈ hostLabel.language ↔ IsLabel label := by
  let outer := one (CharClass.letters false)
  let inner := one (CharClass.letters true)
  have shape : hostLabel.language = outer.language + outer.language * (inner.language∗ * outer.language) := by
    rw [← language_many]
    rfl
  rw [shape, Language.mem_add, isLabel_iff]
  refine or_congr (exists_congr fun c => and_congr_left' contains_outer_iff) ?_
  constructor
  · rintro ⟨_, ⟨first, letter, rfl⟩, _, ⟨middle, inside, _, ⟨last, ending, rfl⟩, rfl⟩, rfl⟩
    exact ⟨first, middle, last, contains_outer_iff.mp letter,
      fun c among => contains_inner_iff.mp (mem_kstar_one_iff.mp inside c among), contains_outer_iff.mp ending, rfl⟩
  · rintro ⟨first, middle, last, letter, inside, ending, rfl⟩
    rw [cons_mem_one_mul_iff]
    exact ⟨contains_outer_iff.mpr letter, middle,
      mem_kstar_one_iff.mpr fun c among => contains_inner_iff.mpr (inside c among), _,
      ⟨last, contains_outer_iff.mpr ending, rfl⟩, rfl⟩

/-- No label has a dot inside. -/
theorem dot_not_mem (shaped : IsLabel label) : '.' ∉ label := by
  intro among
  exact absurd (shaped.letters '.' among) (by decide)

/-! ## Shapes -/

variable {text : String}

/-- The alphanumeric shape occurs in texts of letters and digits, of which there is at least one. -/
theorem occursIn_alphanumeric_iff :
    alphanumeric.occursIn text = true ↔ text ≠ "" ∧ ∀ c ∈ text.toList, IsAlphanumeric c := by
  have shape : alphanumeric.occursIn text = true ↔ text.toList ∈ List.prod _ := occursIn_whole_iff rfl
  rw [List.map_singleton, List.prod_singleton, language_atLeastOnce] at shape
  rw [shape, ne_eq, ← String.toList_eq_nil_iff]
  cases text.toList with
  | nil => exact iff_of_false nil_not_mem_one_mul fun some => some.1 rfl
  | cons first rest =>
      rw [oneOfClass, cons_mem_one_mul_iff, mem_kstar_one_iff, List.forall_mem_cons,
        and_iff_right (List.cons_ne_nil first rest)]
      exact and_congr contains_outer_iff (forall₂_congr fun c _ => contains_outer_iff)

/-- The shape of host names occurs in texts whose pieces are labels. -/
theorem occursIn_hostName_iff :
    hostName.occursIn text = true ↔ ∀ label ∈ pieces '.' text.toList, IsLabel label := by
  have shape : hostName.occursIn text = true ↔ text.toList ∈ List.prod _ := occursIn_whole_iff rfl
  simp only [List.map_cons, List.map_nil, List.prod_cons, List.prod_nil, mul_one, language_many, language_chain,
    language_character] at shape
  rw [shape, mem_separated_iff_pieces fun word member => dot_not_mem (mem_language_hostLabel_iff.mp member)]
  simp only [mem_language_hostLabel_iff]

end Shape

namespace Check

open Shape

/-- **Words and host names.**  Words are texts of letters and digits, and of at least one.  Host names are addresses,
and texts with a label in front of every dot and behind the last. -/
theorem passes_words_iff (text : String) :
    (alphanumeric.Passes text ↔ text ≠ "" ∧ ∀ c ∈ text.toList, IsAlphanumeric c) ∧
      (hostName.Passes text ↔
        Address.isAddress text.toList = true ∨ ∀ label ∈ pieces '.' text.toList, IsLabel label) := by
  constructor
  · rw [passes_iff_of_shape rfl, occursIn_alphanumeric_iff]
  · rw [passes_iff (by decide), ← occursIn_hostName_iff, or_comm, ← Bool.or_eq_true]
    rfl

/-- The kelvin sign is a word, and the name of a host. -/
theorem not_ascii_only :
    ¬ (alphanumeric.Passes "\u212A" ↔ "\u212A" ≠ "" ∧ ∀ c ∈ "\u212A".toList, c.isAlphanum = true) ∧
      ¬ (hostName.Passes "\u212A" ↔ Address.isAddress "\u212A".toList = true ∨
        ∀ label ∈ pieces '.' "\u212A".toList, label ≠ [] ∧ (∀ c ∈ label, c.isAlphanum = true ∨ c = '-') ∧
          label.head? ≠ some '-' ∧ label.getLast? ≠ some '-') := by
  have word : alphanumeric.Passes "\u212A" := (passes_iff_of_shape rfl).mpr (by decide +kernel)
  have host : hostName.Passes "\u212A" := (passes_iff (by decide)).mpr (by decide +kernel)
  have alone : "\u212A".toList = ['\u212A'] := rfl
  rw [alone]
  constructor
  · intro claim
    exact absurd ((claim.mp word).2 '\u212A' List.mem_cons_self) (by decide)
  · intro claim
    rcases claim.mp host with address | labels
    · exact absurd address (by decide +kernel)
    · exact absurd ((labels ['\u212A'] List.mem_cons_self).2.1 '\u212A' List.mem_cons_self) (by decide)

end Check

end Vetting

import Mathlib.Computability.Language
import Vetting.Check.Shapes
import Vetting.Proofs.Regex.Matching

/-!
# The language of a pattern

A pattern without anchors spans the same words wherever it stands, so it has a language, made of those of its parts by
union, concatenation and repetition.  It spans a part of a text exactly if that is a word of its language
(`Pattern.spans_iff`).  A shape of whole texts occurs in a text exactly if the text is a word of the language of its
parts (`Shape.occursIn_whole_iff`).
-/

/-- A language of texts. -/
abbrev Vetting.Words : Type :=
  Language Char

namespace Vetting

open scoped Computability

namespace Pattern

/-- The pattern asks nothing of what stands before it and behind it. -/
def isPlain : Pattern → Bool
  | empty | one _ => true
  | sequence first second | either first second => first.isPlain && second.isPlain
  | repeated body _ _ => body.isPlain
  | _ => false

/-- The texts that a plain pattern stands for. -/
def language : Pattern → Words
  | empty => 1
  | one set => {word | ∃ c, set.contains c = true ∧ word = [c]}
  | sequence first second => first.language * second.language
  | either first second => first.language + second.language
  | repeated body least most => {word | ∃ count, Allows least most count ∧ word ∈ body.language ^ count}
  | start | finish | lineStart | lineFinish | wordBoundary _ => 0

variable {text word : List Char} {i j : Nat}

/-! ## Words inside a text -/

/-- The word stands in the text from the first position to the second. -/
def Stands (text word : List Char) (i j : Nat) : Prop :=
  word <+: text.drop i ∧ i + word.length = j

/-- An empty word stands wherever it begins. -/
theorem stands_nil_iff : Stands text [] i j ↔ i = j := by
  simp only [Stands, List.nil_prefix, List.length_nil, Nat.add_zero, true_and]

/-- A single character stands where the text has it. -/
theorem stands_singleton_iff {c : Char} : Stands text [c] i j ↔ text[i]? = some c ∧ i + 1 = j := by
  rw [Stands, List.length_singleton, ← List.head?_drop]
  cases text.drop i with
  | nil => simp only [List.prefix_nil, List.cons_ne_nil, List.head?_nil, reduceCtorEq]
  | cons first rest =>
      simp only [List.cons_prefix_cons, List.nil_prefix, and_true, List.head?_cons, Option.some.injEq, eq_comm]

/-- A word stands in a text if its parts stand there one behind the other. -/
theorem stands_append_iff {first second : List Char} {k : Nat} :
    Stands text (first ++ second) i k ↔ ∃ j, Stands text first i j ∧ Stands text second j k := by
  constructor
  · rintro ⟨⟨rest, whole⟩, rfl⟩
    rw [List.append_assoc] at whole
    refine ⟨i + first.length, ⟨⟨second ++ rest, whole⟩, rfl⟩, ⟨rest, ?_⟩, ?_⟩
    · rw [← List.drop_drop, ← whole, List.drop_left]
    · rw [List.length_append, Nat.add_assoc]
  · rintro ⟨j, ⟨⟨rest, whole⟩, rfl⟩, ⟨left, behind⟩, rfl⟩
    rw [← List.drop_drop, ← whole, List.drop_left] at behind
    refine ⟨⟨left, ?_⟩, ?_⟩
    · rw [List.append_assoc, behind, whole]
    · rw [List.length_append, Nat.add_assoc]

/-- Steps that each span a word of a language span a word of its power. -/
theorem linked_iff {step : Nat → Nat → Prop} {words : Words}
    (spans : ∀ i j, step i j ↔ ∃ word ∈ words, Stands text word i j) {count : Nat} :
    Linked step count i j ↔ ∃ word ∈ words ^ count, Stands text word i j := by
  induction count generalizing i with
  | zero => simp only [Linked, pow_zero, Language.mem_one, exists_eq_left, stands_nil_iff]
  | succ count ih =>
      rw [pow_succ']
      simp only [Linked, spans, ih, Language.mem_mul]
      constructor
      · rintro ⟨next, ⟨first, own, here⟩, second, others, there⟩
        exact ⟨_, ⟨first, own, second, others, rfl⟩, stands_append_iff.mpr ⟨next, here, there⟩⟩
      · rintro ⟨_, ⟨first, own, second, others, rfl⟩, stands⟩
        obtain ⟨next, here, there⟩ := stands_append_iff.mp stands
        exact ⟨next, ⟨first, own, here⟩, second, others, there⟩

/-- **The words of a pattern.**  A plain pattern spans exactly the words of its language, wherever they stand. -/
theorem spans_iff {pattern : Pattern} (plain : pattern.isPlain = true) :
    pattern.Spans text.toArray i j ↔ ∃ word ∈ pattern.language, Stands text word i j := by
  induction pattern generalizing i j with
  | empty => simp only [Spans, language, Language.mem_one, exists_eq_left, stands_nil_iff]
  | one set =>
      rw [Spans, takes, Option.any_eq_true, List.getElem?_toArray]
      constructor
      · rintro ⟨⟨c, there, belongs⟩, next⟩
        exact ⟨[c], ⟨c, belongs, rfl⟩, stands_singleton_iff.mpr ⟨there, next⟩⟩
      · rintro ⟨_, ⟨c, belongs, rfl⟩, stands⟩
        obtain ⟨there, next⟩ := stands_singleton_iff.mp stands
        exact ⟨⟨c, there, belongs⟩, next⟩
  | sequence first second ihFirst ihSecond =>
      obtain ⟨plainFirst, plainSecond⟩ := Bool.and_eq_true_iff.mp plain
      simp only [Spans, language, ihFirst plainFirst, ihSecond plainSecond, Language.mem_mul]
      constructor
      · rintro ⟨next, ⟨before, own, here⟩, behind, others, there⟩
        exact ⟨_, ⟨before, own, behind, others, rfl⟩, stands_append_iff.mpr ⟨next, here, there⟩⟩
      · rintro ⟨_, ⟨before, own, behind, others, rfl⟩, stands⟩
        obtain ⟨next, here, there⟩ := stands_append_iff.mp stands
        exact ⟨next, ⟨before, own, here⟩, behind, others, there⟩
  | either first second ihFirst ihSecond =>
      obtain ⟨plainFirst, plainSecond⟩ := Bool.and_eq_true_iff.mp plain
      simp only [Spans, language, ihFirst plainFirst, ihSecond plainSecond, Language.mem_add, or_and_right, exists_or]
  | repeated body least most ih =>
      simp only [Spans, language, linked_iff fun i j => ih plain]
      constructor
      · rintro ⟨count, allowed, word, member, stands⟩
        exact ⟨word, ⟨count, allowed, member⟩, stands⟩
      · rintro ⟨word, ⟨count, allowed, member⟩, stands⟩
        exact ⟨count, allowed, word, member, stands⟩
  | start | finish | lineStart | lineFinish | wordBoundary _ => cases plain

/-! ## Single characters -/

/-- A class that is neither negated nor folded has the characters that its items cover. -/
theorem contains_plain (items : List ClassItem) (c : Char) :
    (CharClass.mk items false false).contains c = items.any fun item => item.covers c := by
  rw [CharClass.contains, Bool.bne_false]
  rfl

/-- A class of one range has the characters of that range. -/
theorem contains_range_iff {first last c : Char} :
    (CharClass.mk [.range first last] false false).contains c = true ↔ first ≤ c ∧ c ≤ last := by
  rw [contains_plain, List.any_cons, List.any_nil, Bool.or_false, ClassItem.covers, Bool.and_eq_true,
    decide_eq_true_eq, decide_eq_true_eq]

/-- A class of a single character has no other. -/
theorem contains_single_iff {c d : Char} : (CharClass.single c false).contains d = true ↔ d = c := by
  rw [CharClass.single, contains_range_iff]
  constructor
  · rintro ⟨below, above⟩
    exact Char.le_antisymm above below
  · rintro rfl
    exact ⟨Char.le_refl _, Char.le_refl _⟩

/-! ## Languages of the common patterns -/

variable {pattern : Pattern} {patterns : List Pattern} {set : CharClass} {c : Char} {words : Words}

/-- No word that begins with a character is empty. -/
theorem nil_not_mem_one_mul : [] ∉ (one set).language * words := by
  rintro ⟨_, ⟨c, -, rfl⟩, _, -, nothing⟩
  cases nothing

/-- A word begins with a character of the class and goes on with a word of the rest. -/
theorem cons_mem_one_mul_iff :
    c :: word ∈ (one set).language * words ↔ set.contains c = true ∧ word ∈ words := by
  constructor
  · rintro ⟨_, ⟨first, belongs, rfl⟩, rest, member, same⟩
    obtain ⟨rfl, rfl⟩ := List.cons.inj same
    exact ⟨belongs, member⟩
  · rintro ⟨belongs, member⟩
    exact ⟨[c], ⟨c, belongs, rfl⟩, word, member, rfl⟩

/-- A row of a class has any number of its characters. -/
theorem mem_kstar_one_iff : word ∈ (one set).language∗ ↔ ∀ c ∈ word, set.contains c = true := by
  induction word with
  | nil => exact iff_of_true (Language.nil_mem_kstar _) (List.forall_mem_nil _)
  | cons first rest ih =>
      rw [List.forall_mem_cons, ← ih, ← cons_mem_one_mul_iff, ← Language.one_add_self_mul_kstar_eq_kstar,
        Language.mem_add, Language.mem_one, or_iff_right (List.cons_ne_nil _ _),
        Language.one_add_self_mul_kstar_eq_kstar]

/-- The language of a choice is what either pattern matches. -/
theorem language_either (first second : Pattern) :
    (either first second).language = first.language + second.language :=
  rfl

/-- The language of a repetition is the star of the pattern. -/
theorem language_many (pattern : Pattern) : (many pattern).language = pattern.language∗ := by
  rw [Language.kstar_eq_iSup_pow]
  ext word
  rw [Language.mem_iSup]
  exact exists_congr fun count => and_iff_right ⟨Nat.zero_le _, fun limit given => by cases given⟩

/-- The language of a repetition that is not empty has one word more. -/
theorem language_atLeastOnce (pattern : Pattern) :
    (atLeastOnce pattern).language = pattern.language * pattern.language∗ := by
  rw [Language.kstar_eq_iSup_pow, Language.mul_iSup]
  ext word
  rw [Language.mem_iSup]
  constructor
  · rintro ⟨count, ⟨some, -⟩, member⟩
    obtain ⟨fewer, rfl⟩ := Nat.exists_eq_add_of_le' some
    exact ⟨fewer, pow_succ' pattern.language fewer ▸ member⟩
  · rintro ⟨fewer, member⟩
    refine ⟨fewer + 1, ⟨Nat.le_add_left _ _, fun limit given => by cases given⟩, ?_⟩
    rwa [pow_succ']

/-- The language of a counted repetition is a power. -/
theorem language_times (pattern : Pattern) (count : Nat) :
    (times pattern count).language = pattern.language ^ count := by
  ext word
  constructor
  · rintro ⟨chosen, ⟨enough, few⟩, member⟩
    have bound := few count rfl
    rw [Nat.max_self] at bound
    rwa [← Nat.le_antisymm bound enough]
  · intro member
    refine ⟨count, ⟨Nat.le_refl _, ?_⟩, member⟩
    intro limit given
    obtain rfl := Option.some.inj given
    exact Nat.le_max_left _ _

/-- The language of an option has the empty word besides. -/
theorem language_optional (pattern : Pattern) : (optional pattern).language = 1 + pattern.language := by
  ext word
  rw [Language.mem_add]
  constructor
  · rintro ⟨count, ⟨-, few⟩, member⟩
    have bound := few 1 rfl
    match count with
    | 0 => exact .inl (pow_zero pattern.language ▸ member)
    | 1 => exact .inr (pow_one pattern.language ▸ member)
    | count + 2 => omega
  · rintro (nothing | once)
    · exact ⟨0, ⟨Nat.le_refl _, fun _ _ => Nat.zero_le _⟩, (pow_zero pattern.language).symm ▸ nothing⟩
    · refine ⟨1, ⟨Nat.zero_le _, ?_⟩, (pow_one pattern.language).symm ▸ once⟩
      intro limit given
      obtain rfl := Option.some.inj given
      exact Nat.le_max_right _ _

/-- A chain is its first pattern and then the chain of the others. -/
theorem chain_cons_cons (first second : Pattern) (rest : List Pattern) :
    chain (first :: second :: rest) = sequence first (chain (second :: rest)) :=
  rfl

/-- A chain spans what its first pattern and then the chain of the others span. -/
theorem spans_chain_cons {text : Array Char} {i k : Nat} :
    (chain (pattern :: patterns)).Spans text i k ↔
      ∃ j, pattern.Spans text i j ∧ (chain patterns).Spans text j k := by
  cases patterns with
  | nil => simp only [chain, Spans, exists_eq_right]
  | cons next rest => rw [chain_cons_cons, Spans]

/-- The language of a chain is the product of the languages. -/
theorem language_chain : ∀ patterns : List Pattern, (chain patterns).language = (patterns.map language).prod
  | [] => rfl
  | [last] => by rw [chain, List.map_singleton, List.prod_singleton]
  | first :: second :: rest => by
      rw [chain_cons_cons, language, language_chain (second :: rest), ← List.prod_cons]
      rfl

/-- A choice of several patterns has the words of each of them. -/
theorem mem_oneOf_iff {first : Pattern} {others : List Pattern} :
    word ∈ (oneOf first others).language ↔ ∃ pattern ∈ first :: others, word ∈ pattern.language := by
  induction others generalizing first with
  | nil => simp only [oneOf, List.mem_singleton, exists_eq_left]
  | cons second rest ih =>
      rw [oneOf, language_either, Language.mem_add, ih, List.exists_mem_cons_iff (a := first)]

/-- A chain is plain if all of its patterns are. -/
theorem isPlain_chain : ∀ patterns : List Pattern, (chain patterns).isPlain = patterns.all isPlain
  | [] => rfl
  | [last] => by rw [chain, List.all_cons, List.all_nil, Bool.and_true]
  | first :: second :: rest => by
      rw [chain_cons_cons, isPlain, isPlain_chain (second :: rest)]
      rfl

/-! ## What words begin with, and what they are made of -/

/-- The words begin with characters of the kind, unless they are empty. -/
def Open (kind : Char → Bool) (words : Words) : Prop :=
  ∀ c rest, c :: rest ∈ words → kind c = true

variable {kind : Char → Bool} {others : Words}

/-- The empty word leaves open what follows. -/
theorem open_one : Open kind 1 := by
  intro c rest member
  cases member

/-- A choice leaves open what follows if both sides do. -/
theorem Open.add (first : Open kind words) (second : Open kind others) : Open kind (words + others) := by
  rintro c rest (left | right)
  · exact first c rest left
  · exact second c rest right

/-- What begins with a character of the kind leaves open what follows. -/
theorem open_one_mul (holds : ∀ c, set.contains c = true → kind c = true) : Open kind ((one set).language * words) :=
  fun c _ member => holds c (cons_mem_one_mul_iff.mp member).1

/-- The pattern spans characters of the kind only. -/
def Writes (kind : Char → Prop) : Pattern → Prop
  | one set => ∀ c, set.contains c = true → kind c
  | sequence first second | either first second => first.Writes kind ∧ second.Writes kind
  | repeated body _ _ => body.Writes kind
  | _ => True

/-- The words of a pattern consist of what it writes. -/
theorem Writes.of_mem {kind : Char → Prop} (writes : pattern.Writes kind) (member : word ∈ pattern.language) :
    ∀ c ∈ word, kind c := by
  induction pattern generalizing word with
  | empty =>
      obtain rfl : word = [] := member
      exact List.forall_mem_nil _
  | one set =>
      obtain ⟨c, holds, rfl⟩ := member
      exact List.forall_mem_singleton.mpr (writes c holds)
  | sequence first second ihFirst ihSecond =>
      obtain ⟨before, own, behind, rest, rfl⟩ := member
      exact List.forall_mem_append.mpr ⟨ihFirst writes.1 own, ihSecond writes.2 rest⟩
  | either first second ihFirst ihSecond =>
      rcases member with left | right
      · exact ihFirst writes.1 left
      · exact ihSecond writes.2 right
  | repeated body least most ih =>
      obtain ⟨count, -, power⟩ := member
      obtain ⟨rounds, rfl, -, each⟩ := Language.mem_pow.mp power
      intro c among
      obtain ⟨round, listed, inside⟩ := List.mem_flatten.mp among
      exact ih writes (each round listed) c inside
  | start | finish | lineStart | lineFinish | wordBoundary _ => exact absurd member (Language.notMem_zero _)

end Pattern

/-! ## Shapes of whole texts -/

namespace Shape

open Pattern

variable {parts : List Pattern} {text : String}

/-- The word of a character is that character alone. -/
theorem mem_character_iff {c : Char} {word : List Char} : word ∈ (character c).language ↔ word = [c] := by
  constructor
  · rintro ⟨d, same, rfl⟩
    rw [contains_single_iff.mp same]
  · rintro rfl
    exact ⟨c, contains_single_iff.mpr rfl, rfl⟩

/-- A word begins with the one character and goes on with the rest. -/
theorem cons_mem_character_mul_iff {c d : Char} {rest : List Char} {words : Words} :
    d :: rest ∈ (character c).language * words ↔ d = c ∧ rest ∈ words := by
  rw [character, cons_mem_one_mul_iff, contains_single_iff]

/-- The language of a character is one word. -/
theorem language_character (c : Char) : (character c).language = {[c]} :=
  Language.ext fun _ => mem_character_iff

/-- The language of the characters of a word, in a chain, is that word alone. -/
theorem language_chain_character (word : List Char) : (chain (word.map character)).language = {word} := by
  rw [language_chain, List.map_map]
  induction word with
  | nil => rfl
  | cons c rest ih =>
      rw [List.map_cons, List.prod_cons, ih, Function.comp_apply, language_character]
      ext other
      constructor
      · rintro ⟨_, rfl, _, rfl, rfl⟩
        rfl
      · rintro rfl
        exact ⟨[c], rfl, rest, rfl, rfl⟩

/-- A class of single characters has just these. -/
theorem contains_among_iff {characters : List Char} {c : Char} :
    (CharClass.mk (characters.map fun d => .range d d) false false).contains c = true ↔ c ∈ characters := by
  rw [contains_plain, List.any_map, List.any_eq_true]
  constructor
  · rintro ⟨d, listed, covered⟩
    rw [Function.comp_apply, ClassItem.covers, Bool.and_eq_true, decide_eq_true_eq, decide_eq_true_eq] at covered
    exact Char.le_antisymm covered.2 covered.1 ▸ listed
  · intro listed
    exact ⟨c, listed, by simp [ClassItem.covers]⟩

/-- A chain that ends with the end of the text spans up to there. -/
theorem spans_chain_finish {text : Array Char} {i k : Nat} :
    (chain (parts ++ [finish])).Spans text i k ↔ (chain parts).Spans text i k ∧ k = text.size := by
  induction parts generalizing i with
  | nil =>
      rw [List.nil_append, chain, chain, Spans, Spans]
      constructor
      · rintro ⟨atEnd, rfl⟩
        exact ⟨rfl, atEnd⟩
      · rintro ⟨rfl, atEnd⟩
        exact ⟨atEnd, rfl⟩
  | cons part rest ih =>
      rw [List.cons_append, spans_chain_cons, spans_chain_cons]
      simp only [ih, ← and_assoc, exists_and_right]

/-- **Whole texts.**  A shape occurs in a text exactly if the text is put together of words of its parts. -/
theorem occursIn_whole_iff (plain : parts.all isPlain = true) :
    (whole parts).occursIn text = true ↔ text.toList ∈ (parts.map language).prod := by
  rw [occursIn_iff, ← language_chain]
  have spans : ∀ i j, (whole parts).Spans text.toList.toArray i j ↔
      i = 0 ∧ j = text.toList.length ∧ ∃ word ∈ (chain parts).language, Stands text.toList word 0 j := by
    intro i j
    rw [whole, List.cons_append, spans_chain_cons]
    simp only [Spans, spans_chain_finish, spans_iff ((isPlain_chain parts).trans plain), List.size_toArray, and_assoc]
    constructor
    · rintro ⟨_, rfl, rfl, found, atEnd⟩
      exact ⟨rfl, atEnd, found⟩
    · rintro ⟨rfl, atEnd, found⟩
      exact ⟨0, rfl, rfl, found, atEnd⟩
  simp only [spans]
  constructor
  · rintro ⟨_, -, _, rfl, rfl, word, member, stands, long⟩
    rw [Nat.zero_add] at long
    rw [List.drop_zero] at stands
    exact stands.eq_of_length long ▸ member
  · intro member
    refine ⟨0, Nat.zero_le _, _, rfl, rfl, text.toList, member, List.prefix_refl _, Nat.zero_add _⟩

end Shape

end Vetting

import Vetting.Text.Blank
import Vetting.Text.Folding
import Vetting.Text.Word

/-!
# Regular expressions

A pattern spans a part of a text.  Whether it occurs in a text is decided by moving sets of positions: the
positions at which a pattern can end are computed from those at which it may begin.
-/

namespace Vetting

/-- A part of a class of characters. -/
inductive ClassItem where
  | range (first last : Char)
  | digit (negated : Bool)
  | blank (negated : Bool)
  | word (negated : Bool)

/-- The item holds the character. -/
def ClassItem.covers : ClassItem → Char → Bool
  | range first last, c => first ≤ c && c ≤ last
  | digit negated, c => Text.isDecimalDigit c != negated
  | blank negated, c => Text.isBlank c != negated
  | word negated, c => Text.isWord c != negated

/-- A class of characters; a folded class also holds the case mates of its characters. -/
structure CharClass where
  items : List ClassItem
  negated : Bool
  folded : Bool

namespace CharClass

/-- The class of a single character. -/
def single (c : Char) (folded : Bool) : CharClass :=
  ⟨[.range c c], false, folded⟩

/-- Some item of the class holds the character. -/
def lists (set : CharClass) (c : Char) : Bool :=
  set.items.any fun item => item.covers c

/-- The class holds the character. -/
def contains (set : CharClass) (c : Char) : Bool :=
  (if set.folded then (Text.caseMates c.toNat).any fun mate => set.lists (Char.ofNat mate)
    else set.lists c) != set.negated

end CharClass

/-- A regular expression. -/
inductive Pattern where
  | empty
  | one (set : CharClass)
  | sequence (first second : Pattern)
  | either (first second : Pattern)
  | repeated (body : Pattern) (least : Nat) (most : Option Nat)
  | start
  | finish
  | lineStart
  | lineFinish
  | wordBoundary (negated : Bool)

namespace Pattern

/-- Every position that the step reaches in at most `rounds` rounds, with those already found. -/
def reach (step : List Nat → List Nat) : (rounds : Nat) → (found fresh : List Nat) → List Nat
  | 0, found, _ => found
  | rounds + 1, found, fresh =>
    match (step fresh).filter fun position => !found.contains position with
    | [] => found
    | fresh => reach step rounds (found ++ fresh) fresh

/-- The character after the position is a word character. -/
def wordAfter (text : Array Char) (position : Nat) : Bool :=
  (text[position]?).any Text.isWord

/-- The character before the position is a word character. -/
def wordBefore (text : Array Char) (position : Nat) : Bool :=
  position != 0 && wordAfter text (position - 1)

/-- The character after the position, if it belongs to the class. -/
def takes (text : Array Char) (set : CharClass) (position : Nat) : Bool :=
  (text[position]?).any set.contains

/-- The positions at which the pattern can end when it begins at one of the given positions. -/
def ends (text : Array Char) : Pattern → List Nat → List Nat
  | empty, from_ => from_
  | one set, from_ => (from_.filter (takes text set)).map (· + 1)
  | sequence first second, from_ => second.ends text (first.ends text from_)
  | either first second, from_ =>
    let left := first.ends text from_
    left ++ (second.ends text from_).filter fun position => !left.contains position
  | repeated body least most, from_ =>
    let rounds := match most with
      | some most => most - least
      | none => text.size + 1
    let begun := Nat.repeat (body.ends text) least from_
    reach (body.ends text) rounds begun begun
  | start, from_ => from_.filter (· == 0)
  | finish, from_ => from_.filter (· == text.size)
  | lineStart, from_ => from_.filter fun position =>
    position == 0 || text[position - 1]? == some '\n'
  | lineFinish, from_ => from_.filter fun position =>
    position == text.size || text[position]? == some '\n'
  | wordBoundary negated, from_ => from_.filter fun position =>
    (wordBefore text position != wordAfter text position) != negated

/-- The pattern occurs somewhere in the text. -/
def occursIn (pattern : Pattern) (text : String) : Bool :=
  let characters := text.toList.toArray
  !(pattern.ends characters (List.range (characters.size + 1))).isEmpty

/-- One pattern after the other. -/
def chain (patterns : List Pattern) : Pattern :=
  match patterns with
  | [] => empty
  | [last] => last
  | first :: rest => sequence first (chain rest)

/-- One of the patterns. -/
def oneOf (first : Pattern) (others : List Pattern) : Pattern :=
  match others with
  | [] => first
  | second :: rest => either first (oneOf second rest)

/-- The pattern, or nothing. -/
def optional (body : Pattern) : Pattern :=
  repeated body 0 (some 1)

/-- The pattern any number of times. -/
def many (body : Pattern) : Pattern :=
  repeated body 0 none

/-- The pattern at least once. -/
def atLeastOnce (body : Pattern) : Pattern :=
  repeated body 1 none

/-- The pattern exactly that many times. -/
def times (body : Pattern) (count : Nat) : Pattern :=
  repeated body count (some count)

end Pattern

/-- A regular expression with the text that it was written as. -/
structure Regex where
  source : String
  pattern : Pattern

/-- The expression occurs somewhere in the text. -/
def Regex.occursIn (regex : Regex) (text : String) : Bool :=
  regex.pattern.occursIn text

end Vetting

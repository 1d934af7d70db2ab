import Vetting.Regex.Basic

/-!
# Reading regular expressions

The text is cut into tokens in one pass over its characters, and the tokens are put together with a stack
of the groups that are still open.  Groups, alternatives, repetitions (greedy or not), classes, anchors,
word boundaries and the flags `i`, `m` and `s` are known; anything else is refused.
-/

namespace Vetting.Regex

/-- The flags of a part of an expression. -/
structure Flags where
  folded : Bool
  multiline : Bool
  dotAll : Bool

/-- No flag is set. -/
def Flags.none : Flags :=
  ⟨false, false, false⟩

/-- A change of flags: each letter with the value that it gets. -/
abbrev FlagChange := List (Char × Bool)

/-- The flags after a change; a letter that is not known is refused. -/
def Flags.change? (flags : Flags) : FlagChange → Option Flags
  | [] => some flags
  | (letter, value) :: rest =>
    if letter = 'i' then change? { flags with folded := value } rest
    else if letter = 'm' then change? { flags with multiline := value } rest
    else if letter = 's' then change? { flags with dotAll := value } rest
    else .none

/-- The smallest parts of an expression. -/
inductive Token where
  | one (items : List ClassItem) (negated : Bool)
  | dot
  | caret
  | dollar
  | textStart
  | textEnd
  | boundary (negated : Bool)
  | bar
  | opening (change : FlagChange)
  | closing
  | flags (change : FlagChange)
  | repetition (least : Nat) (most : Option Nat)
  | questionMark

namespace Token

/-- A class that is still being read. -/
structure OpenClass where
  negated : Bool
  /-- The finished items, last first. -/
  items : List ClassItem
  /-- The last character; it may begin a range. -/
  pending : Option Char
  /-- A dash follows the last character. -/
  dashed : Bool
  /-- Nothing has been read after the bracket. -/
  fresh : Bool

namespace OpenClass

/-- The items with the last character counted as one. -/
def settled (cls : OpenClass) : List ClassItem :=
  match cls.pending with
  | some c => .range c c :: cls.items
  | none => cls.items

/-- The class with one more character. -/
def add? (cls : OpenClass) (c : Char) : Option OpenClass :=
  match cls.pending, cls.dashed with
  | some first, true =>
    if first ≤ c then
      some { cls with items := .range first c :: cls.items, pending := none, dashed := false, fresh := false }
    else none
  | _, _ => some { cls with items := cls.settled, pending := some c, fresh := false }

/-- The class with one more named class, which cannot end a range. -/
def addItem? (cls : OpenClass) (item : ClassItem) : Option OpenClass :=
  if cls.dashed then none
  else some { cls with items := item :: cls.settled, pending := none, fresh := false }

/-- The class at its closing bracket; a dash before it stands for itself. -/
def close (cls : OpenClass) : Token :=
  one (if cls.dashed then .range '-' '-' :: cls.settled else cls.settled).reverse cls.negated

end OpenClass

/-- Where the reader stands; characters already read are kept last first. -/
inductive Position where
  | plain
  | escape
  | classStart
  | inClass (cls : OpenClass)
  | classEscape (cls : OpenClass)
  | braces (read : List Char)
  | groupStart
  | groupMark
  | groupName
  | groupFlags (change : FlagChange) (value : Bool)

/-- The class that a letter after a backslash names. -/
def namedClass? (c : Char) : Option ClassItem :=
  if c = 'd' then some (.digit false)
  else if c = 'D' then some (.digit true)
  else if c = 's' then some (.blank false)
  else if c = 'S' then some (.blank true)
  else if c = 'w' then some (.word false)
  else if c = 'W' then some (.word true)
  else none

/-- The character that is meant by a character after a backslash. -/
def escaped? (c : Char) : Option Char :=
  if c = 'n' then some '\n'
  else if c = 'r' then some '\r'
  else if c = 't' then some '\t'
  else if c = 'f' then some '\x0c'
  else if c = 'v' then some '\x0b'
  else if c = 'a' then some '\x07'
  else if c.isAlphanum then none
  else some c

/-- The number of a row of digits. -/
def countOf? (digits : List Char) : Option Nat :=
  if digits.isEmpty || !digits.all Char.isDigit then none
  else some (digits.foldl (fun total c => 10 * total + (c.toNat - '0'.toNat)) 0)

/-- The repetition that stands between two braces. -/
def repetitionOf? (read : List Char) : Option Token :=
  let least := read.takeWhile (· != ',')
  match read.dropWhile (· != ',') with
  | [] => (countOf? least).map fun count => repetition count (some count)
  | [_] => (countOf? least).map fun count => repetition count none
  | _ :: most =>
    match countOf? least, countOf? most with
    | some least, some most => if least ≤ most then some (repetition least (some most)) else none
    | _, _ => none

/-- A token of one literal character. -/
def literal (c : Char) : Token :=
  one [.range c c] false

/-- Reads a character outside classes, braces and marks of groups. -/
def plainStep? (c : Char) : Option (List Token × Position) :=
  if c = '\\' then some ([], .escape)
  else if c = '[' then some ([], .classStart)
  else if c = '\x7b' then some ([], .braces [])
  else if c = '(' then some ([], .groupStart)
  else if c = ')' then some ([closing], .plain)
  else if c = '|' then some ([bar], .plain)
  else if c = '.' then some ([dot], .plain)
  else if c = '^' then some ([caret], .plain)
  else if c = '$' then some ([dollar], .plain)
  else if c = '*' then some ([repetition 0 none], .plain)
  else if c = '+' then some ([repetition 1 none], .plain)
  else if c = '?' then some ([questionMark], .plain)
  else some ([literal c], .plain)

/-- Reads a character after a backslash. -/
def escapeStep? (c : Char) : Option (List Token × Position) :=
  if c = 'b' then some ([boundary false], .plain)
  else if c = 'B' then some ([boundary true], .plain)
  else if c = 'A' then some ([textStart], .plain)
  else if c = 'z' then some ([textEnd], .plain)
  else match namedClass? c with
    | some item => some ([one [item] false], .plain)
    | none => (escaped? c).map fun meant => ([literal meant], .plain)

/-- Reads a character inside a class. -/
def classStep? (cls : OpenClass) (c : Char) : Option (List Token × Position) :=
  if c = ']' ∧ cls.fresh = false then some ([cls.close], .plain)
  else if c = '\\' then some ([], .classEscape cls)
  else if c = '[' then none
  else if c = '-' ∧ cls.pending.isSome ∧ cls.dashed = false then
    some ([], .inClass { cls with dashed := true })
  else (cls.add? c).map fun cls => ([], .inClass cls)

/-- Reads one character: the tokens it completes, and where the reader stands then. -/
def step? (position : Position) (c : Char) : Option (List Token × Position) :=
  match position with
  | .plain => plainStep? c
  | .escape => escapeStep? c
  | .classStart =>
    if c = '^' then some ([], .inClass ⟨true, [], none, false, true⟩)
    else classStep? ⟨false, [], none, false, true⟩ c
  | .inClass cls => classStep? cls c
  | .classEscape cls =>
    match namedClass? c with
    | some item => (cls.addItem? item).map fun cls => ([], .inClass cls)
    | none => ((escaped? c).bind cls.add?).map fun cls => ([], .inClass cls)
  | .braces read =>
    if c = '\x7d' then (repetitionOf? read.reverse).map fun token => ([token], .plain)
    else some ([], .braces (c :: read))
  | .groupStart =>
    if c = '?' then some ([], .groupMark)
    else (plainStep? c).map fun (tokens, next) => (opening [] :: tokens, next)
  | .groupMark =>
    if c = 'P' then some ([], .groupMark)
    else if c = '<' then some ([], .groupName)
    else if c = ':' then some ([opening []], .plain)
    else if c = '-' then some ([], .groupFlags [] false)
    else some ([], .groupFlags [(c, true)] true)
  | .groupName => some (if c = '>' then ([opening []], .plain) else ([], .groupName))
  | .groupFlags change value =>
    if c = ')' then some ([flags change.reverse], .plain)
    else if c = ':' then some ([opening change.reverse], .plain)
    else if c = '-' then some ([], .groupFlags change false)
    else some ([], .groupFlags ((c, value) :: change) value)

/-- The tokens of the characters that are still to be read. -/
def scanFrom? : Position → List Char → Option (List Token)
  | .plain, [] => some []
  | _, [] => none
  | position, c :: rest => do
    let (tokens, next) ← step? position c
    let others ← scanFrom? next rest
    some (tokens ++ others)

end Token

/-- A group that is still open. -/
structure Group where
  flags : Flags
  /-- The finished alternatives, last first. -/
  branches : List Pattern
  /-- The parts of the alternative that is being read, last first. -/
  parts : List Pattern
  /-- The last token was a repetition, so a question mark only makes it reluctant. -/
  repeating : Bool

namespace Group

/-- A group in which nothing has been read. -/
def fresh (flags : Flags) : Group :=
  ⟨flags, [], [], false⟩

/-- The group with one more part. -/
def add (group : Group) (part : Pattern) : Group :=
  { group with parts := part :: group.parts, repeating := false }

/-- The group with its last part repeated. -/
def repeat? (group : Group) (least : Nat) (most : Option Nat) : Option Group :=
  match group.parts with
  | [] => none
  | last :: rest => some { group with parts := .repeated last least most :: rest, repeating := true }

/-- The alternative that is being read. -/
def branch (group : Group) : Pattern :=
  .chain group.parts.reverse

/-- All alternatives of the group. -/
def pattern (group : Group) : Pattern :=
  match (group.branch :: group.branches).reverse with
  | [] => .empty
  | first :: others => .oneOf first others

end Group

/-- Reads one token, given the innermost open group and those around it. -/
def step? (group : Group) (outer : List Group) (token : Token) : Option (Group × List Group) :=
  match token with
  | .one items negated => some (group.add (.one ⟨items, negated, group.flags.folded⟩), outer)
  | .dot =>
    let newline := if group.flags.dotAll then [] else [ClassItem.range '\n' '\n']
    some (group.add (.one ⟨newline, true, false⟩), outer)
  | .caret => some (group.add (if group.flags.multiline then .lineStart else .start), outer)
  | .dollar => some (group.add (if group.flags.multiline then .lineFinish else .finish), outer)
  | .textStart => some (group.add .start, outer)
  | .textEnd => some (group.add .finish, outer)
  | .boundary negated => some (group.add (.wordBoundary negated), outer)
  | .bar =>
    some ({ group with branches := group.branch :: group.branches, parts := [], repeating := false }, outer)
  | .opening change => (group.flags.change? change).map fun flags => (.fresh flags, group :: outer)
  | .closing =>
    match outer with
    | [] => none
    | enclosing :: others => some (enclosing.add group.pattern, others)
  | .flags change =>
    (group.flags.change? change).map fun flags => ({ group with flags, repeating := false }, outer)
  | .repetition least most => (group.repeat? least most).map fun group => (group, outer)
  | .questionMark =>
    if group.repeating then some ({ group with repeating := false }, outer)
    else (group.repeat? 0 (some 1)).map fun group => (group, outer)

/-- The pattern whose remaining tokens are given. -/
def readFrom? (group : Group) (outer : List Group) : List Token → Option Pattern
  | [] => if outer.isEmpty then some group.pattern else none
  | token :: rest => do
    let (group, outer) ← step? group outer token
    readFrom? group outer rest

/-- The expression that a text writes down. -/
def ofSource? (source : String) : Option Regex := do
  let tokens ← Token.scanFrom? .plain source.toList
  let pattern ← readFrom? (.fresh .none) [] tokens
  some ⟨source, pattern⟩

end Vetting.Regex

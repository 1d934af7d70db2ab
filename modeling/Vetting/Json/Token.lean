/-!
# The tokens of a document

A document is cut into marks, quoted texts and words in one pass over its characters.  What a word says is
decided later.
-/

namespace Vetting.Json

/-- The smallest parts of a document. -/
inductive Token where
  | openArray
  | closeArray
  | openObject
  | closeObject
  | comma
  | colon
  | quoted (text : String)
  | word (characters : List Char)

namespace Token

/-- The token that a character is by itself. -/
def ofMark? (c : Char) : Option Token :=
  if c = '[' then some openArray
  else if c = ']' then some closeArray
  else if c = '\x7b' then some openObject
  else if c = '\x7d' then some closeObject
  else if c = ',' then some comma
  else if c = ':' then some colon
  else none

/-- Space between tokens. -/
def isSpace (c : Char) : Bool :=
  c == ' ' || c == '\n' || c == '\t' || c == '\r'

/-- Where the reader stands; characters already read are kept last first. -/
inductive Position where
  | between
  | inWord (read : List Char)
  | inQuotes (read : List Char)
  | afterBackslash (read : List Char)
  /-- `missing` digits of a code unit are still to come; `high` is the first unit of a pair. -/
  | inCode (read : List Char) (high : Option Nat) (missing : Nat) (code : Nat)
  /-- The first unit of a pair has to be followed by a second one. -/
  | afterHigh (read : List Char) (high : Nat)
  | afterHighBackslash (read : List Char) (high : Nat)

/-- The character of an escape with a single letter. -/
def unescaped? (c : Char) : Option Char :=
  if c = '"' ∨ c = '\\' ∨ c = '/' then some c
  else if c = 'b' then some '\x08'
  else if c = 'f' then some '\x0c'
  else if c = 'n' then some '\n'
  else if c = 'r' then some '\r'
  else if c = 't' then some '\t'
  else none

/-- The value of a digit in base sixteen. -/
def hexValue? (c : Char) : Option Nat :=
  if c.isDigit then some (c.toNat - '0'.toNat)
  else if 'a' ≤ c ∧ c ≤ 'f' then some (c.toNat - 'a'.toNat + 10)
  else if 'A' ≤ c ∧ c ≤ 'F' then some (c.toNat - 'A'.toNat + 10)
  else none

/-- Where the reader stands after a complete code unit. -/
def afterCode? (read : List Char) (high : Option Nat) (code : Nat) : Option Position :=
  match high with
  | some first =>
    if 0xDC00 ≤ code ∧ code ≤ 0xDFFF then
      some (.inQuotes (Char.ofNat (0x10000 + (first - 0xD800) * 0x400 + (code - 0xDC00)) :: read))
    else none
  | none =>
    if 0xD800 ≤ code ∧ code ≤ 0xDBFF then some (.afterHigh read code)
    else if 0xDC00 ≤ code ∧ code ≤ 0xDFFF then none
    else some (.inQuotes (Char.ofNat code :: read))

/-- A character between tokens: the tokens it completes, and where the reader stands then. -/
def startAt (c : Char) : List Token × Position :=
  if isSpace c then ([], .between)
  else if c = '"' then ([], .inQuotes [])
  else match ofMark? c with
    | some token => ([token], .between)
    | none => ([], .inWord [c])

/-- Reads one character: the tokens it completes, and where the reader stands then. -/
def step? (position : Position) (c : Char) : Option (List Token × Position) :=
  match position with
  | .between => some (startAt c)
  | .inWord read =>
    if isSpace c || c == '"' || (ofMark? c).isSome then
      let (tokens, next) := startAt c
      some (word read.reverse :: tokens, next)
    else some ([], .inWord (c :: read))
  | .inQuotes read =>
    if c = '"' then some ([quoted (String.ofList read.reverse)], .between)
    else if c = '\\' then some ([], .afterBackslash read)
    else if c.toNat < 0x20 then none
    else some ([], .inQuotes (c :: read))
  | .afterBackslash read =>
    if c = 'u' then some ([], .inCode read none 4 0)
    else (unescaped? c).map fun meant => ([], .inQuotes (meant :: read))
  | .inCode read high missing code => do
    let digit ← hexValue? c
    let code := code * 16 + digit
    if missing ≤ 1 then
      let next ← afterCode? read high code
      some ([], next)
    else some ([], .inCode read high (missing - 1) code)
  | .afterHigh read high => if c = '\\' then some ([], .afterHighBackslash read high) else none
  | .afterHighBackslash read high => if c = 'u' then some ([], .inCode read (some high) 4 0) else none

/-- The tokens of the characters that are still to be read. -/
def scanFrom? : Position → List Char → Option (List Token)
  | .between, [] => some []
  | .inWord read, [] => some [word read.reverse]
  | _, [] => none
  | position, c :: rest => do
    let (tokens, next) ← step? position c
    let others ← scanFrom? next rest
    some (tokens ++ others)

/-- The tokens of a document. -/
def scan? (text : String) : Option (List Token) :=
  scanFrom? .between text.toList

end Token

end Vetting.Json

import Vetting.Url.Host

/-!
# References

What has to be known of a reference to accept it: its scheme, and whether it names a host.  Schemes of the
web have an authority after any number of slashes; `file` has a host only between the second slash and the
path; any other scheme has an authority after exactly two slashes.  Path, query and fragment never make a
reference invalid.
-/

namespace Vetting

/-- A reference with a scheme. -/
structure Url where
  scheme : String
  host : Option Host

/-- Why a text is no reference. -/
inductive UrlFault where
  | noScheme
  | emptyHost
  | invalidHost
  | invalidPort
deriving DecidableEq

namespace Url

open Vetting.Text

/-- How a scheme treats what follows it. -/
inductive SchemeKind where
  | web
  | file
  | other
deriving DecidableEq

/-- The kind of a scheme in lower case. -/
def schemeKind (scheme : String) : SchemeKind :=
  if ["http", "https", "ws", "wss", "ftp"].contains scheme then .web
  else if scheme = "file" then .file
  else .other

/-- The text without controls and spaces at its ends, and without tabs and line ends. -/
def cleaned (text : List Char) : List Char :=
  let isEdge (c : Char) := c.toNat ≤ 0x20
  ((text.dropWhile isEdge).reverse.dropWhile isEdge).reverse.filter fun c =>
    c != '\t' && c != '\n' && c != '\r'

/-- A character of a scheme after its first. -/
def isSchemeCharacter (c : Char) : Bool :=
  c.isAlphanum || c == '+' || c == '-' || c == '.'

/-- The scheme in lower case, and what follows its colon. -/
def splitScheme? (text : List Char) : Option (String × List Char) :=
  match text with
  | first :: _ =>
    if first.isAlpha then
      match text.dropWhile isSchemeCharacter with
      | ':' :: rest =>
        some (String.ofList ((text.takeWhile isSchemeCharacter).map Char.toLower), rest)
      | _ => none
    else none
  | [] => none

/-- A slash in either direction. -/
def isSlash (c : Char) : Bool :=
  c == '/' || c == '\\'

/-- The character ends the authority. -/
def endsAuthority (kind : SchemeKind) (c : Char) : Bool :=
  c == '/' || c == '?' || c == '#' || (kind != .other && c == '\\')

/-- What follows the last `@` of the authority, and whether there is a name or a password before it. -/
def afterUser (kind : SchemeKind) (text : List Char) : Except UrlFault (Bool × List Char) :=
  let authority := text.takeWhile fun c => !endsAuthority kind c
  let rest := text.drop authority.length
  let host := (authority.reverse.takeWhile (· != '@')).reverse
  if host.length = authority.length then .ok (false, text)
  else
    let user := authority.take (authority.length - host.length - 1)
    if user.isEmpty then
      if host.isEmpty && !rest.isEmpty then .error .emptyHost else .ok (false, host ++ rest)
    else .ok (user != [':'], host ++ rest)

/-- The host and what follows it; a colon ends the host, unless it stands between brackets. -/
def spanHost (kind : SchemeKind) (inBrackets : Bool) : List Char → List Char × List Char
  | [] => ([], [])
  | c :: rest =>
    if endsAuthority kind c || (c == ':' && !inBrackets) then ([], c :: rest)
    else
      let (host, after) := spanHost kind (c == '[' || (c != ']' && inBrackets)) rest
      (c :: host, after)

/-- The port is a number below 65536 and ends where the path, the query or the fragment begins. -/
def isPort (text : List Char) : Bool :=
  let digits := text.takeWhile Char.isDigit
  Address.decimalOf digits ≤ 65535 && match text.drop digits.length with
    | [] => true
    | c :: _ => isSlash c || c == '?' || c == '#'

/-- The host of an authority; no host is left of an empty one. -/
def ofAuthority (kind : SchemeKind) (text : List Char) : Except UrlFault (Option Host) := do
  let (hasUser, text) ← afterUser kind text
  let (name, rest) := spanHost kind false text
  if kind == .web && name.isEmpty then throw .emptyHost
  let some host := if kind == .other then Host.ofText? name else Host.ofName? name
    | throw .invalidHost
  let isEmpty := name.isEmpty
  match rest with
  | ':' :: port =>
    if isEmpty then throw .emptyHost
    if !isPort port then throw .invalidPort
  | _ => pure ()
  if isEmpty && hasUser then throw .emptyHost
  return if isEmpty then none else some host

/-- The letter of a drive, with a colon or a bar after it. -/
def isDriveLetter (text : List Char) : Bool :=
  match text with
  | [letter, mark] => letter.isAlpha && (mark == ':' || mark == '|')
  | _ => false

/-- The parts of a path between its slashes. -/
def segments : List Char → List (List Char)
  | [] => [[]]
  | c :: rest =>
    if isSlash c then [] :: segments rest
    else match segments rest with
      | [] => [[c]]
      | segment :: others => (c :: segment) :: others

/-- A dot, as itself or escaped, at the start of the text, and what follows it. -/
def dropDot? : List Char → Option (List Char)
  | '.' :: rest => some rest
  | '%' :: '2' :: 'e' :: rest => some rest
  | '%' :: '2' :: 'E' :: rest => some rest
  | _ => none

/-- The segment stands for the directory itself. -/
def isSingleDot (segment : List Char) : Bool :=
  dropDot? segment == some []

/-- The segment stands for the directory above. -/
def isDoubleDot (segment : List Char) : Bool :=
  (dropDot? segment).bind dropDot? == some []

/-- Some segment is a drive letter at the top of the path; `depth` segments are above the next one. -/
def reachesDrive (depth : Nat) : List (List Char) → Bool
  | [] => false
  | segment :: rest =>
    if isDoubleDot segment then reachesDrive (depth - 1) rest
    else if isSingleDot segment then reachesDrive depth rest
    else (depth == 0 && isDriveLetter segment) || reachesDrive (depth + 1) rest

/-- The host of a file: none where a drive letter or nothing stands in its place, none for the machine
itself, and none if the path leads to a drive. -/
def ofFile (text : List Char) : Except UrlFault (Option Host) :=
  match text with
  | first :: second :: rest =>
    if isSlash first && isSlash second then
      let name := rest.takeWhile fun c => !endsAuthority .file c
      if isDriveLetter name || name.isEmpty then .ok none
      else match Host.ofName? name with
        | none => .error .invalidHost
        | some host =>
          let path := (rest.drop name.length).takeWhile fun c => c != '?' && c != '#'
          if host = .domain ["localhost".toList] ∨ reachesDrive 0 (segments (path.drop 1)) then .ok none
          else .ok (some host)
    else .ok none
  | _ => .ok none

/-- The reference that a text with a scheme stands for. -/
def parse (text : String) : Except UrlFault Url :=
  match splitScheme? (cleaned text.toList) with
  | none => .error .noScheme
  | some (scheme, rest) =>
    let host : Except UrlFault (Option Host) :=
      match schemeKind scheme with
      | .web => ofAuthority .web (rest.dropWhile isSlash)
      | .file => ofFile rest
      | .other =>
        match rest with
        | '/' :: '/' :: authority => ofAuthority .other authority
        | _ => .ok none
    host.map fun host => { scheme, host }

/-- A text without a scheme leads somewhere from a page of the web: to another place on its host, or to
the host after two slashes. -/
def leadsOnFromWeb (text : String) : Bool :=
  match cleaned text.toList with
  | '/' :: '/' :: authority => (ofAuthority .web authority).toBool
  | first :: second :: rest =>
    !(isSlash first && isSlash second)
      || (ofAuthority .web (rest.dropWhile isSlash)).toBool
  | _ => true

end Url

end Vetting

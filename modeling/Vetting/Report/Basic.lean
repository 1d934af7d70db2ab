import Vetting.Path
import Vetting.Value.Equality

/-!
# Reports

A report tells what is wrong with a value: which rules failed, where, and with which particulars.  It is
data, and a part of the answer of a validation; mistakes in the use of the library are
`Misuse`s instead.
-/

namespace Vetting

/-- The particulars of a finding, in order. -/
abbrev Context := Members Value

/-- One failed rule at one place. -/
structure Finding where
  path : Path
  rule : String
  context : Context
  message : Option String

namespace Finding

/-- The words for a finding without a message. -/
def fallback (finding : Finding) : String :=
  "\"" ++ finding.path.label ++ "\" failed rule \"" ++ finding.rule ++ "\""

/-- The message, or the words that stand in for it. -/
def words (finding : Finding) : String :=
  finding.message.getD finding.fallback

/-- Equal places, rules, particulars in any order, and messages. -/
def same (left right : Finding) : Bool :=
  left.path == right.path && left.rule == right.rule
    && (Value.object left.context).same (.object right.context) && left.message == right.message

end Finding

/-- The findings about one value. -/
structure Report where
  findings : List Finding
  /-- Words in front of the findings. -/
  opening : Option String
  /-- The place in the program where the report arose has been recorded. -/
  traced : Bool

namespace Report

/-- A report of one finding. -/
def ofFinding (finding : Finding) : Report :=
  ⟨[finding], none, false⟩

/-- A failed rule at a place.  The first particular is how the place is called; the given ones come after
it, or replace it. -/
def ofRule (rule : String) (path : Path) (particulars : Context) : Report :=
  ofFinding {
    path
    rule
    context := Members.putAll [("key", .string path.label)] particulars
    message := none }

/-- The findings of both, with the opening of the first. -/
def union (first second : Report) : Report :=
  { first with
    findings := first.findings ++ second.findings
    traced := first.traced || second.traced }

/-- Gives every finding without a message the one that the function has for it. -/
def attach (report : Report) (format : Finding → Option String) : Report :=
  { report with
    findings := report.findings.map fun finding =>
      match finding.message with
      | some _ => finding
      | none => { finding with message := format finding } }

/-- Records where the report arose. -/
def trace (report : Report) : Report :=
  { report with traced := true }

/-- Puts words in front of the findings, in place of earlier ones. -/
def withOpening (report : Report) (opening : String) : Report :=
  { report with opening := some opening }

/-- The opening and the words of all findings. -/
def text (report : Report) : String :=
  (match report.opening with
    | some opening => opening ++ " "
    | none => "") ++ " ".intercalate (report.findings.map Finding.words)

/-- Equal findings in the same order, equal openings, and both traced or neither. -/
def same (left right : Report) : Bool :=
  left.findings.length == right.findings.length
    && (left.findings.zip right.findings).all (fun (a, b) => a.same b)
    && left.opening == right.opening && left.traced == right.traced

end Report

end Vetting

import Vetting.Report.Basic
import Vetting.Value.Encoding

/-!
# Reports as documents

A report is written as its findings, with a mark by which readers recognise it.  A finding without a
message has no such member.
-/

namespace Vetting

namespace Finding

/-- The document of a finding, members in the order of their names. -/
def toJson (finding : Finding) : Json :=
  .object (Members.sorted (
    [("path", .string finding.path.text),
     ("type", .string finding.rule),
     ("context", .object (Members.sorted (finding.context.map fun (name, value) => (name, value.toJson))))]
    ++ (finding.message.map fun message => ("message", Json.string message)).toList))

/-- The document of a finding: place, rule, particulars as they stand, message. -/
def toJsonInOrder (finding : Finding) : Json :=
  .object (
    [("path", .string finding.path.text),
     ("type", .string finding.rule),
     ("context", .object (finding.context.map fun (name, value) => (name, value.toJsonInOrder)))]
    ++ match finding.message with
      | some message => [("message", .string message)]
      | none => [])

end Finding

namespace Report

/-- The document of a report, members in the order of their names. -/
def toJson (report : Report) : Json :=
  .object (Members.sorted
    [("isJoi", .boolean true),
     ("name", .string "ValidationError"),
     ("details", .array (report.findings.map Finding.toJson))])

/-- The document of a report: the mark, the name, the findings. -/
def toJsonInOrder (report : Report) : Json :=
  .object
    [("isJoi", .boolean true),
     ("name", .string "ValidationError"),
     ("details", .array (report.findings.map Finding.toJsonInOrder))]

end Report

end Vetting

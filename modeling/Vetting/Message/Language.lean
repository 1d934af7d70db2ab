import Vetting.Message.Template

/-!
# Languages

A language has a name and, for some rules, a way to put a finding into words.
-/

namespace Vetting

/-- A way to put a finding into words. -/
abbrev Wording := Finding → String

/-- Wordings by the name of the rule. -/
structure Language where
  name : String
  wordings : Members Wording

namespace Language

/-- A language without words. -/
def empty (name : String) : Language :=
  ⟨name, []⟩

/-- Puts the findings of a rule into words, in place of an earlier wording. -/
def addWording (language : Language) (rule : String) (wording : Wording) : Language :=
  { language with wordings := language.wordings.put rule wording }

/-- Puts the findings of a rule into words by a template. -/
def addTemplate (language : Language) (rule template : String) : Language :=
  language.addWording rule (Message.render template)

/-- The language has words for the rule. -/
def contains (language : Language) (rule : String) : Bool :=
  language.wordings.has rule

/-- For how many rules the language has words. -/
def size (language : Language) : Nat :=
  language.wordings.length

/-- The words for a finding. -/
def format? (language : Language) (finding : Finding) : Option String :=
  (language.wordings.get? finding.rule).map fun wording => wording finding

end Language

end Vetting

import Vetting.ListedValues

/-!
# Declared rules

A rule that a user adds is described by data: which values it accepts, what it answers, how long it takes,
and what it does to its siblings while it is wired.
-/

namespace Vetting

/-- Which siblings a declared rule reaches. -/
inductive Reach where
  /-- The last declared rule before it. -/
  | last
  /-- The first declared rule before it. -/
  | first
  /-- The first declared rule after it. -/
  | next
  /-- Every declared rule. -/
  | all
  /-- Every set of values. -/
  | sets
  /-- The next `optional` after it, which it turns off. -/
  | optional
  /-- The next `alternatives` after it, which it leaves as they are. -/
  | alternatives
  /-- No sibling at all. -/
  | nobody
deriving DecidableEq

/-- What a declared rule answers for a value that it accepts. -/
inductive Answer where
  | pass
  /-- The value passes, and no later rule sees it. -/
  | abort
  | replace (value : Value)
  /-- The rule cannot answer yet. -/
  | suspended
  | frozen

/-- A declared rule. -/
structure Declaration where
  name : String
  priority : Int
  operates : Bool
  /-- The values that it accepts, if not all. -/
  accepted : Option ListedValues
  /-- Its siblings may change the values that it accepts. -/
  exposed : Bool
  /-- The value in place of an absent one. -/
  standIn : Option Value
  /-- The value that it offers in place of one that it has rejected. -/
  offer : Option Value
  /-- How often it pauses before it answers. -/
  pauses : Nat
  /-- What it finds wrong with its arguments, whatever they are. -/
  complaint : Option String
  /-- Whom it reaches while it is wired, and the tag that it leaves there. -/
  reaches : List (Reach × String)
  answer : Answer
  /-- The tags that siblings have left. -/
  marks : List String
  /-- Which of its reaches have found somebody. -/
  found : List Bool

namespace Declaration

/-- Leaves a tag on the rule. -/
def mark (declaration : Declaration) (tag : String) : Declaration :=
  { declaration with marks := declaration.marks ++ [tag] }

/-- The rule accepts the value. -/
def accepts (declaration : Declaration) (value : Value) : Bool :=
  declaration.accepted.all fun set => set.contains value

end Declaration

end Vetting

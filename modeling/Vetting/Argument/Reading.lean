import Vetting.Argument.Basic
import Vetting.Misuse
import Vetting.Number.Binary

/-!
# Reading arguments

What a rule asks of its arguments.  Each reading either brings what is asked for or says which argument is
at fault.
-/

namespace Vetting.Arguments

variable {σ α : Type}

/-- Reads one argument. -/
def read (arguments : Arguments σ) (index : Nat) (part : Argument σ → Option α)
    (fault : ArgumentFault) : Except ArgumentFault α :=
  match arguments[index]?.bind part with
  | some found => .ok found
  | none => .error fault

/-- A value. -/
def value (arguments : Arguments σ) (index : Nat) : Except ArgumentFault Value :=
  arguments.read index Argument.asValue? (.notValue index)

/-- A number other than NaN. -/
def number (arguments : Arguments σ) (index : Nat) : Except ArgumentFault Float := do
  match (← arguments.value index).asNumber? with
  | some n => if n.isNaN then .error (.notNumber index) else .ok n
  | none => .error (.notNumber index)

/-- The largest count. -/
def largestCount : Nat := Nat.pow 2 64 - 1

/-- A whole number that is not negative; what exceeds the largest count stands for it. -/
def count (arguments : Arguments σ) (index : Nat) : Except ArgumentFault Nat := do
  let n ← arguments.number index
  if n < 0 || !Number.isWhole n then .error (.notCount index)
  else .ok (min ((Number.truncated? n).getD 0).toNat largestCount)

/-- A switch, which is on where nothing is said. -/
def flag (arguments : Arguments σ) (index : Nat) : Except ArgumentFault Bool :=
  match arguments[index]? with
  | none | some (.value .undefined) => .ok true
  | some (.value (.boolean flag)) => .ok flag
  | some _ => .error (.notFlag index)

/-- A schema. -/
def schema (arguments : Arguments σ) (index : Nat) : Except ArgumentFault σ :=
  arguments.read index Argument.asSchema? (.notSchema index)

/-- A key map, in the first place. -/
def keys (arguments : Arguments σ) : Except ArgumentFault (Members σ) :=
  arguments.read 0 Argument.asKeys? .notKeys

/-- A regular expression, in the first place. -/
def regex (arguments : Arguments σ) : Except ArgumentFault Regex :=
  arguments.read 0 Argument.asRegex? .notRegex

/-- A predicate, in the first place. -/
def predicate (arguments : Arguments σ) : Except ArgumentFault Predicate :=
  arguments.read 0 Argument.asPredicate? .notPredicate

/-- Reads every argument from that index on. -/
def readAll (part : Argument σ → Option α) (fault : Nat → ArgumentFault) (index : Nat) :
    Arguments σ → Except ArgumentFault (List α)
  | [] => .ok []
  | argument :: rest =>
    match part argument with
    | none => .error (fault index)
    | some found => (readAll part fault (index + 1) rest).map (found :: ·)

/-- Nothing but schemas. -/
def schemas (arguments : Arguments σ) : Except ArgumentFault (List σ) :=
  arguments.readAll Argument.asSchema? .notSchema 0

/-- Nothing but values; an array as the only argument stands for its items. -/
def values (arguments : Arguments σ) : Except ArgumentFault (List Value) :=
  match arguments with
  | [.value (.array items)] => .ok items
  | arguments => arguments.readAll Argument.asValue? .notValue 0

end Vetting.Arguments

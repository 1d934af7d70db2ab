/-!
# Punycode

The encoding of texts beyond ASCII in letters, digits and dashes that domain names use.  The characters of
ASCII stand in front of the last dash; what follows says, as a row of numbers in base thirty-six, which
other characters are put where among them.
-/

namespace Vetting.Punycode

/-- The value of a digit in base thirty-six. -/
def digitValue? (c : Char) : Option Nat :=
  if 'a' ≤ c ∧ c ≤ 'z' then some (c.toNat - 'a'.toNat)
  else if 'A' ≤ c ∧ c ≤ 'Z' then some (c.toNat - 'A'.toNat)
  else if c.isDigit then some (c.toNat - '0'.toNat + 26)
  else none

/-- The digit that ends a number at the given place is below this value. -/
def threshold (place bias : Nat) : Nat :=
  if place ≤ bias then 1 else if bias + 26 ≤ place then 26 else place - bias

/-- Takes factors of 35 out of a number until it is small enough, and counts them in steps of 36. -/
def scaleDown (number count : Nat) : Nat × Nat :=
  if 455 < number then scaleDown (number / 35) (count + 36) else (number, count)
termination_by number
decreasing_by omega

/-- The bias for the next number, from the last one and the length of the text so far. -/
def adapt (number length : Nat) (first : Bool) : Nat :=
  let damped := if first then number / 700 else number / 2
  let (rest, count) := scaleDown (damped + damped / length) 0
  count + 36 * rest / (rest + 38)

/-- The state of decoding between two digits. -/
structure State where
  output : List Char
  code : Nat
  /-- Where the next character goes. -/
  place : Nat
  bias : Nat
  /-- The number whose digits are being read, the weight of the next digit, and its place. -/
  number : Nat
  weight : Nat
  digitPlace : Nat

/-- The state after a complete number: one more character is in its place. -/
def State.insert? (state : State) : Option State :=
  let length := state.output.length + 1
  let total := state.place + state.number
  let code := state.code + total / length
  let place := total % length
  if code < 0xD800 ∨ (0xDFFF < code ∧ code < 0x110000) then
    some {
      output := state.output.insertIdx place (Char.ofNat code)
      code
      place := place + 1
      bias := adapt state.number length (state.code == 128 && state.output.all fun c => c.toNat < 128)
      number := 0
      weight := 1
      digitPlace := 36 }
  else none

/-- Reads the digits that are left. -/
def decodeFrom? (state : State) : List Char → Option (List Char)
  | [] => if state.digitPlace = 36 then some state.output else none
  | c :: rest => do
    let digit ← digitValue? c
    let limit := threshold state.digitPlace state.bias
    let number := state.number + digit * state.weight
    if digit < limit then
      decodeFrom? (← { state with number }.insert?) rest
    else
      decodeFrom? { state with
        number, weight := state.weight * (36 - limit), digitPlace := state.digitPlace + 36 } rest

/-- The parts before and after the last dash; without a dash there is nothing before it. -/
def cutAtLastDash (text : List Char) : List Char × List Char :=
  let after := (text.reverse.takeWhile (· != '-')).reverse
  (text.take (text.length - after.length - 1), after)

/-- The text that is encoded. -/
def decode? (text : List Char) : Option (List Char) :=
  let (basic, digits) := cutAtLastDash text
  if basic.all fun c => c.toNat < 128 then
    decodeFrom? ⟨basic, 128, 0, 72, 0, 1, 36⟩ digits
  else none

end Vetting.Punycode

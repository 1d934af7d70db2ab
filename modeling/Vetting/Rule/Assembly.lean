import Vetting.Rule.Wiring

/-!
# Assembly

The rules of a schema are put in the order of their priorities and wired one after the other.  A rule that
does not operate after its own wiring leaves the list at once.  One that does stays, and takes the place of
earlier rules that are the same call again.
-/

namespace Vetting

/-- How the entries of a list are ordered, wired and sifted. -/
structure Wiring (ι ε : Type) where
  priority : ι → Int
  same : ι → ι → Bool
  operates : ι → Bool
  /-- Wires an entry between the earlier and the later ones. -/
  wire : ι → Siblings ι → Except ε (ι × Siblings ι)

namespace Wiring

variable {ι ε : Type}

/-- Puts an entry before the first one whose priority is not lower. -/
def inserted (wiring : Wiring ι ε) (entry : ι) : List ι → List ι
  | [] => [entry]
  | other :: rest =>
    if wiring.priority entry ≤ wiring.priority other then entry :: other :: rest
    else other :: wiring.inserted entry rest

/-- The entries in the order of their priorities, those of one priority as they were. -/
def ordered (wiring : Wiring ι ε) (entries : List ι) : List ι :=
  entries.foldr wiring.inserted []

/-- The earlier entries with the one that has just been wired. -/
def sifted (wiring : Wiring ι ε) (before : List ι) (entry : ι) : List ι :=
  if wiring.operates entry then (before.filter fun other => !wiring.same other entry) ++ [entry]
  else before

/-- Wires as many of the waiting entries as are asked for. -/
def settle (wiring : Wiring ι ε) : (rounds : Nat) → (before after : List ι) → Except ε (List ι)
  | 0, before, _ => .ok before
  | _ + 1, before, [] => .ok before
  | rounds + 1, before, entry :: after =>
    match wiring.wire entry ⟨before, after⟩ with
    | .error failure => .error failure
    | .ok (entry, siblings) => wiring.settle rounds (wiring.sifted siblings.before entry) siblings.after

/-- Orders, wires and sifts all entries. -/
def assemble (wiring : Wiring ι ε) (entries : List ι) : Except ε (List ι) :=
  wiring.settle entries.length [] (wiring.ordered entries)

end Wiring

namespace Instance

variable {σ : Type} [Identified σ]

/-- Wires the rule of an instance. -/
def wire (entry : Instance σ) (siblings : Siblings (Instance σ)) :
    Except SchemaFault (Instance σ × Siblings (Instance σ)) :=
  match entry.rule.wire entry.arguments siblings with
  | .error fault => .error (.invalidArguments entry.rule.name fault)
  | .ok (rule, siblings) => .ok ({ entry with rule }, siblings)

/-- The wiring of rules. -/
def wiring : Wiring (Instance σ) SchemaFault where
  priority entry := entry.rule.priority
  same := same
  operates entry := entry.rule.operates
  wire := wire

/-- The rules that take part in validations. -/
def assemble (entries : List (Instance σ)) : Except SchemaFault (List (Instance σ)) :=
  wiring.assemble entries

end Instance

end Vetting

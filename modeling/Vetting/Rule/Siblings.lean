/-!
# Siblings

While a rule is wired it stands between the rules that are wired already and those that still wait.  It may
amend its siblings; an amendment applies to some of them and leaves the others alone.
-/

namespace Vetting

variable {ι : Type}

/-- Amends every entry that the amendment applies to. -/
def amendAll (amend : ι → Option ι) (entries : List ι) : List ι :=
  entries.map fun entry => (amend entry).getD entry

/-- Amends the first entry that the amendment applies to. -/
def amendFirst? (amend : ι → Option ι) : List ι → Option (List ι)
  | [] => none
  | entry :: rest =>
    match amend entry with
    | some amended => some (amended :: rest)
    | none => (amendFirst? amend rest).map (entry :: ·)

/-- Amends the last entry that the amendment applies to. -/
def amendLast? (amend : ι → Option ι) : List ι → Option (List ι)
  | [] => none
  | entry :: rest =>
    match amendLast? amend rest with
    | some rest => some (entry :: rest)
    | none => (amend entry).map (· :: rest)

/-- The rules before and after the one that is wired. -/
structure Siblings (ι : Type) where
  before : List ι
  after : List ι

namespace Siblings

/-- The amendment applies to some sibling. -/
def applies (siblings : Siblings ι) (amend : ι → Option ι) : Bool :=
  siblings.before.any (fun entry => (amend entry).isSome)
    || siblings.after.any fun entry => (amend entry).isSome

/-- Amends every sibling. -/
def all (siblings : Siblings ι) (amend : ι → Option ι) : Siblings ι :=
  ⟨amendAll amend siblings.before, amendAll amend siblings.after⟩

/-- Amends the first of the earlier siblings. -/
def first? (siblings : Siblings ι) (amend : ι → Option ι) : Option (Siblings ι) :=
  (amendFirst? amend siblings.before).map fun before => { siblings with before }

/-- Amends the last of the earlier siblings. -/
def last? (siblings : Siblings ι) (amend : ι → Option ι) : Option (Siblings ι) :=
  (amendLast? amend siblings.before).map fun before => { siblings with before }

/-- Amends the first of the later siblings. -/
def next? (siblings : Siblings ι) (amend : ι → Option ι) : Option (Siblings ι) :=
  (amendFirst? amend siblings.after).map fun after => { siblings with after }

end Siblings

end Vetting

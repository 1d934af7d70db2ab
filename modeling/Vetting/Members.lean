/-!
# Named members

A list of named members in the order of their first appearance.  `put` keeps the place of a name that is
already there; `putSorted` keeps a list in the order of the names.
-/

namespace Vetting

/-- Named members, each name standing for the first member that carries it. -/
abbrev Members (α : Type) := List (String × α)

namespace Members

variable {α β : Type}

/-- The member of that name. -/
def get? (members : Members α) (name : String) : Option α :=
  match members with
  | [] => none
  | (other, member) :: rest => if other = name then some member else get? rest name

/-- There is a member of that name. -/
def has (members : Members α) (name : String) : Bool :=
  (members.get? name).isSome

/-- Puts a member under a name: in the place of the one it replaces, else at the end. -/
def put (members : Members α) (name : String) (member : α) : Members α :=
  match members with
  | [] => [(name, member)]
  | (other, old) :: rest =>
    if other = name then (name, member) :: rest else (other, old) :: put rest name member

/-- Puts the members of the second list one after the other. -/
def putAll (members additions : Members α) : Members α :=
  additions.foldl (fun total (name, member) => total.put name member) members

/-- The members of a list in which names may repeat: the first place and the last member of each name. -/
def ofList (entries : List (String × α)) : Members α :=
  putAll [] entries

/-- The names in order. -/
def names (members : Members α) : List String :=
  members.map Prod.fst

/-- Puts a member before the first greater name, or in the place of the one it replaces. -/
def putSorted (members : Members α) (name : String) (member : α) : Members α :=
  match members with
  | [] => [(name, member)]
  | (other, old) :: rest =>
    if name < other then (name, member) :: (other, old) :: rest
    else if name = other then (name, member) :: rest
    else (other, old) :: putSorted rest name member

/-- The members in the order of their names; of a repeated name the last one counts. -/
def sorted (members : Members α) : Members α :=
  members.foldl (fun total (name, member) => total.putSorted name member) []

/-- Nothing is found among no members. -/
@[simp] theorem get?_nil (name : String) : get? ([] : Members α) name = none := rfl

/-- After a member has been put, it is found by its name, and the others as before. -/
theorem get?_put (members : Members α) (name asked : String) (member : α) :
    (members.put name member).get? asked = if asked = name then some member else members.get? asked := by
  induction members with
  | nil => grind [put, get?]
  | cons head rest ih => grind [put, get?]

/-- Putting a member under a name that is already there changes no name and no order. -/
theorem names_put_of_has {members : Members α} {name : String} (member : α)
    (present : members.has name = true) : (members.put name member).names = members.names := by
  induction members with
  | nil => simp [has] at present
  | cons head rest ih =>
    obtain ⟨other, old⟩ := head
    by_cases same : other = name
    · simp [put, names, same]
    · have inRest : has rest name = true := by simpa [has, get?, same] using present
      have := ih inRest
      simp_all [put, names]

/-- A new name goes to the end. -/
theorem names_put_of_not_has {members : Members α} {name : String} (member : α)
    (absent : members.has name = false) : (members.put name member).names = members.names ++ [name] := by
  induction members with
  | nil => rfl
  | cons head rest ih =>
    obtain ⟨other, old⟩ := head
    by_cases same : other = name
    · simp [has, get?, same] at absent
    · have notInRest : has rest name = false := by simpa [has, get?, same] using absent
      have := ih notInRest
      simp_all [put, names]

end Members

end Vetting

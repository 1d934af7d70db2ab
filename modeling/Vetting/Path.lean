/-!
# Paths into a value

A path leads from the value that is vetted to one inside it, by names of members and places in arrays.
-/

namespace Vetting

/-- One step of a path. -/
inductive Step where
  | key (name : String)
  | index (place : Nat)
deriving DecidableEq

/-- The steps from the outermost value inwards. -/
abbrev Path := List Step

namespace Path

/-- How the outermost value is called. -/
def outermost : String := "value"

/-- The path to the member of that name. -/
def key (path : Path) (name : String) : Path :=
  path ++ [.key name]

/-- The path to the item at that place. -/
def index (path : Path) (place : Nat) : Path :=
  path ++ [.index place]

/-- How the value at the end of the path is called: by the last step alone. -/
def label (path : Path) : String :=
  match path.getLast? with
  | none => outermost
  | some (.key name) => name
  | some (.index place) => "[" ++ toString place ++ "]"

/-- One step as text. -/
def stepText : Step → String
  | .key name => "." ++ name
  | .index place => "[" ++ toString place ++ "]"

/-- The whole path as text. -/
def text (path : Path) : String :=
  outermost ++ String.join (path.map stepText)

end Path

end Vetting

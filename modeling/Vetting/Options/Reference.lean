import Vetting.Options.Basic
import Vetting.Text.Casing
import Vetting.Url.Basic

/-!
# Options for references

Which schemes a reference may have, and whether it may leave its scheme to the page it stands on.
-/

namespace Vetting

/-- Why a text is not a wanted reference. -/
inductive ReferenceFault where
  | schemeNotAllowed
  | relativeNotAllowed
  | invalid
deriving DecidableEq

/-- The name of a fault. -/
def ReferenceFault.name : ReferenceFault → String
  | schemeNotAllowed => "scheme-not-allowed"
  | relativeNotAllowed => "relative-not-allowed"
  | invalid => "invalid"

/-- Which references are wanted; no scheme at all stands for every scheme. -/
structure ReferenceOptions where
  schemes : List String
  allowsRelative : Bool
deriving DecidableEq

namespace ReferenceOptions

/-- Every scheme, and no reference without one. -/
def standard : ReferenceOptions :=
  ⟨[], false⟩

/-- The wanted schemes. -/
def schemeNames (options : ReferenceOptions) : Value :=
  .array (options.schemes.map .string)

/-- The options as a value. -/
def toValue (options : ReferenceOptions) : Value :=
  .ofEntries [("scheme", options.schemeNames), ("allowRelative", .boolean options.allowsRelative)]

/-- The options that a value stands for. -/
def ofValue? (value : Value) : Except ArgumentFault ReferenceOptions := do
  let members ← Options.members value
  let schemes ← match Options.entry? members ["scheme", "schemes"] with
    | none => .ok standard.schemes
    | some schemes => Options.readAll Value.asString? .schemeNotText (Options.items schemes)
  let allowsRelative ← match Options.entry? members ["allowRelative"] with
    | none => .ok standard.allowsRelative
    | some allow =>
      match allow.asBoolean? with
      | some allow => .ok allow
      | none => .error .allowRelativeNotFlag
  return ⟨schemes, allowsRelative⟩

/-- The scheme is one of the wanted ones, in any case of letters. -/
def allowsScheme (options : ReferenceOptions) (scheme : String) : Bool :=
  options.schemes.isEmpty
    || options.schemes.any fun wanted => Text.sameIgnoringAsciiCase wanted scheme

/-- What is wrong with a text, if anything. -/
def fault? (options : ReferenceOptions) (text : String) : Option ReferenceFault :=
  match Url.parse text with
  | .ok url =>
    if !options.allowsScheme url.scheme then some .schemeNotAllowed
    else if url.host.isNone then some .invalid
    else none
  | .error .noScheme =>
    if !options.allowsRelative then some .relativeNotAllowed
    else if Url.leadsOnFromWeb text then none
    else some .invalid
  | .error _ => some .invalid

end ReferenceOptions

end Vetting

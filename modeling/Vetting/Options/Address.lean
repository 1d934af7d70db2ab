import Vetting.Address
import Vetting.Options.Basic

/-!
# Options for addresses

Which versions of addresses are wanted, and whether an address may or must be followed by the length of a
network, as in `10.0.0.0/8`.
-/

namespace Vetting

/-- A version of internet addresses. -/
inductive AddressVersion where
  | v4
  | v6
deriving DecidableEq

namespace AddressVersion

/-- The name of a version. -/
def name : AddressVersion → String
  | v4 => "ipv4"
  | v6 => "ipv6"

/-- The version of that name. -/
def ofName? (name : String) : Option AddressVersion :=
  if name = "ipv4" then some v4 else if name = "ipv6" then some v6 else none

/-- The number of bits of an address, which is the greatest length of a network. -/
def bits : AddressVersion → Nat
  | v4 => 32
  | v6 => 128

/-- The text is an address of this version. -/
def accepts : AddressVersion → List Char → Bool
  | v4 => Address.isVersion4
  | v6 => Address.isVersion6

end AddressVersion

/-- Whether the length of a network follows the address. -/
inductive Cidr where
  | optional
  | required
  | forbidden
deriving DecidableEq

namespace Cidr

/-- The name of a mode. -/
def name : Cidr → String
  | optional => "optional"
  | required => "required"
  | forbidden => "forbidden"

/-- The mode of that name. -/
def ofName? (name : String) : Option Cidr :=
  if name = "optional" then some optional
  else if name = "required" then some required
  else if name = "forbidden" then some forbidden
  else none

end Cidr

/-- Why a text is not a wanted address. -/
inductive AddressFault where
  | notMatched
  | cidrRequired
  | cidrNotAllowed
deriving DecidableEq

/-- The name of a fault. -/
def AddressFault.name : AddressFault → String
  | notMatched => "not-matched"
  | cidrRequired => "cidr-required"
  | cidrNotAllowed => "cidr-not-allowed"

/-- Which addresses are wanted. -/
structure AddressOptions where
  versions : List AddressVersion
  cidr : Cidr
deriving DecidableEq

namespace AddressOptions

/-- Either version, alone. -/
def standard : AddressOptions :=
  ⟨[.v4, .v6], .forbidden⟩

/-- The names of the wanted versions. -/
def versionNames (options : AddressOptions) : Value :=
  .array (options.versions.map fun version => .string version.name)

/-- The options as a value. -/
def toValue (options : AddressOptions) : Value :=
  .ofEntries [("version", options.versionNames), ("cidr", .string options.cidr.name)]

/-- The options that a value stands for. -/
def ofValue? (value : Value) : Except ArgumentFault AddressOptions := do
  let members ← Options.members value
  let versions ← match Options.entry? members ["version", "versions"] with
    | none => .ok standard.versions
    | some versions =>
      Options.readAll (fun name => name.asString?.bind AddressVersion.ofName?) .unknownVersion
        (Options.items versions)
  let cidr ← match Options.entry? members ["cidr"] with
    | none => .ok standard.cidr
    | some mode =>
      match mode.asString?.bind Cidr.ofName? with
      | some cidr => .ok cidr
      | none => .error (.unknownCidr mode.text)
  return ⟨versions, cidr⟩

/-- The digits are the length of a network under that version. -/
def isLength (version : AddressVersion) (digits : List Char) : Bool :=
  !digits.isEmpty && digits.all Char.isDigit && Address.decimalOf digits ≤ version.bits

/-- What is wrong with a text, if anything. -/
def fault? (options : AddressOptions) (text : String) : Option AddressFault :=
  let (address, length?) := match Text.cutAtFirst? '/' text.toList with
    | some (address, length) => (address, some length)
    | none => (text.toList, none)
  match options.versions.find? fun version => version.accepts address, length? with
  | none, _ => some .notMatched
  | some _, none => if options.cidr = .required then some .cidrRequired else none
  | some version, some length =>
    if !isLength version length then some .notMatched
    else if options.cidr = .forbidden then some .cidrNotAllowed
    else none

end AddressOptions

end Vetting

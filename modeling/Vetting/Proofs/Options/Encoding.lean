import Mathlib.Data.List.Basic
import Vetting.Options.Address
import Vetting.Options.Reference

/-!
# Options that are written as values

Options are read from an object in which an entry may be left out, a list may go without its brackets if it has one item,
and some entries go by two names.  `AddressOptions.SaidBy` and `ReferenceOptions.SaidBy` tell which members say which
options, and that is what reading finds out.  Written options are said by what they are written as, so they come back
(`options_survive`).
-/

namespace Vetting

namespace Options

variable {α : Type} {write : α → Value} {part : Value → Option α}

/-! ## What an entry says -/

/-- An entry that lists things, in brackets or without, or that leaves a list untouched. -/
inductive Lists (write : α → Value) (untouched : List α) : Option Value → List α → Prop where
  | untouched : Lists write untouched none untouched
  | many (items : List α) : Lists write untouched (some (.array (items.map write))) items
  | single (item : α) : Lists write untouched (some (write item)) [item]

/-- An entry that chooses one thing, or that leaves a choice untouched. -/
inductive Chooses (write : α → Value) (untouched : α) : Option Value → α → Prop where
  | untouched : Chooses write untouched none untouched
  | chosen (choice : α) : Chooses write untouched (some (write choice)) choice

/-- The reading of an entry that lists things. -/
def readList (part : Value → Option α) (fault : String → ArgumentFault) (untouched : List α) :
    Option Value → Except ArgumentFault (List α)
  | none => .ok untouched
  | some value => readAll part fault (items value)

/-- The reading of an entry that chooses one thing. -/
def readChoice (part : Value → Option α) (fault : Value → ArgumentFault) (untouched : α) :
    Option Value → Except ArgumentFault α
  | none => .ok untouched
  | some value =>
    match part value with
    | some choice => .ok choice
    | none => .error (fault value)

/-- A value without brackets is its only item. -/
theorem items_of_bare {value : Value} (bare : value.asItems? = none) : items value = [value] := by
  cases value with
  | array listed => cases bare
  | _ => rfl

section Reading

variable (reads : ∀ value item, part value = some item ↔ value = write item)

include reads

/-- Items are read exactly if they are written ones. -/
theorem readAll_eq_ok_iff (fault : String → ArgumentFault) (values : List Value) (found : List α) :
    readAll part fault values = .ok found ↔ values = found.map write := by
  constructor
  · intro done
    induction values generalizing found with
    | nil =>
        obtain rfl := Except.ok.inj done
        rfl
    | cons value rest ih =>
        rw [readAll] at done
        cases read : part value with
        | none =>
            rw [read] at done
            cases done
        | some item =>
            rw [read] at done
            cases further : readAll part fault rest with
            | error failure =>
                rw [further] at done
                cases done
            | ok items =>
                rw [further] at done
                obtain rfl := Except.ok.inj done
                rw [List.map_cons, ← (reads value item).mp read, ← ih items further]
  · intro written
    subst written
    induction found with
    | nil => rfl
    | cons item rest ih =>
        rw [List.map_cons, readAll, (reads _ item).mpr rfl]
        dsimp only
        rw [ih]
        rfl

/-- A choice is read exactly if it says what is found, or says nothing. -/
theorem readChoice_eq_ok_iff (fault : Value → ArgumentFault) (untouched : α) (entry : Option Value) (found : α) :
    readChoice part fault untouched entry = .ok found ↔ Chooses write untouched entry found := by
  cases entry with
  | none =>
      rw [readChoice, Except.ok.injEq]
      constructor
      · intro same
        exact same ▸ .untouched
      · intro chooses
        cases chooses
        rfl
  | some value =>
      rw [readChoice]
      constructor
      · intro done
        cases read : part value with
        | none =>
            rw [read] at done
            cases done
        | some choice =>
            rw [read] at done
            obtain rfl := Except.ok.inj done
            exact (reads value choice).mp read ▸ .chosen choice
      · intro chooses
        cases chooses with
        | chosen => rw [(reads _ found).mpr rfl]

/-- A list is read exactly if it lists what is found, or says nothing. -/
theorem readList_eq_ok_iff (bare : ∀ item, (write item).asItems? = none) (fault : String → ArgumentFault)
    (untouched : List α) (entry : Option Value) (found : List α) :
    readList part fault untouched entry = .ok found ↔ Lists write untouched entry found := by
  cases entry with
  | none =>
      rw [readList, Except.ok.injEq]
      constructor
      · intro same
        exact same ▸ .untouched
      · intro lists
        cases lists
        rfl
  | some value =>
      rw [readList, readAll_eq_ok_iff reads]
      constructor
      · intro written
        cases value with
        | array listed =>
            rw [items] at written
            exact written ▸ .many found
        | _ =>
            obtain ⟨item, rfl, own⟩ := List.map_eq_singleton_iff.mp written.symm
            exact own ▸ .single item
      · intro lists
        cases lists with
        | many => rfl
        | single item => exact items_of_bare (bare item)

end Reading

/-- Two entries are read one after the other, and put together. -/
theorem bind_pair_eq_ok_iff {ε β γ δ : Type} {first : Except ε β} {second : Except ε γ} {isFirst : β → Prop}
    {isSecond : γ → Prop} {make : β → γ → δ} (one : ∀ found, first = .ok found ↔ isFirst found)
    (other : ∀ found, second = .ok found ↔ isSecond found)
    (parts : ∀ {left right left' right'}, make left right = make left' right' → left = left' ∧ right = right')
    (left : β) (right : γ) :
    (do let left ← first; let right ← second; return make left right : Except ε δ) = .ok (make left right) ↔
      isFirst left ∧ isSecond right := by
  rw [← one, ← other]
  constructor
  · intro made
    cases first with
    | error failure => cases made
    | ok found =>
        cases second with
        | error failure => cases made
        | ok further =>
            obtain ⟨rfl, rfl⟩ := parts (Except.ok.inj made)
            exact ⟨rfl, rfl⟩
  · intro both
    rw [both.1, both.2]
    rfl

/-- What has a name is read from the text of that name, and from nothing else. -/
theorem asString?_bind_eq_some_iff {ofName? : String → Option α} {name : α → String}
    (reads : ∀ text item, ofName? text = some item ↔ text = name item) (value : Value) (item : α) :
    value.asString?.bind ofName? = some item ↔ value = .string (name item) := by
  rw [Option.bind_eq_some_iff]
  simp only [Value.asString?_eq_some_iff, reads]
  constructor
  · intro named
    obtain ⟨text, same, rfl⟩ := named
    exact same
  · intro same
    exact ⟨name item, same, rfl⟩

/-- Options come back from what they are written as.  Reading finds out what the members of an object say, so the options
that it finds come back as well. -/
structure Survive (write : α → Value) (read : Value → Except ArgumentFault α) (said : α → Members Value → Prop) :
    Prop where
  read_write : ∀ options, read (write options) = .ok options
  read_iff : ∀ value options, read value = .ok options ↔ ∃ members, value = .object members ∧ said options members
  read_again : ∀ value options, read value = .ok options → read (write options) = .ok options

/-- If reading finds out what members say, it is enough that options are written as members that say them. -/
theorem survive_of_read_object {read : Value → Except ArgumentFault α} {said : α → Members Value → Prop}
    (objects : ∀ value, value.asMembers? = none → read value = .error .optionsNotObject)
    (reads : ∀ members options, read (.object members) = .ok options ↔ said options members)
    (own : ∀ options, ∃ members, write options = .object members ∧ said options members) :
    Survive write read said := by
  have back : ∀ options, read (write options) = .ok options := by
    intro options
    obtain ⟨members, written, said⟩ := own options
    rw [written]
    exact (reads members options).mpr said
  refine ⟨back, ?_, fun _ options _ => back options⟩
  intro value options
  constructor
  · intro done
    cases value with
    | object members => exact ⟨members, rfl, (reads members options).mp done⟩
    | _ =>
        rw [objects _ rfl] at done
        cases done
  · intro told
    obtain ⟨members, rfl, said⟩ := told
    exact (reads members options).mpr said

end Options

/-! ## Options for addresses -/

/-- A version is found by its name only. -/
theorem AddressVersion.ofName?_eq_some_iff (name : String) (version : AddressVersion) :
    ofName? name = some version ↔ name = version.name := by
  constructor
  · intro read
    rw [ofName?] at read
    split_ifs at read with four six
    · exact Option.some.inj read ▸ four
    · exact Option.some.inj read ▸ six
  · intro own
    cases version <;> exact own ▸ rfl

/-- A mode is found by its name only. -/
theorem Cidr.ofName?_eq_some_iff (name : String) (cidr : Cidr) : ofName? name = some cidr ↔ name = cidr.name := by
  constructor
  · intro read
    rw [ofName?] at read
    split_ifs at read with optional required forbidden
    · exact Option.some.inj read ▸ optional
    · exact Option.some.inj read ▸ required
    · exact Option.some.inj read ▸ forbidden
  · intro own
    cases cidr <;> exact own ▸ rfl

namespace AddressOptions

/-- The members say these options. -/
structure SaidBy (options : AddressOptions) (members : Members Value) : Prop where
  versions : Options.Lists (fun version => .string version.name) standard.versions
    (Options.entry? members ["version", "versions"]) options.versions
  cidr : Options.Chooses (fun mode => .string mode.name) standard.cidr (Options.entry? members ["cidr"]) options.cidr

/-- The options of addresses are read entry by entry. -/
theorem ofValue?_object (members : Members Value) : ofValue? (.object members) = do
    let versions ← Options.readList (fun name => name.asString?.bind AddressVersion.ofName?) .unknownVersion
      standard.versions (Options.entry? members ["version", "versions"])
    let cidr ← Options.readChoice (fun mode => mode.asString?.bind Cidr.ofName?) (fun mode => .unknownCidr mode.text)
      standard.cidr (Options.entry? members ["cidr"])
    return ⟨versions, cidr⟩ := by
  simp only [ofValue?, Options.members, Value.asMembers?, bind, Except.bind]
  cases Options.entry? members ["cidr"] with
  | none => cases Options.entry? members ["version", "versions"] <;> rfl
  | some mode =>
      dsimp only [Options.readChoice]
      cases Options.entry? members ["version", "versions"] <;> cases mode.asString?.bind Cidr.ofName? <;> rfl

/-- Options of addresses are read exactly if the members say them. -/
theorem ofValue?_object_eq_ok_iff (members : Members Value) (options : AddressOptions) :
    ofValue? (.object members) = .ok options ↔ options.SaidBy members := by
  have versions := Options.readList_eq_ok_iff (Options.asString?_bind_eq_some_iff AddressVersion.ofName?_eq_some_iff)
    (fun _ => rfl) .unknownVersion standard.versions (Options.entry? members ["version", "versions"])
  have cidr := Options.readChoice_eq_ok_iff (Options.asString?_bind_eq_some_iff Cidr.ofName?_eq_some_iff)
    (fun mode => .unknownCidr mode.text) standard.cidr (Options.entry? members ["cidr"])
  rw [ofValue?_object]
  refine (Options.bind_pair_eq_ok_iff versions cidr AddressOptions.mk.inj options.versions options.cidr).trans ?_
  exact ⟨fun said => ⟨said.1, said.2⟩, fun said => ⟨said.versions, said.cidr⟩⟩

/-- Options of addresses survive being written down. -/
theorem survive : Options.Survive toValue ofValue? SaidBy := by
  apply Options.survive_of_read_object _ ofValue?_object_eq_ok_iff
  · intro options
    exact ⟨_, rfl, .many options.versions, .chosen options.cidr⟩
  · intro value other
    rw [ofValue?, Options.members, other]
    rfl

end AddressOptions

/-! ## Options for references -/

namespace ReferenceOptions

/-- The members say these options. -/
structure SaidBy (options : ReferenceOptions) (members : Members Value) : Prop where
  schemes : Options.Lists .string standard.schemes (Options.entry? members ["scheme", "schemes"]) options.schemes
  allowsRelative : Options.Chooses .boolean standard.allowsRelative (Options.entry? members ["allowRelative"])
    options.allowsRelative

/-- The options of references are read entry by entry. -/
theorem ofValue?_object (members : Members Value) : ofValue? (.object members) = do
    let schemes ← Options.readList Value.asString? .schemeNotText standard.schemes
      (Options.entry? members ["scheme", "schemes"])
    let allowsRelative ← Options.readChoice Value.asBoolean? (fun _ => .allowRelativeNotFlag) standard.allowsRelative
      (Options.entry? members ["allowRelative"])
    return ⟨schemes, allowsRelative⟩ := by
  simp only [ofValue?, Options.members, Value.asMembers?, bind, Except.bind]
  cases Options.entry? members ["allowRelative"] with
  | none => cases Options.entry? members ["scheme", "schemes"] <;> rfl
  | some allow =>
      dsimp only [Options.readChoice]
      cases Options.entry? members ["scheme", "schemes"] <;> cases allow.asBoolean? <;> rfl

/-- Options of references are read exactly if the members say them. -/
theorem ofValue?_object_eq_ok_iff (members : Members Value) (options : ReferenceOptions) :
    ofValue? (.object members) = .ok options ↔ options.SaidBy members := by
  have schemes := Options.readList_eq_ok_iff (fun _ _ => Value.asString?_eq_some_iff) (fun _ => rfl) .schemeNotText
    standard.schemes (Options.entry? members ["scheme", "schemes"])
  have allowsRelative := Options.readChoice_eq_ok_iff (fun _ _ => Value.asBoolean?_eq_some_iff)
    (fun _ => .allowRelativeNotFlag) standard.allowsRelative (Options.entry? members ["allowRelative"])
  rw [ofValue?_object]
  refine (Options.bind_pair_eq_ok_iff schemes allowsRelative ReferenceOptions.mk.inj options.schemes
    options.allowsRelative).trans ?_
  exact ⟨fun said => ⟨said.1, said.2⟩, fun said => ⟨said.schemes, said.allowsRelative⟩⟩

/-- Options of references survive being written down. -/
theorem survive : Options.Survive toValue ofValue? SaidBy := by
  apply Options.survive_of_read_object _ ofValue?_object_eq_ok_iff
  · intro options
    exact ⟨_, rfl, .many options.schemes, .chosen options.allowsRelative⟩
  · intro value other
    rw [ofValue?, Options.members, other]
    rfl

end ReferenceOptions

/-- **Options survive.**  Options for addresses and for references come back from what they are written as, whatever they
are, and so do the options that are read from any value. -/
theorem options_survive :
    Options.Survive AddressOptions.toValue AddressOptions.ofValue? AddressOptions.SaidBy ∧
      Options.Survive ReferenceOptions.toValue ReferenceOptions.ofValue? ReferenceOptions.SaidBy :=
  ⟨AddressOptions.survive, ReferenceOptions.survive⟩

/-- One version without brackets, under the other name of its entry, and nothing said of the length of a network. -/
theorem options_survive_ofBareVersion :
    AddressOptions.ofValue? (.object [("versions", .string "ipv6"), ("cidr", .undefined)]) = .ok ⟨[.v6], .forbidden⟩ ∧
      AddressOptions.ofValue? (AddressOptions.toValue ⟨[.v6], .forbidden⟩) = .ok ⟨[.v6], .forbidden⟩ := by
  have read : AddressOptions.ofValue? (.object [("versions", .string "ipv6"), ("cidr", .undefined)]) =
      .ok ⟨[.v6], .forbidden⟩ := rfl
  exact ⟨read, options_survive.1.read_again _ _ read⟩

end Vetting

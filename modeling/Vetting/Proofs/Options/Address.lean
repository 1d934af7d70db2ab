import Vetting.Proofs.Text.Digits
import Vetting.Proofs.Text.Pieces
import Vetting.Validation.Judging

/-!
# Texts that are addresses

No text is an address of both versions: an address of version 6 has a colon, and one of version 4 has none
(`AddressVersion.eq_of_accepts`).  So the listed version that a text is an address of is the only one, and it settles how
long the length of a network may be: 32 or 128 (`AddressVersion.Writes`).  With that, the rule of addresses says of each
text what its two parts and the mode call for (`Rule.judge_address`).
-/

namespace Vetting

open Text

namespace Address

variable {text : List Char}

/-- A colon is no digit. -/
theorem not_isDigit_colon : ':'.isDigit = false :=
  rfl

/-- An address of version 4 has no colon. -/
theorem colon_not_mem_of_isVersion4 (address : isVersion4 text = true) : ':' ∉ text := by
  intro member
  have apart : ':' ≠ '.' := by decide
  obtain ⟨octet, among, inside⟩ := exists_mem_pieces member apart
  simp only [isVersion4, Bool.and_eq_true, List.all_eq_true] at address
  have fits := address.2 octet among
  simp only [isOctet, Bool.and_eq_true, List.all_eq_true] at fits
  have digit := fits.1.1.2 ':' inside
  rw [not_isDigit_colon] at digit
  cases digit

/-- A gap is made of colons. -/
theorem colon_mem_of_cutAtGap? {parts : List Char × List Char} (gap : cutAtGap? text = some parts) : ':' ∈ text := by
  induction text using cutAtGap?.induct generalizing parts with
  | case1 => cases gap
  | case2 rest => exact List.mem_cons_self
  | case3 c rest none ih =>
      rw [cutAtGap?, Option.map_eq_some_iff] at gap
      · obtain ⟨found, later, -⟩ := gap
        exact List.mem_cons_of_mem _ (ih later)
      · exact none

/-- Without a colon, a text is one group, or an address of version 4, which counts as two. -/
theorem groupsIn?_of_not_mem (free : ':' ∉ text) : groupsIn? text ≠ some 8 := by
  rw [groupsIn?, pieces_of_not_mem free, groupCount?]
  split_ifs
  all_goals decide

/-- An address of version 6 has a colon. -/
theorem colon_mem_of_isVersion6 (address : isVersion6 text = true) : ':' ∈ text := by
  rw [isVersion6] at address
  cases gap : cutAtGap? text with
  | some parts => exact colon_mem_of_cutAtGap? gap
  | none =>
      rw [gap] at address
      by_contra free
      exact groupsIn?_of_not_mem free (beq_iff_eq.mp address)

end Address

/-- Faults are told by their names. -/
theorem AddressFault.name_inj {fault other : AddressFault} : fault.name = other.name ↔ fault = other := by
  refine ⟨fun same => ?_, congrArg name⟩
  cases fault with
  | notMatched | cidrRequired | cidrNotAllowed =>
      cases other with
      | notMatched | cidrRequired | cidrNotAllowed =>
          first
          | rfl
          | exact absurd same (by decide)

namespace AddressVersion

/-- A text is an address of one version at most. -/
theorem eq_of_accepts {version other : AddressVersion} {address : List Char} (accepts : version.accepts address = true)
    (also : other.accepts address = true) : version = other := by
  cases version with
  | v4 =>
      cases other with
      | v4 => rfl
      | v6 => exact absurd (Address.colon_mem_of_isVersion6 also) (Address.colon_not_mem_of_isVersion4 accepts)
  | v6 =>
      cases other with
      | v4 => exact absurd (Address.colon_mem_of_isVersion6 accepts) (Address.colon_not_mem_of_isVersion4 also)
      | v6 => rfl

/-- The text is an address of the version, and the lengths of networks among such addresses go up to that limit. -/
inductive Writes : AddressVersion → List Char → Nat → Prop
  | v4 {address : List Char} (written : Address.isVersion4 address = true) : Writes v4 address 32
  | v6 {address : List Char} (written : Address.isVersion6 address = true) : Writes v6 address 128

/-- A text that a version accepts is written as its addresses are. -/
theorem accepts_iff {version : AddressVersion} {address : List Char} :
    version.accepts address = true ↔ ∃ limit, version.Writes address limit := by
  constructor
  · intro accepts
    cases version with
    | v4 => exact ⟨32, .v4 accepts⟩
    | v6 => exact ⟨128, .v6 accepts⟩
  · intro some
    obtain ⟨limit, writes⟩ := some
    cases writes with
    | v4 written => exact written
    | v6 written => exact written

/-- The text is a row of decimal digits, however long, whose number is at most the limit. -/
structure Bounds (limit : Nat) (length : List Char) : Prop where
  present : length ≠ []
  digits : ∀ c ∈ length, c.isDigit = true
  small : Nat.ofDigits 10 (length.map digitValue).reverse ≤ limit

/-- The limit of a version is the number of bits that its addresses have. -/
theorem Writes.limit_eq {version : AddressVersion} {address : List Char} {limit : Nat}
    (writes : version.Writes address limit) : limit = version.bits := by
  cases writes with
  | v4 => rfl
  | v6 => rfl

/-- The length of a network is checked against the limit of the version. -/
theorem Writes.isLength_iff {version : AddressVersion} {address length : List Char} {limit : Nat}
    (writes : version.Writes address limit) : AddressOptions.isLength version length = true ↔ Bounds limit length := by
  simp only [AddressOptions.isLength, Bool.and_eq_true, Bool.not_eq_true', List.isEmpty_eq_false_iff, List.all_eq_true,
    decide_eq_true_eq, Address.decimalOf_eq_ofDigits, ← writes.limit_eq]
  exact ⟨fun ⟨⟨present, digits⟩, small⟩ => ⟨present, digits, small⟩,
    fun bounds => ⟨⟨bounds.present, bounds.digits⟩, bounds.small⟩⟩

end AddressVersion

namespace AddressOptions

variable {options : AddressOptions} {text address : List Char} {length? : Option (List Char)}

/-- The parts are an address of a listed version and, where there is another part, the length of a network. -/
def Reads (options : AddressOptions) (address : List Char) (length? : Option (List Char)) : Prop :=
  ∃ version ∈ options.versions, ∃ limit, version.Writes address limit ∧
    ∀ length ∈ length?, AddressVersion.Bounds limit length

/-- What is wrong with the parts of a text, if anything. -/
def partsFault? (options : AddressOptions) (address : List Char) (length? : Option (List Char)) : Option AddressFault :=
  match options.versions.find? fun version => version.accepts address, length? with
  | none, _ => some .notMatched
  | some _, none => if options.cidr = .required then some .cidrRequired else none
  | some version, some length =>
    if !isLength version length then some .notMatched
    else if options.cidr = .forbidden then some .cidrNotAllowed
    else none

/-- What is wrong with good parts: the mode calls for another part, or for none. -/
def modeFault? (options : AddressOptions) (length? : Option (List Char)) : Option AddressFault :=
  match length? with
  | none => if options.cidr = .required then some .cidrRequired else none
  | some _ => if options.cidr = .forbidden then some .cidrNotAllowed else none

/-- A text is judged by its parts. -/
theorem fault?_of_cutAt (cut : CutAt '/' text address length?) :
    options.fault? (.ofList text) = options.partsFault? address length? := by
  rw [fault?, String.toList_ofList]
  cases cut with
  | whole free =>
      rw [cutAtFirst?_of_not_mem free]
      rfl
  | parts free after =>
      rw [cutAtFirst?_append free]
      rfl

/-- Of good parts only the mode can be wrong. -/
theorem partsFault?_of_reads (reads : options.Reads address length?) :
    options.partsFault? address length? = options.modeFault? length? := by
  obtain ⟨version, listed, limit, writes, bounds⟩ := reads
  have accepts := AddressVersion.accepts_iff.mpr ⟨limit, writes⟩
  unfold partsFault?
  cases found : options.versions.find? fun version => version.accepts address with
  | none => exact absurd accepts (List.find?_eq_none.mp found version listed)
  | some first =>
      have accepted : first.accepts address = true := (List.find?_eq_some_iff_append.mp found).1
      obtain rfl := AddressVersion.eq_of_accepts accepted accepts
      cases length? with
      | none => rfl
      | some length =>
          simp only [writes.isLength_iff.mpr (bounds length rfl), Bool.not_true, Bool.false_eq_true, if_false]
          rfl

/-- Parts that are no good do not match. -/
theorem partsFault?_of_not_reads (fails : ¬ options.Reads address length?) :
    options.partsFault? address length? = some .notMatched := by
  unfold partsFault?
  cases found : options.versions.find? fun version => version.accepts address with
  | none => rfl
  | some version =>
      have listed := List.mem_of_find?_eq_some found
      obtain ⟨limit, writes⟩ := AddressVersion.accepts_iff.mp (List.find?_eq_some_iff_append.mp found).1
      cases length? with
      | none => exact absurd ⟨version, listed, limit, writes, fun _ given => nomatch given⟩ fails
      | some length =>
          have unbounded : isLength version length = false := by
            rw [← Bool.not_eq_true, writes.isLength_iff]
            intro bounds
            refine fails ⟨version, listed, limit, writes, fun given same => ?_⟩
            exact Option.some.inj same ▸ bounds
          simp only [unbounded, Bool.not_false, if_true]

/-- The rule turns a text down for that reason. -/
def refusal (options : AddressOptions) (path : Path) (reason : String) : Judging :=
  .fail path "string.ip" [("reason", .string reason), ("allowed", options.versionNames)]

/-- What the rule says for a fault, or for none. -/
def answer (options : AddressOptions) (path : Path) : Option AddressFault → Judging
  | none => .say .pass
  | some fault => options.refusal path fault.name

/-- The rule of addresses says of a text what is wrong with it. -/
theorem judge_string (options : AddressOptions) (path : Path) (text : String) :
    options.judge path (.string text) = options.answer path (options.fault? text) := by
  simp only [judge, Value.asString?]
  cases options.fault? text with
  | none => rfl
  | some fault => rfl

/-- Different faults are reported differently. -/
theorem answer_inj {path : Path} {fault? other? : Option AddressFault} :
    options.answer path fault? = options.answer path other? ↔ fault? = other? := by
  refine ⟨fun same => ?_, congrArg _⟩
  cases fault? with
  | none =>
      cases other? with
      | none => rfl
      | some other => cases same
  | some fault =>
      cases other? with
      | none => cases same
      | some other =>
          have reports := Fault.invalid.inj (Except.error.inj (Run.done.inj same))
          have reasons : [Value.string fault.name] = [.string other.name] :=
            congrArg (fun report => report.findings.filterMap fun finding => finding.context.get? "reason") reports
          obtain rfl := AddressFault.name_inj.mp (Value.string.inj (List.cons.inj reasons).1)
          rfl

/-- What the rule says of a text, told by its parts. -/
structure Classifies (options : AddressOptions) (address : List Char) (length? : Option (List Char)) (path : Path)
    (judging : Judging) : Prop where
  /-- Good parts pass, unless the mode calls for the length of a network, or for none. -/
  passes : judging = .say .pass ↔ options.Reads address length? ∧ (length? = none → options.cidr ≠ .required) ∧
    (length? ≠ none → options.cidr ≠ .forbidden)
  cidrRequired : judging = options.refusal path "cidr-required" ↔
    options.Reads address length? ∧ length? = none ∧ options.cidr = .required
  cidrNotAllowed : judging = options.refusal path "cidr-not-allowed" ↔
    options.Reads address length? ∧ length? ≠ none ∧ options.cidr = .forbidden
  /-- All other texts are no addresses. -/
  notMatched : judging = options.refusal path "not-matched" ↔ ¬ options.Reads address length?

/-- The answer for the parts is the one that they call for. -/
theorem classifies_answer (path : Path) :
    options.Classifies address length? path (options.answer path (options.partsFault? address length?)) := by
  have told : ∀ fault?, options.answer path (options.partsFault? address length?) = options.answer path fault? ↔
      options.partsFault? address length? = fault? := fun _ => answer_inj
  by_cases reads : options.Reads address length?
  · rw [partsFault?_of_reads reads] at told ⊢
    refine ⟨(told none).trans ?_, (told (some .cidrRequired)).trans ?_, (told (some .cidrNotAllowed)).trans ?_,
      (told (some .notMatched)).trans ?_⟩
    all_goals
      cases length? with
      | none => by_cases mode : options.cidr = .required <;> simp [modeFault?, reads, mode]
      | some length => by_cases mode : options.cidr = .forbidden <;> simp [modeFault?, reads, mode]
  · rw [partsFault?_of_not_reads reads] at told ⊢
    refine ⟨(told none).trans ?_, (told (some .cidrRequired)).trans ?_, (told (some .cidrNotAllowed)).trans ?_,
      iff_of_true rfl reads⟩
    all_goals exact iff_of_false (fun same => nomatch same) fun good => reads good.1

end AddressOptions

/-- **Which texts are addresses.**  A text is cut at its first slash.  Its parts are good if the first one is an address
of a listed version and the second one, if there is any, is a row of digits whose number is at most 32 or 128, as the
version has it.  Good parts pass, unless the mode calls for a second part, or for none, and these are the reasons then; all
other texts fail for not being addresses. -/
theorem Rule.judge_address (options : AddressOptions) (setting : Setting) (path : Path) (text : List Char) :
    ∃ start length?, CutAt '/' text start length? ∧
      options.Classifies start length? path ((address options).judge setting path (.string (.ofList text))) := by
  obtain ⟨start, length?, cut⟩ := exists_cutAt '/' text
  refine ⟨start, length?, cut, ?_⟩
  rw [judge, AddressOptions.judge_string, AddressOptions.fault?_of_cutAt cut]
  exact AddressOptions.classifies_answer path

end Vetting

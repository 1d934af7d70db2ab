import Vetting.Proofs.Members
import Vetting.Proofs.Rule.Siblings
import Vetting.Rule.Assembly
import Vetting.Ruleset.Basic

/-!
# Translating the schemas and the predicates inside rules

Wiring hands schemas and predicates on but never looks into them: of a schema it knows the handle alone, and of
a predicate the identity.  So it does not matter whether those inside rules are recast before an assembly or
after it, as long as they keep their handles and identities (`Instance.assemble_recast`).
-/

namespace Vetting

variable {σ τ υ : Type}

/-- The argument with a translation of every schema in it. -/
def Argument.map (f : σ → τ) : Argument σ → Argument τ
  | value content => value content
  | schema content => schema (f content)
  | keys content => keys (content.map fun (name, entry) => (name, f entry))
  | regex content => regex content
  | comparator content => comparator content
  | predicate content => predicate content

/-- The instance with a translation of every schema in it. -/
def Instance.map (f : σ → τ) (entry : Instance σ) : Instance τ :=
  ⟨entry.rule.map f, entry.arguments.map (Argument.map f)⟩

/-- The argument with another predicate in place of the one in it, and a translation of every schema. -/
def Argument.recast (f : σ → τ) (g : Predicate → Predicate) : Argument σ → Argument τ
  | predicate content => predicate (g content)
  | argument => argument.map f

/-- The rule with another predicate in place of the one in it, and a translation of every schema. -/
def Rule.recast (f : σ → τ) (g : Predicate → Predicate) : Rule σ → Rule τ
  | custom predicate => custom (predicate.map g)
  | rule => rule.map f

/-- The instance with other predicates in it, and a translation of every schema. -/
def Instance.recast (f : σ → τ) (g : Predicate → Predicate) (entry : Instance σ) : Instance τ :=
  ⟨entry.rule.recast f g, entry.arguments.map (Argument.recast f g)⟩

/-- Where predicates stay as they are, an argument is recast by translating its schemas. -/
theorem Argument.recast_id (f : σ → τ) (argument : Argument σ) : argument.recast f id = argument.map f := by
  cases argument <;> rfl

/-- Where predicates stay as they are, a rule is recast by translating its schemas. -/
theorem Rule.recast_id (f : σ → τ) (rule : Rule σ) : rule.recast f id = rule.map f := by
  cases rule with
  | custom predicate => exact congrArg custom Option.map_id'
  | _ => rfl

/-- Where predicates stay as they are, an instance is recast by translating its schemas. -/
theorem Instance.recast_id (f : σ → τ) (entry : Instance σ) : entry.recast f id = entry.map f := by
  unfold recast map
  rw [Rule.recast_id]
  exact congrArg (mk _) (List.map_congr_left fun argument _ => argument.recast_id f)

namespace Rule

/-- Two translations, one after the other, are one translation. -/
theorem map_map (f : σ → τ) (g : τ → υ) (rule : Rule σ) :
    (rule.map f).map g = rule.map fun schema => g (f schema) := by
  cases rule with
  | keys rule => simp only [map, List.map_map, Function.comp_def]
  | pattern rule => simp only [map, Option.map_map, Function.comp_def]
  | alternatives schemas => simp only [map, List.map_map, Function.comp_def]
  | ordered schemas => simp only [map, List.map_map, Function.comp_def]
  | items schema => simp only [map, Option.map_map, Function.comp_def]
  | _ => rfl

@[simp] theorem name_recast (f : σ → τ) (g : Predicate → Predicate) (rule : Rule σ) :
    (rule.recast f g).name = rule.name := by
  cases rule <;> rfl

/-- A rule keeps its priority when its schemas and predicates are replaced. -/
@[simp] theorem priority_recast (f : σ → τ) (g : Predicate → Predicate) (rule : Rule σ) :
    (rule.recast f g).priority = rule.priority := by
  cases rule with
  | listing kind => cases kind <;> rfl
  | _ => rfl

@[simp] theorem operates_recast (f : σ → τ) (g : Predicate → Predicate) (rule : Rule σ) :
    (rule.recast f g).operates = rule.operates := by
  cases rule <;> rfl

@[simp] theorem standIn?_map (f : σ → τ) (rule : Rule σ) : (rule.map f).standIn? = rule.standIn? := by
  cases rule <;> rfl

/-- A rule as it is registered has no schemas that a translation could change. -/
@[simp] theorem map_fresh (f : σ → τ) (blueprint : Blueprint) :
    (blueprint.fresh : Rule σ).map f = blueprint.fresh := by
  unfold Blueprint.fresh
  rw [map_map]
  congr 1
  funext nothing
  exact nothing.elim

end Rule

/-! ## Reading arguments -/

namespace Arguments

variable (f : σ → τ) (g : Predicate → Predicate) (arguments : Arguments σ)

/-- The argument at a place is recast on its own. -/
theorem getElem?_recast (index : Nat) :
    (arguments.map (Argument.recast f g))[index]? = arguments[index]?.map (Argument.recast f g) :=
  List.getElem?_map ..

/-- A part of the arguments that knows no schemas is read as before. -/
theorem read_recast {α : Type} {part : Argument σ → Option α} {partMapped : Argument τ → Option α}
    (same : ∀ argument : Argument σ, partMapped (argument.recast f g) = part argument) (index : Nat)
    (fault : ArgumentFault) :
    read (arguments.map (Argument.recast f g)) index partMapped fault = read arguments index part fault := by
  unfold read
  rw [getElem?_recast, Option.bind_map]
  simp only [Function.comp_def, same]

/-- A value is read as before from recast arguments. -/
@[simp] theorem value_recast (index : Nat) :
    value (arguments.map (Argument.recast f g)) index = value arguments index :=
  read_recast f g arguments (fun argument => by cases argument <;> rfl) index _

/-- A number is read as before from recast arguments. -/
@[simp] theorem number_recast (index : Nat) :
    number (arguments.map (Argument.recast f g)) index = number arguments index := by
  unfold number
  rw [value_recast]

/-- A count is read as before from recast arguments. -/
@[simp] theorem count_recast (index : Nat) :
    count (arguments.map (Argument.recast f g)) index = count arguments index := by
  unfold count
  rw [number_recast]

/-- A regular expression is read as before from recast arguments. -/
@[simp] theorem regex_recast : regex (arguments.map (Argument.recast f g)) = regex arguments :=
  read_recast f g arguments (fun argument => by cases argument <;> rfl) 0 _

/-- A predicate that is read is another one. -/
@[simp] theorem predicate_recast :
    predicate (arguments.map (Argument.recast f g)) = (predicate arguments).map g := by
  unfold predicate read
  rw [getElem?_recast]
  cases arguments[0]? with
  | none => rfl
  | some argument => cases argument <;> rfl

/-- A switch is read as before from recast arguments. -/
@[simp] theorem flag_recast (index : Nat) :
    flag (arguments.map (Argument.recast f g)) index = flag arguments index := by
  unfold flag
  rw [getElem?_recast]
  cases arguments[index]? with
  | none => rfl
  | some argument =>
      cases argument with
      | value content => cases content <;> rfl
      | _ => rfl

/-- A schema that is read is translated. -/
@[simp] theorem schema_recast (index : Nat) :
    schema (arguments.map (Argument.recast f g)) index = (schema arguments index).map f := by
  unfold schema read
  rw [getElem?_recast]
  cases arguments[index]? with
  | none => rfl
  | some argument => cases argument <;> rfl

/-- The entries of a key map are read from recast arguments with their schemas translated. -/
@[simp] theorem keys_recast :
    keys (arguments.map (Argument.recast f g)) =
      (keys arguments).map fun entries => entries.map fun (name, entry) => (name, f entry) := by
  unfold keys read
  rw [getElem?_recast]
  cases arguments[0]? with
  | none => rfl
  | some argument => cases argument <;> rfl

/-- Schemas are read one by one from recast arguments, each of them translated. -/
theorem readAll_schemas_recast (index : Nat) :
    readAll Argument.asSchema? .notSchema index (arguments.map (Argument.recast f g)) =
      (readAll Argument.asSchema? .notSchema index arguments).map (List.map f) := by
  induction arguments generalizing index with
  | nil => rfl
  | cons argument rest ih =>
      cases argument with
      | schema content =>
          simp only [List.map_cons, readAll, Argument.recast, Argument.map, Argument.asSchema?, ih]
          cases readAll Argument.asSchema? .notSchema (index + 1) rest <;> rfl
      | _ => rfl

/-- Schemas are read from recast arguments translated. -/
@[simp] theorem schemas_recast :
    schemas (arguments.map (Argument.recast f g)) = (schemas arguments).map (List.map f) :=
  readAll_schemas_recast f g arguments 0

/-- Values are read one by one from recast arguments as before. -/
theorem readAll_values_recast (index : Nat) :
    readAll Argument.asValue? .notValue index (arguments.map (Argument.recast f g)) =
      readAll Argument.asValue? .notValue index arguments := by
  induction arguments generalizing index with
  | nil => rfl
  | cons argument rest ih =>
      cases argument with
      | value content => simp only [List.map_cons, readAll, Argument.recast, Argument.map, Argument.asValue?, ih]
      | _ => rfl

/-- Values are read as before from recast arguments. -/
@[simp] theorem values_recast : values (arguments.map (Argument.recast f g)) = values arguments := by
  have all := readAll_values_recast f g arguments 0
  cases arguments with
  | nil => rfl
  | cons first rest =>
      cases rest with
      | nil =>
          cases first with
          | value content => cases content <;> rfl
          | _ => rfl
      | cons second others =>
          cases first with
          | value content => cases content <;> exact all
          | _ => exact all

/-- The first argument is recast on its own. -/
theorem head?_recast :
    (arguments.map (Argument.recast f g)).head? = arguments.head?.map (Argument.recast f g) :=
  List.head?_map

/-- What makes items the same is read as before from recast arguments. -/
@[simp] theorem criterion?_recast :
    Rule.criterion? (arguments.map (Argument.recast f g)) = Rule.criterion? arguments := by
  unfold Rule.criterion?
  rw [head?_recast]
  cases arguments.head? with
  | none => rfl
  | some argument =>
      cases argument with
      | value content => cases content <;> rfl
      | _ => rfl

/-- Options are read as before from recast arguments. -/
@[simp] theorem options?_recast {α : Type} (ofValue? : Value → Except ArgumentFault α) (standard : α) :
    Rule.options? (arguments.map (Argument.recast f g)) ofValue? standard =
      Rule.options? arguments ofValue? standard := by
  unfold Rule.options?
  rw [head?_recast]
  cases arguments.head? with
  | none => rfl
  | some argument => cases argument <;> rfl

end Arguments

/-! ## Amending siblings -/

namespace Amendment

variable (f : σ → τ) (g : Predicate → Predicate)

/-- The rule `optional` can be disabled before rules are recast or after. -/
theorem commutes_disable : Commutes (Rule.recast f g) disable disable := by
  intro rule
  cases rule <;> rfl

/-- A change to the lists of one kind can be made before rules are recast or after. -/
theorem commutes_listing (kind : Listing) (change : ListedValues → ListedValues) :
    Commutes (Rule.recast f g) (listing kind change) (listing kind change) := by
  intro rule
  cases rule with
  | listing other set operating =>
      by_cases same : other = kind
      · simp only [Rule.recast, Rule.map, listing, same, ↓reduceIte, Option.map_some]
      · simp only [Rule.recast, Rule.map, listing, same, ↓reduceIte, Option.map_none]
  | _ => rfl

/-- A change to all lists of values can be made before rules are recast or after. -/
theorem commutes_sets (change : ListedValues → ListedValues) :
    Commutes (Rule.recast f g) (sets change) (sets change) := by
  intro rule
  cases rule with
  | declared declaration =>
      simp only [Rule.recast, Rule.map, sets]
      split
      · simp only [Option.map_map, Function.comp_def, Rule.recast, Rule.map]
      · rfl
  | _ => rfl

/-- A stand-in can be put in place before rules are recast or after. -/
theorem commutes_standIn (value : Value) : Commutes (Rule.recast f g) (standIn value) (standIn value) := by
  intro rule
  cases rule <;> rfl

/-- Alternatives are added after the recasting if they are translated themselves. -/
theorem commutes_alternatives (further : List σ) :
    Commutes (Rule.recast f g) (alternatives further) (alternatives (further.map f)) := by
  intro rule
  cases rule with
  | alternatives schemas => simp only [Rule.recast, Rule.map, alternatives, Option.map_some, List.map_append]
  | _ => rfl

/-- Entries are added to a key map after the recasting if their schemas are translated. -/
theorem commutes_keys (entries : Members σ) (patterns : List Regex) :
    Commutes (Rule.recast f g) (keys entries patterns)
      (keys (entries.map fun (name, entry) => (name, f entry)) patterns) := by
  intro rule
  cases rule with
  | keys rule => simp only [Rule.recast, Rule.map, keys, Option.map_some, Members.putAll_map]
  | _ => rfl

/-- What a key map makes of unknown names can be set before rules are recast or after. -/
theorem commutes_keysUnknown (allow : Bool) :
    Commutes (Rule.recast f g) (keysUnknown allow) (keysUnknown allow) := by
  intro rule
  cases rule <;> rfl

/-- What a pattern makes of unknown names can be set before rules are recast or after. -/
theorem commutes_patternUnknown (allow : Bool) :
    Commutes (Rule.recast f g) (patternUnknown allow) (patternUnknown allow) := by
  intro rule
  cases rule <;> rfl

/-- Holes can be allowed before rules are recast or after. -/
theorem commutes_sparse (allow : Bool) : Commutes (Rule.recast f g) (sparse allow) (sparse allow) := by
  intro rule
  cases rule <;> rfl

/-- A single item can be allowed before rules are recast or after. -/
theorem commutes_single (allow : Bool) : Commutes (Rule.recast f g) (single allow) (single allow) := by
  intro rule
  cases rule <;> rfl

/-- A declared rule can be marked before rules are recast or after. -/
theorem commutes_mark (tag : String) : Commutes (Rule.recast f g) (mark tag) (mark tag) := by
  intro rule
  cases rule <;> rfl

end Amendment

/-- An instance is amended as its rule is. -/
theorem Instance.commutes_amend {f : σ → τ} {g : Predicate → Predicate} {amendment : Amendment σ} {translated : Amendment τ}
    (commutes : Commutes (Rule.recast f g) amendment translated) :
    Commutes (Instance.recast f g) (amend amendment) (amend translated) := by
  intro entry
  simp only [amend, Instance.recast, commutes entry.rule, Option.map_map, Function.comp_def]

namespace Siblings

variable {f : σ → τ} {g : Predicate → Predicate} {amendment : Amendment σ} {translated : Amendment τ}
  (commutes : Commutes (Rule.recast f g) amendment translated) (siblings : Siblings (Instance σ))

include commutes

/-- What is changed about all siblings can be changed after they have been recast. -/
theorem amendAll_recast : (siblings.map (Instance.recast f g)).amendAll translated =
    (siblings.amendAll amendment).map (Instance.recast f g) :=
  (Instance.commutes_amend commutes).all siblings

/-- What is changed about the last earlier sibling can be changed after all have been recast. -/
theorem amendLast_recast : (siblings.map (Instance.recast f g)).amendLast translated =
    (siblings.amendLast amendment).map (Instance.recast f g) := by
  unfold amendLast
  rw [(Instance.commutes_amend commutes).last?]
  cases siblings.last? (Instance.amend amendment) <;> rfl

/-- Recast siblings can be changed exactly if they could be before. -/
theorem applies_recast : (siblings.map (Instance.recast f g)).applies (Instance.amend translated) =
    siblings.applies (Instance.amend amendment) :=
  (Instance.commutes_amend commutes).applies siblings

end Siblings

/-- A declared rule reaches the same siblings after they have been recast. -/
theorem Reach.amend?_recast (f : σ → τ) (g : Predicate → Predicate) (reach : Reach) (tag : String) (siblings : Siblings (Instance σ)) :
    reach.amend? tag (siblings.map (Instance.recast f g)) =
      (reach.amend? tag siblings).map (Siblings.map (Instance.recast f g)) := by
  have mark := Amendment.commutes_mark f g tag
  have sets := Amendment.commutes_sets f g fun set => set.add [.string tag]
  cases reach with
  | last => exact (Instance.commutes_amend mark).last? siblings
  | first => exact (Instance.commutes_amend mark).first? siblings
  | next => exact (Instance.commutes_amend mark).next? siblings
  | all =>
      simp only [amend?, Siblings.applies_recast mark, Siblings.amendAll_recast mark]
      split <;> rfl
  | sets =>
      simp only [amend?, Siblings.applies_recast sets, Siblings.amendAll_recast sets]
      split <;> rfl
  | optional => exact (Instance.commutes_amend (Amendment.commutes_disable f g)).next? siblings
  | alternatives =>
      exact (Instance.commutes_amend (Amendment.commutes_alternatives f g [])).next? siblings
  | nobody => rfl

/-- A declared rule reaches as many siblings, and leaves the same marks, after they have been recast. -/
theorem reachSiblings_recast (f : σ → τ) (g : Predicate → Predicate) (siblings : Siblings (Instance σ)) (reaches : List (Reach × String)) :
    reachSiblings (siblings.map (Instance.recast f g)) reaches =
      ((reachSiblings siblings reaches).1, (reachSiblings siblings reaches).2.map (Instance.recast f g)) := by
  induction reaches generalizing siblings with
  | nil => rfl
  | cons head rest ih =>
      obtain ⟨reach, tag⟩ := head
      have position : (siblings.map (Instance.recast f g)).before.length = siblings.before.length :=
        List.length_map _
      simp only [reachSiblings, position, Reach.amend?_recast, Option.isSome_map]
      cases reach.amend? (tag ++ "@" ++ toString siblings.before.length) siblings with
      | none => simp only [Option.map_none, Option.getD_none, ih]
      | some amended => simp only [Option.map_some, Option.getD_some, ih]

/-! ## Wiring -/

namespace Rule

variable (f : σ → τ) (g : Predicate → Predicate)

/-- A wired rule and its siblings with other predicates in them, and a translation of every schema. -/
def recastWired (outcome : Rule σ × Siblings (Instance σ)) : Rule τ × Siblings (Instance τ) :=
  (outcome.1.recast f g, outcome.2.map (Instance.recast f g))

variable {f g}

/-- What is handed over finds the same sibling after all have been recast. -/
theorem gather_recast {amendment : Amendment σ} {translated : Amendment τ}
    (commutes : Commutes (Rule.recast f g) amendment translated) (siblings : Siblings (Instance σ))
    (own wired : Rule σ) :
    gather (siblings.map (Instance.recast f g)) translated (own.recast f g) (wired.recast f g) =
      recastWired f g (gather siblings amendment own wired) := by
  unfold gather
  rw [(Instance.commutes_amend commutes).first?]
  cases siblings.first? (Instance.amend amendment) <;> rfl

variable (f g)

/-- A list of values is wired alike between recast siblings. -/
theorem wireListing_recast (kind : Listing) (set : ListedValues) (values : List Value)
    (siblings : Siblings (Instance σ)) :
    wireListing kind set values (siblings.map (Instance.recast f g)) =
      recastWired f g (wireListing kind set values siblings) := by
  have gathered := fun others : Siblings (Instance σ) =>
    gather_recast (Amendment.commutes_listing f g kind fun set => set.add values) others
      (listing kind set false) (listing kind (set.add values) true)
  unfold wireListing
  by_cases invalid : kind = .invalid
  · subst invalid
    simp only [↓reduceIte, Siblings.amendAll_recast (Amendment.commutes_listing f g _ _)]
    exact gathered _
  · simp only [invalid, ↓reduceIte]
    exact gathered siblings

/-- A key map with translated entries is wired alike between recast siblings. -/
theorem wireKeys_recast (rule : KeyRule σ) (entries : Members σ) (siblings : Siblings (Instance σ)) :
    wireKeys { rule with keys := rule.keys.map fun (name, entry) => (name, f entry) }
        (entries.map fun (name, entry) => (name, f entry)) (siblings.map (Instance.recast f g)) =
      recastWired f g (wireKeys rule entries siblings) := by
  unfold wireKeys
  rw [← gather_recast (Amendment.commutes_keys f g _ _)]
  simp only [recast, map, Members.putAll_map]

/-- A pattern with a translated schema is wired alike between recast siblings. -/
theorem wirePattern_recast (rule : PatternRule σ) (expression : Regex) (schema : σ)
    (siblings : Siblings (Instance σ)) :
    wirePattern { rule with match? := rule.match?.map fun (names, entry) => (names, f entry) } expression
        (f schema) (siblings.map (Instance.recast f g)) =
      recastWired f g (wirePattern rule expression schema siblings) := by
  have commutes := Amendment.commutes_keys f g ([] : Members σ) [expression]
  rw [List.map_nil] at commutes
  unfold wirePattern
  simp only [Siblings.applies_recast commutes, Siblings.amendAll_recast commutes]
  rfl

/-- Wiring hands schemas on as they are. -/
theorem wire_recast (own : Rule σ) (arguments : Arguments σ) (siblings : Siblings (Instance σ)) :
    (own.recast f g).wire (arguments.map (Argument.recast f g)) (siblings.map (Instance.recast f g)) =
      (own.wire arguments siblings).map (recastWired f g) := by
  cases own with
  | any | optional enabled | array single sparse => rfl
  | insensitive =>
      simp only [recast, map, wire, Siblings.amendAll_recast (Amendment.commutes_sets f g _)]
      rfl
  | check test =>
      by_cases required : test = .required
      · subst required
        simp only [recast, map, wire, Siblings.amendAll_recast (Amendment.commutes_disable f g)]
        rfl
      · simp only [recast, map]
        rw [wire, wire]
        · rfl
        · exact required
        · exact required
  | listing kind set operating =>
      simp only [recast, map, wire, Arguments.values_recast]
      cases arguments.values with
      | error fault => rfl
      | ok values => exact congrArg Except.ok (wireListing_recast f g kind set values siblings)
  | custom _ =>
      simp only [recast, wire, Arguments.predicate_recast]
      cases arguments.predicate <;> rfl
  | standIn old operating =>
      simp only [recast, map, wire, Arguments.value_recast]
      cases arguments.value 0 with
      | error fault => rfl
      | ok value =>
          exact congrArg Except.ok (gather_recast (Amendment.commutes_standIn f g value) siblings
            (standIn old false) (standIn value true))
  | alternatives _ =>
      simp only [recast, map, wire, Arguments.schemas_recast]
      cases arguments.schemas <;> rfl
  | furtherAlternatives =>
      simp only [recast, map, wire, Arguments.schemas_recast]
      cases arguments.schemas with
      | error fault => rfl
      | ok further =>
          refine congrArg (fun others => Except.ok (furtherAlternatives, others)) ?_
          exact siblings.amendLast_recast (Amendment.commutes_alternatives f g further)
  | keys rule =>
      simp only [recast, map, wire, Arguments.keys_recast]
      cases arguments.keys with
      | error fault => rfl
      | ok entries => exact congrArg Except.ok (wireKeys_recast f g rule entries siblings)
  | pattern rule =>
      simp only [recast, map, wire, Arguments.regex_recast, Arguments.schema_recast]
      cases arguments.regex with
      | error fault => rfl
      | ok expression =>
          cases arguments.schema 1 with
          | error fault => rfl
          | ok schema => exact congrArg Except.ok (wirePattern_recast f g rule expression schema siblings)
  | allowUnknown =>
      simp only [recast, map, wire, Arguments.flag_recast]
      cases arguments.flag 0 with
      | error fault => rfl
      | ok allow =>
          refine congrArg (fun others => Except.ok (Rule.allowUnknown, others)) ?_
          rw [Siblings.amendLast_recast (Amendment.commutes_keysUnknown f g allow),
            Siblings.amendLast_recast (Amendment.commutes_patternUnknown f g allow)]
  | allowSparse =>
      simp only [recast, map, wire, Arguments.flag_recast]
      cases arguments.flag 0 with
      | error fault => rfl
      | ok allow =>
          refine congrArg (fun others => Except.ok (Rule.allowSparse, others)) ?_
          exact siblings.amendLast_recast (Amendment.commutes_sparse f g allow)
  | allowSingle =>
      simp only [recast, map, wire, Arguments.flag_recast]
      cases arguments.flag 0 with
      | error fault => rfl
      | ok allow =>
          refine congrArg (fun others => Except.ok (Rule.allowSingle, others)) ?_
          exact siblings.amendLast_recast (Amendment.commutes_single f g allow)
  | items _ =>
      simp only [recast, map, wire, Arguments.schema_recast]
      cases arguments.schema 0 <;> rfl
  | ordered _ =>
      simp only [recast, map, wire, Arguments.schemas_recast]
      cases arguments.schemas <;> rfl
  | unique _ =>
      simp only [recast, map, wire, Arguments.criterion?_recast]
      cases criterion? arguments <;> rfl
  | length _ _ _ | precision _ =>
      simp only [recast, map, wire, Arguments.count_recast]
      cases arguments.count 0 <;> rfl
  | number _ _ =>
      simp only [recast, map, wire, Arguments.number_recast]
      cases arguments.number 0 <;> rfl
  | multiple _ =>
      simp only [recast, map, wire, Arguments.number_recast]
      cases arguments.number 0 with
      | error fault => rfl
      | ok base =>
          by_cases zero : (base == 0) = true
          · simp only [bind, Except.bind, zero, ↓reduceIte]
            rfl
          · simp only [bind, Except.bind, zero]
            rfl
  | regex _ =>
      simp only [recast, map, wire, Arguments.regex_recast]
      cases arguments.regex <;> rfl
  | address _ =>
      simp only [recast, map, wire, Arguments.options?_recast]
      cases options? arguments _ _ <;> rfl
  | reference _ =>
      simp only [recast, map, wire, Arguments.options?_recast]
      cases options? arguments _ _ <;> rfl
  | declared declaration =>
      simp only [recast, map, wire, reachSiblings_recast]
      cases declaration.complaint <;> rfl

end Rule

end Vetting

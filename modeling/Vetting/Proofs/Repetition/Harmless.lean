import Vetting.Proofs.Repetition.Indifference
import Vetting.Proofs.Repetition.Substitution
import Vetting.Proofs.Schema.Standard

/-!
# Repeating a call

A schema that has rules still has them when a call comes again with equal arguments, and lets the same values pass
in the same form, unless a rule in between meddles with the call or has its own say in the order
(`Schema.passes_again`).  First the call comes again with its own arguments, so that one rule is moved and nothing
else changes (`Ruleset.admits_repeated`); equal arguments in their place then make no difference
(`Ruleset.admits_again`).  A stand-in that has been replaced meanwhile, though, comes back with its call
(`Schema.not_harmless`).
-/

namespace Vetting

variable {σ : Type}

/-! ## Rules that have not been wired -/

namespace Instance.IsFresh

variable {entry : Instance σ}

theorem asleep (fresh : entry.IsFresh) : entry.rule.Asleep := by
  intro rule same
  unfold IsFresh at fresh
  rw [same] at fresh
  exact congrArg KeyRule.operating (Rule.keys.inj fresh)

theorem modest (fresh : entry.IsFresh) (standard : entry.IsStandard) (other : entry.rule.unwired ≠ .allowSingle) :
    entry.Modest := by
  refine ⟨standard, other, fun one holes same => ?_⟩
  unfold IsFresh at fresh
  rw [same] at fresh
  exact (Rule.array.inj fresh).1

end Instance.IsFresh

/-- The instance of a call before any wiring. -/
def Blueprint.calledWith (blueprint : Blueprint) (arguments : Arguments σ) : Instance σ :=
  ⟨blueprint.fresh, arguments⟩

/-! ## Repetition -/

namespace Ruleset

/-- The rules of its tier that are called after the one. -/
def followers [Identified σ] (ruleset : Ruleset) (own : Instance σ) (later : List (Call σ)) : List (Instance σ) :=
  Instance.wiring.tier own.rule.priority (ruleset.instances later)

/-- Some call allows a single item in place of an array. -/
def callsSingle (ruleset : Ruleset) (calls : List (Call σ)) : Bool :=
  (ruleset.instances calls).any fun entry => match entry.rule.unwired with
    | .allowSingle => true
    | _ => false

variable {ruleset : Ruleset} {earlier later : List (Call σ)} {call : Call σ}

theorem instances_append (first second : List (Call σ)) :
    ruleset.instances (first ++ second) = ruleset.instances first ++ ruleset.instances second :=
  List.filterMap_append

/-- The rules of a chain stand around that of one of its calls. -/
theorem instances_around (own : Instance σ) (bound : ruleset.instances [call] = [own]) :
    ruleset.instances (earlier ++ call :: later) = ruleset.instances earlier ++ own :: ruleset.instances later := by
  rw [← List.singleton_append, instances_append, instances_append, bound, List.singleton_append]

/-- A single call makes a single rule. -/
theorem instances_singleton {blueprint : Blueprint} (bound : ruleset.blueprint? call.node = some blueprint) :
    ruleset.instances [call] = [blueprint.calledWith call.arguments] := by
  simp only [instances, List.filterMap_cons, bound, Option.map_some, List.filterMap_nil, Blueprint.calledWith]

variable [Identified σ]

/-- The rules of calls that assemble still do if the same call comes again, and let the same values pass where that
makes no difference. -/
theorem admits_repeated (standard : ∀ known ∈ earlier ++ call :: later, ∀ blueprint,
      ruleset.blueprint? known.node = some blueprint → blueprint ∈ standardRules)
    {own : Instance σ} (bound : ruleset.instances [call] = [own]) (self : Instance.wiring.same own own = true)
    (aside : ∀ other ∈ ruleset.followers own later, own.Aside other) {kept : List (Instance σ)}
    (assembled : Instance.assemble (ruleset.instances (earlier ++ call :: later)) = .ok kept) :
    ∃ more, Instance.assemble (ruleset.instances (earlier ++ call :: later) ++ [own]) = .ok more ∧
      ∀ {setting : Setting} {path : Path} {value accepted : Value} {translate : σ → Checked},
        (setting.convert = false → ∀ part, (translate part).Preserves) →
        Rule.Indifferent setting value (ruleset.callsSingle (earlier ++ call :: later)) own.rule.unwired
          ((ruleset.followers own later).map fun entry => entry.rule.unwired) →
        (Admits setting translate path value accepted kept ↔
          Admits setting translate path value accepted more) := by
  have fresh := fresh_of_mem_instances standard
  have around := @instances_around _ ruleset earlier later call own bound
  have ownMember : own ∈ ruleset.instances (earlier ++ call :: later) := by simp [around]
  have laterMember : ∀ other ∈ ruleset.instances later, other ∈ ruleset.instances (earlier ++ call :: later) := by
    intro other member
    simp [around, member]
  have every : ∀ entry ∈ ruleset.instances (earlier ++ call :: later) ++ [own],
      entry ∈ ruleset.instances (earlier ++ call :: later) := by
    intro entry member
    rcases List.mem_append.mp member with inside | last
    · exact inside
    · rw [List.mem_singleton.mp last]
      exact ownMember
  have asleep : ∀ other ∈ own :: ruleset.instances later, other.rule.Asleep := by
    intro other member
    rcases List.mem_cons.mp member with rfl | inside
    · exact (fresh other ownMember).2.asleep
    · exact (fresh other (laterMember other inside)).2.asleep
  have entriesStandard : ∀ other ∈ ruleset.instances earlier ++ own :: ruleset.instances later, other.IsStandard :=
    fun other member => (fresh other (around ▸ member)).1
  obtain ⟨more, assembledAgain, repeats⟩ :=
    Instance.assemble_again entriesStandard asleep self aside (around ▸ assembled)
  rw [← around] at assembledAgain
  refine ⟨more, assembledAgain, fun preserves indifferent => ?_⟩
  refine repeats.admits (Instance.standard_assemble (fun entry member => (fresh entry member).1) assembled)
    (Instance.standard_assemble (fun entry member => (fresh entry (every entry member)).1) assembledAgain)
    (Instance.rising_assemble assembled) (Instance.rising_assemble assembledAgain) ?_ ?_ preserves indifferent
  · intro entry member
    exact of_decide_eq_true (List.mem_filter.mp member).2
  · intro none
    refine Instance.modest_assemble (fun entry member => ?_) assembled
    refine (fresh entry member).2.modest (fresh entry member).1 fun same => ?_
    have calls := List.any_eq_false.mp none entry member
    rw [same] at calls
    exact calls rfl

/-- So they do if a call comes that is alike. -/
theorem admits_again (standard : ∀ known ∈ earlier ++ call :: later, ∀ blueprint,
      ruleset.blueprint? known.node = some blueprint → blueprint ∈ standardRules)
    {own next : Instance σ} (bound : ruleset.instances [call] = [own]) {again : Call σ}
    (repeated : ruleset.instances [again] = [next]) (alike : own.Alike next)
    (self : Instance.wiring.same own own = true)
    (aside : ∀ other ∈ ruleset.followers own later, own.Aside other) {kept : List (Instance σ)}
    (assembled : Instance.assemble (ruleset.instances (earlier ++ call :: later)) = .ok kept) :
    ∃ more, Instance.assemble (ruleset.instances (earlier ++ call :: later ++ [again])) = .ok more ∧
      ∀ {setting : Setting} {path : Path} {value accepted : Value} {translate : σ → Checked},
        (setting.convert = false → ∀ part, (translate part).Preserves) →
        Rule.Indifferent setting value (ruleset.callsSingle (earlier ++ call :: later)) own.rule.unwired
          ((ruleset.followers own later).map fun entry => entry.rule.unwired) →
        (Admits setting translate path value accepted kept ↔
          Admits setting translate path value accepted more) := by
  -- The call itself comes again first, and then the other one in its place.
  obtain ⟨same, assembledSame, admits⟩ := admits_repeated standard bound self aside assembled
  have entries : List.Forall₂ Instance.Alike (ruleset.instances (earlier ++ call :: later))
      (ruleset.instances (earlier ++ call :: later)) := by
    refine List.forall₂_same.mpr fun entry member => ?_
    obtain ⟨known, fresh⟩ := fresh_of_mem_instances standard entry member
    exact .of_fresh fresh known
  obtain ⟨more, assembledAgain, all⟩ :=
    Instance.assemble_of_alike (List.rel_append entries (.cons alike .nil)) assembledSame
  refine ⟨more, ?_, fun preserves indifferent => ?_⟩
  · rw [instances_append, repeated]
    exact assembledAgain
  · exact (admits preserves indifferent).trans (Instance.admits_of_alike all _)

end Ruleset

/-! ## Schemas -/

section Translated

variable {τ : Type} [Identified σ] [Identified τ] {f : σ → τ} {ruleset : Ruleset}

/-- Instances stand aside for each other whatever their schemas are translated to. -/
theorem Instance.aside_map (keeps : KeepsHandles f) {own other : Instance σ} :
    (own.map f).Aside (other.map f) ↔ own.Aside other := by
  have level : ∀ entry : Instance σ, (entry.map f).rule.priority = entry.rule.priority :=
    fun entry => Rule.priority_map f entry.rule
  have apart : (other.map f).rule.meddles (own.map f).rule = other.rule.meddles own.rule := by
    rw [← Rule.meddles_unwired, Instance.map, Instance.map, Rule.unwired_map, Rule.unwired_map, Rule.meddles_unwired]
  have same : ∀ left right : Instance σ, wiring.same (left.map f) (right.map f) = wiring.same left right :=
    Instance.same_map keeps
  constructor
  · rintro ⟨sameLevel, noMeddling, unlike⟩
    rw [level, level] at sameLevel
    rw [apart] at noMeddling
    rw [same, same] at unlike
    exact ⟨sameLevel, noMeddling, unlike⟩
  · rintro ⟨sameLevel, noMeddling, unlike⟩
    refine ⟨by rw [level, level, sameLevel], by rw [apart, noMeddling], ?_⟩
    rw [same, same]
    exact unlike

/-- The followers of a call are followers of it with other schemas inside. -/
theorem Ruleset.followers_map (own : Instance σ) (later : List (Call σ)) :
    ruleset.followers (own.map f) (later.map (Call.map f)) = (ruleset.followers own later).map (Instance.map f) := by
  unfold followers Wiring.tier
  rw [instances_map, List.filter_map]
  refine congrArg (List.map (Instance.map f)) (List.filter_congr fun entry _ => decide_eq_decide.mpr ?_)
  simp only [Instance.wiring, Instance.map, Rule.priority_map]

omit [Identified σ] [Identified τ] in
/-- Whether a single item is allowed does not depend on the schemas in the calls. -/
theorem Ruleset.callsSingle_map (calls : List (Call σ)) :
    ruleset.callsSingle (calls.map (Call.map f)) = ruleset.callsSingle calls := by
  unfold callsSingle
  rw [instances_map, List.any_map]
  simp only [Function.comp_def, Instance.map, Rule.unwired_map]

omit [Identified σ] [Identified τ] in
/-- The instance of a call can be made before schemas are translated or after. -/
theorem Blueprint.calledWith_map (blueprint : Blueprint) (arguments : Arguments σ) :
    blueprint.calledWith (arguments.map (Argument.map f)) = (blueprint.calledWith arguments).map f := by
  simp only [calledWith, Instance.map, Rule.map_fresh]

end Translated

namespace Blueprint

variable {blueprint : Blueprint} {arguments others : Arguments σ}

/-- A standard rule can be told from the instance of a call of it. -/
theorem unwired_calledWith (known : blueprint ∈ Ruleset.standardRules) (arguments : Arguments σ) :
    (blueprint.calledWith arguments).rule.unwired = blueprint := by
  rw [calledWith, fresh, Rule.unwired_map, Rule.unwired_of_standard known]

/-- A call whose arguments equal themselves is the same as itself. -/
theorem same_self_calledWith [Identified σ] (blueprint : Blueprint) (same : arguments.same arguments = true) :
    Instance.wiring.same (blueprint.calledWith arguments) (blueprint.calledWith arguments) = true := by
  simp only [Instance.wiring, Instance.same, calledWith, same, beq_self_eq_true, Bool.and_self]

/-- Calls of a standard rule with arguments that are alike are alike, if those of a stand-in are the very same. -/
theorem alike_calledWith (known : blueprint ∈ Ruleset.standardRules)
    (alike : List.Forall₂ Argument.Alike arguments others)
    (identical : blueprint.standIn?.isSome = true → arguments = others) :
    (blueprint.calledWith arguments).Alike (blueprint.calledWith others) := by
  have unwired := unwired_calledWith known arguments
  have standard : (blueprint.calledWith arguments).IsStandard := by
    rw [Instance.IsStandard, unwired]
    exact known
  have fresh : (blueprint.calledWith arguments).IsFresh := by
    rw [Instance.IsFresh, unwired]
    rfl
  refine ⟨standard, alike, .of_fresh fresh standard.ne_declared, fun stands => identical ?_⟩
  rwa [← unwired, Rule.isSome_standIn?_unwired]

end Blueprint

namespace Schema

/-- A schema in which only standard rules are called, at any depth. -/
abbrev Standard :=
  {part : Schema // part.Everywhere CallsStandard}

/-- What a schema without an error makes of a value is what the rules of its calls do. -/
theorem passes_iff_admits {schema : Schema} (sound : schema.error = none) {narrow : List (Call Standard)}
    (same : schema.calls = narrow.map (Call.map Subtype.val)) {kept : List (Instance Standard)}
    (assembled : Instance.assemble (schema.ruleset.instances narrow) = .ok kept) {setting : Setting} {path : Path}
    {value accepted : Value} :
    (schema.vet setting path value).answer = .ok (.pass accepted) ↔
      Admits setting (fun part : Standard => part.val.checked setting) path value accepted kept := by
  have whole := assemble_over schema.ruleset narrow
  rw [← same, assembled] at whole
  rw [vet_over whole, sound]
  rfl

/-- Over parts that are known to be standard, a chain of calls goes on with one that is like an earlier one. -/
theorem passes_again_over {schema : Schema} (sound : schema.error = none) {first last : List (Call Standard)}
    {own : Call Standard} (chain : schema.calls = (first ++ own :: last).map (Call.map Subtype.val))
    (standard : ∀ known ∈ first ++ own :: last, ∀ blueprint,
      schema.ruleset.blueprint? known.node = some blueprint → blueprint ∈ Ruleset.standardRules)
    {kept : List (Instance Standard)}
    (assembled : Instance.assemble (schema.ruleset.instances (first ++ own :: last)) = .ok kept)
    {blueprint : Blueprint} (bound : schema.ruleset.blueprint? own.node = some blueprint) (again : Call Standard)
    (resolved : schema.ruleset.blueprint? again.node = some blueprint)
    (alike : (blueprint.calledWith own.arguments).Alike (blueprint.calledWith again.arguments))
    (self : Arguments.same own.arguments own.arguments = true)
    (aside : ∀ other ∈ schema.ruleset.followers (blueprint.calledWith own.arguments) last,
      (blueprint.calledWith own.arguments).Aside other) (handle : Handle) :
    (∃ rules, (schema.withCall handle again.node (again.map Subtype.val).arguments).rules = .ok rules) ∧
      ∀ {setting : Setting} {path : Path} {value : Value},
        Rule.Indifferent setting value (schema.ruleset.callsSingle (first ++ own :: last)) blueprint
          ((schema.ruleset.followers (blueprint.calledWith own.arguments) last).map fun entry => entry.rule.unwired) →
        ∀ accepted,
          ((schema.withCall handle again.node (again.map Subtype.val).arguments).vet setting path value).answer =
              .ok (.pass accepted) ↔ (schema.vet setting path value).answer = .ok (.pass accepted) := by
  have known := standard own (List.mem_append_right _ List.mem_cons_self) blueprint bound
  have chainAgain : (schema.withCall handle again.node (again.map Subtype.val).arguments).calls =
      (first ++ own :: last ++ [again]).map (Call.map Subtype.val) := by
    rw [List.map_append, ← chain]
    exact calls_withCall schema handle _ _
  have soundAgain : (schema.withCall handle again.node (again.map Subtype.val).arguments).error = none := sound
  obtain ⟨more, assembledAgain, admits⟩ := Ruleset.admits_again standard (Ruleset.instances_singleton bound)
    (Ruleset.instances_singleton resolved) alike (blueprint.same_self_calledWith self) aside assembled
  refine ⟨⟨more.map (Instance.map Subtype.val), ?_⟩, fun {setting path value} indifferent accepted => ?_⟩
  · rw [rules_over soundAgain chainAgain]
    exact congrArg (Except.map _) assembledAgain
  · rw [passes_iff_admits soundAgain chainAgain assembledAgain, passes_iff_admits sound chain assembled]
    refine (admits (fun off part => preserves_checked off part.property) ?_).symm
    rw [Blueprint.unwired_calledWith known]
    exact indifferent

/-- **Repeating a call.**  A chain of standard calls that compiles still does when a call comes again, with equal
arguments, and lets the same values pass in the same form, if none of the rules of its tier that are called in
between meddles with it or is the same call, and if it makes no difference to the value that the rule is moved
behind them.  A stand-in, whose value comes to light, has to be given the very same one. -/
theorem passes_again {schema : Schema} (standard : schema.Everywhere CallsStandard)
    {rules : List (Instance Schema)} (compiles : schema.rules = .ok rules) {earlier later : List (Call Schema)}
    {call : Call Schema} (chain : schema.calls = earlier ++ call :: later) {blueprint : Blueprint}
    (bound : schema.ruleset.blueprint? call.node = some blueprint) {node : Node}
    (resolved : schema.ruleset.blueprint? node = some blueprint) {arguments : Arguments Schema}
    (equal : List.Forall₂ Argument.Equals call.arguments arguments)
    (identical : blueprint.standIn?.isSome = true → arguments = call.arguments)
    (aside : ∀ other ∈ schema.ruleset.followers (blueprint.calledWith call.arguments) later,
      (blueprint.calledWith call.arguments).Aside other) (handle : Handle) :
    (∃ again, (schema.withCall handle node arguments).rules = .ok again) ∧
      ∀ {setting : Setting} {path : Path} {value : Value},
        Rule.Indifferent setting value (schema.ruleset.callsSingle schema.calls) blueprint
          ((schema.ruleset.followers (blueprint.calledWith call.arguments) later).map fun entry =>
            entry.rule.unwired) →
        ∀ accepted,
          ((schema.withCall handle node arguments).vet setting path value).answer = .ok (.pass accepted) ↔
            (schema.vet setting path value).answer = .ok (.pass accepted) := by
  obtain ⟨here, inside⟩ := standard
  have keeps := keepsHandles_val fun part : Schema => part.Everywhere CallsStandard
  -- The calls are followed over the parts, which are all known to be schemas of standard calls.
  obtain ⟨first, last, narrow, rfl, rfl, rfl⟩ := exists_chain_over inside chain
  obtain ⟨others, rfl, alike, same⟩ := Arguments.exists_map_of_equals equal
  have sound := error_eq_none compiles
  have chainNarrow : schema.calls = (first ++ narrow :: last).map (Call.map Subtype.val) := by
    rw [chain, List.map_append, List.map_cons]
  obtain ⟨kept, assembled, -⟩ := Rule.exists_of_map_eq_ok ((rules_over sound chainNarrow).symm.trans compiles)
  have every : ∀ called ∈ first ++ narrow :: last, ∀ blueprint,
      schema.ruleset.blueprint? called.node = some blueprint → blueprint ∈ Ruleset.standardRules := by
    intro called member
    refine here (called.map Subtype.val) ?_
    rw [chainNarrow]
    exact List.mem_map_of_mem member
  have known := every narrow (List.mem_append_right _ List.mem_cons_self) blueprint bound
  have self := (Arguments.same_map keeps narrow.arguments narrow.arguments).symm.trans
    (Arguments.same_self_of_equals equal)
  have ownMap := blueprint.calledWith_map (f := Subtype.val) narrow.arguments
  rw [show (narrow.map Subtype.val).arguments = narrow.arguments.map (Argument.map Subtype.val) from rfl, ownMap,
    Ruleset.followers_map] at aside ⊢
  obtain ⟨found, admits⟩ := passes_again_over sound chainNarrow every assembled bound ⟨node, others⟩ resolved
    (Blueprint.alike_calledWith known alike fun stands => same (identical stands)) self
    (fun other member => (Instance.aside_map keeps).mp (aside _ (List.mem_map_of_mem member))) handle
  refine ⟨found, fun {setting path value} indifferent => admits ?_⟩
  rw [chainNarrow, Ruleset.callsSingle_map, List.map_map] at indifferent
  refine (congrArg (Rule.Indifferent setting value _ blueprint) (List.map_congr_left fun entry _ => ?_)).mp indifferent
  rw [Function.comp_apply, Instance.map, Rule.unwired_map]

/-- An object with two members. -/
def pair : Value :=
  .object [("a", .null), ("b", .boolean true)]

/-- The same with its members the other way round. -/
def pairSwapped : Value :=
  .object [("b", .boolean true), ("a", .null)]

/-- That object only, and a text that is named too late to be let through. -/
def pairOnly : Schema :=
  .ofCalls 0 [(.listing .valid .empty false, [.value pair]), (.listing .allow .empty false, [.value (.string "x")])]

theorem everywhere_pairOnly : pairOnly.Everywhere CallsStandard := by
  refine everywhere_ofCalls (callsOnly_ofCalls ?_) ?_
  · simp [Ruleset.standardRules, Ruleset.generalRules, Ruleset.freshListing]
  · simp [Argument.parts]

/-- The object may be given again with its members the other way round. -/
theorem passes_again_pairOnly :
    (∃ again, (pairOnly.withCall 1 0 [.value pairSwapped]).rules = .ok again) ∧
      ((pairOnly.withCall 1 0 [.value pairSwapped]).vet ⟨true, false, none, ⟨0, 0⟩⟩ [] pair).answer =
        .ok (.pass pair) := by
  have chain : pairOnly.calls = [] ++ ⟨0, [.value pair]⟩ :: [⟨1, [.value (.string "x")]⟩] := rfl
  have followers : pairOnly.ruleset.followers (Blueprint.calledWith (.listing .valid .empty false)
        ([.value pair] : Arguments Schema)) [⟨1, [.value (.string "x")]⟩] =
      [⟨.listing .allow .empty false, [.value (.string "x")]⟩] := rfl
  have aside : ∀ other ∈ pairOnly.ruleset.followers (Blueprint.calledWith (.listing .valid .empty false)
        ([.value pair] : Arguments Schema)) [⟨1, [.value (.string "x")]⟩],
      (Blueprint.calledWith (.listing .valid .empty false) [.value pair]).Aside other := by
    intro other member
    rw [followers, List.mem_singleton] at member
    rw [member]
    exact ⟨rfl, rfl, rfl, rfl⟩
  have equal : List.Forall₂ Argument.Equals ([.value pair] : Arguments Schema) [.value pairSwapped] :=
    .cons (.value rfl rfl) .nil
  obtain ⟨compiles, again⟩ := @passes_again pairOnly everywhere_pairOnly _ rfl _ _ _ chain _ rfl 0 rfl _ equal
    (fun stands => nomatch stands) aside 1
  exact ⟨compiles, (again (.gone rfl) _).mpr rfl⟩

/-- Values in place of an absent one, the node being that of the rule. -/
def standIns (node : Node) (values : List Value) : Schema :=
  { ofRuleset 0 .standard with newestFirst := (values.map fun value => ⟨node, [.value value]⟩).reverse }

theorem calls_standIns (node : Node) (values : List Value) :
    (standIns node values).calls = values.map fun value => ⟨node, [.value value]⟩ :=
  List.reverse_reverse _

theorem everywhere_standIns (node : Node) (values : List Value) :
    (standIns node values).Everywhere fun part => part.ruleset = .standard := by
  refine .intro rfl fun part member => ?_
  obtain ⟨call, made, given⟩ := List.mem_flatMap.mp member
  rw [calls_standIns] at made
  obtain ⟨value, -, rfl⟩ := List.mem_map.mp made
  cases given

/-- Each stand-in is a rule of its own. -/
theorem instances_standIns {node : Node} (bound : Ruleset.standard.blueprint? node = some (.standIn .undefined false))
    (values : List Value) :
    (standIns node values).ruleset.instances (standIns node values).calls =
      values.map fun value => ⟨.standIn .undefined false, [.value value]⟩ := by
  rw [calls_standIns, Ruleset.instances, List.filterMap_map]
  refine List.filterMap_eq_map_iff_forall_eq_some.mpr fun value _ => ?_
  simp only [standIns, ofRuleset, Function.comp_apply, bound]
  rfl

/-- **Repetition is not always harmless.**  The first of two stand-ins is given again, and stands in once more. -/
theorem not_harmless :
    ¬ ∀ schema : Schema, (schema.Everywhere fun part => part.ruleset = .standard) →
      (∃ rules, schema.rules = .ok rules) →
        ∀ call ∈ schema.calls, ∀ blueprint, schema.ruleset.blueprint? call.node = some blueprint →
          ∀ node, schema.ruleset.blueprint? node = some blueprint →
            ∀ arguments, Arguments.same arguments call.arguments = true →
              ∀ handle setting path value accepted,
                ((schema.withCall handle node arguments).vet setting path value).answer = .ok (.pass accepted) ↔
                  (schema.vet setting path value).answer = .ok (.pass accepted) := by
  intro harmless
  obtain ⟨node, bound⟩ := @Ruleset.exists_blueprint?_of_standard (.standIn .undefined false)
    (by simp [Ruleset.standardRules, Ruleset.generalRules])
  have once := instances_standIns bound [.string "a", .string "b"]
  have again : ((standIns node [.string "a", .string "b"]).withCall 0 node [.value (.string "a")]).ruleset.instances
      ((standIns node [.string "a", .string "b"]).withCall 0 node [.value (.string "a")]).calls = _ :=
    instances_standIns bound [.string "a", .string "b", .string "a"]
  have compiles : ∃ rules, (standIns node [.string "a", .string "b"]).rules = .ok rules := by
    rw [rules, once]
    exact ⟨_, rfl⟩
  have last : ((standIns node [.string "a", .string "b"]).vet ⟨true, false, none, ⟨0, 0⟩⟩ [] .undefined).answer =
      .ok (.pass (.string "b")) := by
    rw [vet_eq, once]
    rfl
  have first : (((standIns node [.string "a", .string "b"]).withCall 0 node [.value (.string "a")]).vet
      ⟨true, false, none, ⟨0, 0⟩⟩ [] .undefined).answer = .ok (.pass (.string "a")) := by
    rw [vet_eq, again]
    rfl
  have passes := (harmless _ (everywhere_standIns node _) compiles ⟨node, [.value (.string "a")]⟩ List.mem_cons_self _
    bound node bound [.value (.string "a")] rfl 0 _ _ _ (.string "b")).mpr last
  have same : Value.string "a" = .string "b" := congrArg Outcome.value (Except.ok.inj (first.symm.trans passes))
  exact absurd (Value.string.inj same) (by decide)

end Schema

end Vetting

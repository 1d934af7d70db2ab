import Vetting.Proofs.Session.Basic

/-!
# How schemas at hand behave

A schema at hand is open, frozen or poisoned.  An open one takes calls; it is frozen once its own rules have been asked
for, and brings the same rules from then on as it would have brought at any time before; a poisoned one has an error,
which is all that it ever answers.  `Session.behaves` says so of all schemas in all sessions.
-/

namespace Vetting

namespace Schema

variable {schema : Schema} {workshop : Workshop}

/-- A schema without an error has the rules of its calls. -/
theorem rules_of_no_error (sound : schema.error = none) :
    schema.rules = Instance.assemble (schema.ruleset.instances schema.calls) := by
  unfold rules check
  rw [sound]
  rfl

/-- The schema has the error to say, and nothing else, wherever a workshop stands like that. -/
structure Poisoned (schema : Schema) (error : SchemaFault) (workshop : Workshop) : Prop where
  tryCall : ∀ method arguments, ((schema.tryCall method arguments).run workshop).1 = .error error
  /-- A further call changes neither the error nor the calls that have landed. -/
  call : ∀ method arguments, ((schema.call method arguments).run workshop).1.error = some error ∧
    ((schema.call method arguments).run workshop).1.size = schema.size ∧
    ((schema.call method arguments).run workshop).1.scopeName = schema.scopeName
  openRules : (schema.openRules.run workshop).1 = .error error
  settledNames : (schema.settledNames.run workshop).1 = .error error
  /-- A validation is over before its first turn has begun. -/
  vet : ∀ setting path value, schema.vet setting path value = .done (.error (.schema error))
  vetAt : ∀ (validator : Validator) options now path value,
    ((validator.vetAt schema options now path value).run workshop).1 = .error (.schema error)
  vetAtOnce : ∀ (validator : Validator) options now value,
    ((validator.vetAtOnce schema options now value).run workshop).1 = .error (.schema error)
  /-- Its rules are never settled. -/
  closed : workshop.isOpened schema = false

/-- Whatever a call makes has a handle of its own. -/
theorem handle_of_call (schema : Schema) (method : String) (arguments : Arguments Schema) (workshop : Workshop) :
    ((schema.call method arguments).run workshop).1.handle = workshop.issued := by
  cases made : (schema.call method arguments).run workshop with
  | mk next later =>
      obtain ⟨-, landed | ⟨error, failed, rfl⟩⟩ := of_call made
      · obtain ⟨-, node, -, rfl, -⟩ := of_tryCall_ok landed
        rfl
      · rfl

/-- What a call makes that fails. -/
theorem error_of_call {method : String} {arguments : Arguments Schema} {error : SchemaFault}
    (failed : ((schema.tryCall method arguments).run workshop).1 = .error error) :
    ((schema.call method arguments).run workshop).1.error = some error ∧
      ((schema.call method arguments).run workshop).1.size = schema.size ∧
      ((schema.call method arguments).run workshop).1.scopeName = schema.scopeName := by
  obtain ⟨later, outcome⟩ : ∃ later, (schema.tryCall method arguments).run workshop = (.error error, later) :=
    ⟨_, Prod.ext failed rfl⟩
  obtain ⟨-, first⟩ := of_tryCall_error outcome
  rw [run_call, outcome]
  exact ⟨congrArg some first, rfl, rfl⟩

/-- A schema with an error that has not been opened is poisoned by it. -/
theorem poisoned_of_error {error : SchemaFault} (poisoned : schema.error = some error)
    (closed : workshop.isOpened schema = false) : schema.Poisoned error workshop := by
  have tryCall : ∀ method arguments, ((schema.tryCall method arguments).run workshop).1 = .error error := by
    intro method arguments
    rw [run_tryCall, poisoned]
  have openRules : (schema.openRules.run workshop).1 = .error error := by rw [run_openRules, poisoned]
  have vet : ∀ setting path value, schema.vet setting path value = .done (.error (.schema error)) := by
    intro setting path value
    rw [vet_eq, poisoned]
  refine ⟨tryCall, fun method arguments => error_of_call (tryCall method arguments), openRules, ?_, vet, ?_, ?_, closed⟩
  · rw [run_settledNames, openRules, Except.map]
  · intro validator options now path value
    rw [Validator.run_vetAt, vet]
    rfl
  · intro validator options now value
    rw [Validator.run_vetAtOnce, vet]
    rfl

end Schema

namespace Workshop.Accounts

variable {schema : Schema} {workshop : Workshop} {schemas : List Schema} {requested : List Handle}

/-- The rules of a schema are its own, whether they have been settled before or not. -/
theorem answer_openRules (accounts : workshop.Accounts schemas requested) (held : schema ∈ schemas)
    (clean : schema.error = none) : (schema.openRules.run workshop).1 = schema.rules := by
  rw [Schema.run_openRules, clean]
  cases found : workshop.settled? schema with
  | none => rfl
  | some rules => exact ((accounts.settled schema held rules).mp found).2.2.symm

/-- A schema at hand is opened exactly if it has no error and has been requested. -/
theorem isOpened_iff (accounts : workshop.Accounts schemas requested) (held : schema ∈ schemas) :
    workshop.isOpened schema = true ↔ schema.error = none ∧ schema.handle ∈ requested := by
  unfold isOpened
  rw [Option.isSome_iff_exists]
  constructor
  · rintro ⟨rules, found⟩
    obtain ⟨clean, asked, -⟩ := (accounts.settled schema held rules).mp found
    exact ⟨clean, asked⟩
  · rintro ⟨clean, asked⟩
    exact ⟨schema.rules, (accounts.settled schema held _).mpr ⟨clean, asked, rfl⟩⟩

/-- A schema without an error is frozen exactly if its rules have been asked for. -/
theorem frozen_iff (accounts : workshop.Accounts schemas requested) (held : schema ∈ schemas)
    (clean : schema.error = none) (method : String) (arguments : Arguments Schema) :
    ((schema.tryCall method arguments).run workshop).1 = .error .frozen ↔ schema.handle ∈ requested := by
  have opened : workshop.isOpened schema = true ↔ schema.handle ∈ requested :=
    (accounts.isOpened_iff held).trans (and_iff_right clean)
  rw [← opened, Schema.run_tryCall, clean]
  by_cases yes : workshop.isOpened schema = true
  · rw [if_pos yes]
    exact iff_of_true rfl yes
  · rw [if_neg yes]
    refine iff_of_false ?_ yes
    cases schema.ruleset.lookUp schema.scope method <;> exact fun answered => by cases answered

end Workshop.Accounts

namespace Session

variable {ruleset : Ruleset} {session : Session}

/-- What is at hand stays at hand. -/
theorem holdings_subset {later : Session} (steps : LeadsTo ruleset session later) :
    session.holdings ⊆ later.holdings := by
  induction steps with
  | refl => exact List.Subset.refl _
  | tail _ step ih =>
      cases step with
      | root _ | clone _ | tryCall _ _ _ | call _ _ _ => exact List.subset_cons_of_subset _ ih
      | tryCallInVain _ _ _ | openRules _ _ | settledNames _ _ | vetAt _ _ | vetAtOnce _ _ | begin _ _ _ _ _ _
      | turn _ _ => exact ih

/-- How a schema at hand answers in a session and in those that follow it. -/
structure Behaves (ruleset : Ruleset) (session : Session) (holding : Holding) : Prop where
  /-- Nothing but the schema itself has its handle, however often it is at hand. -/
  alone : ∀ other ∈ session.holdings, other.schema.handle = holding.schema.handle → other.schema = holding.schema
  /-- What is made of it by a call is new: nothing at hand has its handle, and nobody has asked for its rules. -/
  new : ∀ method arguments, ((holding.schema.call method arguments).run session.workshop).1.handle ∉ session.requested ∧
    ∀ other ∈ session.holdings,
      other.schema.handle ≠ ((holding.schema.call method arguments).run session.workshop).1.handle
  /-- Without an error it is frozen exactly if its own rules have been asked for. -/
  frozen : holding.schema.error = none → ∀ method arguments,
    ((holding.schema.tryCall method arguments).run session.workshop).1 = .error .frozen ↔
      holding.schema.handle ∈ session.requested
  /-- Without an error it brings the rules of its own calls in their order, now and whenever it is asked for them. -/
  rules : holding.schema.error = none → ∃ last calls,
    ruleset.landing Ruleset.root holding.chain = some (last, calls) ∧
      ∀ later, LeadsTo ruleset session later →
        (holding.schema.openRules.run later.workshop).1 = Instance.assemble (ruleset.instances calls) ∧
        (holding.schema.settledNames.run later.workshop).1 =
          (Instance.assemble (ruleset.instances calls)).map (List.map fun entry => entry.rule.name)
  /-- A call that fails makes a schema of the same length and scope that has the error. -/
  failing : ∀ method arguments error,
    ((holding.schema.tryCall method arguments).run session.workshop).1 = .error error →
      ((holding.schema.call method arguments).run session.workshop).1.error = some error ∧
      ((holding.schema.call method arguments).run session.workshop).1.size = holding.schema.size ∧
      ((holding.schema.call method arguments).run session.workshop).1.scopeName = holding.schema.scopeName
  /-- With an error it has nothing else to say any more. -/
  poisoned : ∀ error, holding.schema.error = some error → ∀ later, LeadsTo ruleset session later →
    holding.schema.Poisoned error later.workshop

/-- **One machine.**  Every schema at hand, in every session over one ruleset, is open, frozen or poisoned, and answers
accordingly. -/
theorem behaves (steps : LeadsTo ruleset fresh session) {holding : Holding} (held : holding ∈ session.holdings) :
    session.Behaves ruleset holding := by
  have sound := Sound.nothing.leadsTo steps
  have member : holding.schema ∈ session.schemas := List.mem_map_of_mem held
  have later_sound : ∀ {later}, LeadsTo ruleset session later → later.Sound ruleset ∧ holding.schema ∈ later.schemas :=
    fun further => ⟨sound.leadsTo further, List.mem_map_of_mem (holdings_subset further held)⟩
  refine ⟨fun other alsoHeld => ?_, fun method arguments => ?_, fun clean method arguments => ?_, fun clean => ?_,
    fun method arguments error => ?_, fun error poisoned later further => ?_⟩
  · exact sound.accounts.distinct _ member _ (List.mem_map_of_mem alsoHeld)
  · rw [Schema.handle_of_call]
    exact ⟨fun asked => absurd (sound.accounts.issued_of_requested _ asked) (Nat.lt_irrefl _), fun other alsoHeld =>
      Nat.ne_of_lt (sound.accounts.issued _ (List.mem_map_of_mem alsoHeld))⟩
  · exact sound.accounts.frozen_iff member clean method arguments
  · refine ⟨_, _, sound.landed holding held, fun later further => ?_⟩
    obtain ⟨soundLater, heldLater⟩ := later_sound further
    have answer := soundLater.accounts.answer_openRules heldLater clean
    rw [Schema.rules_of_no_error clean, sound.common holding held] at answer
    exact ⟨answer, by rw [Schema.run_settledNames, answer]⟩
  · exact Schema.error_of_call
  · obtain ⟨soundLater, heldLater⟩ := later_sound further
    refine Schema.poisoned_of_error poisoned (Bool.eq_false_iff.mpr fun opened => ?_)
    have clean := ((soundLater.accounts.isOpened_iff heldLater).mp opened).1
    rw [poisoned] at clean
    cases clean

/-- The rules of a schema are asked for, and then a call on it fails: both schemas behave. -/
theorem behaves_askedAndCalled :
    let open_ := Schema.ofRuleset 0 .empty
    let session : Session :=
      ⟨⟨2, [(0, .ok [])]⟩, [⟨open_.withError 1 .frozen, []⟩, ⟨open_, []⟩], [0], []⟩
    LeadsTo .empty fresh session ∧ session.Behaves .empty ⟨open_, []⟩ ∧
      session.Behaves .empty ⟨open_.withError 1 .frozen, []⟩ := by
  intro open_ session
  let made : Session := ⟨⟨1, []⟩, [⟨open_, []⟩], [], []⟩
  let asked : Session := ⟨⟨1, [(0, .ok [])]⟩, [⟨open_, []⟩], [0], []⟩
  have makes : Step .empty fresh made := @Step.root .empty fresh open_ ⟨1, []⟩ rfl
  have asks : Step .empty made asked :=
    @Step.openRules .empty made ⟨open_, []⟩ (.ok []) ⟨1, [(0, .ok [])]⟩ List.mem_cons_self rfl
  have fails : Step .empty asked session :=
    @Step.call .empty asked ⟨open_, []⟩ "any" [] (open_.withError 1 .frozen) ⟨2, [(0, .ok [])]⟩
      List.mem_cons_self (List.nil_subset _) rfl
  have steps : LeadsTo .empty fresh session := .tail (.tail (.tail .refl makes) asks) fails
  exact ⟨steps, behaves steps (List.mem_cons_of_mem _ List.mem_cons_self), behaves steps List.mem_cons_self⟩

end Session

end Vetting

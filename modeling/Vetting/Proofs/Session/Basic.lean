import Mathlib.Logic.Relation
import Vetting.Proofs.Schema.Workshop

/-!
# Sessions

A session is a row of steps with schemas of one ruleset: new ones are made, rules are called on them, their rules are
asked for, and values are validated.  A validation is waited for, or asked for its answer at once, or it is begun and
given its turns among other steps.

Every step keeps the session sound (`Session.Sound.step`): schemas of one handle are one schema that has come to hand
several times, the calls of a schema are where its chain has landed, and the workshop keeps account of all this.
-/

namespace Vetting

variable {σ : Type}

/-- Where calls land that are made one after the other, each looked up in the node of the one before: the last node,
and the calls. -/
def Ruleset.landing (ruleset : Ruleset) (scope : Node) :
    List (String × Arguments σ) → Option (Node × List (Call σ))
  | [] => some (scope, [])
  | (method, arguments) :: rest =>
    (ruleset.lookUp scope method).bind fun node =>
      (ruleset.landing node rest).map fun (last, calls) => (last, ⟨node, arguments⟩ :: calls)

/-- One more call lands where it is looked up in the last node. -/
theorem Ruleset.landing_append_singleton {ruleset : Ruleset} {scope last node : Node}
    {chain : List (String × Arguments σ)} {calls : List (Call σ)} {method : String} (arguments : Arguments σ)
    (landed : ruleset.landing scope chain = some (last, calls)) (found : ruleset.lookUp last method = some node) :
    ruleset.landing scope (chain ++ [(method, arguments)]) = some (node, calls ++ [⟨node, arguments⟩]) := by
  induction chain generalizing scope calls with
  | nil =>
      obtain ⟨rfl, rfl⟩ := Prod.mk.inj (Option.some.inj landed)
      simp only [List.nil_append, landing, found, Option.bind_some, Option.map_some]
  | cons first rest ih =>
      obtain ⟨other, given⟩ := first
      obtain ⟨next, foundNext, landed⟩ := Option.bind_eq_some_iff.mp landed
      obtain ⟨⟨end_, others⟩, landedRest, same⟩ := Option.map_eq_some_iff.mp landed
      obtain ⟨rfl, rfl⟩ := Prod.mk.inj same
      simp only [List.cons_append, landing, foundNext, ih landedRest, Option.bind_some, Option.map_some]

/-- A schema at hand. -/
structure Holding where
  schema : Schema
  /-- The calls by which it came about, as far as they have landed. -/
  chain : List (String × Arguments Schema)

/-- What comes to hand by a call. -/
def Holding.called (holding : Holding) (method : String) (arguments : Arguments Schema) (next : Schema) : Holding :=
  ⟨next, if next.error.isNone then holding.chain ++ [(method, arguments)] else holding.chain⟩

/-- A validation that has begun. -/
structure Validation where
  schema : Schema
  rest : Run (Except Misuse Outcome)

/-- What is left of a validation after a turn. -/
def Validation.turned (validation : Validation) : List Validation :=
  match validation.rest.poll.2 with
  | .finished _ => []
  | .pending rest => [⟨validation.schema, rest⟩]

/-- The validation is by a schema at hand and opens nothing but what that schema reaches. -/
structure Validation.Lawful (schemas : List Schema) (validation : Validation) : Prop where
  held : validation.schema ∈ schemas
  obeys : validation.rest.Obeys validation.schema.freely fun _ => True

/-- A lawful validation stays so when more schemas are at hand. -/
theorem Validation.Lawful.mono {schemas more : List Schema} (subset : schemas ⊆ more) {validation : Validation}
    (lawful : validation.Lawful schemas) : validation.Lawful more :=
  ⟨subset lawful.held, lawful.obeys⟩

/-- A turn of a lawful validation leaves a lawful one, or nothing. -/
theorem Validation.Lawful.turned {schemas : List Schema} {validation : Validation}
    (lawful : validation.Lawful schemas) : ∀ later ∈ validation.turned, later.Lawful schemas := by
  have stands := lawful.obeys.poll.2
  unfold Validation.turned
  split
  · exact List.forall_mem_nil _
  next rest waits =>
    rw [waits] at stands
    exact List.forall_mem_singleton.mpr ⟨lawful.held, stands.2⟩

/-- How far somebody has got with schemas of one ruleset. -/
structure Session where
  workshop : Workshop
  holdings : List Holding
  /-- The handles of the schemas whose rules somebody or some validation has asked for. -/
  requested : List Handle
  underway : List Validation

namespace Session

/-- Nothing has been done yet. -/
def fresh : Session :=
  ⟨.fresh, [], [], []⟩

/-- The schemas at hand. -/
def schemas (session : Session) : List Schema :=
  session.holdings.map Holding.schema

/-- All schemas in the arguments are at hand. -/
def Supplies (session : Session) (arguments : Arguments Schema) : Prop :=
  arguments.flatMap Argument.parts ⊆ session.schemas

/-- A step of a session. -/
inductive Step (ruleset : Ruleset) : Session → Session → Prop
  /-- A new schema without calls. -/
  | root {session : Session} {schema : Schema} {workshop : Workshop}
      (made : (Schema.root ruleset).run session.workshop = (schema, workshop)) :
      Step ruleset session { session with workshop, holdings := ⟨schema, []⟩ :: session.holdings }
  /-- A schema once more. -/
  | clone {session : Session} {holding : Holding} (held : holding ∈ session.holdings) :
      Step ruleset session { session with holdings := holding :: session.holdings }
  /-- A call that lands. -/
  | tryCall {session : Session} {holding : Holding} {method : String} {arguments : Arguments Schema} {next : Schema}
      {workshop : Workshop} (held : holding ∈ session.holdings) (supplied : session.Supplies arguments)
      (landed : (holding.schema.tryCall method arguments).run session.workshop = (.ok next, workshop)) :
      Step ruleset session
        { session with workshop, holdings := holding.called method arguments next :: session.holdings }
  /-- A call that does not land. -/
  | tryCallInVain {session : Session} {holding : Holding} {method : String} {arguments : Arguments Schema}
      {error : SchemaFault} {workshop : Workshop} (held : holding ∈ session.holdings)
      (supplied : session.Supplies arguments)
      (failed : (holding.schema.tryCall method arguments).run session.workshop = (.error error, workshop)) :
      Step ruleset session { session with workshop }
  /-- A call that makes a schema in either case. -/
  | call {session : Session} {holding : Holding} {method : String} {arguments : Arguments Schema} {next : Schema}
      {workshop : Workshop} (held : holding ∈ session.holdings) (supplied : session.Supplies arguments)
      (made : (holding.schema.call method arguments).run session.workshop = (next, workshop)) :
      Step ruleset session
        { session with workshop, holdings := holding.called method arguments next :: session.holdings }
  | openRules {session : Session} {holding : Holding} {rules : Settled} {workshop : Workshop}
      (held : holding ∈ session.holdings) (asked : holding.schema.openRules.run session.workshop = (rules, workshop)) :
      Step ruleset session { session with workshop, requested := holding.schema.handle :: session.requested }
  | settledNames {session : Session} {holding : Holding} {names : Except SchemaFault (List String)}
      {workshop : Workshop} (held : holding ∈ session.holdings)
      (asked : holding.schema.settledNames.run session.workshop = (names, workshop)) :
      Step ruleset session { session with workshop, requested := holding.schema.handle :: session.requested }
  /-- A validation that is waited for. -/
  | vetAt {session : Session} {holding : Holding} {validator : Validator} {options : Options} {now : Instant}
      {path : Path} {value : Value} {answer : Except Misuse Outcome} {workshop : Workshop}
      (held : holding ∈ session.holdings)
      (vetted : (validator.vetAt holding.schema options now path value).run session.workshop = (answer, workshop)) :
      Step ruleset session
        { session with
          workshop
          requested := (holding.schema.vet (validator.setting options now) path value).opened ++ session.requested }
  /-- A validation that is given up after one turn. -/
  | vetAtOnce {session : Session} {holding : Holding} {validator : Validator} {options : Options} {now : Instant}
      {value : Value} {answer : Except Misuse Outcome} {workshop : Workshop} (held : holding ∈ session.holdings)
      (vetted : (validator.vetAtOnce holding.schema options now value).run session.workshop = (answer, workshop)) :
      Step ruleset session
        { session with
          workshop
          requested :=
            (holding.schema.vet (validator.setting options now) options.path value).poll.1 ++ session.requested }
  /-- A validation that begins; it does nothing before its first turn. -/
  | begin {session : Session} {holding : Holding} (validator : Validator) (options : Options) (now : Instant)
      (path : Path) (value : Value) (held : holding ∈ session.holdings) :
      Step ruleset session
        { session with
          underway := ⟨holding.schema, holding.schema.vet (validator.setting options now) path value⟩ ::
            session.underway }
  /-- A turn of a validation that has begun. -/
  | turn {session : Session} {front back : List Validation} {validation : Validation} {workshop : Workshop}
      (waiting : session.underway = front ++ validation :: back)
      (opened : (validation.schema.openWithin validation.rest.poll.1).run session.workshop = ((), workshop)) :
      Step ruleset session
        { session with
          workshop
          requested := validation.rest.poll.1 ++ session.requested
          underway := front ++ validation.turned ++ back }

/-- A row of steps leads from one session to the other. -/
def LeadsTo (ruleset : Ruleset) : Session → Session → Prop :=
  Relation.ReflTransGen (Step ruleset)

/-- What holds of a session that began with nothing. -/
structure Sound (ruleset : Ruleset) (session : Session) : Prop where
  accounts : session.workshop.Accounts session.schemas session.requested
  /-- The parts of schemas at hand are at hand. -/
  complete : ∀ schema ∈ session.schemas, schema.parts ⊆ session.schemas
  common : ∀ holding ∈ session.holdings, holding.schema.ruleset = ruleset
  landed : ∀ holding ∈ session.holdings,
    ruleset.landing Ruleset.root holding.chain = some (holding.schema.scope, holding.schema.calls)
  lawful : ∀ validation ∈ session.underway, validation.Lawful session.schemas

namespace Sound

variable {ruleset : Ruleset} {session : Session}

/-- A fresh session is sound. -/
theorem nothing : Sound ruleset fresh :=
  ⟨.nothing, List.forall_mem_nil _, List.forall_mem_nil _, List.forall_mem_nil _, List.forall_mem_nil _⟩

/-- The schemas inside those at hand are at hand as well. -/
theorem family_subset (sound : session.Sound ruleset) {schema : Schema} (held : schema ∈ session.schemas) :
    schema.family ⊆ session.schemas :=
  Schema.family_subset sound.complete held

/-- The workshop may keep another account of the same schemas. -/
theorem with_accounts {workshop : Workshop} {requested : List Handle} (sound : session.Sound ruleset)
    (accounts : workshop.Accounts session.schemas requested) :
    { session with workshop, requested }.Sound ruleset :=
  { sound with accounts }

/-- Other validations may be under way that open nothing but what their schemas reach. -/
theorem with_underway {underway : List Validation} (sound : session.Sound ruleset)
    (lawful : ∀ validation ∈ underway, validation.Lawful session.schemas) :
    { session with underway }.Sound ruleset :=
  { sound with lawful }

/-- A schema comes to hand once more. -/
theorem again {holding : Holding} (sound : session.Sound ruleset) (held : holding ∈ session.holdings) :
    { session with holdings := holding :: session.holdings }.Sound ruleset where
  accounts := sound.accounts.again (List.mem_map_of_mem held)
  complete := by
    have complete := sound.complete
    exact List.forall_mem_cons.mpr ⟨List.subset_cons_of_subset _ (complete _ (List.mem_map_of_mem held)),
      fun schema member => List.subset_cons_of_subset _ (complete schema member)⟩
  common := List.forall_mem_cons.mpr ⟨sound.common holding held, sound.common⟩
  landed := List.forall_mem_cons.mpr ⟨sound.landed holding held, sound.landed⟩
  lawful validation begun := (sound.lawful validation begun).mono (List.subset_cons_self _ _)

/-- A new schema comes to hand. -/
theorem add {holding : Holding} (sound : session.Sound ruleset)
    (new : holding.schema.handle = session.workshop.issued) (parts : holding.schema.parts ⊆ session.schemas)
    (own : holding.schema.ruleset = ruleset)
    (landed : ruleset.landing Ruleset.root holding.chain = some (holding.schema.scope, holding.schema.calls)) :
    { session with
      workshop := { session.workshop with issued := session.workshop.issued + 1 }
      holdings := holding :: session.holdings }.Sound ruleset where
  accounts := sound.accounts.add new
  complete := List.forall_mem_cons.mpr ⟨List.subset_cons_of_subset _ parts, fun schema held =>
    List.subset_cons_of_subset _ (sound.complete schema held)⟩
  common := List.forall_mem_cons.mpr ⟨own, sound.common⟩
  landed := List.forall_mem_cons.mpr ⟨landed, sound.landed⟩
  lawful validation begun := (sound.lawful validation begun).mono (List.subset_cons_self _ _)

/-- Whatever a call makes comes to hand: the schema with the call in it, or with the error that it has led to. -/
theorem called {holding : Holding} {method : String} {arguments : Arguments Schema} {next : Schema}
    {workshop : Workshop} (sound : session.Sound ruleset) (held : holding ∈ session.holdings)
    (supplied : session.Supplies arguments)
    (made : (holding.schema.call method arguments).run session.workshop = (next, workshop)) :
    { session with workshop, holdings := holding.called method arguments next :: session.holdings }.Sound ruleset := by
  have inside := sound.complete holding.schema (List.mem_map_of_mem held)
  have own := sound.common holding held
  have landed := sound.landed holding held
  obtain ⟨rfl, landsOn | ⟨error, failed, rfl⟩⟩ := Schema.of_call made
  · obtain ⟨clean, node, found, rfl, -⟩ := Schema.of_tryCall_ok landsOn
    refine sound.add rfl ?_ own ?_
    · rw [Holding.called, Schema.parts_withCall]
      exact List.append_subset.mpr ⟨inside, supplied⟩
    · rw [own] at found
      have none_left : (holding.schema.withCall session.workshop.issued node arguments).error.isNone = true :=
        Option.isNone_iff_eq_none.mpr clean
      have further := Ruleset.landing_append_singleton arguments landed found
      rw [← Schema.calls_withCall _ session.workshop.issued] at further
      rw [Holding.called, if_pos none_left]
      exact further
  · exact sound.add rfl inside own landed

/-- Every step keeps a session sound. -/
theorem step {next : Session} (sound : session.Sound ruleset) (step : Step ruleset session next) :
    next.Sound ruleset := by
  cases step with
  | root made =>
      cases made
      exact sound.add rfl (List.nil_subset _) rfl rfl
  | clone held => exact sound.again held
  | tryCall held supplied landed => exact sound.called held supplied (by rw [Schema.run_call, landed])
  | tryCallInVain held supplied failed =>
      obtain ⟨rfl, -⟩ := Schema.of_tryCall_error failed
      exact sound
  | call held supplied made => exact sound.called held supplied made
  | openRules held asked =>
      have accounts := sound.accounts.openRules (List.mem_map_of_mem held)
      rw [asked] at accounts
      exact sound.with_accounts accounts
  | settledNames held asked =>
      have accounts := sound.accounts.openRules (List.mem_map_of_mem held)
      rw [Schema.run_settledNames] at asked
      obtain ⟨-, rfl⟩ := Prod.mk.inj asked
      exact sound.with_accounts accounts
  | @vetAt holding validator options now path value answer workshop held vetted =>
      obtain ⟨-, rfl⟩ := Prod.mk.inj vetted
      have obeys := holding.schema.obeys_freely (validator.setting options now) path value
      exact sound.with_accounts
        (sound.accounts.openWithin (sound.family_subset (List.mem_map_of_mem held)) obeys.opened)
  | @vetAtOnce holding validator options now value answer workshop held vetted =>
      obtain ⟨-, rfl⟩ := Prod.mk.inj vetted
      have obeys := holding.schema.obeys_freely (validator.setting options now) options.path value
      exact sound.with_accounts
        (sound.accounts.openWithin (sound.family_subset (List.mem_map_of_mem held)) obeys.poll.1)
  | @begin holding validator options now path value held =>
      have obeys := holding.schema.obeys_freely (validator.setting options now) path value
      exact sound.with_underway (List.forall_mem_cons.mpr
        ⟨⟨List.mem_map_of_mem held, obeys.mono (fun _ => id) id fun _ _ => trivial⟩, sound.lawful⟩)
  | @turn front back validation workshop waiting opened =>
      have lawful := sound.lawful
      rw [waiting] at lawful
      obtain ⟨others, remaining⟩ := List.forall_mem_append.mp lawful
      obtain ⟨own, further⟩ := List.forall_mem_cons.mp remaining
      obtain ⟨-, rfl⟩ := Prod.mk.inj opened
      have accounts := sound.accounts.openWithin (sound.family_subset own.held) own.obeys.poll.1
      refine (sound.with_accounts accounts).with_underway ?_
      exact List.forall_mem_append.mpr ⟨List.forall_mem_append.mpr ⟨others, own.turned⟩, further⟩

/-- **Soundness.**  What holds of a session that began with nothing holds after any row of steps. -/
theorem leadsTo {next : Session} (sound : session.Sound ruleset) (steps : LeadsTo ruleset session next) :
    next.Sound ruleset := by
  induction steps with
  | refl => exact sound
  | tail _ step ih => exact ih.step step

end Sound

end Session

end Vetting

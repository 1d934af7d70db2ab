import Vetting.Proofs.Schema.Family
import Vetting.Validation.Validator

/-!
# Work in a workshop

A workshop keeps account of the schemas at hand (`Workshop.Accounts`): each of them has a handle of its own, and the
rules of exactly those are settled that have no error and have been asked for, each as its own calls have it.  New
schemas and further requests keep the account.
-/

namespace Vetting

variable {schema : Schema} {workshop : Workshop}

/-! ## Single pieces of work -/

namespace Schema

/-- A call that is tried fails if the schema has failed already; else it is looked up, and the schema must be fresh.
-/
theorem run_tryCall (schema : Schema) (method : String) (arguments : Arguments Schema) (workshop : Workshop) :
    (schema.tryCall method arguments).run workshop =
      match schema.error with
      | some error => (.error error, workshop)
      | none =>
        if workshop.isOpened schema then (.error .frozen, workshop)
        else match schema.ruleset.lookUp schema.scope method with
          | none => (.error (.unknownRule method schema.scopeName), workshop)
          | some node =>
            (.ok (schema.withCall workshop.issued node arguments), { workshop with issued := workshop.issued + 1 }) := by
  unfold tryCall
  cases schema.error with
  | some error => rfl
  | none =>
      simp only [StateT.run_bind, StateT.run_get, pure_bind]
      by_cases opened : workshop.isOpened schema = true
      · rw [if_pos opened, if_pos opened]
        rfl
      · rw [if_neg opened, if_neg opened]
        cases schema.ruleset.lookUp schema.scope method <;> rfl

/-- A call gives the schema that trying it gives, or one that keeps the error. -/
theorem run_call (schema : Schema) (method : String) (arguments : Arguments Schema) (workshop : Workshop) :
    (schema.call method arguments).run workshop =
      match (schema.tryCall method arguments).run workshop with
      | (.ok next, later) => (next, later)
      | (.error error, later) => (schema.withError later.issued error, { later with issued := later.issued + 1 }) := by
  unfold call
  rw [StateT.run_bind]
  rcases (schema.tryCall method arguments).run workshop with ⟨error | next, later⟩ <;> rfl

/-- Opening the rules of a schema compiles them once, unless it has failed. -/
theorem run_openRules (schema : Schema) (workshop : Workshop) :
    schema.openRules.run workshop =
      match schema.error with
      | some error => (.error error, workshop)
      | none =>
        match workshop.settled? schema with
        | some rules => (rules, workshop)
        | none => (schema.rules, workshop.keep schema schema.rules) := by
  unfold openRules
  cases schema.error with
  | some error => rfl
  | none =>
      simp only [settle, StateT.run_bind, StateT.run_get, pure_bind]
      cases workshop.settled? schema <;> rfl

/-- The settled names are those of the opened rules. -/
theorem run_settledNames (schema : Schema) (workshop : Workshop) :
    schema.settledNames.run workshop =
      ((schema.openRules.run workshop).1.map (List.map fun entry => entry.rule.name),
        (schema.openRules.run workshop).2) :=
  rfl

/-- Schemas are opened one after the other. -/
theorem run_openAll_cons (schema : Schema) (rest : List Schema) (workshop : Workshop) :
    (openAll (schema :: rest)).run workshop = (openAll rest).run (schema.openRules.run workshop).2 :=
  rfl

variable {method : String} {arguments : Arguments Schema}

/-- A call that lands makes a new schema of the schema, which has no error, and the call. -/
theorem of_tryCall_ok {next : Schema} {later : Workshop}
    (landed : (schema.tryCall method arguments).run workshop = (.ok next, later)) :
    schema.error = none ∧ ∃ node, schema.ruleset.lookUp schema.scope method = some node ∧
      next = schema.withCall workshop.issued node arguments ∧
      later = { workshop with issued := workshop.issued + 1 } := by
  rw [run_tryCall] at landed
  split at landed
  · cases landed
  next sound =>
    split at landed
    · cases landed
    · split at landed
      · cases landed
      next node found =>
        cases landed
        exact ⟨sound, node, found, rfl, rfl⟩

/-- A call that fails leaves the workshop alone, and the error that a schema has already comes before all others. -/
theorem of_tryCall_error {error : SchemaFault} {later : Workshop}
    (failed : (schema.tryCall method arguments).run workshop = (.error error, later)) :
    later = workshop ∧ schema.error.getD error = error := by
  rw [run_tryCall] at failed
  split at failed
  next first poisoned =>
    cases failed
    exact ⟨rfl, by rw [poisoned, Option.getD_some]⟩
  next sound =>
    have kept : schema.error.getD error = error := by rw [sound, Option.getD_none]
    split at failed
    · exact ⟨(Prod.mk.inj failed).2.symm, kept⟩
    · split at failed
      · exact ⟨(Prod.mk.inj failed).2.symm, kept⟩
      · cases failed

/-- A call in either case makes a new schema: of the schema and the call, or of the schema and the error. -/
theorem of_call {next : Schema} {later : Workshop}
    (made : (schema.call method arguments).run workshop = (next, later)) :
    later = { workshop with issued := workshop.issued + 1 } ∧
      ((schema.tryCall method arguments).run workshop = (.ok next, later) ∨
        ∃ error, (schema.tryCall method arguments).run workshop = (.error error, workshop) ∧
          next = schema.withError workshop.issued error) := by
  rw [run_call] at made
  split at made
  next next reached landed =>
    cases made
    obtain ⟨-, node, -, -, rfl⟩ := of_tryCall_ok landed
    exact ⟨rfl, .inl landed⟩
  next error reached failed =>
    obtain ⟨rfl, -⟩ := of_tryCall_error failed
    cases made
    exact ⟨rfl, .inr ⟨error, failed, rfl⟩⟩

end Schema

namespace Validator

/-- A validation answers as the schema does, and opens what the schema opens on its way. -/
theorem run_vetAt (validator : Validator) (schema : Schema) (options : Options) (now : Instant) (path : Path)
    (value : Value) (workshop : Workshop) :
    (validator.vetAt schema options now path value).run workshop =
      ((schema.vet (validator.setting options now) path value).answer,
        ((schema.openWithin (schema.vet (validator.setting options now) path value).opened).run workshop).2) :=
  rfl

/-- A validation at once answers if the schema does so at its first turn, and opens what it opens until then. -/
theorem run_vetAtOnce (validator : Validator) (schema : Schema) (options : Options) (now : Instant) (value : Value)
    (workshop : Workshop) :
    (validator.vetAtOnce schema options now value).run workshop =
      ((schema.vet (validator.setting options now) options.path value).answerAtOnce?.getD (.error .suspended),
        ((schema.openWithin (schema.vet (validator.setting options now) options.path value).poll.1).run workshop).2) :=
  rfl

end Validator

/-! ## Accounts -/

namespace Workshop

/-- After rules have been kept, they are settled for their schema, and others are as before. -/
theorem settled?_keep (workshop : Workshop) (schema other : Schema) (rules : Settled) :
    (workshop.keep schema rules).settled? other =
      if other.handle = schema.handle then some rules else workshop.settled? other := by
  unfold settled? keep
  rw [List.lookup_cons]
  by_cases same : other.handle = schema.handle
  · rw [if_pos same, beq_iff_eq.mpr same]
  · rw [if_neg same, beq_eq_false_iff_ne.mpr same]

/-- What a workshop has to do with the schemas at hand and with the handles whose rules have been asked for. -/
structure Accounts (workshop : Workshop) (schemas : List Schema) (requested : List Handle) : Prop where
  issued : ∀ schema ∈ schemas, schema.handle < workshop.issued
  /-- Schemas of one handle are one schema. -/
  distinct : ∀ schema ∈ schemas, ∀ other ∈ schemas, other.handle = schema.handle → other = schema
  issued_of_requested : ∀ handle ∈ requested, handle < workshop.issued
  issued_of_settled : ∀ entry ∈ workshop.settled, entry.1 < workshop.issued
  /-- Settled are the schemas without an error that have been asked for. -/
  settled : ∀ schema ∈ schemas, ∀ rules, workshop.settled? schema = some rules ↔
    schema.error = none ∧ schema.handle ∈ requested ∧ schema.rules = rules

namespace Accounts

variable {schemas : List Schema} {requested : List Handle}

/-- Nothing has been opened in a fresh workshop. -/
theorem nothing : Accounts fresh [] [] :=
  ⟨List.forall_mem_nil _, List.forall_mem_nil _, List.forall_mem_nil _, List.forall_mem_nil _, List.forall_mem_nil _⟩

/-- Requests count however often and in whatever order they were made. -/
theorem congr {others : List Handle} (same : ∀ handle, handle ∈ others ↔ handle ∈ requested)
    (accounts : workshop.Accounts schemas requested) : workshop.Accounts schemas others where
  issued := accounts.issued
  distinct := accounts.distinct
  issued_of_requested handle member := accounts.issued_of_requested handle ((same handle).mp member)
  issued_of_settled := accounts.issued_of_settled
  settled schema held rules := by rw [same, accounts.settled schema held rules]

/-- A schema that is at hand already may come to hand once more. -/
theorem again (accounts : workshop.Accounts schemas requested) (held : schema ∈ schemas) :
    workshop.Accounts (schema :: schemas) requested where
  issued := List.forall_mem_cons.mpr ⟨accounts.issued schema held, accounts.issued⟩
  distinct one first other second :=
    accounts.distinct one ((List.mem_cons.mp first).elim (· ▸ held) id) other
      ((List.mem_cons.mp second).elim (· ▸ held) id)
  issued_of_requested := accounts.issued_of_requested
  issued_of_settled := accounts.issued_of_settled
  settled := List.forall_mem_cons.mpr ⟨accounts.settled schema held, accounts.settled⟩

/-- Nobody has asked for the rules of a new schema. -/
theorem add (accounts : workshop.Accounts schemas requested) (new : schema.handle = workshop.issued) :
    { workshop with issued := workshop.issued + 1 }.Accounts (schema :: schemas) requested where
  issued := List.forall_mem_cons.mpr
    ⟨new ▸ Nat.lt_succ_self _, fun other held => Nat.lt_succ_of_lt (accounts.issued other held)⟩
  distinct one first other second same := by
    have apart : ∀ older ∈ schemas, older.handle ≠ schema.handle := fun older held =>
      new ▸ Nat.ne_of_lt (accounts.issued older held)
    rcases List.mem_cons.mp first with rfl | older <;> rcases List.mem_cons.mp second with rfl | alsoOlder
    · rfl
    · exact absurd same (apart other alsoOlder)
    · exact absurd same.symm (apart one older)
    · exact accounts.distinct one older other alsoOlder same
  issued_of_requested handle member := Nat.lt_succ_of_lt (accounts.issued_of_requested handle member)
  issued_of_settled entry member := Nat.lt_succ_of_lt (accounts.issued_of_settled entry member)
  settled := by
    refine List.forall_mem_cons.mpr ⟨fun rules => ⟨fun found => ?_, fun ⟨_, asked, _⟩ => ?_⟩, accounts.settled⟩
    · obtain ⟨front, back, same, -⟩ := List.lookup_eq_some_iff.mp found
      have member : (schema.handle, rules) ∈ workshop.settled := same ▸ List.mem_append_right _ List.mem_cons_self
      exact absurd (accounts.issued_of_settled _ member) (new ▸ Nat.lt_irrefl _)
    · exact absurd (accounts.issued_of_requested _ asked) (new ▸ Nat.lt_irrefl _)

/-- Whoever asks for the rules of a schema has them settled, unless it has an error. -/
theorem openRules (accounts : workshop.Accounts schemas requested) (held : schema ∈ schemas) :
    (schema.openRules.run workshop).2.Accounts schemas (schema.handle :: requested) := by
  have issued_of_requested : ∀ handle ∈ schema.handle :: requested, handle < workshop.issued :=
    List.forall_mem_cons.mpr ⟨accounts.issued schema held, accounts.issued_of_requested⟩
  rw [Schema.run_openRules]
  split
  next error poisoned =>
    refine ⟨accounts.issued, accounts.distinct, issued_of_requested, accounts.issued_of_settled, ?_⟩
    intro other alsoHeld rules
    rw [accounts.settled other alsoHeld rules]
    refine and_congr_right fun sound => and_congr_left fun _ => (List.mem_cons.trans (or_iff_right ?_)).symm
    intro same
    rw [accounts.distinct schema held other alsoHeld same, poisoned] at sound
    cases sound
  next sound =>
    split
    next rules found =>
      have asked := ((accounts.settled schema held rules).mp found).2.1
      exact accounts.congr fun handle => List.mem_cons.trans (or_iff_right_of_imp (· ▸ asked))
    next missing =>
      refine ⟨accounts.issued, accounts.distinct, issued_of_requested, ?_, ?_⟩
      · exact List.forall_mem_cons.mpr ⟨accounts.issued schema held, accounts.issued_of_settled⟩
      · intro other alsoHeld rules
        rw [settled?_keep]
        split
        next same =>
          obtain rfl := accounts.distinct schema held other alsoHeld same
          simp only [sound, Option.some.injEq, List.mem_cons_self, true_and]
        next other_handle =>
          rw [accounts.settled other alsoHeld rules, List.mem_cons, or_iff_right other_handle]

/-- Opening schemas at hand is accounted for. -/
theorem openAll {opened : List Schema} (accounts : workshop.Accounts schemas requested) (held : opened ⊆ schemas) :
    ((Schema.openAll opened).run workshop).2.Accounts schemas (opened.map Schema.handle ++ requested) := by
  induction opened generalizing workshop requested with
  | nil => exact accounts
  | cons schema rest ih =>
      obtain ⟨first, others⟩ := List.cons_subset.mp held
      rw [Schema.run_openAll_cons]
      refine (ih (accounts.openRules first) others).congr fun handle => ?_
      simp only [List.map_cons, List.cons_append, List.mem_cons, List.mem_append]
      exact or_left_comm

/-- What a validation opens has been asked for. -/
theorem openWithin {handles : List Handle} (accounts : workshop.Accounts schemas requested)
    (held : schema.family ⊆ schemas) (reached : ∀ handle ∈ handles, schema.Reaches handle) :
    ((schema.openWithin handles).run workshop).2.Accounts schemas (handles ++ requested) := by
  refine (accounts.openAll fun part inside => held (List.mem_filter.mp inside).1).congr fun handle => ?_
  simp only [List.mem_append, List.mem_map, List.mem_filter, List.contains_iff_mem]
  refine or_congr_left ⟨fun member => ?_, ?_⟩
  · obtain ⟨part, inside, rfl, -⟩ := reached handle member
    exact ⟨part, ⟨inside, member⟩, rfl⟩
  · rintro ⟨part, ⟨-, member⟩, rfl⟩
    exact member

end Accounts

end Workshop

end Vetting

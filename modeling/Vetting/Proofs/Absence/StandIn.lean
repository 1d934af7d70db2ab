import Vetting.Proofs.Absence.Optional

/-!
# Values in place of absent ones

The calls that bring a value in place of an absent one are wired before all others.  The first of them acts for
all, and takes the value of the last one (`Instance.rounds_standIns`).  No other call touches it, and it touches no
other rule, so the rounds that follow are those of an assembly without such calls (`Instance.assemble_of_standIns`).
An absent value is then settled at once, and any other is judged as if none of these calls were there
(`Schema.vet_of_standIns`).
-/

namespace Vetting

variable {σ : Type}

/-- The rule brings a value in place of an absent one. -/
def Rule.standsIn {τ : Type} : Rule τ → Bool
  | standIn _ _ => true
  | _ => false

/-- Whether a rule stands in for absent values is told by the call that it comes from. -/
@[simp] theorem Rule.standsIn_unwired {τ : Type} (rule : Rule τ) : rule.unwired.standsIn = rule.standsIn := by
  cases rule <;> rfl

/-! ## Entries that a deed leaves alone -/

namespace Deed

/-- Nothing that the deed does reaches the entry. -/
def Spares (deed : Deed σ) (entry : Instance σ) : Prop :=
  ∀ change ∈ deed.changes, entry.amend change.amendment = none

variable {deed : Deed σ} {head : Instance σ} {before : List (Instance σ)} {change : Change σ}

/-- A change to the last possible entry passes over a first one that cannot be changed. -/
theorem lastChanged_cons (untouched : head.amend change.amendment = none) (before : List (Instance σ)) :
    lastChanged (head :: before) change = head :: lastChanged before change := by
  unfold lastChanged
  rw [amendLast?]
  cases amendLast? (Instance.amend change.amendment) before with
  | some changed => rfl
  | none => rw [untouched]; rfl

/-- Changes to the last possible entries pass over a first one that none of them can change. -/
theorem foldl_lastChanged_cons {changes : List (Change σ)}
    (untouched : ∀ change ∈ changes, head.amend change.amendment = none) (before : List (Instance σ)) :
    changes.foldl lastChanged (head :: before) = head :: changes.foldl lastChanged before := by
  induction changes generalizing before with
  | nil => rfl
  | cons change rest ih =>
      obtain ⟨own, further⟩ := List.forall_mem_cons.mp untouched
      rw [List.foldl_cons, lastChanged_cons own, ih further, List.foldl_cons]

/-- A change to the first possible entry passes over one that cannot be changed. -/
theorem firstChanged?_cons (untouched : head.amend change.amendment = none) (before : List (Instance σ)) :
    firstChanged? (head :: before) change = (firstChanged? before change).map (head :: ·) := by
  unfold firstChanged?
  rw [amendFirst?, untouched]

/-- What is done to everybody does nothing to an entry that is spared. -/
theorem Spares.onEach (spares : deed.Spares head) : deed.onEach head = head := by
  have untouched : ∀ change ∈ deed.everywhere, head.amend change.amendment = none :=
    fun change member => spares change (deed.everywhere_subset member)
  unfold Deed.onEach Instance.changedBy
  generalize deed.everywhere = changes at untouched
  induction changes with
  | nil => rfl
  | cons change rest ih =>
      obtain ⟨own, further⟩ := List.forall_mem_cons.mp untouched
      rw [List.foldl_cons, Instance.changed, own, Option.getD_none, ih further]

/-- What is done to earlier entries does nothing to a first one that is spared. -/
theorem Spares.onEarlier (spares : deed.Spares head) (before : List (Instance σ)) :
    deed.onEarlier (head :: before) = head :: deed.onEarlier before := by
  unfold Deed.onEarlier
  rw [List.map_cons, spares.onEach]
  exact foldl_lastChanged_cons (fun change member =>
    spares change (List.mem_append_left _ (List.mem_append_right _ member))) _

/-- What is left alone stays in front, and nobody hands anything over to it. -/
theorem Spares.onBefore (spares : deed.Spares head) (before : List (Instance σ)) :
    deed.onBefore (head :: before) = ((deed.onBefore before).1, head :: (deed.onBefore before).2) := by
  have taken : deed.handedOver.bind (firstChanged? (deed.onEarlier (head :: before))) =
      (deed.handedOver.bind (firstChanged? (deed.onEarlier before))).map (head :: ·) := by
    rw [spares.onEarlier]
    cases given : deed.handedOver with
    | none => rfl
    | some change =>
        have member : change ∈ deed.changes := List.mem_append_right _ (Option.mem_toList.mpr given)
        exact firstChanged?_cons (spares change member) _
  unfold Deed.onBefore
  rw [taken]
  cases deed.handedOver.bind (firstChanged? (deed.onEarlier before)) with
  | none => rw [Option.map_none, spares.onEarlier]
  | some changed => rfl

end Deed

namespace Instance

/-! ## What stays in front -/

section Front

variable {head entry : Instance σ} {deed : Deed σ} {before after : List (Instance σ)}

/-- A first entry that is no key map makes no difference to whether one is known. -/
theorem knowsKeys_cons_before (other : ¬ head.IsKeys) (before after : List (Instance σ)) :
    Deed.knowsKeys ⟨head :: before, after⟩ = Deed.knowsKeys ⟨before, after⟩ := by
  rw [Bool.eq_iff_iff, knowsKeys_iff, knowsKeys_iff]
  simp only [List.cons_append, List.mem_cons, or_and_right, exists_or, exists_eq_left, other, false_or]

/-- Only a rule that brings a value itself touches another one that does. -/
theorem spares_of_standsIn (found : entry.deed = .ok deed) (other : entry.rule.standsIn = false)
    (standard : head.IsStandard) (stands : head.rule.standsIn = true) : deed.Spares head := by
  intro change member
  have makes := (Rule.does_of_deed found).makes change member
  rw [← Option.not_isSome_iff_eq_none, Change.isSome_amend change standard, Change.reaches]
  cases rule : head.rule with
  | standIn old operating =>
      cases change with
      | standIn value =>
          obtain ⟨old, operating, same⟩ := Rule.exists_of_makes_standIn makes
          rw [same] at other
          cases other
      | _ => exact Bool.false_ne_true
  | _ =>
      rw [rule] at stands
      cases stands

variable [Identified σ]

/-- Another rule is wired as if nothing stood in front that brings a value in place of an absent one. -/
theorem afterRound_cons (own : entry.IsStandard) (found : entry.deed = .ok deed)
    (other : entry.rule.standsIn = false) (standard : head.IsStandard) (stands : head.rule.standsIn = true)
    (before after : List (Instance σ)) :
    entry.afterRound deed (head :: before) after =
      ⟨head :: (entry.afterRound deed before after).before, (entry.afterRound deed before after).after⟩ := by
  have spares := spares_of_standsIn found other standard stands
  have noKeys : ¬ head.IsKeys := by
    intro keys
    rw [← Rule.standsIn_unwired, show head.rule.unwired = _ from keys] at stands
    cases stands
  have wired : entry.wiredBy deed ⟨head :: before, after⟩ = entry.wiredBy deed ⟨before, after⟩ := by
    simp only [wiredBy, spares.onBefore, knowsKeys_cons_before noKeys]
  -- A call of another sort does not take its place.
  have apart : wiring.same head (entry.wiredBy deed ⟨before, after⟩) = false := by
    rw [← Bool.not_eq_true]
    intro same
    have call := call_wiredBy own found ⟨before, after⟩
    have sort := unwired_eq_of_same standard (own.of_call_eq call) same
    rw [← Rule.standsIn_unwired, sort, (Prod.mk.inj call).1, Rule.standsIn_unwired, other] at stands
    cases stands
  unfold afterRound Wiring.sifted
  rw [wired, spares.onBefore]
  split
  · simp only [List.filter_cons, apart, Bool.not_false, ↓reduceIte, List.cons_append]
  · rfl

/-- Rounds of other rules are as if nothing stood in front that brings a value in place of an absent one. -/
theorem exists_rounds_cons (standard : head.IsStandard) (stands : head.rule.standsIn = true) {count : Nat}
    {state : Siblings (Instance σ)} (all : ∀ entry ∈ before ++ after, entry.IsStandard)
    (others : ∀ entry ∈ after, entry.rule.standsIn = false)
    (ended : wiring.rounds count ⟨head :: before, after⟩ = .ok state) :
    ∃ rest, wiring.rounds count ⟨before, after⟩ = .ok ⟨rest, state.after⟩ ∧ state.before = head :: rest := by
  induction count generalizing before after with
  | zero =>
      obtain rfl := Except.ok.inj ended
      exact ⟨before, rfl, rfl⟩
  | succ count ih =>
      cases after with
      | nil => exact ih all others ended
      | cons entry waiting =>
          have own : entry.IsStandard := all entry (List.mem_append_right _ List.mem_cons_self)
          obtain ⟨deed, found, further⟩ := (rounds_succ_eq_ok own).mp ended
          rw [afterRound_cons own found (others entry List.mem_cons_self) standard stands] at further
          have still : ∀ next ∈ waiting.map deed.onEach, next.rule.standsIn = false := by
            intro next member
            obtain ⟨origin, waited, rfl⟩ := List.mem_map.mp member
            have sort : (deed.onEach origin).rule.unwired = origin.rule.unwired :=
              (Prod.mk.inj (deed.becomes_onEach origin).call_eq).1
            rw [← Rule.standsIn_unwired, sort, Rule.standsIn_unwired]
            exact others origin (List.mem_cons_of_mem _ waited)
          obtain ⟨rest, apart, front⟩ := ih (standard_afterRound found all) still further
          exact ⟨rest, (rounds_succ_eq_ok own).mpr ⟨deed, found, apart⟩, front⟩

end Front

/-! ## Values in place of absent ones -/

/-- The value that the call of an instance brings in place of an absent one. -/
def standIn? (entry : Instance σ) : Option Value :=
  if entry.rule.standsIn then (entry.arguments.value 0).toOption else none

/-- A rule that stands in hands its value over. -/
theorem exists_deed_of_standsIn {entry : Instance σ} {deed : Deed σ} (stands : entry.rule.standsIn = true)
    (found : entry.deed = .ok deed) : ∃ old value, entry.standIn? = some value ∧
      deed = .gathering [] (.standIn value) (.standIn old false) (.standIn value true) := by
  obtain ⟨rule, arguments⟩ := entry
  cases rule with
  | standIn old operating =>
      obtain ⟨value, given, rfl⟩ := Rule.exists_of_map_eq_ok found
      refine ⟨old, value, ?_, rfl⟩
      simp only [standIn?, Rule.standsIn, ↓reduceIte, given, Except.toOption]
  | _ => cases stands

section Gathered

variable [Identified σ] {entry : Instance σ} {old value : Value} {after : List (Instance σ)}

/-- The first value that stands in is kept by its own rule. -/
theorem afterRound_first :
    entry.afterRound (.gathering [] (.standIn value) (.standIn old false) (.standIn value true)) [] after =
      ⟨[⟨.standIn value true, entry.arguments⟩], after⟩ := by
  rw [afterRound, Deed.map_onEach_of_silent rfl]
  rfl

/-- A further value takes the place of the one that stood in before. -/
theorem afterRound_next {earlier : Value} {arguments : Arguments σ} :
    entry.afterRound (.gathering [] (.standIn value) (.standIn old false) (.standIn value true))
        [⟨.standIn earlier true, arguments⟩] after = ⟨[⟨.standIn value true, arguments⟩], after⟩ := by
  rw [afterRound, Deed.map_onEach_of_silent rfl]
  rfl

/-- The first call acts for all, and takes the value of the last one. -/
theorem rounds_standIns {queue rest : List (Instance σ)} {state : Siblings (Instance σ)}
    {arguments : Arguments σ} (standard : ∀ entry ∈ queue, entry.IsStandard)
    (stand : ∀ entry ∈ queue, entry.rule.standsIn = true)
    (ended : wiring.rounds queue.length ⟨[⟨.standIn value true, arguments⟩], queue ++ rest⟩ = .ok state) :
    state = ⟨[⟨.standIn ((queue.filterMap standIn?).getLastD value) true, arguments⟩], rest⟩ := by
  induction queue generalizing value with
  | nil => exact (Except.ok.inj ended).symm
  | cons entry queue ih =>
      obtain ⟨own, others⟩ := List.forall_mem_cons.mp standard
      obtain ⟨stands, further⟩ := List.forall_mem_cons.mp stand
      obtain ⟨deed, found, later⟩ := (rounds_succ_eq_ok own).mp ended
      obtain ⟨old, brought, given, rfl⟩ := exists_deed_of_standsIn stands found
      rw [afterRound_next] at later
      rw [ih others further later, List.filterMap_cons_some given, List.getLastD_cons]

end Gathered

/-- What brings a value in place of an absent one is of lower priority than all else. -/
theorem priority_cases {entry : Instance σ} (standard : entry.IsStandard) :
    entry.rule.priority = -1 ∧ entry.rule.standsIn = true ∨ 0 ≤ entry.rule.priority ∧ entry.rule.standsIn = false := by
  obtain ⟨rule, arguments⟩ := entry
  cases rule with
  | standIn old operating => exact .inl ⟨rfl, rfl⟩
  | declared declaration => exact absurd rfl (standard.ne_declared declaration)
  | listing kind set operating => cases kind <;> exact .inr ⟨by simp [Rule.priority], rfl⟩
  | _ => exact .inr ⟨by simp [Rule.priority], rfl⟩

variable [Identified σ]

/-- The calls that bring a value in place of an absent one are wired first, in the order in which they were made. -/
theorem ordered_eq_standIns {entries : List (Instance σ)} (standard : ∀ entry ∈ entries, entry.IsStandard) :
    wiring.ordered entries = entries.filter (fun entry => entry.rule.standsIn) ++
      wiring.ordered (entries.filter fun entry => !entry.rule.standsIn) := by
  have below : wiring.below (-1) entries = [] := by
    rw [Wiring.below, Wiring.filter_ordered, List.filter_eq_nil_iff.mpr]
    · rfl
    · intro entry member
      show ¬ decide (entry.rule.priority < -1) = true
      rw [decide_eq_true_eq]
      rcases priority_cases (standard entry member) with ⟨level, -⟩ | ⟨least, -⟩ <;> omega
  have tier : wiring.tier (-1) entries = entries.filter fun entry => entry.rule.standsIn := by
    refine List.filter_congr fun entry member => ?_
    show decide (entry.rule.priority = -1) = entry.rule.standsIn
    rcases priority_cases (standard entry member) with ⟨level, stands⟩ | ⟨least, stands⟩
    · rw [stands, level, decide_eq_true rfl]
    · rw [stands, decide_eq_false (by omega)]
  have above : wiring.above (-1) entries = wiring.ordered (entries.filter fun entry => !entry.rule.standsIn) := by
    rw [Wiring.above, Wiring.filter_ordered]
    congr 1
    refine List.filter_congr fun entry member => ?_
    show decide (-1 < entry.rule.priority) = !entry.rule.standsIn
    rcases priority_cases (standard entry member) with ⟨level, stands⟩ | ⟨least, stands⟩
    · rw [stands, level, decide_eq_false (lt_irrefl _), Bool.not_true]
    · rw [stands, decide_eq_true (by omega), Bool.not_false]
  rw [wiring.ordered_eq_tiers (-1), below, tier, above]
  rfl

/-- **Values in place of absent ones.**  Of the calls that bring a value in place of an absent one a single rule comes
first, with the value of the last call; behind it is what comes of all other calls alone. -/
theorem assemble_of_standIns {entries kept : List (Instance σ)} (standard : ∀ entry ∈ entries, entry.IsStandard)
    {last : Value} (given : (entries.filterMap standIn?).getLast? = some last)
    (assembled : assemble entries = .ok kept) :
    ∃ arguments rest, kept = ⟨.standIn last true, arguments⟩ :: rest ∧
      assemble (entries.filter fun entry => !entry.rule.standsIn) = .ok rest := by
  rw [assemble, Wiring.assemble_eq, ordered_eq_standIns standard] at assembled
  obtain ⟨state, ended, rfl⟩ := Rule.exists_of_map_eq_ok assembled
  have bringers : ∀ entry ∈ entries.filter (fun entry => entry.rule.standsIn),
      entry.IsStandard ∧ entry.rule.standsIn = true :=
    fun entry member => ⟨standard entry (List.mem_filter.mp member).1, (List.mem_filter.mp member).2⟩
  have brought : (entries.filter fun entry => entry.rule.standsIn).filterMap standIn? = entries.filterMap standIn? := by
    rw [List.filterMap_filter]
    refine List.filterMap_congr fun entry _ => ?_
    unfold standIn?
    cases entry.rule.standsIn <;> rfl
  have others : ∀ entry ∈ wiring.ordered (entries.filter fun entry => !entry.rule.standsIn),
      entry.IsStandard ∧ entry.rule.standsIn = false := by
    intro entry member
    obtain ⟨inside, other⟩ := List.mem_filter.mp ((wiring.ordered_perm _).mem_iff.mp member)
    exact ⟨standard entry inside, by simpa using other⟩
  rw [List.length_eq_length_filter_add fun entry : Instance σ => entry.rule.standsIn, Wiring.rounds_add] at ended
  obtain ⟨middle, first, later⟩ := exists_of_bind_eq_ok ended
  rw [← brought] at given
  generalize entries.filter (fun entry => entry.rule.standsIn) = queue at bringers first given
  cases queue with
  | nil => cases given
  | cons entry queue =>
      obtain ⟨⟨own, stands⟩, further⟩ := List.forall_mem_cons.mp bringers
      obtain ⟨deed, found, rest⟩ := (rounds_succ_eq_ok own).mp first
      obtain ⟨old, value, brings, rfl⟩ := exists_deed_of_standsIn stands found
      rw [afterRound_first] at rest
      obtain rfl := rounds_standIns (fun other member => (further other member).1)
        (fun other member => (further other member).2) rest
      have same : (queue.filterMap standIn?).getLastD value = last := by
        rw [List.filterMap_cons_some brings, List.getLast?_cons] at given
        rw [List.getLastD_eq_getLast?]
        exact Option.some.inj given
      rw [same] at later
      have standing : (⟨.standIn last true, entry.arguments⟩ : Instance σ).IsStandard := by
        simp [IsStandard, Rule.unwired, Ruleset.standardRules, Ruleset.generalRules]
      obtain ⟨kept, apart, front⟩ := exists_rounds_cons standing rfl
        (fun other member => (others other member).1) (fun other member => (others other member).2) later
      refine ⟨entry.arguments, kept, front, ?_⟩
      rw [assemble, Wiring.assemble_eq, apart]
      rfl

end Instance

/-- The rule of the node brings a value in place of an absent one. -/
def Ruleset.standsIn (ruleset : Ruleset) (node : Node) : Bool :=
  (ruleset.blueprint? node).any Rule.standsIn

namespace Schema

/-- The values that the calls bring in place of an absent one, in the order of the calls. -/
def substitutes (schema : Schema) : List Value :=
  (schema.ruleset.instances schema.calls).filterMap Instance.standIn?

/-- The schema makes the same calls as the other one, except for those that bring a value in place of an absent
one. -/
structure IsBareOf (bare schema : Schema) : Prop where
  sound : bare.error = none
  instances : bare.ruleset.instances bare.calls =
    (schema.ruleset.instances schema.calls).filter fun entry => !entry.rule.standsIn

/-- The schema without the calls that bring a value in place of an absent one. -/
def bared (schema : Schema) (handle : Handle) : Schema :=
  { schema with handle, newestFirst := schema.newestFirst.filter fun call => !schema.ruleset.standsIn call.node }

/-- A schema without the calls of stand-ins is bare of them. -/
theorem isBareOf_bared {schema : Schema} (sound : schema.error = none) (handle : Handle) :
    (schema.bared handle).IsBareOf schema where
  sound := sound
  instances := by
    rw [calls, bared, ← List.filter_reverse]
    refine Wiring.filterMap_filter_of_told (fun call entry found => ?_) _
    obtain ⟨blueprint, bound, rfl⟩ := Option.map_eq_some_iff.mp found
    rw [Ruleset.standsIn, bound, Option.any_some, ← Rule.standsIn_unwired blueprint.fresh, Blueprint.fresh,
      Rule.unwired_map, Rule.standsIn_unwired]

/-- **Absence replaced.**  Where calls bring values in place of an absent one, it is replaced by the last of these
values, and nothing else is asked.  Any other value is judged as if these calls were not there. -/
theorem vet_of_standIns {schema bare : Schema} {kept : List (Instance Schema)} {last : Value}
    (standard : schema.CallsStandard) (compiles : schema.rules = .ok kept)
    (given : schema.substitutes.getLast? = some last) (same : bare.IsBareOf schema) (setting : Setting) (path : Path) :
    schema.vet setting path .undefined = .opening schema.handle (.done (.ok (.pass last))) ∧
      ∀ value, value.isPresent = true → ∃ run,
        schema.vet setting path value = .opening schema.handle run ∧
          bare.vet setting path value = .opening bare.handle run := by
  obtain ⟨-, -, assembled⟩ := exists_of_bind_eq_ok compiles
  obtain ⟨arguments, rest, rfl, apart⟩ := Instance.assemble_of_standIns
    (fun entry member => (Ruleset.fresh_of_mem_instances standard entry member).1) given assembled
  have compilesBare : bare.rules = .ok rest := by
    rw [rules, check, same.sound, same.instances]
    exact apart
  have known := standard_judging standard compiles setting
  have others : ∀ rule ∈ judging setting rest, rule.unwired ∈ Ruleset.standardRules :=
    fun rule member => known rule (List.mem_cons_of_mem _ member)
  constructor
  · rw [vet_eq_of_rules compiles]
    rfl
  · intro value present
    refine ⟨vetBy setting path (judging setting rest) value, ?_, ?_⟩
    · rw [vet_eq_of_rules compiles, vetWith_of_standard present known]
      rfl
    · rw [vet_eq_of_rules compilesBare, vetWith_of_standard present others]

/-- A text is replaced twice where it is absent. -/
def ofTextElse : Schema :=
  .ofCalls 0 [(.standIn .undefined false, [.value (.string "a")]), (.check .string, []),
    (.standIn .undefined false, [.value (.boolean true)])]

/-- An absent value is replaced by the last value; a number is turned down as by the bare schema. -/
theorem vet_of_standIns_ofTextElse :
    ofTextElse.vet ⟨true, false, none, ⟨0, 0⟩⟩ [] .undefined = .opening 0 (.done (.ok (.pass (.boolean true)))) ∧
      ∃ run, ofTextElse.vet ⟨true, false, none, ⟨0, 0⟩⟩ [] (.number 0) = .opening 0 run ∧
        (ofTextElse.bared 1).vet ⟨true, false, none, ⟨0, 0⟩⟩ [] (.number 0) = .opening 1 run := by
  obtain ⟨kept, compiles⟩ := exists_rules (show ofTextElse.rules.toOption.isSome = true by decide +kernel)
  have standard : ofTextElse.CallsStandard := by
    refine callsOnly_ofCalls ?_
    simp [Ruleset.standardRules, Ruleset.generalRules, Ruleset.stringRules]
  have given : ofTextElse.substitutes.getLast? = some (.boolean true) := rfl
  obtain ⟨absent, present⟩ :=
    vet_of_standIns standard compiles given (isBareOf_bared rfl 1) ⟨true, false, none, ⟨0, 0⟩⟩ []
  exact ⟨absent, present (.number 0) rfl⟩

end Schema

end Vetting

import Mathlib.Data.List.Nodup
import Vetting.Proofs.Rule.Siblings
import Vetting.Rule.Assembly
import Vetting.Ruleset.Standard

/-!
# What wiring leaves alone

Wiring fills a rule in and may amend its siblings, but never makes another rule of it: what a rule was
before its wiring (`Rule.unwired`) can be told at any time, and with it its name and its priority.  Together
with the arguments this is the call that an instance stands for (`Instance.call`).
-/

namespace Vetting

variable {σ τ : Type}

/-- A computation of two steps ends well only if both of them do. -/
theorem exists_of_bind_eq_ok {ε α β : Type} {first : Except ε α} {next : α → Except ε β} {answer : β}
    (ended : first >>= next = .ok answer) : ∃ found, first = .ok found ∧ next found = .ok answer := by
  cases first with
  | error failure => cases ended
  | ok found => exact ⟨found, rfl, ended⟩

/-- A result that is made of what has been read comes from a reading that went well. -/
theorem exists_of_read_eq_ok {ε α β : Type} {reading : Except ε α} {made : α → β} {answer : β}
    (ended : (reading >>= fun found => .ok (made found)) = .ok answer) :
    ∃ found, reading = .ok found ∧ answer = made found := by
  obtain ⟨found, read, same⟩ := exists_of_bind_eq_ok ended
  exact ⟨found, read, (Except.ok.inj same).symm⟩

/-- The rule as it is before its wiring, with nothing that comes from arguments or siblings. -/
def Rule.unwired : Rule σ → Blueprint
  | any => any
  | optional _ => optional false
  | listing kind _ _ => listing kind .empty false
  | custom _ => custom none
  | standIn _ _ => standIn .undefined false
  | alternatives _ => alternatives []
  | furtherAlternatives => furtherAlternatives
  | keys _ => keys ⟨[], [], false, false⟩
  | pattern _ => pattern ⟨none, false, false⟩
  | allowUnknown => allowUnknown
  | array _ _ => array false false
  | allowSparse => allowSparse
  | allowSingle => allowSingle
  | items _ => items none
  | ordered _ => ordered []
  | unique _ => unique .equality
  | length measure bound _ => length measure bound 0
  | number comparison _ => number comparison 0
  | multiple _ => multiple 0
  | precision _ => precision 0
  | insensitive => insensitive
  | regex _ => regex none
  | address _ => address .standard
  | reference _ => reference .standard
  | check test => check test
  | declared declaration => declared { declaration with accepted := none, marks := [], found := [] }

/-- The call that an instance stands for. -/
def Instance.call (entry : Instance σ) : Blueprint × Arguments σ :=
  (entry.rule.unwired, entry.arguments)

namespace Rule

@[simp] theorem name_unwired (rule : Rule σ) : rule.unwired.name = rule.name := by
  cases rule <;> rfl

/-- A rule has the priority of the call that it comes from. -/
@[simp] theorem priority_unwired (rule : Rule σ) : rule.unwired.priority = rule.priority := by
  cases rule with
  | listing kind => cases kind <;> rfl
  | _ => rfl

@[simp] theorem unwired_map (f : σ → τ) (rule : Rule σ) : (rule.map f).unwired = rule.unwired := by
  cases rule <;> rfl

/-- The standard rules know nothing of arguments or siblings. -/
theorem unwired_of_standard {blueprint : Blueprint} (standard : blueprint ∈ Ruleset.standardRules) :
    blueprint.unwired = blueprint := by
  revert blueprint
  simp only [Ruleset.standardRules, Ruleset.generalRules, Ruleset.objectRules, Ruleset.arrayRules,
    Ruleset.stringRules, Ruleset.numberRules, Ruleset.otherRules, Ruleset.freshListing, List.cons_append,
    List.nil_append, List.forall_mem_cons, unwired, List.not_mem_nil, false_implies, implies_true,
    and_self]

/-- No standard rule is a declared one. -/
theorem ne_declared_of_standard {rule : Rule σ} (standard : rule.unwired ∈ Ruleset.standardRules)
    (declaration : Declaration) : rule ≠ declared declaration := by
  rintro rfl
  simp only [Ruleset.standardRules, Ruleset.generalRules, Ruleset.objectRules, Ruleset.arrayRules,
    Ruleset.stringRules, Ruleset.numberRules, Ruleset.otherRules, Ruleset.freshListing, List.cons_append,
    List.nil_append, List.mem_cons, unwired, List.not_mem_nil, reduceCtorEq, or_self] at standard

/-- Standard rules are told apart by their names. -/
theorem unwired_eq_of_name {left : Rule σ} {right : Rule τ} (standard : left.unwired ∈ Ruleset.standardRules)
    (alsoStandard : right.unwired ∈ Ruleset.standardRules) (same : left.name = right.name) :
    left.unwired = right.unwired := by
  have distinct : (Ruleset.standardRules.map name).Nodup := by decide +kernel
  refine List.inj_on_of_nodup_map distinct standard alsoStandard ?_
  rw [name_unwired, name_unwired, same]

end Rule

namespace Amendment

/-- A rule `optional` that has been disabled comes from the same call. -/
theorem keeps_disable : Keeps Rule.unwired (disable : Amendment σ) := by
  intro rule amended reached
  cases rule with
  | optional enabled => cases reached; rfl
  | _ => cases reached

/-- A list of values comes from the same call, whatever has become of its values. -/
theorem keeps_listing (kind : Listing) (change : ListedValues → ListedValues) :
    Keeps Rule.unwired (listing kind change : Amendment σ) := by
  intro rule amended reached
  cases rule with
  | listing other set operating =>
      by_cases same : other = kind
      · simp only [listing, same, ↓reduceIte] at reached
        cases reached
        rw [← same]
        rfl
      · simp only [listing, same, ↓reduceIte] at reached
        cases reached
  | _ => cases reached

/-- Lists of values of all kinds come from the same calls, whatever has become of their values. -/
theorem keeps_sets (change : ListedValues → ListedValues) :
    Keeps Rule.unwired (sets change : Amendment σ) := by
  intro rule amended reached
  cases rule with
  | listing kind set operating => cases reached; rfl
  | declared declaration =>
      rw [sets] at reached
      split at reached
      · obtain ⟨set, -, rfl⟩ := Option.map_eq_some_iff.mp reached
        rfl
      · cases reached
  | _ => cases reached

/-- A stand-in that has been replaced comes from the same call. -/
theorem keeps_standIn (value : Value) : Keeps Rule.unwired (standIn value : Amendment σ) := by
  intro rule amended reached
  cases rule with
  | standIn old operating => cases reached; rfl
  | _ => cases reached

/-- A list of alternatives that has grown comes from the same call. -/
theorem keeps_alternatives (further : List σ) :
    Keeps Rule.unwired (alternatives further : Amendment σ) := by
  intro rule amended reached
  cases rule with
  | alternatives schemas => cases reached; rfl
  | _ => cases reached

/-- A key map that has grown comes from the same call. -/
theorem keeps_keys (entries : Members σ) (patterns : List Regex) :
    Keeps Rule.unwired (keys entries patterns : Amendment σ) := by
  intro rule amended reached
  cases rule with
  | keys rule => cases reached; rfl
  | _ => cases reached

/-- A key map comes from the same call, whatever it makes of unknown names. -/
theorem keeps_keysUnknown (allow : Bool) : Keeps Rule.unwired (keysUnknown allow : Amendment σ) := by
  intro rule amended reached
  cases rule with
  | keys rule => cases reached; rfl
  | _ => cases reached

/-- A pattern comes from the same call, whatever it makes of unknown names. -/
theorem keeps_patternUnknown (allow : Bool) :
    Keeps Rule.unwired (patternUnknown allow : Amendment σ) := by
  intro rule amended reached
  cases rule with
  | pattern rule => cases reached; rfl
  | _ => cases reached

/-- An array comes from the same call, whether holes are allowed or not. -/
theorem keeps_sparse (allow : Bool) : Keeps Rule.unwired (sparse allow : Amendment σ) := by
  intro rule amended reached
  cases rule with
  | array single old => cases reached; rfl
  | _ => cases reached

/-- An array comes from the same call, whether a single item is allowed or not. -/
theorem keeps_single (allow : Bool) : Keeps Rule.unwired (single allow : Amendment σ) := by
  intro rule amended reached
  cases rule with
  | array old sparse => cases reached; rfl
  | _ => cases reached

/-- A declared rule that bears a mark comes from the same call. -/
theorem keeps_mark (tag : String) : Keeps Rule.unwired (mark tag : Amendment σ) := by
  intro rule amended reached
  cases rule with
  | declared declaration => cases reached; rfl
  | _ => cases reached

end Amendment

namespace Instance

/-- An amendment that leaves a rule what it was leaves the call. -/
theorem keeps_call {amendment : Amendment σ} (keeps : Keeps Rule.unwired amendment) :
    Keeps call (amend amendment) := by
  intro entry amended reached
  obtain ⟨rule, changed, rfl⟩ := Option.map_eq_some_iff.mp reached
  simp only [call, keeps changed]

end Instance

namespace Siblings

variable {amendment : Amendment σ} (keeps : Keeps Rule.unwired amendment)
  (siblings : Siblings (Instance σ))

include keeps

/-- A change to all siblings leaves the calls that they come from. -/
theorem calls_amendAll : (siblings.amendAll amendment).map Instance.call = siblings.map Instance.call :=
  (Instance.keeps_call keeps).all siblings

/-- A change to the last earlier sibling leaves the calls that all of them come from. -/
theorem calls_amendLast :
    (siblings.amendLast amendment).map Instance.call = siblings.map Instance.call := by
  unfold amendLast
  cases reached : siblings.last? (Instance.amend amendment) with
  | none => rfl
  | some amended => exact (Instance.keeps_call keeps).last? reached

end Siblings

/-- A declared rule leaves the calls of the siblings that it reaches. -/
theorem Reach.calls_of_amend? {reach : Reach} {tag : String} {siblings amended : Siblings (Instance σ)}
    (reached : reach.amend? tag siblings = some amended) :
    amended.map Instance.call = siblings.map Instance.call := by
  have everybody : ∀ {amendment : Amendment σ}, Keeps Rule.unwired amendment →
      (if siblings.applies (Instance.amend amendment) then some (siblings.amendAll amendment)
        else none) = some amended → amended.map Instance.call = siblings.map Instance.call := by
    intro amendment keeps found
    split at found
    · obtain rfl := Option.some.inj found
      exact siblings.calls_amendAll keeps
    · cases found
  cases reach with
  | last => exact (Instance.keeps_call (Amendment.keeps_mark tag)).last? reached
  | first => exact (Instance.keeps_call (Amendment.keeps_mark tag)).first? reached
  | next => exact (Instance.keeps_call (Amendment.keeps_mark tag)).next? reached
  | all => exact everybody (Amendment.keeps_mark tag) reached
  | sets => exact everybody (Amendment.keeps_sets _) reached
  | optional => exact (Instance.keeps_call Amendment.keeps_disable).next? reached
  | alternatives => exact (Instance.keeps_call (Amendment.keeps_alternatives [])).next? reached
  | nobody => cases reached

/-- A row of reaches leaves the calls of all siblings. -/
theorem calls_reachSiblings (siblings : Siblings (Instance σ)) (reaches : List (Reach × String)) :
    (reachSiblings siblings reaches).2.map Instance.call = siblings.map Instance.call := by
  induction reaches generalizing siblings with
  | nil => rfl
  | cons head rest ih =>
      obtain ⟨reach, tag⟩ := head
      simp only [reachSiblings]
      rw [ih]
      cases reached : reach.amend? (tag ++ "@" ++ toString siblings.before.length) siblings with
      | none => rfl
      | some amended => exact Reach.calls_of_amend? reached

namespace Rule

/-- Handing something over leaves a rule what it was, whether or not somebody takes it. -/
theorem calls_gather {siblings : Siblings (Instance σ)} {amendment : Amendment σ} {own wired : Rule σ}
    {blueprint : Blueprint} (keeps : Keeps Rule.unwired amendment) (ownKept : own.unwired = blueprint)
    (wiredKept : wired.unwired = blueprint) :
    (gather siblings amendment own wired).1.unwired = blueprint ∧
      (gather siblings amendment own wired).2.map Instance.call = siblings.map Instance.call := by
  unfold gather
  cases reached : siblings.first? (Instance.amend amendment) with
  | none => exact ⟨wiredKept, rfl⟩
  | some amended => exact ⟨ownKept, (Instance.keeps_call keeps).first? reached⟩

/-- The siblings of a list of values, once those that it makes invalid are struck from the others. -/
def struck (kind : Listing) (values : List Value) (siblings : Siblings (Instance σ)) :
    Siblings (Instance σ) :=
  if kind = .invalid then
    (siblings.amendAll (.listing .valid fun set => set.remove values)).amendAll
      (.listing .allow fun set => set.remove values)
  else siblings

/-- Striking invalid values leaves the calls of the lists that they are struck from. -/
theorem calls_struck (kind : Listing) (values : List Value) (siblings : Siblings (Instance σ)) :
    (struck kind values siblings).map Instance.call = siblings.map Instance.call := by
  unfold struck
  split
  · rw [Siblings.calls_amendAll (Amendment.keeps_listing _ _),
      Siblings.calls_amendAll (Amendment.keeps_listing _ _)]
  · rfl

/-- A list of values is wired in two steps: what is invalid is struck, and the values are gathered. -/
theorem wireListing_eq (kind : Listing) (set : ListedValues) (values : List Value)
    (siblings : Siblings (Instance σ)) :
    wireListing kind set values siblings =
      gather (struck kind values siblings) (.listing kind fun set => set.add values)
        (listing kind set false) (listing kind (set.add values) true) := rfl

/-- A pattern leaves the calls of the key maps that learn of it. -/
theorem calls_wirePattern (rule : PatternRule σ) (expression : Regex) (schema : σ)
    (siblings : Siblings (Instance σ)) :
    (wirePattern rule expression schema siblings).2.map Instance.call = siblings.map Instance.call :=
  siblings.calls_amendAll (Amendment.keeps_keys _ _)

/-- Wiring makes no other call of a rule, and none of its siblings. -/
theorem calls_wire {own : Rule σ} {arguments : Arguments σ} {siblings : Siblings (Instance σ)}
    {outcome : Rule σ × Siblings (Instance σ)} (wired : own.wire arguments siblings = .ok outcome) :
    outcome.1.unwired = own.unwired ∧ outcome.2.map Instance.call = siblings.map Instance.call := by
  cases own with
  | any | optional enabled | array single sparse =>
      obtain rfl := Except.ok.inj wired
      exact ⟨rfl, rfl⟩
  | insensitive =>
      obtain rfl := Except.ok.inj wired
      exact ⟨rfl, siblings.calls_amendAll (Amendment.keeps_sets _)⟩
  | check test =>
      by_cases required : test = .required
      · subst required
        obtain rfl := Except.ok.inj wired
        exact ⟨rfl, siblings.calls_amendAll Amendment.keeps_disable⟩
      · rw [wire] at wired
        · obtain rfl := Except.ok.inj wired
          exact ⟨rfl, rfl⟩
        · exact required
  | listing kind set operating =>
      obtain ⟨values, -, rfl⟩ := exists_of_read_eq_ok wired
      rw [wireListing_eq, ← calls_struck kind values siblings]
      exact calls_gather (Amendment.keeps_listing _ _) rfl rfl
  | standIn old operating =>
      obtain ⟨value, -, rfl⟩ := exists_of_read_eq_ok wired
      exact calls_gather (Amendment.keeps_standIn _) rfl rfl
  | keys rule =>
      obtain ⟨entries, -, rfl⟩ := exists_of_read_eq_ok wired
      exact calls_gather (Amendment.keeps_keys _ _) rfl rfl
  | pattern rule =>
      obtain ⟨expression, -, next⟩ := exists_of_bind_eq_ok wired
      obtain ⟨schema, -, rfl⟩ := exists_of_read_eq_ok next
      exact ⟨rfl, calls_wirePattern ..⟩
  | furtherAlternatives =>
      obtain ⟨further, -, rfl⟩ := exists_of_read_eq_ok wired
      exact ⟨rfl, siblings.calls_amendLast (Amendment.keeps_alternatives _)⟩
  | allowUnknown =>
      obtain ⟨allow, -, rfl⟩ := exists_of_read_eq_ok wired
      exact ⟨rfl, (Siblings.calls_amendLast (Amendment.keeps_patternUnknown _) _).trans
        (siblings.calls_amendLast (Amendment.keeps_keysUnknown _))⟩
  | allowSparse =>
      obtain ⟨allow, -, rfl⟩ := exists_of_read_eq_ok wired
      exact ⟨rfl, siblings.calls_amendLast (Amendment.keeps_sparse _)⟩
  | allowSingle =>
      obtain ⟨allow, -, rfl⟩ := exists_of_read_eq_ok wired
      exact ⟨rfl, siblings.calls_amendLast (Amendment.keeps_single _)⟩
  | custom _ | alternatives _ | items _ | ordered _ | unique _ | length _ _ _ | number _ _
  | precision _ | regex _ | address _ | reference _ =>
      obtain ⟨found, -, rfl⟩ := exists_of_read_eq_ok wired
      exact ⟨rfl, rfl⟩
  | multiple _ =>
      obtain ⟨base, -, next⟩ := exists_of_bind_eq_ok wired
      by_cases zero : (base == 0) = true
      · rw [if_pos zero] at next
        cases next
      · rw [if_neg zero] at next
        obtain rfl := Except.ok.inj next
        exact ⟨rfl, rfl⟩
  | declared declaration =>
      rw [wire] at wired
      cases complained : declaration.complaint with
      | some words => simp only [complained] at wired; cases wired
      | none =>
          simp only [complained] at wired
          obtain rfl := Except.ok.inj wired
          exact ⟨by simp only [unwired, complained], calls_reachSiblings ..⟩

end Rule

/-- Wiring an instance makes no other call of it, and none of its siblings. -/
theorem Instance.calls_wire [Identified σ] {entry wired : Instance σ}
    {siblings amended : Siblings (Instance σ)} (outcome : entry.wire siblings = .ok (wired, amended)) :
    wired.call = entry.call ∧ amended.map call = siblings.map call := by
  unfold Instance.wire at outcome
  cases made : entry.rule.wire entry.arguments siblings with
  | error fault =>
      rw [made] at outcome
      cases outcome
  | ok found =>
      rw [made] at outcome
      obtain ⟨rfl, rfl⟩ := Prod.mk.inj (Except.ok.inj outcome)
      obtain ⟨own, others⟩ := Rule.calls_wire made
      exact ⟨by simp only [call, own], others⟩

end Vetting

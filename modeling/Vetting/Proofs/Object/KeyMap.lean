import Mathlib.Data.List.TakeWhile
import Vetting.Proofs.Assembly.Invariants
import Vetting.Proofs.Assembly.Views
import Vetting.Proofs.Members
import Vetting.Proofs.Repetition.Meddling

/-!
# Key maps of an assembly

Key maps, patterns and calls of `unknown` say something about the members of an object, each call a clause.  At any
time there is a single key map among the rules that have been wired, or none, and it is described by the clauses so
far (`KeyRule.Describes`): it has the entries of all key maps, knows the names of all patterns, and allows unknown
members as the last call of `unknown` behind the first key map says.  Key maps that still wait have heard of the
patterns so far.  Each round goes on with the clause of its call (`Clauses.Told.afterRound`), so a description by all
clauses comes out of the assembly (`Instance.keyRules_assemble`).
-/

namespace Vetting

variable {σ : Type}

/-- What a call says about the members of an object. -/
inductive Clause (σ : Type) where
  | keys (entries : Members σ)
  | pattern (expression : Regex)
  | unknown (allow : Bool)

namespace Clause

/-- The entries of a key map. -/
def entries : Clause σ → Members σ
  | keys entries => entries
  | _ => []

/-- The names of a pattern. -/
def expression? : Clause σ → Option Regex
  | pattern expression => some expression
  | _ => none

def allow? : Clause σ → Option Bool
  | unknown allow => some allow
  | _ => none

def isKeys : Clause σ → Bool
  | keys _ => true
  | _ => false

end Clause

/-- What calls say about the members of an object, in their order. -/
abbrev Clauses (σ : Type) := List (Clause σ)

namespace Clauses

variable {clauses : Clauses σ}

/-- The entries of all key maps, one after the other. -/
def entries (clauses : Clauses σ) : Members σ :=
  clauses.flatMap Clause.entries

/-- The names of all patterns. -/
def expressions (clauses : Clauses σ) : List Regex :=
  clauses.filterMap Clause.expression?

/-- There is a key map. -/
def haveKeys (clauses : Clauses σ) : Bool :=
  clauses.any Clause.isKeys

/-- Unknown members are allowed by the last call that says so behind the first key map. -/
def allow (clauses : Clauses σ) : Bool :=
  ((clauses.dropWhile fun clause => !clause.isKeys).filterMap Clause.allow?).getLastD false

/-- The entries of a further clause come last. -/
theorem entries_concat (clauses : Clauses σ) (clause : Clause σ) :
    entries (clauses ++ [clause]) = clauses.entries ++ clause.entries := by
  rw [entries, List.flatMap_append, List.flatMap_singleton, entries]

/-- The expression of a further clause comes last. -/
theorem expressions_concat (clauses : Clauses σ) (clause : Clause σ) :
    expressions (clauses ++ [clause]) = clauses.expressions ++ clause.expression?.toList := by
  rw [expressions, List.filterMap_append, expressions]
  cases clause <;> rfl

/-- There are keys if there were before or the further clause has them. -/
theorem haveKeys_concat (clauses : Clauses σ) (clause : Clause σ) :
    haveKeys (clauses ++ [clause]) = (clauses.haveKeys || clause.isKeys) := by
  rw [haveKeys, List.any_append, haveKeys, List.any_cons, List.any_nil, Bool.or_false]

/-- The expressions are those of the pattern clauses. -/
theorem mem_expressions {expression : Regex} : expression ∈ clauses.expressions ↔ .pattern expression ∈ clauses := by
  rw [expressions, List.mem_filterMap]
  constructor
  · rintro ⟨clause, member, same⟩
    cases clause with
    | pattern other =>
        obtain rfl := Option.some.inj same
        exact member
    | keys _ | unknown _ => cases same
  · exact fun member => ⟨_, member, rfl⟩

/-- There are keys exactly if some clause has them. -/
theorem haveKeys_iff : clauses.haveKeys = true ↔ ∃ entries, .keys entries ∈ clauses := by
  rw [haveKeys, List.any_eq_true]
  constructor
  · rintro ⟨clause, member, sort⟩
    cases clause with
    | keys entries => exact ⟨entries, member⟩
    | pattern _ | unknown _ => cases sort
  · exact fun ⟨entries, member⟩ => ⟨_, member, rfl⟩

/-- Without keys there are no entries. -/
theorem entries_eq_nil (nothing : clauses.haveKeys = false) : clauses.entries = [] := by
  rw [entries, List.flatMap_eq_nil_iff]
  intro clause member
  cases clause with
  | keys own => exact absurd rfl (List.any_eq_false.mp nothing _ member)
  | pattern _ | unknown _ => rfl

/-- Behind a key map the last call of `unknown` counts. -/
theorem allow_concat (known : clauses.haveKeys = true) (clause : Clause σ) :
    allow (clauses ++ [clause]) = clause.allow?.getD clauses.allow := by
  have some : ¬ (clauses.dropWhile fun clause => !clause.isKeys).isEmpty = true := by
    rw [List.isEmpty_iff, List.dropWhile_eq_nil_iff]
    intro none
    obtain ⟨other, member, sort⟩ := List.any_eq_true.mp known
    have own := none other member
    rw [sort] at own
    cases own
  rw [allow, List.dropWhile_append, if_neg some, List.filterMap_append, List.getLastD_eq_getLast?, List.getLast?_append]
  cases said : clause.allow? with
  | none => rw [List.filterMap_cons_none said, allow, List.getLastD_eq_getLast?]; rfl
  | some allowed => rw [List.filterMap_cons_some said]; rfl

/-- Without a key map nothing has been said about unknown members to any. -/
theorem allow_concat_keys (nothing : clauses.haveKeys = false) (entries : Members σ) :
    allow (clauses ++ [.keys entries]) = false := by
  have none : (clauses.dropWhile fun clause => !clause.isKeys).isEmpty = true := by
    rw [List.isEmpty_iff, List.dropWhile_eq_nil_iff]
    intro clause member
    rw [Bool.eq_false_of_not_eq_true (List.any_eq_false.mp nothing clause member), Bool.not_false]
  rw [allow, List.dropWhile_append, if_pos none]
  rfl

end Clauses

/-! ## Descriptions -/

/-- The clauses tell all about the key map. -/
structure KeyRule.Describes (clauses : Clauses σ) (rule : KeyRule σ) : Prop where
  keys_eq : rule.keys = Members.ofList clauses.entries
  mem_patterns : ∀ expression, expression ∈ rule.patterns ↔ expression ∈ clauses.expressions
  allows_eq : rule.allowsUnknown = clauses.allow

namespace KeyRule.Describes

variable {clauses : Clauses σ} {rule : KeyRule σ}

/-- The first key map knows the patterns that it has heard of while it waited. -/
theorem first (nothing : clauses.haveKeys = false) (entries : Members σ) (operating : Bool) :
    Describes (clauses ++ [.keys entries]) ⟨Members.putAll [] entries, clauses.expressions, false, operating⟩ where
  keys_eq := by
    rw [Clauses.entries_concat, Clauses.entries_eq_nil nothing]
    rfl
  mem_patterns expression := by
    simp only [Clauses.expressions_concat, Clause.expression?, Option.toList_none, List.append_nil]
  allows_eq := (Clauses.allow_concat_keys nothing entries).symm

/-- A further key map hands over its entries, and the patterns that it has heard of. -/
theorem further (known : clauses.haveKeys = true) (describes : Describes clauses rule) (entries : Members σ) :
    Describes (clauses ++ [.keys entries])
      { rule with keys := Members.putAll rule.keys entries, patterns := rule.patterns ++ clauses.expressions } where
  keys_eq := by
    rw [Clauses.entries_concat, describes.keys_eq, Members.ofList, Members.ofList, Members.putAll, Members.putAll,
      Members.putAll, List.foldl_append]
    rfl
  mem_patterns expression := by
    simp only [Clauses.expressions_concat, Clause.expression?, Option.toList_none, List.append_nil, List.mem_append,
      describes.mem_patterns, or_self]
  allows_eq := describes.allows_eq.trans (Clauses.allow_concat known (.keys entries)).symm

/-- A further pattern adds its expression to the key map that the clauses describe. -/
theorem pattern (known : clauses.haveKeys = true) (describes : Describes clauses rule) (expression : Regex) :
    Describes (clauses ++ [.pattern expression])
      { rule with keys := Members.putAll rule.keys [], patterns := rule.patterns ++ [expression] } where
  keys_eq := by
    simp only [Clauses.entries_concat, Clause.entries, List.append_nil, Members.putAll_nil, describes.keys_eq]
  mem_patterns other := by
    rw [Clauses.expressions_concat, List.mem_append, List.mem_append, describes.mem_patterns]
    rfl
  allows_eq := describes.allows_eq.trans (Clauses.allow_concat known (.pattern expression)).symm

/-- A further permission replaces the one of the key map that the clauses describe. -/
theorem unknown (known : clauses.haveKeys = true) (describes : Describes clauses rule) (allow : Bool) :
    Describes (clauses ++ [.unknown allow]) { rule with allowsUnknown := allow } where
  keys_eq := by
    simp only [Clauses.entries_concat, Clause.entries, List.append_nil, describes.keys_eq]
  mem_patterns expression := by
    simp only [Clauses.expressions_concat, Clause.expression?, Option.toList_none, List.append_nil,
      describes.mem_patterns]
  allows_eq := (Clauses.allow_concat known (.unknown allow)).symm

end KeyRule.Describes

/-! ## Key maps among the rules -/

/-- The key map that a rule is. -/
def Rule.keyRule? : Rule σ → Option (KeyRule σ)
  | keys rule => some rule
  | _ => none

/-- What a call of the rule with these arguments says about the members of an object. -/
def Rule.clause? {τ : Type} (rule : Rule τ) (arguments : Arguments σ) : Option (Clause σ) :=
  match rule with
  | keys _ => arguments.keys.toOption.map .keys
  | pattern _ => arguments.regex.toOption.map .pattern
  | allowUnknown => (arguments.flag 0).toOption.map .unknown
  | _ => none

/-- What a rule says of members is told by the call that it comes from. -/
theorem Rule.clause?_unwired {τ : Type} (rule : Rule τ) (arguments : Arguments σ) :
    rule.unwired.clause? arguments = rule.clause? arguments := by
  cases rule <;> rfl

/-- A rule has a key map exactly if it comes from a call of `keys`. -/
theorem Rule.isSome_keyRule? (rule : Rule σ) :
    rule.keyRule?.isSome = true ↔ rule.unwired = .keys ⟨[], [], false, false⟩ := by
  cases rule <;> simp [keyRule?, unwired]

/-- A call of the rule says something about the members of an object. -/
def Rule.tellsOfMembers : Rule σ → Bool
  | keys _ | pattern _ | allowUnknown => true
  | _ => false

/-- Whether a rule says anything of members is told by the call that it comes from. -/
theorem Rule.tellsOfMembers_unwired (rule : Rule σ) : rule.unwired.tellsOfMembers = rule.tellsOfMembers := by
  cases rule <;> rfl

/-- What the change makes of a key map. -/
def Change.onKeys : Change σ → KeyRule σ → KeyRule σ
  | keys entries patterns, rule =>
    { rule with keys := Members.putAll rule.keys entries, patterns := rule.patterns ++ patterns }
  | keysUnknown allow, rule => { rule with allowsUnknown := allow }
  | _, rule => rule

/-- The changes of other rules do nothing to key maps. -/
theorem Rule.onKeys_of_makes {own : Rule σ} (silent : own.tellsOfMembers = false) {change : Change σ}
    (makes : own.makes change = true) : change.onKeys = id := by
  cases change with
  | keys entries patterns =>
      cases own with
      | keys _ | pattern _ => cases silent
      | check test => cases test <;> cases makes
      | _ => cases makes
  | keysUnknown allow =>
      rw [eq_allowUnknown_of_makes (.inl makes)] at silent
      cases silent
  | _ => rfl

namespace Instance

/-- What the call of an instance says about the members of an object. -/
def clause? (entry : Instance σ) : Option (Clause σ) :=
  entry.rule.clause? entry.arguments

/-- Instances of one call say the same of members. -/
theorem clause?_of_call {left right : Instance σ} (same : left.call = right.call) : left.clause? = right.clause? := by
  obtain ⟨unwired, arguments⟩ := Prod.mk.inj same
  rw [clause?, clause?, ← Rule.clause?_unwired, unwired, arguments, Rule.clause?_unwired]

/-- The key maps among some entries. -/
def keyRules (entries : List (Instance σ)) : List (KeyRule σ) :=
  entries.filterMap fun entry => entry.rule.keyRule?

/-- The key maps of a list are those of its rules. -/
theorem mem_keyRules {entries : List (Instance σ)} {rule : KeyRule σ} :
    rule ∈ keyRules entries ↔ ∃ entry ∈ entries, entry.rule.keyRule? = some rule :=
  List.mem_filterMap

/-- Key maps are changed as the rules are. -/
theorem isView_keyRule? : IsView (fun entry : Instance σ => entry.rule.keyRule?) Change.onKeys := by
  rintro ⟨rule, arguments⟩ standard change
  cases rule with
  | declared declaration => exact absurd rfl (standard.ne_declared declaration)
  | listing kind set operating =>
      obtain ⟨later, still, same⟩ := exists_changed_listing kind set operating arguments change
      show (changed _ change).rule.keyRule? = none
      rw [same]
      rfl
  | _ => cases change <;> rfl

section Changed

variable {entries : List (Instance σ)} {rule : KeyRule σ} {change : Change σ}

/-- What is handed to the first key map, or said to the last one, reaches every key map and no other rule. -/
theorem amend_keyRule? (reaches : (∃ additions patterns, change = .keys additions patterns) ∨
      ∃ allow, change = .keysUnknown allow) (entry : Instance σ) :
    (entry.amend change.amendment).map (fun next => next.rule.keyRule?) =
      entry.rule.keyRule?.bind fun seen => (some (change.onKeys seen)).map some := by
  obtain ⟨own, arguments⟩ := entry
  rcases reaches with ⟨additions, patterns, rfl⟩ | ⟨allow, rfl⟩ <;> cases own <;> rfl

/-- A change to the first possible key map is seen in the first key map. -/
theorem map_keyRules_firstChanged? (additions : Members σ) (patterns : List Regex) :
    (firstChanged? entries (.keys additions patterns)).map keyRules =
      amendFirst? (fun rule => some ((Change.keys additions patterns).onKeys rule)) (keyRules entries) :=
  filterMap_amendFirst? fun entry _ => amend_keyRule? (.inl ⟨additions, patterns, rfl⟩) entry

/-- What is said to the last key map is said to the only one. -/
theorem keyRules_lastChanged (single : (keyRules entries).length ≤ 1) (allow : Bool) :
    keyRules (lastChanged entries (.keysUnknown allow)) =
      (keyRules entries).map (Change.keysUnknown allow).onKeys := by
  have reached : (amendLast? (Instance.amend (Change.keysUnknown allow).amendment) entries).map keyRules =
      amendLast? (fun rule => some ((Change.keysUnknown allow).onKeys rule)) (keyRules entries) :=
    filterMap_amendLast? fun entry _ => amend_keyRule? (.inr ⟨allow, rfl⟩) entry
  unfold lastChanged
  cases found : keyRules entries with
  | nil =>
      rw [found, amendLast?, Option.map_eq_none_iff] at reached
      rw [reached, Option.getD_none, found, List.map_nil]
  | cons rule rest =>
      rw [found, List.length_cons] at single
      obtain rfl := List.length_eq_zero_iff.mp (Nat.le_zero.mp (Nat.le_of_succ_le_succ single))
      rw [found] at reached
      obtain ⟨changed, made, shown⟩ := Option.map_eq_some_iff.mp reached
      rw [made, Option.getD_some, shown]
      rfl

end Changed

variable [Identified σ] {entry : Instance σ} {deed : Deed σ} {before after : List (Instance σ)} {clauses : Clauses σ}

/-- A rule that is no key map takes none away, nor does it bring one. -/
theorem keyRules_before_afterRound (own : entry.IsStandard) (earlier : ∀ other ∈ before, other.IsStandard)
    (found : entry.deed = .ok deed) (noKeys : entry.rule.keyRule? = none) :
    keyRules (entry.afterRound deed before after).before = keyRules (deed.onBefore before).2 := by
  rw [← Option.not_isSome_iff_eq_none, Rule.isSome_keyRule?] at noKeys
  have wired : (entry.wiredBy deed ⟨before, after⟩).rule.keyRule? = none := by
    rw [← Option.not_isSome_iff_eq_none, Rule.isSome_keyRule?, (Prod.mk.inj (call_wiredBy own found _)).1]
    exact noKeys
  unfold keyRules
  rw [filterMap_before_afterRound own earlier found, wired, Option.toList_none, ite_self, List.append_nil]
  intro _ other _ seen same
  exact noKeys (same ▸ (Rule.isSome_keyRule? _).mp seen)

end Instance

namespace Clauses

/-- What the clauses so far tell of the key maps: those that have been wired, of which there is one at most, and those
that wait. -/
structure Told (clauses : Clauses σ) (state : Siblings (Instance σ)) : Prop where
  settled : clauses.haveKeys = false ∧ Instance.keyRules state.before = [] ∨
    clauses.haveKeys = true ∧ ∃ rule, Instance.keyRules state.before = [rule] ∧ rule.Describes clauses
  waiting : ∀ rule ∈ Instance.keyRules state.after, rule = ⟨[], clauses.expressions, false, false⟩

variable {clauses : Clauses σ} {entry : Instance σ} {deed : Deed σ} {before after : List (Instance σ)}

/-- There is one key map at most. -/
theorem Told.single {state : Siblings (Instance σ)} (told : clauses.Told state) :
    (Instance.keyRules state.before).length ≤ 1 := by
  rcases told.settled with ⟨-, none⟩ | ⟨-, rule, only, -⟩
  · rw [none]
    exact Nat.zero_le 1
  · rw [only]
    exact Nat.le_refl 1

/-- A key map that waits has nothing but the expressions of the clauses so far. -/
theorem Told.waiting_after (told : clauses.Told ⟨before, entry :: after⟩) :
    ∀ rule ∈ Instance.keyRules after, rule = ⟨[], clauses.expressions, false, false⟩ := by
  intro rule member
  obtain ⟨other, waits, own⟩ := Instance.mem_keyRules.mp member
  exact told.waiting rule (Instance.mem_keyRules.mpr ⟨other, List.mem_cons_of_mem _ waits, own⟩)

variable [Identified σ]

/-- A key map hands its entries over to the first one, or is the first one itself. -/
theorem Told.afterRound_keys (told : clauses.Told ⟨before, entry :: after⟩) (own : entry.IsStandard)
    (earlier : ∀ other ∈ before, other.IsStandard) (found : entry.deed = .ok deed) {rule : KeyRule σ}
    (keys : entry.rule = .keys rule) {entries : Members σ}
    (gathers : deed = .gathering [] (.keys entries rule.patterns) (.keys { rule with patterns := [] })
      (.keys { rule with keys := Members.putAll rule.keys entries, operating := true })) :
    Told (clauses ++ [.keys entries]) (entry.afterRound deed before after) := by
  have member : rule ∈ Instance.keyRules (entry :: after) :=
    Instance.mem_keyRules.mpr ⟨entry, List.mem_cons_self, by rw [keys]; rfl⟩
  obtain rfl := told.waiting rule member
  have onBefore := Deed.onBefore_gathering [] (.keys entries clauses.expressions)
    (.keys ⟨[], [], false, false⟩) (.keys ⟨Members.putAll [] entries, clauses.expressions, false, true⟩) before
  rw [← show deed = _ from gathers, Instance.map_changedBy_nil] at onBefore
  have taken := @Instance.map_keyRules_firstChanged? _ before entries clauses.expressions
  constructor
  · rw [haveKeys_concat, Clause.isKeys, Bool.or_true]
    refine .inr ⟨rfl, ?_⟩
    rcases told.settled with ⟨nothing, none⟩ | ⟨known, only, shown, describes⟩
    · -- There is no key map yet.
      rw [none, amendFirst?, Option.map_eq_none_iff] at taken
      rw [taken] at onBefore
      have wired : (entry.wiredBy deed ⟨before, after⟩).rule =
          .keys ⟨Members.putAll [] entries, clauses.expressions, false, true⟩ := by
        rw [Instance.wiredBy, onBefore, gathers]
        rfl
      refine ⟨_, ?_, .first nothing entries true⟩
      unfold Instance.keyRules at none ⊢
      rw [Instance.filterMap_before_afterRound own earlier found, onBefore, none, wired]
      · rfl
      · intro _ other stands seen
        rw [onBefore] at stands
        obtain ⟨rule, shown⟩ := Option.isSome_iff_exists.mp seen
        have among : rule ∈ before.filterMap fun entry => entry.rule.keyRule? :=
          List.mem_filterMap.mpr ⟨other, stands, shown⟩
        rw [none] at among
        cases among
    · -- The one that is there takes the entries.
      rw [shown, amendFirst?] at taken
      obtain ⟨changed, made, outcome⟩ := Option.map_eq_some_iff.mp taken
      rw [made] at onBefore
      have idle : (entry.wiredBy deed ⟨before, after⟩).rule.operates = false := by
        rw [Instance.wiredBy, onBefore, gathers]
        rfl
      rw [Instance.before_afterRound_of_idle idle, onBefore]
      exact ⟨_, outcome, describes.further known entries⟩
  · rw [Instance.afterRound, Deed.map_onEach_of_silent (gathers ▸ rfl), expressions_concat, Clause.expression?,
      Option.toList_none, List.append_nil]
    · exact told.waiting_after
    · intro expression same
      cases same

/-- All key maps hear of a pattern, those that wait and the one that is there. -/
theorem Told.afterRound_pattern (told : clauses.Told ⟨before, entry :: after⟩) (own : entry.IsStandard)
    (earlier : ∀ other ∈ before, other.IsStandard) (later : ∀ other ∈ after, other.IsStandard)
    (found : entry.deed = .ok deed) (noKeys : entry.rule.keyRule? = none) {expression : Regex}
    {rule : Bool → Bool → Rule σ} (tells : deed = ⟨[.keys [] [expression]], [], none, rule⟩) :
    Told (clauses ++ [.pattern expression]) (entry.afterRound deed before after) := by
  have outcome : (deed.onBefore before).2 = before.map (Instance.changedBy [.keys [] [expression]]) := by
    rw [tells]
    rfl
  have same : haveKeys (clauses ++ [.pattern expression]) = clauses.haveKeys :=
    (haveKeys_concat clauses _).trans (Bool.or_false _)
  constructor
  · rw [same, Instance.keyRules_before_afterRound own earlier found noKeys, outcome, Instance.keyRules,
      Instance.isView_keyRule?.filterMap_changedBy earlier, ← Instance.keyRules]
    rcases told.settled with ⟨nothing, none⟩ | ⟨known, only, shown, describes⟩
    · exact .inl ⟨nothing, by rw [none, List.map_nil]⟩
    · rw [shown]
      exact .inr ⟨known, _, rfl, describes.pattern known expression⟩
  · intro other member
    rw [Instance.afterRound, Deed.onEach, tells, Instance.keyRules,
      Instance.isView_keyRule?.filterMap_changedBy later] at member
    obtain ⟨waited, stands, rfl⟩ := List.mem_map.mp member
    rw [told.waiting_after waited stands, expressions_concat]
    rfl

/-- What is said about unknown members is said to the key map that is there. -/
theorem Told.afterRound_unknown (told : clauses.Told ⟨before, entry :: after⟩) (own : entry.IsStandard)
    (earlier : ∀ other ∈ before, other.IsStandard) (found : entry.deed = .ok deed)
    (noKeys : entry.rule.keyRule? = none) {allow : Bool}
    (tells : deed = .modifying [] [.keysUnknown allow, .patternUnknown allow] .allowUnknown) :
    Told (clauses ++ [.unknown allow]) (entry.afterRound deed before after) := by
  have silent : deed.everywhere = [] := tells ▸ rfl
  have outcome : (deed.onBefore before).2 =
      lastChanged (lastChanged before (.keysUnknown allow)) (.patternUnknown allow) := by
    have all : (deed.onBefore before).2 =
        lastChanged (lastChanged (before.map deed.onEach) (.keysUnknown allow)) (.patternUnknown allow) := by
      rw [tells]
      rfl
    rw [all, Deed.map_onEach_of_silent silent]
  have standard : ∀ other ∈ lastChanged before (.keysUnknown allow), other.IsStandard :=
    Change.standard_of_becomes earlier (becomes_lastChanged (List.mem_singleton.mpr rfl) before)
  have keyRules : Instance.keyRules (entry.afterRound deed before after).before =
      (Instance.keyRules before).map (Change.keysUnknown allow).onKeys := by
    rw [Instance.keyRules_before_afterRound own earlier found noKeys, outcome,
      ← Instance.keyRules_lastChanged told.single]
    refine Instance.isView_keyRule?.filterMap_becomes standard (fun change member => ?_)
      (becomes_lastChanged (List.mem_singleton.mpr rfl) _)
    obtain rfl := List.mem_singleton.mp member
    rfl
  have same : haveKeys (clauses ++ [.unknown allow]) = clauses.haveKeys :=
    (haveKeys_concat clauses _).trans (Bool.or_false _)
  constructor
  · rw [same, keyRules]
    rcases told.settled with ⟨nothing, none⟩ | ⟨known, only, shown, describes⟩
    · exact .inl ⟨nothing, by rw [none, List.map_nil]⟩
    · rw [shown]
      exact .inr ⟨known, _, rfl, describes.unknown known allow⟩
  · rw [Instance.afterRound, Deed.map_onEach_of_silent silent, expressions_concat]
    simpa only [Clause.expression?, Option.toList_none, List.append_nil] using told.waiting_after

/-- A rule that says nothing about members leaves the key maps as they are. -/
theorem Told.afterRound_other (told : clauses.Told ⟨before, entry :: after⟩) (own : entry.IsStandard)
    (earlier : ∀ other ∈ before, other.IsStandard) (later : ∀ other ∈ after, other.IsStandard)
    (found : entry.deed = .ok deed) (noKeys : entry.rule.keyRule? = none)
    (spares : ∀ change ∈ deed.changes, change.onKeys = id) : clauses.Told (entry.afterRound deed before after) := by
  constructor
  · rw [Instance.keyRules_before_afterRound own earlier found noKeys, Instance.keyRules,
      Instance.isView_keyRule?.filterMap_becomes earlier spares (deed.becomes_onBefore before)]
    exact told.settled
  · rw [Instance.afterRound, Instance.keyRules,
      Instance.isView_keyRule?.filterMap_becomes later spares (deed.becomes_map_onEach after)]
    exact told.waiting_after

/-- A round goes on with the clause of its call. -/
theorem Told.afterRound (told : clauses.Told ⟨before, entry :: after⟩)
    (standard : ∀ other ∈ before ++ entry :: after, other.IsStandard) (found : entry.deed = .ok deed) :
    Told (clauses ++ entry.clause?.toList) (entry.afterRound deed before after) := by
  obtain ⟨earlier, waiting⟩ := List.forall_mem_append.mp standard
  obtain ⟨own, later⟩ := List.forall_mem_cons.mp waiting
  have does : entry.rule.deed entry.arguments = .ok deed := found
  cases rule : entry.rule with
  | keys own' =>
      rw [rule] at does
      obtain ⟨entries, read, gathers⟩ := Rule.exists_of_map_eq_ok does
      rw [Instance.clause?, rule, Rule.clause?, read]
      exact told.afterRound_keys own earlier found rule gathers.symm
  | pattern own' =>
      rw [rule] at does
      obtain ⟨expression, read, next⟩ := exists_of_bind_eq_ok does
      obtain ⟨schema, -, made⟩ := exists_of_bind_eq_ok next
      rw [Instance.clause?, rule, Rule.clause?, read]
      exact told.afterRound_pattern own earlier later found (by rw [rule]; rfl) (Except.ok.inj made).symm
  | allowUnknown =>
      rw [rule] at does
      obtain ⟨allow, read, tells⟩ := Rule.exists_of_map_eq_ok does
      rw [Instance.clause?, rule, Rule.clause?, read]
      exact told.afterRound_unknown own earlier found (by rw [rule]; rfl) tells.symm
  | _ =>
      rw [Instance.clause?, rule, Rule.clause?, Option.toList_none, List.append_nil]
      · refine told.afterRound_other own earlier later found (by rw [rule]; rfl) fun change member => ?_
        exact Rule.onKeys_of_makes (by rw [rule]; rfl) ((Rule.does_of_deed found).makes change member)
      all_goals exact nofun

end Clauses

/-! ## Key maps of an assembly -/

namespace Instance

/-- Rules that say something of members are in the last tier. -/
theorem priority_of_clause? {entry : Instance σ} {clause : Clause σ} (said : entry.clause? = some clause) :
    entry.rule.priority = 100 := by
  obtain ⟨rule, arguments⟩ := entry
  cases rule <;> first | rfl | cases said

/-- A key map that has not been wired is empty. -/
theorem IsFresh.keyRule_eq {entry : Instance σ} (fresh : entry.IsFresh) {rule : KeyRule σ}
    (own : entry.rule.keyRule? = some rule) : rule = ⟨[], [], false, false⟩ := by
  unfold IsFresh at fresh
  cases keys : entry.rule with
  | keys other =>
      rw [keys] at fresh own
      obtain rfl := Option.some.inj own
      exact Rule.keys.inj fresh
  | _ =>
      rw [keys] at own
      cases own

/-- A call that says something about members and can be carried out has its clause. -/
theorem exists_clause_of_deed {entry : Instance σ} (tells : entry.rule.tellsOfMembers = true) {deed : Deed σ}
    (found : entry.deed = .ok deed) : ∃ clause, entry.clause? = some clause := by
  obtain ⟨rule, arguments⟩ := entry
  cases rule with
  | keys own =>
      obtain ⟨entries, read, -⟩ := Rule.exists_of_map_eq_ok found
      exact ⟨.keys entries, by rw [clause?, Rule.clause?, read]; rfl⟩
  | pattern own =>
      obtain ⟨expression, read, -⟩ := exists_of_bind_eq_ok found
      exact ⟨.pattern expression, by rw [clause?, Rule.clause?, read]; rfl⟩
  | allowUnknown =>
      obtain ⟨allow, read, -⟩ := Rule.exists_of_map_eq_ok found
      exact ⟨.unknown allow, by rw [clause?, Rule.clause?, read]; rfl⟩
  | _ => cases tells

variable [Identified σ]

/-- No such call goes without its clause in an assembly that comes to an end. -/
theorem exists_clause_of_assemble {entries kept : List (Instance σ)} (standard : ∀ entry ∈ entries, entry.IsStandard)
    (assembled : assemble entries = .ok kept) :
    ∀ entry ∈ entries, entry.rule.tellsOfMembers = true → ∃ clause, entry.clause? = some clause := by
  intro entry member tells
  obtain ⟨wired, same, deed, found⟩ := exists_deed_of_assemble standard assembled entry member
  rw [← clause?_of_call same]
  refine exists_clause_of_deed ?_ found
  rw [← Rule.tellsOfMembers_unwired, (Prod.mk.inj same).1, Rule.tellsOfMembers_unwired, tells]

/-- The clauses have a key map exactly if one is called for. -/
theorem haveKeys_iff_of_assemble {entries kept : List (Instance σ)} (standard : ∀ entry ∈ entries, entry.IsStandard)
    (assembled : assemble entries = .ok kept) :
    Clauses.haveKeys (entries.filterMap clause?) = true ↔ ∃ entry ∈ entries, entry.IsKeys := by
  rw [Clauses.haveKeys_iff]
  constructor
  · rintro ⟨keys, listed⟩
    obtain ⟨⟨rule, arguments⟩, member, said⟩ := List.mem_filterMap.mp listed
    cases rule with
    | keys rule => exact ⟨_, member, rfl⟩
    | pattern rule | allowUnknown =>
        obtain ⟨_, -, same⟩ := Option.map_eq_some_iff.mp said
        cases same
    | _ => cases said
  · rintro ⟨entry, member, keys⟩
    obtain ⟨rule, own⟩ := Option.isSome_iff_exists.mp ((Rule.isSome_keyRule? entry.rule).mpr keys)
    obtain ⟨own', arguments⟩ := entry
    cases own' with
    | keys rule =>
        obtain ⟨clause, said⟩ := exists_clause_of_assemble standard assembled _ member rfl
        obtain ⟨entries, -, rfl⟩ := Option.map_eq_some_iff.mp said
        exact ⟨entries, List.mem_filterMap.mpr ⟨_, member, said⟩⟩
    | _ => cases own

/-- **The key map.**  The clauses of all calls tell all about the one key map that comes out of an assembly; there is
none if there is no call of one. -/
theorem keyRules_assemble {entries kept : List (Instance σ)}
    (fresh : ∀ entry ∈ entries, entry.IsStandard ∧ entry.IsFresh) (assembled : assemble entries = .ok kept) :
    (Clauses.haveKeys (entries.filterMap clause?) = false ∧ keyRules kept = []) ∨
      Clauses.haveKeys (entries.filterMap clause?) = true ∧
        ∃ rule, keyRules kept = [rule] ∧ rule.Describes (entries.filterMap clause?) := by
  have start : Clauses.Told [] (⟨[], wiring.ordered entries⟩ : Siblings (Instance σ)) := by
    refine ⟨.inl ⟨rfl, rfl⟩, fun rule member => ?_⟩
    obtain ⟨entry, stands, own⟩ := mem_keyRules.mp member
    exact (fresh entry ((wiring.ordered_perm entries).mem_iff.mp stands)).2.keyRule_eq own
  obtain ⟨state, rfl, told⟩ := assemble_told Clauses.Told clause?_of_call
    (fun standard found told => told.afterRound standard found) (fun entry member => (fresh entry member).1) assembled start
  rw [wiring.filterMap_ordered_of_level fun entry clause said => priority_of_clause? said] at told
  exact told.settled

end Instance

end Vetting

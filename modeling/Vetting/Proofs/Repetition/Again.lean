import Vetting.Proofs.Repetition.Lookalikes
import Vetting.Proofs.Repetition.Standing

/-!
# The same call again

When a call comes again, its siblings have heard of what it does, so they come to the same as before; but a
rule that stays then stands behind all others of its tier (`Instance.exists_again`).  The tiers above find
lists that look alike, and leave such lists behind (`Instance.assemble_again`).
-/

namespace Vetting

variable {σ : Type}

namespace Instance

theorem stays_of_call {entry next : Instance σ} (same : next.call = entry.call) :
    next.rule.stays = entry.rule.stays := by
  rw [← Rule.stays_unwired, (Prod.mk.inj same).1, Rule.stays_unwired]

/-- A rule that stays is the same wherever it is wired, as long as there is a key map or none. -/
theorem wiredBy_eq_of_stays {entry : Instance σ} {deed : Deed σ} (does : entry.rule.Does deed)
    (stays : entry.rule.stays = true) {first second : Siblings (Instance σ)}
    (sameKeys : Deed.knowsKeys first = Deed.knowsKeys second) :
    entry.wiredBy deed first = entry.wiredBy deed second := by
  have nothing := does.handedOver_of_stays stays
  simp only [wiredBy, Deed.onBefore, nothing, Option.bind_none, sameKeys]

theorem not_isKeys_of_stays {entry : Instance σ} (stays : entry.rule.stays = true) : ¬ entry.IsKeys := by
  intro keys
  rw [← Rule.stays_unwired, keys] at stays
  cases stays

/-- The second list resembles the first one, in which the rule of the call has been moved behind those of the
given calls. -/
def Moved (own : Instance σ) (calls : List (Blueprint × Arguments σ)) (before after : List (Instance σ)) : Prop :=
  ∃ front kept back, before = front ++ kept :: back ∧ kept.call = own.call ∧ (∀ other ∈ back, other.call ∈ calls) ∧
    List.Forall₂ Instance.Resembles (front ++ back ++ [kept]) after

/-- What the earlier entries become when the call comes again. -/
structure Again (own : Instance σ) (calls : List (Blueprint × Arguments σ)) (before after : List (Instance σ)) :
    Prop where
  settled : own.rule.stays = false → List.Forall₂ Instance.Resembles before after
  moved : own.rule.stays = true → Moved own calls before after

/-- What comes of one call again comes of any instance of the same call. -/
theorem Again.of_call {own next : Instance σ} {calls : List (Blueprint × Arguments σ)}
    {before after : List (Instance σ)} (same : next.call = own.call) (again : Again next calls before after) :
    Again own calls before after where
  settled gone := again.settled ((stays_of_call same).trans gone)
  moved stays := by
    obtain ⟨front, kept, back, split, repeated, known⟩ := again.moved ((stays_of_call same).trans stays)
    exact ⟨front, kept, back, split, repeated.trans same, known⟩

variable [Identified σ]

section Round

variable {own : Instance σ} {deed : Deed σ} {before after : List (Instance σ)}

/-- Where nothing stays, a call that comes again leaves its siblings as they are. -/
theorem resembles_afterRound (found : own.deed = .ok deed) (asleep : own.rule.Asleep)
    (standard : ∀ other ∈ before ++ own :: after, other.IsStandard) (gone : own.rule.stays = false)
    (heard : deed.Heard before (own :: after)) :
    List.Forall₂ Instance.Resembles before (own.afterRound deed before after).before := by
  have ownStandard := standard own (List.mem_append_right _ List.mem_cons_self)
  obtain ⟨taken, same⟩ := heard.onBefore fun other member => standard other (List.mem_append_left _ member)
  have idle : (own.wiredBy deed ⟨before, after⟩).rule.operates = false :=
    (Rule.does_of_deed found).operates_of_not_stays ownStandard asleep gone taken _
  rw [before_afterRound_of_idle idle]
  exact same

/-- A rule that stays is moved to the end by the call that comes again. -/
theorem moved_afterRound (found : own.deed = .ok deed) (self : wiring.same own own = true)
    (standard : ∀ other ∈ before ++ own :: after, other.IsStandard) (stays : own.rule.stays = true)
    (heard : deed.Heard before (own :: after)) {calls : List (Blueprint × Arguments σ)}
    (stands : Stands (own.wiredBy deed ⟨before, after⟩) calls before) :
    Moved own calls before (own.afterRound deed before after).before := by
  have ownStandard := standard own (List.mem_append_right _ List.mem_cons_self)
  have wiredCall := call_wiredBy ownStandard found ⟨before, after⟩
  have operates : (own.wiredBy deed ⟨before, after⟩).rule.operates = true :=
    (Rule.does_of_deed found).operates_of_stays stays _ _
  obtain ⟨-, same⟩ := heard.onBefore fun other member => standard other (List.mem_append_left _ member)
  rw [Moved, before_afterRound_of_operates operates]
  generalize own.wiredBy deed ⟨before, after⟩ = wired at *
  obtain ⟨front, back, rfl, others, known⟩ := stands
  obtain ⟨first, next, last, siblings, frontSame, here, backSame⟩ := exists_split_of_forall₂ same
  have retained : ∀ {left right : List (Instance σ)}, (∀ other ∈ left, wiring.same other wired = false) →
      List.Forall₂ Instance.Resembles left right →
        right.filter (fun other => !wiring.same other wired) = right := by
    intro left right unlike alike
    refine List.filter_eq_self.mpr fun other member => ?_
    obtain ⟨origin, inside, resembles⟩ := exists_of_mem_right alike member
    rw [same_of_call resembles.call_eq.symm rfl, unlike origin inside]
    rfl
  have dropped : (!wiring.same next wired) ≠ true := by
    rw [same_of_call (here.call_eq.symm.trans wiredCall) wiredCall, self]
    exact Bool.false_ne_true
  refine ⟨front, wired, back, rfl, wiredCall, known, ?_⟩
  rw [siblings, List.filter_append, List.filter_cons_of_neg (p := fun other => !wiring.same other wired) dropped,
    retained (fun other member => others other (List.mem_append_left _ member)) frontSame,
    retained (fun other member => others other (List.mem_append_right _ member)) backSame]
  exact List.rel_append (List.rel_append frontSame backSame) (.cons (.refl wired) .nil)

end Round

/-- The second instance is of the tier of the first one, with which it does not meddle, and it is not the same
call. -/
structure Aside (own other : Instance σ) : Prop where
  level : other.rule.priority = own.rule.priority
  apart : other.rule.meddles own.rule = false
  unlike : wiring.same other own = false ∧ wiring.same own other = false

theorem Aside.of_call {own other ownNow otherNow : Instance σ} (aside : own.Aside other)
    (one : ownNow.call = own.call) (two : otherNow.call = other.call) : ownNow.Aside otherNow where
  level := by rw [priority_of_call one, priority_of_call two, aside.level]
  apart := by rw [meddles_of_call two one, aside.apart]
  unlike := by rw [same_of_call two one, same_of_call one two]; exact aside.unlike

/-- A call that has been wired comes again after the others of its tier. -/
theorem exists_again_of_heard {own : Instance σ} {deed : Deed σ} {before queue back : List (Instance σ)}
    {state first : Siblings (Instance σ)} (found : own.deed = .ok deed)
    (standard : ∀ other ∈ before ++ (queue ++ own :: back), other.IsStandard)
    (asleep : ∀ other ∈ own :: queue, other.rule.Asleep) (self : wiring.same own own = true)
    (aside : ∀ other ∈ queue, own.Aside other) (heard : deed.Heard before (queue ++ own :: back))
    (sameKeys : Deed.knowsKeys ⟨before, queue ++ back⟩ = Deed.knowsKeys ⟨before, queue ++ own :: back⟩)
    (firstKeys : Deed.knowsKeys first = Deed.knowsKeys ⟨before, queue ++ own :: back⟩)
    (stands : own.rule.stays = true → Stands (own.wiredBy deed first) [] before)
    (ended : wiring.rounds queue.length ⟨before, queue ++ back⟩ = .ok state) :
    ∃ (next : Instance σ) (again : Deed σ) (after : List (Instance σ)),
      next.call = own.call ∧ next.deed = .ok again ∧
      wiring.rounds (queue.length + 1) ⟨before, queue ++ own :: back⟩ =
        .ok ⟨after, state.after.map again.onEach⟩ ∧
      Again own (loudCalls queue) state.before after := by
  have ownStandard : own.IsStandard := standard own (by simp)
  have backStandard : ∀ other ∈ own :: back, other.IsStandard := by
    intro other member
    exact standard other (List.mem_append_right _ (List.mem_append_right _ member))
  have withoutStandard : ∀ other ∈ before ++ (queue ++ back), other.IsStandard := by
    intro other member
    simp only [List.mem_append, List.mem_cons] at member standard
    refine standard other ?_
    tauto
  obtain ⟨translate, becomes, endedAgain, waiting⟩ := rounds_waiting withoutStandard backStandard sameKeys ended
  obtain ⟨stateStandard, stateKeys⟩ := standard_rounds endedAgain standard
  obtain ⟨last, again, others, rest, read, stillHeard⟩ := Deed.Heard.rounds found standard
    (fun other member => asleep other (List.mem_cons_of_mem _ member)) (fun other member => (aside other member).apart)
    (fun other member => (aside other member).level) heard endedAgain
  simp only [List.map_cons, ← waiting, List.cons.injEq] at rest
  obtain ⟨rfl, rfl⟩ := rest
  simp only [List.map_cons, ← waiting] at endedAgain stateStandard stateKeys stillHeard
  obtain ⟨changes, ownBecomes⟩ := becomes own
  have nextStandard : (translate own).IsStandard := ownStandard.of_call_eq ownBecomes.call_eq
  have nextAsleep := ownBecomes.asleep (asleep own List.mem_cons_self)
  have nextStays := stays_of_call ownBecomes.call_eq
  have wholeEnd : wiring.rounds (queue.length + 1) ⟨before, queue ++ own :: back⟩ =
      .ok ((translate own).afterRound again state.before state.after) := by
    rw [Wiring.rounds_add, endedAgain]
    exact (Wiring.rounds_one _).trans ((round_eq_ok nextStandard).mpr ⟨again, read, rfl⟩)
  refine ⟨translate own, again, _, ownBecomes.call_eq, read, wholeEnd, ?_, ?_⟩
  · intro gone
    exact resembles_afterRound read nextAsleep stateStandard (nextStays.trans gone) stillHeard
  · intro stays
    obtain ⟨⟨more, untouched⟩, standing⟩ := (stands stays).rounds
      (call_wiredBy ownStandard found first) stays standard (fun other member => (aside other member).apart)
      (fun other member => (aside other member).level) (fun other member => (aside other member).unlike) endedAgain
    obtain ⟨same, -⟩ := List.cons.inj untouched
    rw [same] at read stateStandard stillHeard stateKeys ⊢
    obtain rfl : deed = again := Except.ok.inj (found.symm.trans read)
    have keys : Deed.knowsKeys ⟨state.before, state.after⟩ = Deed.knowsKeys first := by
      rw [← knowsKeys_cons (not_isKeys_of_stays stays), stateKeys, firstKeys]
    rw [List.append_nil, wiredBy_eq_of_stays (Rule.does_of_deed found) stays keys.symm] at standing
    exact moved_afterRound found self stateStandard stays stillHeard standing

/-- A call is wired, then the others of its tier, and then the same call again. -/
theorem exists_again_of_head {own : Instance σ} {before queue back : List (Instance σ)}
    {state : Siblings (Instance σ)} (standard : ∀ other ∈ before ++ own :: (queue ++ back), other.IsStandard)
    (asleep : ∀ other ∈ own :: queue, other.rule.Asleep) (self : wiring.same own own = true)
    (aside : ∀ other ∈ queue, own.Aside other)
    (ended : wiring.rounds (queue.length + 1) ⟨before, own :: (queue ++ back)⟩ = .ok state) :
    ∃ (next : Instance σ) (again : Deed σ) (after : List (Instance σ)),
      next.call = own.call ∧ next.deed = .ok again ∧
      wiring.rounds (queue.length + 1 + 1) ⟨before, own :: (queue ++ own :: back)⟩ =
        .ok ⟨after, state.after.map again.onEach⟩ ∧
      Again own (loudCalls queue) state.before after := by
  have ownStandard : own.IsStandard := standard own (List.mem_append_right _ List.mem_cons_self)
  have standardAgain : ∀ other ∈ before ++ own :: (queue ++ own :: back), other.IsStandard := by
    intro other member
    simp only [List.mem_append, List.mem_cons] at member standard
    refine standard other ?_
    tauto
  have sameKeys : Deed.knowsKeys ⟨before, own :: (queue ++ back)⟩ =
      Deed.knowsKeys ⟨before, own :: (queue ++ own :: back)⟩ := by
    refine knowsKeys_congr fun other => ?_
    simp only [List.mem_append, List.mem_cons]
    tauto
  have knownKeys : Deed.knowsKeys ⟨before, queue ++ own :: back⟩ =
      Deed.knowsKeys ⟨before, own :: (queue ++ own :: back)⟩ := by
    refine knowsKeys_congr fun other => ?_
    simp only [List.mem_append, List.mem_cons]
    tauto
  obtain ⟨deed, found, further⟩ := (rounds_succ_eq_ok ownStandard).mp ended
  have untouched : deed.onEach own = own :=
    (deed.becomes_onEach own).eq ownStandard (Deed.reaches_own (Rule.does_of_deed found))
  have outcome : own.afterRound deed before (queue ++ back) =
      ⟨(own.afterRound deed before (queue ++ own :: back)).before,
        queue.map deed.onEach ++ back.map deed.onEach⟩ := by
    simp only [afterRound, wiredBy_eq found sameKeys, List.map_append]
  have outcomeAgain : own.afterRound deed before (queue ++ own :: back) =
      ⟨(own.afterRound deed before (queue ++ own :: back)).before,
        queue.map deed.onEach ++ own :: back.map deed.onEach⟩ := by
    simp only [afterRound, List.map_append, List.map_cons, untouched]
  have keys := knowsKeys_afterRound found standard
  have keysAgain := knowsKeys_afterRound found standardAgain
  have heard := Deed.Heard.ofRound found (asleep own List.mem_cons_self) standardAgain
  have nextStandard := standard_afterRound found standardAgain
  have stands := fun stays => Stands.ofRound found stays before (queue ++ own :: back)
  rw [outcome] at keys further
  rw [outcomeAgain] at keysAgain heard nextStandard
  rw [← List.length_map (f := deed.onEach)] at further
  obtain ⟨next, again, after, repeated, read, more, become⟩ := exists_again_of_heard found nextStandard
    (by
      intro other member
      rcases List.mem_cons.mp member with rfl | inside
      · exact asleep other List.mem_cons_self
      · obtain ⟨origin, stood, rfl⟩ := List.mem_map.mp inside
        exact (deed.becomes_onEach origin).asleep (asleep origin (List.mem_cons_of_mem _ stood)))
    self
    (by
      intro other member
      obtain ⟨origin, stood, rfl⟩ := List.mem_map.mp member
      exact (aside origin stood).of_call rfl (deed.becomes_onEach origin).call_eq)
    heard (keys.trans (sameKeys.trans keysAgain.symm)) (knownKeys.trans keysAgain.symm) stands further
  refine ⟨next, again, after, repeated, read, ?_, ?_⟩
  · refine (rounds_succ_eq_ok ownStandard).mpr ⟨deed, found, ?_⟩
    rw [outcomeAgain, ← more, List.length_map]
  · rwa [loudCalls_map fun other => (deed.becomes_onEach other).call_eq] at become

/-- **The same call again.**  What the rounds up to the end of its tier leave behind, those with the same call
once more leave behind as well, up to the place of a rule that stays. -/
theorem exists_again {own : Instance σ} {front queue back : List (Instance σ)} {state : Siblings (Instance σ)}
    (standard : ∀ other ∈ front ++ own :: (queue ++ back), other.IsStandard)
    (asleep : ∀ other ∈ own :: queue, other.rule.Asleep) (self : wiring.same own own = true)
    (aside : ∀ other ∈ queue, own.Aside other)
    (ended : wiring.rounds (front.length + (queue.length + 1)) ⟨[], front ++ own :: (queue ++ back)⟩ = .ok state) :
    ∃ (next : Instance σ) (again : Deed σ) (after : List (Instance σ)),
      next.call = own.call ∧ next.deed = .ok again ∧
      wiring.rounds (front.length + (queue.length + 1 + 1)) ⟨[], front ++ own :: (queue ++ own :: back)⟩ =
        .ok ⟨after, state.after.map again.onEach⟩ ∧
      Again own (loudCalls queue) state.before after := by
  have waitingStandard : ∀ other ∈ own :: (queue ++ own :: back), other.IsStandard := by
    intro other member
    simp only [List.mem_append, List.mem_cons] at member standard
    refine standard other ?_
    tauto
  have sameKeys : Deed.knowsKeys ⟨[], front ++ own :: (queue ++ back)⟩ =
      Deed.knowsKeys ⟨[], front ++ own :: (queue ++ own :: back)⟩ := by
    refine knowsKeys_congr fun other => ?_
    simp only [List.mem_append, List.mem_cons]
    tauto
  rw [Wiring.rounds_add] at ended
  obtain ⟨middle, earlier, later⟩ := exists_of_bind_eq_ok ended
  obtain ⟨translate, becomes, earlierAgain, waiting⟩ := rounds_waiting standard waitingStandard sameKeys earlier
  have middleStandard := (standard_rounds earlier standard).1
  have calls : ∀ other : Instance σ, (translate other).call = other.call := by
    intro other
    obtain ⟨changes, same⟩ := becomes other
    exact same.call_eq
  have split : middle = ⟨middle.before, translate own :: (queue.map translate ++ back.map translate)⟩ := by
    rw [← List.map_append, ← List.map_cons, ← waiting]
  rw [split] at later middleStandard
  rw [← List.length_map (f := translate)] at later
  obtain ⟨next, again, after, repeated, read, more, become⟩ := exists_again_of_head middleStandard
    (by
      intro other member
      rw [← List.map_cons] at member
      obtain ⟨origin, stood, rfl⟩ := List.mem_map.mp member
      obtain ⟨changes, same⟩ := becomes origin
      exact same.asleep (asleep origin stood))
    (by rw [same_of_call (calls own) (calls own), self])
    (by
      intro other member
      obtain ⟨origin, stood, rfl⟩ := List.mem_map.mp member
      exact (aside origin stood).of_call (calls own) (calls origin))
    later
  refine ⟨next, again, after, repeated.trans (calls own), read, ?_, ?_⟩
  · rw [Wiring.rounds_add, earlierAgain]
    simp only [List.map_cons, List.map_append]
    rw [← more, List.length_map]
    rfl
  · rw [loudCalls_map calls] at become
    exact become.of_call (calls own)

end Instance

/-! ## Assemblies with the same call again -/

/-- Rules below the last tier change nothing everywhere. -/
theorem Rule.Does.everywhere_eq_nil {own : Rule σ} {deed : Deed σ} (does : own.Does deed)
    (level : own.priority ≠ 100) : deed.everywhere = [] := by
  cases does with
  | listing kind set operating values =>
      cases kind with
      | invalid => exact absurd rfl level
      | valid | allow => rfl
  | pattern | insensitive | required => exact absurd rfl level
  | _ => rfl

namespace Instance

/-- A standard rule is of the last tier at most. -/
theorem IsStandard.priority_le {entry : Instance σ} (standard : entry.IsStandard) : entry.rule.priority ≤ 100 := by
  have declared := standard.ne_declared
  cases same : entry.rule with
  | declared declaration => exact absurd same (declared declaration)
  | listing kind set operating => cases kind <;> simp only [Rule.priority, Int.reduceLE]
  | _ => simp only [Rule.priority, Int.reduceLE, le_refl]

/-- Of the rules that stay only `optional` comes before the last tier. -/
theorem isOptional_of_priority {entry : Instance σ} (stays : entry.rule.stays = true)
    (level : entry.rule.priority ≠ 100) : entry.IsOptional := by
  obtain ⟨rule, arguments⟩ := entry
  cases rule with
  | optional enabled => rfl
  | any | listing _ _ _ | standIn _ _ | furtherAlternatives | keys _ | allowUnknown | allowSparse | allowSingle
  | insensitive | declared _ => cases stays
  | _ => exact absurd rfl level

/-- What an assembly becomes when a call comes again. -/
structure Repeats (own : Instance σ) (calls : List (Blueprint × Arguments σ)) (kept again : List (Instance σ)) :
    Prop where
  /-- Where nothing stays, and where nothing of the tier follows, the rules come to the same. -/
  alike : own.rule.stays = false ∨ calls = [] → Lookalikes False kept again
  loose : own.IsOptional → Lookalikes True kept again
  moved : own.rule.stays = true → ¬ own.IsOptional → Moved own calls kept again

/-- The lists look alike if the call does not stay or nothing is in between that takes part. -/
theorem Again.alike {own : Instance σ} {calls : List (Blueprint × Arguments σ)} {before after : List (Instance σ)}
    (again : Again own calls before after) (nothing : own.rule.stays = false ∨ calls = []) :
    Lookalikes False before after := by
  cases stays : own.rule.stays with
  | false => exact .of_forall₂ (again.settled stays)
  | true =>
      obtain ⟨front, kept, back, rfl, -, known, same⟩ := again.moved stays
      rcases nothing with gone | rfl
      · exact absurd (stays.symm.trans gone) Bool.false_ne_true.symm
      · obtain rfl : back = [] := List.eq_nil_iff_forall_not_mem.mpr fun other member => nomatch known other member
        rw [List.append_nil] at same
        exact .of_forall₂ same

/-- For `optional` they look alike but for its place. -/
theorem Again.loose {own : Instance σ} {calls : List (Blueprint × Arguments σ)} {before after : List (Instance σ)}
    (again : Again own calls before after) (optional : own.IsOptional) : Lookalikes True before after := by
  have stays : own.rule.stays = true := by
    rw [← Rule.stays_unwired, optional]
    rfl
  obtain ⟨front, kept, back, rfl, repeated, -, same⟩ := again.moved stays
  have keptOptional := optional.of_call_eq repeated
  have resting : ∀ entries : List (Instance σ), Lookalikes True entries entries :=
    fun entries => .of_forall₂ (Instance.Resembles.lists_refl entries)
  have moved : Lookalikes True (front ++ kept :: back) (front ++ back ++ [kept]) := by
    rw [List.append_assoc]
    refine (resting front).append (.left trivial keptOptional ?_)
    have last : Lookalikes True [] [kept] := .right trivial keptOptional .nil
    simpa only [List.append_nil] using (resting back).append last
  exact moved.trans_forall₂ same

variable [Identified σ]

/-- What an early tier has become goes on in the rounds of the later ones, to which it looks as it did. -/
theorem Again.exists_rounds {own : Instance σ} {calls : List (Blueprint × Arguments σ)}
    {before after queue : List (Instance σ)} {count : Nat} {last : Siblings (Instance σ)}
    (again : Again own calls before after) (early : own.rule.priority ≠ 100)
    (standard : ∀ other ∈ queue, other.IsStandard) (ended : wiring.rounds count ⟨before, queue⟩ = .ok last) :
    ∃ lastAgain, wiring.rounds count ⟨after, queue⟩ = .ok lastAgain ∧
      ∀ {loose : Prop}, Lookalikes loose before after → Lookalikes loose last.before lastAgain.before := by
  have ends : ∀ {loose : Prop}, Lookalikes loose before after →
      ∃ lastAgain, wiring.rounds count ⟨after, queue⟩ = .ok lastAgain ∧
        Lookalikes loose last.before lastAgain.before := by
    intro loose alike
    obtain ⟨lastAgain, endedAgain, both, -⟩ := alike.rounds standard ended
    exact ⟨lastAgain, endedAgain, both⟩
  obtain ⟨lastAgain, endedAgain⟩ : ∃ lastAgain, wiring.rounds count ⟨after, queue⟩ = .ok lastAgain := by
    cases stays : own.rule.stays with
    | false =>
        obtain ⟨lastAgain, endedAgain, -⟩ := ends (again.alike (.inl stays))
        exact ⟨lastAgain, endedAgain⟩
    | true =>
        obtain ⟨lastAgain, endedAgain, -⟩ := ends (again.loose (isOptional_of_priority stays early))
        exact ⟨lastAgain, endedAgain⟩
  refine ⟨lastAgain, endedAgain, fun alike => ?_⟩
  obtain ⟨other, also, both⟩ := ends alike
  obtain rfl := Except.ok.inj (endedAgain.symm.trans also)
  exact both

/-- **Assemblies with the same call again.**  An assembly that comes about still does if a call comes again, and
its rules are the same but for the place of one that stays, unless a rule of the tier in between meddles. -/
theorem assemble_again {own : Instance σ} {earlier later kept : List (Instance σ)}
    (standard : ∀ other ∈ earlier ++ own :: later, other.IsStandard)
    (asleep : ∀ other ∈ own :: later, other.rule.Asleep) (self : wiring.same own own = true)
    (aside : ∀ other ∈ wiring.tier own.rule.priority later, own.Aside other)
    (assembled : assemble (earlier ++ own :: later) = .ok kept) :
    ∃ again, assemble (earlier ++ own :: later ++ [own]) = .ok again ∧
      Repeats own (loudCalls (wiring.tier own.rule.priority later)) kept again := by
  obtain ⟨front, back, above, ordered, orderedAgain⟩ :=
    @Wiring.exists_around _ _ wiring earlier later own own rfl
  generalize tier : wiring.tier own.rule.priority later = queue at *
  rw [show wiring.priority own = own.rule.priority from rfl, tier] at ordered orderedAgain
  have orderedStandard : ∀ other ∈ front ++ own :: (queue ++ back), other.IsStandard := by
    intro other member
    rw [← ordered] at member
    exact standard other ((wiring.ordered_perm _).mem_iff.mp member)
  have queueAsleep : ∀ other ∈ own :: queue, other.rule.Asleep := by
    intro other member
    refine asleep other ?_
    rcases List.mem_cons.mp member with rfl | inside
    · exact List.mem_cons_self
    · rw [← tier] at inside
      exact List.mem_cons_of_mem _ (List.mem_filter.mp inside).1
  have size : (earlier ++ own :: later).length = front.length + (queue.length + 1) + back.length := by
    rw [← wiring.length_ordered, ordered]
    simp only [List.length_append, List.length_cons]
    omega
  have sizeAgain : (earlier ++ own :: later ++ [own]).length =
      front.length + (queue.length + 1 + 1) + back.length := by
    rw [List.length_append, size, List.length_singleton]
    omega
  rw [assemble, Wiring.assemble_eq] at assembled
  obtain ⟨last, ended, rfl⟩ := Rule.exists_of_map_eq_ok assembled
  rw [ordered, size, Wiring.rounds_add] at ended
  obtain ⟨state, tierEnded, further⟩ := exists_of_bind_eq_ok ended
  obtain ⟨next, deed, after, repeated, read, tierEndedAgain, become⟩ :=
    exists_again orderedStandard queueAsleep self aside tierEnded
  have assembledAgain : ∀ {state' : Siblings (Instance σ)},
      wiring.rounds back.length ⟨after, state.after.map deed.onEach⟩ = .ok state' →
        assemble (earlier ++ own :: later ++ [own]) = .ok state'.before := by
    intro state' more
    rw [assemble, Wiring.assemble_eq, orderedAgain, sizeAgain, Wiring.rounds_add, tierEndedAgain]
    exact congrArg (Except.map Siblings.before) more
  by_cases level : own.rule.priority = 100
  · -- Nothing comes after the last tier.
    have nothing : back = [] := by
      refine List.eq_nil_iff_forall_not_mem.mpr fun other member => ?_
      have higher : own.rule.priority < other.rule.priority := above other member
      have below := (orderedStandard other (by simp [member])).priority_le
      omega
    subst nothing
    obtain rfl := Except.ok.inj further
    exact ⟨after, assembledAgain rfl, become.alike, become.loose, fun stays _ => become.moved stays⟩
  · have stateStandard : ∀ other ∈ state.after, other.IsStandard := fun other member =>
      (standard_rounds tierEnded orderedStandard).1 other (List.mem_append_right _ member)
    have silent : deed.everywhere = [] := by
      refine (Rule.does_of_deed read).everywhere_eq_nil ?_
      rwa [priority_of_call repeated]
    rw [Deed.map_onEach_of_silent silent] at assembledAgain
    obtain ⟨lastAgain, endedAgain, told⟩ := become.exists_rounds level stateStandard further
    exact ⟨lastAgain.before, assembledAgain endedAgain, fun nothing => told (become.alike nothing),
      fun optional => told (become.loose optional),
      fun stays other => absurd (isOptional_of_priority stays level) other⟩

end Instance

end Vetting

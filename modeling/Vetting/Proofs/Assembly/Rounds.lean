import Vetting.Proofs.Assembly.Order

/-!
# Rounds of an assembly

One round wires the entry that has waited longest and sifts what has been settled.  An assembly is so many
rounds one after the other, so it can be followed from any point in between (`Wiring.rounds_add`).

Among the ordered entries a call stands behind all that come before it in its tier and in front of the tiers
above, and a further call of its tier comes last in it (`Wiring.exists_around`).
-/

namespace Vetting.Wiring

variable {ι ε : Type} (wiring : Wiring ι ε)

/-- Wires the next waiting entry, if there is one. -/
def round (state : Siblings ι) : Except ε (Siblings ι) :=
  match state.after with
  | [] => .ok state
  | entry :: after =>
    match wiring.wire entry ⟨state.before, after⟩ with
    | .error failure => .error failure
    | .ok (entry, siblings) => .ok ⟨wiring.sifted siblings.before entry, siblings.after⟩

/-- Wires so many waiting entries. -/
def rounds : Nat → Siblings ι → Except ε (Siblings ι)
  | 0, state => .ok state
  | count + 1, state => wiring.round state >>= rounds count

variable {wiring}

/-- A round keeps what wiring makes of its entry, and sifts the earlier ones. -/
theorem round_of_wire {entry wired : ι} {before after : List ι} {siblings : Siblings ι}
    (outcome : wiring.wire entry ⟨before, after⟩ = .ok (wired, siblings)) :
    wiring.round ⟨before, entry :: after⟩ = .ok ⟨wiring.sifted siblings.before wired, siblings.after⟩ := by
  simp only [round, outcome]

@[simp] theorem rounds_zero (state : Siblings ι) : wiring.rounds 0 state = .ok state := rfl

/-- The first of several rounds comes first. -/
@[simp] theorem rounds_succ (count : Nat) (state : Siblings ι) :
    wiring.rounds (count + 1) state = wiring.round state >>= wiring.rounds count := rfl

/-- A single round is just that. -/
@[simp] theorem rounds_one (state : Siblings ι) : wiring.rounds 1 state = wiring.round state := by
  rw [rounds_succ]
  cases wiring.round state <;> rfl

/-- Rounds may be counted in two portions. -/
theorem rounds_add (first second : Nat) (state : Siblings ι) :
    wiring.rounds (first + second) state = wiring.rounds first state >>= wiring.rounds second := by
  induction first generalizing state with
  | zero => rw [Nat.zero_add]; rfl
  | succ count ih =>
      rw [Nat.succ_add, rounds_succ, rounds_succ]
      cases wiring.round state with
      | error failure => rfl
      | ok next => exact ih next

/-- Settling is to make all rounds and to keep what has been settled. -/
theorem settle_eq (count : Nat) (before after : List ι) :
    wiring.settle count before after = (wiring.rounds count ⟨before, after⟩).map Siblings.before := by
  induction count generalizing before after with
  | zero => rw [settle]; rfl
  | succ count ih =>
      cases after with
      | nil =>
          have resting : ∀ further, wiring.rounds further ⟨before, []⟩ = .ok ⟨before, []⟩ := by
            intro further
            induction further with
            | zero => rfl
            | succ further ih => exact ih
          rw [settle, resting]
          rfl
      | cons entry rest =>
          rw [settle, rounds_succ]
          cases outcome : wiring.wire entry ⟨before, rest⟩ with
          | error failure =>
              simp only [round, outcome]
              rfl
          | ok found =>
              obtain ⟨wired, siblings⟩ := found
              simp only [round_of_wire outcome, ih]
              rfl

/-- An assembly runs one round for each entry, in order, and keeps what has come to stand before. -/
theorem assemble_eq (entries : List ι) :
    wiring.assemble entries =
      (wiring.rounds entries.length ⟨[], wiring.ordered entries⟩).map Siblings.before :=
  settle_eq ..

/-! ## The place of a call -/

/-- The entries whose priority is below that one. -/
def below (wiring : Wiring ι ε) (priority : Int) (entries : List ι) : List ι :=
  (wiring.ordered entries).filter fun entry => wiring.priority entry < priority

/-- The entries whose priority is above that one. -/
def above (wiring : Wiring ι ε) (priority : Int) (entries : List ι) : List ι :=
  (wiring.ordered entries).filter fun entry => priority < wiring.priority entry

/-- Filtering may come before the choice of a tier or after. -/
theorem tier_filter (priority : Int) (keep : ι → Bool) (entries : List ι) :
    wiring.tier priority (entries.filter keep) = (wiring.tier priority entries).filter keep := by
  unfold tier
  rw [List.filter_filter, List.filter_filter]
  exact List.filter_congr fun entry _ => Bool.and_comm _ _

/-- A tier stays whole if all of it is kept. -/
theorem tier_filter_of_kept {level : Int} {keep : ι → Bool}
    (kept : ∀ entry, wiring.priority entry = level → keep entry = true) (entries : List ι) :
    wiring.tier level (entries.filter keep) = wiring.tier level entries := by
  rw [tier_filter]
  refine List.filter_eq_self.mpr fun entry member => kept entry ?_
  simpa using (List.mem_filter.mp member).2

/-- A priority that no entry has leaves an empty tier. -/
theorem tier_eq_nil {level : Int} {entries : List ι} (others : ∀ entry ∈ entries, wiring.priority entry ≠ level) :
    wiring.tier level entries = [] := by
  refine List.filter_eq_nil_iff.mpr fun entry member => ?_
  simpa using others entry member

section Tiers

variable {priority : Int} {entries : List ι} {entry : ι}

/-- Entries below a tier have a lower priority. -/
theorem lt_of_mem_below (member : entry ∈ wiring.below priority entries) : wiring.priority entry < priority := by
  simpa using (List.mem_filter.mp member).2

/-- Entries of a tier have its priority. -/
theorem eq_of_mem_tier (member : entry ∈ wiring.tier priority entries) : wiring.priority entry = priority := by
  simpa using (List.mem_filter.mp member).2

/-- Entries above a tier have a higher priority. -/
theorem lt_of_mem_above (member : entry ∈ wiring.above priority entries) : priority < wiring.priority entry := by
  simpa using (List.mem_filter.mp member).2

end Tiers

/-- What is below a tier, the tier and what is above it follow each other in rising order. -/
theorem rising_tiers (priority : Int) (entries : List ι) :
    (wiring.below priority entries ++ (wiring.tier priority entries ++ wiring.above priority entries)).Pairwise
      wiring.Precedes := by
  have rising := wiring.ordered_rising entries
  have level : (wiring.tier priority entries).Pairwise wiring.Precedes :=
    List.pairwise_of_forall_mem_list fun left inLeft right inRight =>
      le_of_eq ((eq_of_mem_tier inLeft).trans (eq_of_mem_tier inRight).symm)
  refine List.pairwise_append.mpr ⟨rising.filter _, List.pairwise_append.mpr ⟨level, rising.filter _, ?_⟩, ?_⟩
  · intro left inLeft right inRight
    exact le_of_lt ((eq_of_mem_tier inLeft).trans_lt (lt_of_mem_above inRight))
  · intro left inLeft right inRight
    rcases List.mem_append.mp inRight with same | higher
    · exact le_of_lt ((lt_of_mem_below inLeft).trans_eq (eq_of_mem_tier same).symm)
    · exact le_of_lt ((lt_of_mem_below inLeft).trans (lt_of_mem_above higher))

/-- The ordered entries are those below a priority, its tier, and those above. -/
theorem ordered_eq_tiers (priority : Int) (entries : List ι) :
    wiring.ordered entries =
      wiring.below priority entries ++ (wiring.tier priority entries ++ wiring.above priority entries) := by
  refine eq_of_tiers (wiring.ordered_rising entries) (rising_tiers priority entries) fun level => ?_
  -- Each tier lies in one of the three parts, where nothing of it is missing.
  rw [tier_append, tier_append]
  rcases lt_trichotomy level priority with lower | rfl | higher
  · rw [tier_eq_nil fun entry member => ne_of_gt (lower.trans_eq (eq_of_mem_tier member).symm),
      tier_eq_nil fun entry member => ne_of_gt (lower.trans (lt_of_mem_above member)), List.append_nil,
      List.append_nil]
    exact (tier_filter_of_kept (fun entry same => by simpa [same] using lower) _).symm
  · rw [tier_eq_nil fun entry member => ne_of_lt (lt_of_mem_below member),
      tier_eq_nil fun entry member => ne_of_gt (lt_of_mem_above member), List.append_nil, List.nil_append,
      tier_ordered]
    unfold tier
    rw [List.filter_filter]
    simp only [Bool.and_self]
  · rw [tier_eq_nil fun entry member => ne_of_lt ((lt_of_mem_below member).trans higher),
      tier_eq_nil fun entry member => ne_of_lt ((eq_of_mem_tier member).trans_lt higher), List.nil_append,
      List.nil_append]
    exact (tier_filter_of_kept (fun entry same => by simpa [same] using higher) _).symm

section Seen

variable {κ : Type} {view : ι → Option κ}

/-- What is seen of some of the entries is some of what is seen of all. -/
theorem filterMap_filter_of_told {keep : ι → Bool} {sort : κ → Bool}
    (told : ∀ entry seen, view entry = some seen → keep entry = sort seen) (entries : List ι) :
    (entries.filter keep).filterMap view = (entries.filterMap view).filter sort := by
  rw [List.filterMap_filter, List.filter_filterMap]
  apply List.filterMap_congr
  intro entry _
  cases found : view entry with
  | none => rw [ite_self, Option.filter_none]
  | some seen => rw [told entry seen found, Option.filter_some]

/-- Where something is seen of entries of two priorities only, it is seen first of those of the lower one, and of
either in the order in which they were given. -/
theorem filterMap_ordered {early : κ → Bool} {low high : Int} (apart : low < high)
    (level : ∀ entry seen, view entry = some seen → wiring.priority entry = if early seen then low else high)
    (entries : List ι) :
    (wiring.ordered entries).filterMap view =
      (entries.filterMap view).filter early ++ (entries.filterMap view).filter fun seen => !early seen := by
  have below : (wiring.below low entries).filterMap view = [] := by
    have none : (wiring.below low entries).filterMap view =
        ((wiring.ordered entries).filterMap view).filter fun _ => false := by
      refine filterMap_filter_of_told (fun entry seen found => ?_) _
      rw [level entry seen found, decide_eq_false_iff_not, not_lt]
      split
      · exact le_rfl
      · exact apart.le
    rw [none, List.filter_false]
  have tier : (wiring.tier low entries).filterMap view = (entries.filterMap view).filter early := by
    refine filterMap_filter_of_told (fun entry seen found => ?_) _
    rw [level entry seen found]
    cases early seen with
    | true => exact decide_eq_true rfl
    | false => exact decide_eq_false apart.ne'
  -- Of what stands above the lower priority only the entries of the higher one are seen.
  have above : (wiring.above low entries).filterMap view =
      (entries.filterMap view).filter fun seen => !early seen := by
    have late : ∀ among : List ι, (wiring.tier high among).filterMap view =
        (among.filterMap view).filter fun seen => !early seen := by
      refine fun among => filterMap_filter_of_told (fun entry seen found => ?_) among
      rw [level entry seen found]
      cases early seen with
      | true => exact decide_eq_false apart.ne
      | false => exact decide_eq_true rfl
    rw [← late, ← wiring.tier_ordered, late]
    refine filterMap_filter_of_told (fun entry seen found => ?_) _
    rw [level entry seen found]
    cases early seen with
    | true => exact decide_eq_false (lt_irrefl low)
    | false => exact decide_eq_true apart
  rw [wiring.ordered_eq_tiers low, List.filterMap_append, List.filterMap_append, below, tier, above]
  rfl

/-- Where something is seen of entries of one priority only, it is seen in the order in which they were given. -/
theorem filterMap_ordered_of_level {priority : Int}
    (level : ∀ entry seen, view entry = some seen → wiring.priority entry = priority) (entries : List ι) :
    (wiring.ordered entries).filterMap view = entries.filterMap view := by
  have late : (wiring.ordered entries).filterMap view =
      (entries.filterMap view).filter (fun _ => false) ++ (entries.filterMap view).filter fun _ => !false :=
    filterMap_ordered (Int.sub_one_lt_of_le (le_refl priority)) (fun entry seen found => level entry seen found) entries
  rw [late, List.filter_false, Bool.not_false, List.filter_true, List.nil_append]

end Seen

/-- A part of the ordered entries is that part of the entries, ordered. -/
theorem filter_ordered (keep : ι → Bool) (entries : List ι) :
    (wiring.ordered entries).filter keep = wiring.ordered (entries.filter keep) := by
  refine eq_of_tiers ((wiring.ordered_rising _).filter _) (wiring.ordered_rising _) fun level => ?_
  rw [tier_filter, tier_ordered, tier_ordered, tier_filter]

/-- Further entries show in a part of the ordered entries only if they belong there. -/
theorem filter_ordered_append {keep : ι → Bool} (entries : List ι) {further : List ι}
    (outside : ∀ entry ∈ further, keep entry = false) :
    (wiring.ordered (entries ++ further)).filter keep = (wiring.ordered entries).filter keep := by
  have nothing : further.filter keep = [] := List.filter_eq_nil_iff.mpr (by simpa using outside)
  rw [filter_ordered, filter_ordered, List.filter_append, nothing, List.append_nil]

/-- In the order of an assembly a call stands behind those before it in its tier, and a further call of its
priority comes last in the tier. -/
theorem exists_around (earlier later : List ι) {call again : ι}
    (level : wiring.priority again = wiring.priority call) :
    ∃ front back, (∀ entry ∈ back, wiring.priority call < wiring.priority entry) ∧
      wiring.ordered (earlier ++ call :: later) =
        front ++ call :: (wiring.tier (wiring.priority call) later ++ back) ∧
      wiring.ordered (earlier ++ call :: later ++ [again]) =
        front ++ call :: (wiring.tier (wiring.priority call) later ++ again :: back) := by
  refine ⟨wiring.below (wiring.priority call) (earlier ++ call :: later) ++
    wiring.tier (wiring.priority call) earlier,
    wiring.above (wiring.priority call) (earlier ++ call :: later), ?_, ?_, ?_⟩
  · intro entry member
    simpa using (List.mem_filter.mp member).2
  · conv_lhs => rw [ordered_eq_tiers (wiring.priority call)]
    rw [tier_append, tier_cons_self]
    simp only [List.append_assoc, List.cons_append]
  · have sameBelow : wiring.below (wiring.priority call) (earlier ++ call :: later ++ [again]) =
        wiring.below (wiring.priority call) (earlier ++ call :: later) := by
      refine filter_ordered_append _ fun entry member => ?_
      rw [List.mem_singleton.mp member]
      simpa using le_of_eq level.symm
    have sameAbove : wiring.above (wiring.priority call) (earlier ++ call :: later ++ [again]) =
        wiring.above (wiring.priority call) (earlier ++ call :: later) := by
      refine filter_ordered_append _ fun entry member => ?_
      rw [List.mem_singleton.mp member]
      simpa using le_of_eq level
    have alone : wiring.tier (wiring.priority call) [again] = [again] := by
      rw [← level, tier_cons_self, tier_nil]
    conv_lhs => rw [ordered_eq_tiers (wiring.priority call)]
    rw [sameBelow, sameAbove, tier_append, tier_append, tier_cons_self, alone]
    simp only [List.append_assoc, List.cons_append, List.nil_append]

end Vetting.Wiring

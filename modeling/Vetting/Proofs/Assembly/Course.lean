import Mathlib.Data.List.FinRange
import Mathlib.Data.List.Forall2
import Mathlib.Logic.Function.Basic
import Vetting.Proofs.Assembly.Order

/-!
# The course of an assembly

Wiring may amend any entry of the list, so an entry is known by its place in the queue and not by what it
is at the moment.  A course records what has become of every place after every round.  It runs for some
rounds if each of them wires one place of the queue, between the places that survive before it and all that
come after it, and leaves behind what the wiring made of them.

The main lemma is `Course.exists_of_settle`: settling a queue follows a course to its end, or up to the
first wiring that fails.
-/

namespace Vetting.Wiring

variable {ι ε : Type}

/-- Neither the order nor the search for repeated calls can tell the two entries apart. -/
structure Alike (wiring : Wiring ι ε) (left right : ι) : Prop where
  priority : wiring.priority left = wiring.priority right
  same_left : ∀ other, wiring.same left other = wiring.same right other
  same_right : ∀ other, wiring.same other left = wiring.same other right

/-- Wiring an entry may change it and its siblings in any way, except that each of them keeps its place,
its priority and what makes it the same call as another one. -/
def Steady (wiring : Wiring ι ε) : Prop :=
  ∀ ⦃entry wired : ι⦄ ⦃siblings amended : Siblings ι⦄,
    wiring.wire entry siblings = .ok (wired, amended) →
      wiring.Alike entry wired ∧
        List.Forall₂ wiring.Alike siblings.before amended.before ∧
        List.Forall₂ wiring.Alike siblings.after amended.after

/-- What has become of the entries of a queue of that size after each round. -/
structure Course (wiring : Wiring ι ε) (size : Nat) where
  state : Nat → Fin size → ι

namespace Alike

variable {wiring : Wiring ι ε} {first second third : ι}

theorem refl (entry : ι) : wiring.Alike entry entry :=
  ⟨rfl, fun _ => rfl, fun _ => rfl⟩

theorem trans (left : wiring.Alike first second) (right : wiring.Alike second third) :
    wiring.Alike first third :=
  ⟨left.priority.trans right.priority, fun other => (left.same_left other).trans (right.same_left other),
    fun other => (left.same_right other).trans (right.same_right other)⟩

/-- Two entries are the same call as long as they stay what they are. -/
theorem same_eq {left right leftNow rightNow : ι} (alikeLeft : wiring.Alike left leftNow)
    (alikeRight : wiring.Alike right rightNow) : wiring.same left right = wiring.same leftNow rightNow :=
  (alikeLeft.same_left right).trans (alikeRight.same_right leftNow)

end Alike

namespace Course

variable {wiring : Wiring ι ε} {size : Nat} (course : wiring.Course size)

/-- The entry operates right after its own round. -/
def Operated (place : Fin size) : Prop :=
  wiring.operates (course.state (place + 1) place) = true

instance (place : Fin size) : Decidable (course.Operated place) :=
  inferInstanceAs (Decidable (_ = _))

/-- After so many rounds the entry has had its own one and is still in the list: it operated, and of those
that came later and operated none is the same call. -/
def Survives (rounds : Nat) (place : Fin size) : Prop :=
  place < rounds ∧ course.Operated place ∧
    ∀ later : Fin size, place < later → later < rounds → course.Operated later →
      wiring.same (course.state 0 place) (course.state 0 later) = false

instance (rounds : Nat) (place : Fin size) : Decidable (course.Survives rounds place) :=
  inferInstanceAs (Decidable (_ ∧ _))

/-- The places that survive so many rounds. -/
def survivors (rounds : Nat) : List (Fin size) :=
  (List.finRange size).filter fun place => course.Survives rounds place

/-- The places whose rounds are still to come. -/
def waiting (size rounds : Nat) : List (Fin size) :=
  (List.finRange size).filter fun place => rounds ≤ place

/-- What the wiring of a place finds around it, as the siblings are after so many rounds. -/
def around (place : Fin size) (rounds : Nat) : Siblings ι :=
  ⟨(course.survivors place).map (course.state rounds),
    (waiting size (place + 1)).map (course.state rounds)⟩

/-- The course begins with the queue, and each of its first rounds wires the entry of its number between
the survivors before it and all entries after it.  Entries that have left the list stay as they were. -/
structure Runs (queue : List ι) (rounds : Nat) : Prop where
  start : List.ofFn (course.state 0) = queue
  wired : ∀ place : Fin size, place < rounds →
    wiring.wire (course.state place place) (course.around place place) =
      .ok (course.state (place + 1) place, course.around place (place + 1))
  untouched : ∀ place other : Fin size, place < rounds → other < place →
    other ∉ course.survivors place → course.state (place + 1) other = course.state place other

/-- The survivors after some rounds are the places that survive these rounds. -/
@[simp] theorem mem_survivors {rounds : Nat} {place : Fin size} :
    place ∈ course.survivors rounds ↔ course.Survives rounds place := by
  simp [survivors]

/-- The places that wait are those whose round has not come yet. -/
@[simp] theorem mem_waiting {rounds : Nat} {place : Fin size} :
    place ∈ waiting size rounds ↔ rounds ≤ place := by
  simp [waiting]

/-- Survivors stand in the order of their places. -/
theorem survivors_rising (rounds : Nat) : (course.survivors rounds).Pairwise (· < ·) :=
  (List.pairwise_lt_finRange size).filter _

/-- Waiting entries stand in the order of their places. -/
theorem waiting_rising (rounds : Nat) : (waiting size rounds).Pairwise (· < ·) :=
  (List.pairwise_lt_finRange size).filter _

/-- Nothing has survived before the first round. -/
@[simp] theorem survivors_zero : course.survivors 0 = [] := by
  simp [survivors, Survives]

/-- Everything waits before the first round. -/
@[simp] theorem waiting_zero : waiting size 0 = List.finRange size := by
  simp [waiting]

/-- The next place to be wired comes first among those that wait. -/
theorem waiting_eq_cons (place : Fin size) : waiting size place = place :: waiting size (place + 1) := by
  refine (waiting_rising _).eq_of_mem_iff ?_ ?_
  · refine List.pairwise_cons.mpr ⟨fun other member => ?_, waiting_rising _⟩
    simp only [mem_waiting] at member
    omega
  · intro other
    simp only [mem_waiting, List.mem_cons, Fin.ext_iff]
    omega

/-- A round drops the place that it wires if it does not operate, and else the earlier survivors that are the
same call. -/
theorem survivors_succ (place : Fin size) :
    course.survivors (place + 1) =
      if course.Operated place then
        ((course.survivors place).filter fun earlier =>
          !wiring.same (course.state 0 earlier) (course.state 0 place)) ++ [place]
      else course.survivors place := by
  have earlier : ∀ other : Fin size, other ≠ place →
      (course.Survives (place + 1) other ↔ course.Survives place other ∧
        (course.Operated place → wiring.same (course.state 0 other) (course.state 0 place) = false)) := by
    intro other distinct
    have distinct : (other : Nat) ≠ place := Fin.val_ne_iff.mpr distinct
    constructor
    · rintro ⟨below, operated, last⟩
      exact ⟨⟨by omega, operated, fun later above within => last later above (by omega)⟩,
        last place (by omega) (by omega)⟩
    · rintro ⟨⟨below, operated, last⟩, unlike⟩
      refine ⟨by omega, operated, fun later above within worked => ?_⟩
      by_cases own : later = place
      · subst own
        exact unlike worked
      · have own : (later : Nat) ≠ place := Fin.val_ne_iff.mpr own
        exact last later above (by omega) worked
  have itself : course.Survives (place + 1) place ↔ course.Operated place :=
    ⟨fun survives => survives.2.1, fun operated => ⟨by omega, operated, fun later above within => by omega⟩⟩
  have gone : ¬ course.Survives place place := fun survives => absurd survives.1 (by omega)
  by_cases operated : course.Operated place
  · rw [if_pos operated]
    refine (course.survivors_rising _).eq_of_mem_iff ?_ ?_
    · refine List.pairwise_append.mpr ⟨(course.survivors_rising _).filter _, List.pairwise_singleton _ _, ?_⟩
      intro other member _ own
      rw [List.mem_singleton.mp own]
      exact (course.mem_survivors.mp (List.mem_filter.mp member).1).1
    · intro other
      simp only [mem_survivors, List.mem_append, List.mem_filter, List.mem_singleton,
        Bool.not_eq_true']
      by_cases own : other = place
      · subst own
        simp only [itself, operated, or_true]
      · simp only [earlier other own, operated, forall_const, own, or_false]
  · rw [if_neg operated]
    refine (course.survivors_rising _).eq_of_mem_iff (course.survivors_rising _) ?_
    intro other
    simp only [mem_survivors]
    by_cases own : other = place
    · subst own
      simp only [itself, operated, gone]
    · simp only [earlier other own, operated, false_implies, and_true]

variable {course}

/-- Each entry stays the call that it was in the queue. -/
theorem Runs.alike {queue : List ι} {rounds : Nat} (steady : wiring.Steady)
    (runs : course.Runs queue rounds) (place : Fin size) {now : Nat} (within : now ≤ rounds)
    (inside : rounds ≤ size) : wiring.Alike (course.state 0 place) (course.state now place) := by
  induction now with
  | zero => exact .refl _
  | succ now ih =>
      refine (ih (by omega)).trans ?_
      let current : Fin size := ⟨now, by omega⟩
      obtain ⟨own, before, after⟩ := steady (runs.wired current (by simp only [current]; omega))
      simp only [around, List.forall₂_map_left_iff, List.forall₂_map_right_iff, List.forall₂_same]
        at before after
      rcases lt_trichotomy place current with earlier | rfl | later
      · by_cases survives : place ∈ course.survivors current
        · exact before place survives
        · rw [← runs.untouched current place (by simp only [current]; omega) earlier survives]
          exact .refl _
      · exact own
      · exact after place (mem_waiting.mpr later)

variable (course)

/-- The course with another outcome of the round after so many. -/
def extended (rounds : Nat) (next : Fin size → ι) : wiring.Course size where
  state now := if now ≤ rounds then course.state now else next

variable {rounds : Nat} {next : Fin size → ι}

/-- A further round leaves the earlier states of a course alone. -/
@[simp] theorem extended_state_of_le {now : Nat} (within : now ≤ rounds) :
    (course.extended rounds next).state now = course.state now :=
  if_pos within

/-- After the further round the entries are as it has left them. -/
@[simp] theorem extended_state_succ : (course.extended rounds next).state (rounds + 1) = next :=
  if_neg (by omega)

/-- Which entries operated in earlier rounds is not changed by a further round. -/
theorem extended_operated {place : Fin size} (within : place < rounds) :
    (course.extended rounds next).Operated place ↔ course.Operated place := by
  unfold Operated
  rw [extended_state_of_le _ (by omega)]

/-- Who survived earlier rounds is not changed by a further round. -/
theorem extended_survivors {now : Nat} (within : now ≤ rounds) :
    (course.extended rounds next).survivors now = course.survivors now := by
  refine ((course.extended rounds next).survivors_rising _).eq_of_mem_iff (course.survivors_rising _) ?_
  intro place
  simp only [mem_survivors, Survives, Nat.zero_le, extended_state_of_le]
  constructor
  · rintro ⟨below, operated, last⟩
    refine ⟨below, (course.extended_operated (by omega)).mp operated, fun later above inside worked => ?_⟩
    exact last later above inside ((course.extended_operated (by omega)).mpr worked)
  · rintro ⟨below, operated, last⟩
    refine ⟨below, (course.extended_operated (by omega)).mpr operated, fun later above inside worked => ?_⟩
    exact last later above inside ((course.extended_operated (by omega)).mp worked)

/-- What an entry saw in an earlier round is not changed by a further round. -/
theorem extended_around {place : Fin size} {now : Nat} (earlier : place ≤ rounds)
    (within : now ≤ rounds) :
    (course.extended rounds next).around place now = course.around place now := by
  simp only [around, course.extended_survivors earlier, course.extended_state_of_le within]

variable {course}

/-- A course goes on with whatever the wiring of its next place has made of the entries. -/
theorem Runs.extended {queue : List ι} {place : Fin size} (runs : course.Runs queue place)
    (wired : wiring.wire (course.state place place) (course.around place place) =
      .ok (next place, ⟨(course.survivors place).map next, (waiting size (place + 1)).map next⟩))
    (untouched : ∀ other < place, other ∉ course.survivors place →
      next other = course.state place other) :
    (course.extended place next).Runs queue (place + 1) where
  start := by
    rw [course.extended_state_of_le (Nat.zero_le _)]
    exact runs.start
  wired current within := by
    rw [course.extended_state_of_le (by omega), course.extended_around (by omega) (by omega)]
    by_cases last : current = place
    · subst last
      rw [course.extended_state_succ, wired, around, course.extended_survivors le_rfl,
        course.extended_state_succ]
    · have earlier : (current : Nat) < place := by
        have := Fin.val_ne_iff.mpr last
        omega
      rw [runs.wired current earlier, course.extended_state_of_le (by omega),
        course.extended_around (by omega) (by omega)]
  untouched current other within before gone := by
    rw [course.extended_survivors (by omega)] at gone
    rw [course.extended_state_of_le (show (current : Nat) ≤ place by omega)]
    by_cases last : current = place
    · subst last
      rw [course.extended_state_succ]
      exact untouched other before gone
    · have earlier : (current : Nat) < place := by
        have := Fin.val_ne_iff.mpr last
        omega
      rw [course.extended_state_of_le (by omega)]
      exact runs.untouched current other earlier before gone

/-- The list that a round leaves behind is the list of its survivors. -/
theorem Runs.sifted {queue : List ι} (steady : wiring.Steady) {place : Fin size}
    (runs : course.Runs queue (place + 1)) :
    wiring.sifted (course.around place (place + 1)).before (course.state (place + 1) place) =
      (course.survivors (place + 1)).map (course.state (place + 1)) := by
  have same : ∀ earlier : Fin size,
      wiring.same (course.state (place + 1) earlier) (course.state (place + 1) place) =
        wiring.same (course.state 0 earlier) (course.state 0 place) := by
    intro earlier
    exact ((runs.alike steady earlier le_rfl (by omega)).same_eq
      (runs.alike steady place le_rfl (by omega))).symm
  unfold Wiring.sifted
  rw [survivors_succ]
  by_cases operated : course.Operated place
  · rw [if_pos operated, if_pos (show wiring.operates _ = true from operated), List.map_append,
      List.map_singleton]
    simp only [around, List.filter_map, Function.comp_def, same]
  · rw [if_neg operated, if_neg (show ¬ wiring.operates _ = true from operated)]
    rfl

end Course

/-- New entries can be given to places of their own, with all other places as they were. -/
theorem exists_reassigned {κ : Type} [DecidableEq κ] {places : List κ} {entries : List ι}
    (distinct : places.Nodup) (equallyLong : entries.length = places.length) (state : κ → ι) :
    ∃ next : κ → ι, places.map next = entries ∧ ∀ other ∉ places, next other = state other := by
  induction places generalizing entries with
  | nil =>
      refine ⟨state, ?_, fun _ _ => rfl⟩
      rw [List.length_eq_zero_iff.mp equallyLong, List.map_nil]
  | cons place rest ih =>
      cases entries with
      | nil => simp at equallyLong
      | cons entry others =>
          rw [List.nodup_cons] at distinct
          obtain ⟨next, assigned, kept⟩ := ih distinct.2 (by simpa using equallyLong)
          refine ⟨Function.update next place entry, ?_, fun other member => ?_⟩
          · rw [List.map_cons, Function.update_self, ← assigned]
            congr 1
            refine List.map_congr_left fun other member => ?_
            exact Function.update_of_ne (ne_of_mem_of_not_mem member distinct.1) _ _
          · rw [List.mem_cons, not_or] at member
            rw [Function.update_of_ne member.1, kept other member.2]

section Settle

variable {wiring : Wiring ι ε} {rounds : Nat} {before after : List ι} {entry : ι}

/-- A round whose wiring fails ends the assembly. -/
theorem settle_of_error {failure : ε} (wired : wiring.wire entry ⟨before, after⟩ = .error failure) :
    wiring.settle (rounds + 1) before (entry :: after) = .error failure := by
  rw [settle, wired]

/-- A round sifts the earlier entries and goes on with the later ones, as the wiring has left them. -/
theorem settle_of_ok {wired : ι} {siblings : Siblings ι}
    (outcome : wiring.wire entry ⟨before, after⟩ = .ok (wired, siblings)) :
    wiring.settle (rounds + 1) before (entry :: after) =
      wiring.settle rounds (wiring.sifted siblings.before wired) siblings.after := by
  rw [settle, outcome]

end Settle

namespace Course

variable {wiring : Wiring ι ε}

/-- A round that succeeds continues a course: it sifts the survivors and changes those that still wait. -/
theorem Runs.exists_succ (steady : wiring.Steady) {queue : List ι} {course : wiring.Course queue.length}
    {place : Fin queue.length} (runs : course.Runs queue place) {entry : ι} {siblings : Siblings ι}
    (wired : wiring.wire (course.state place place) (course.around place place) = .ok (entry, siblings)) :
    ∃ next : wiring.Course queue.length, next.Runs queue (place + 1) ∧
      wiring.sifted siblings.before entry = (next.survivors (place + 1)).map (next.state (place + 1)) ∧
      siblings.after = (waiting queue.length (place + 1)).map (next.state (place + 1)) := by
  obtain ⟨-, before, after⟩ := steady wired
  -- All places that the round may have changed, in one list without repetition.
  have distinct : (course.survivors place ++ place :: waiting queue.length (place + 1)).Nodup := by
    rw [← waiting_eq_cons place]
    refine List.Pairwise.imp (fun below => ne_of_lt below) (List.pairwise_append.mpr
      ⟨course.survivors_rising _, waiting_rising _, fun earlier settled later pending => ?_⟩)
    have := (course.mem_survivors.mp settled).1
    have := mem_waiting.mp pending
    omega
  have equallyLong : (siblings.before ++ entry :: siblings.after).length =
      (course.survivors place ++ place :: waiting queue.length (place + 1)).length := by
    simpa [around, ← before.length_eq] using after.length_eq.symm
  obtain ⟨state, assigned, kept⟩ := exists_reassigned distinct equallyLong (course.state place)
  rw [List.map_append, List.map_cons] at assigned
  obtain ⟨beforeNow, rest⟩ := List.append_inj assigned (by simpa [around] using before.length_eq)
  obtain ⟨ownNow, afterNow⟩ := List.cons.inj rest
  have continued : (course.extended place state).Runs queue (place + 1) := by
    refine runs.extended ?_ fun other below gone => kept other ?_
    · rw [wired, ownNow, beforeNow, afterNow]
    · simp only [List.mem_append, gone, List.mem_cons, mem_waiting, false_or, not_or]
      exact ⟨ne_of_lt below, by omega⟩
  have list := continued.sifted steady
  rw [around, course.extended_state_succ, course.extended_survivors le_rfl, ownNow, beforeNow] at list
  refine ⟨course.extended place state, continued, ?_, ?_⟩
  · rw [list, course.extended_state_succ]
  · rw [course.extended_state_succ, afterNow]

/-- After any number of rounds, settling a queue has followed a course, or some wiring has failed before. -/
theorem exists_after (steady : wiring.Steady) (queue : List ι) {rounds : Nat}
    (within : rounds ≤ queue.length) :
    (∃ course : wiring.Course queue.length, course.Runs queue rounds ∧
      wiring.settle queue.length [] queue =
        wiring.settle (queue.length - rounds) ((course.survivors rounds).map (course.state rounds))
          ((waiting queue.length rounds).map (course.state rounds))) ∨
    ∃ (course : wiring.Course queue.length) (place : Fin queue.length) (failure : ε),
      course.Runs queue place ∧
      wiring.wire (course.state place place) (course.around place place) = .error failure ∧
      wiring.settle queue.length [] queue = .error failure := by
  induction rounds with
  | zero =>
      left
      refine ⟨⟨fun _ => queue.get⟩, ⟨List.ofFn_get _, ?_, ?_⟩, ?_⟩
      · intro place below
        omega
      · intro place other below
        omega
      · simp only [survivors_zero, List.map_nil, waiting_zero, Nat.sub_zero, List.map_get_finRange]
  | succ rounds ih =>
      rcases ih (by omega) with ⟨course, runs, followed⟩ | failed
      · let place : Fin queue.length := ⟨rounds, by omega⟩
        have step : queue.length - rounds = (queue.length - (rounds + 1)) + 1 := by omega
        have next : waiting queue.length rounds = place :: waiting queue.length (rounds + 1) :=
          waiting_eq_cons place
        rw [step, next, List.map_cons] at followed
        cases wired : wiring.wire (course.state place place) (course.around place place) with
        | error failure =>
            right
            exact ⟨course, place, failure, runs, wired, followed.trans (settle_of_error wired)⟩
        | ok outcome =>
            left
            obtain ⟨continuing, continued, sifted, later⟩ := Runs.exists_succ steady runs wired
            refine ⟨continuing, continued, ?_⟩
            rw [followed, settle_of_ok wired, sifted, later]
      · exact .inr failed

/-- Settling a queue follows a course to its end, or up to the first wiring that fails. -/
theorem exists_of_settle (steady : wiring.Steady) (queue : List ι) :
    ∃ course : wiring.Course queue.length,
      (course.Runs queue queue.length ∧
        wiring.settle queue.length [] queue =
          .ok ((course.survivors queue.length).map (course.state queue.length))) ∨
      ∃ (place : Fin queue.length) (failure : ε), course.Runs queue place ∧
        wiring.wire (course.state place place) (course.around place place) = .error failure ∧
        wiring.settle queue.length [] queue = .error failure := by
  rcases exists_after steady queue le_rfl with ⟨course, runs, followed⟩ | ⟨course, place, failed⟩
  · refine ⟨course, .inl ⟨runs, ?_⟩⟩
    rw [followed, Nat.sub_self, settle]
  · exact ⟨course, .inr ⟨place, failed⟩⟩

end Course

end Vetting.Wiring

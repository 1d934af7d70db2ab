import Vetting.Proofs.Assembly.Course
import Vetting.Proofs.Rule.Identity
import Vetting.Schema.Basic

/-!
# What an assembly brings

An assembly orders its entries by priority, wires each of them once and sifts them as it goes.  Rules keep
to what that asks of their wiring (`Instance.wiring_steady`), those of a user included: a rule can change
itself and its siblings, but neither name nor priority nor arguments.
-/

namespace Vetting

namespace Wiring

variable {ι ε : Type} {wiring : Wiring ι ε}

/-- An outcome of ordering, wiring and sifting the entries.  Either all rounds of a course are run, and the
outcome is the survivors as they are then, by rising priority and none the same call as a later one; or the
outcome is the failure of the first wiring that fails, and the rounds of later entries are not run. -/
def IsAssembly (wiring : Wiring ι ε) (entries : List ι) (outcome : Except ε (List ι)) : Prop :=
  ∃ queue, wiring.IsStableOrder entries queue ∧ ∃ course : wiring.Course queue.length,
    (course.Runs queue queue.length ∧
      ∃ kept, outcome = .ok kept ∧
        kept = (course.survivors queue.length).map (course.state queue.length) ∧
        kept.Pairwise fun earlier later =>
          wiring.Precedes earlier later ∧ wiring.same earlier later = false) ∨
    ∃ (place : Fin queue.length) (failure : ε), course.Runs queue place ∧
      wiring.wire (course.state place place) (course.around place place) = .error failure ∧
      outcome = .error failure

/-- The survivors of a whole course rise in priority, and none is the same call as a later one. -/
theorem Course.Runs.survivors_sifted {queue : List ι} {course : wiring.Course queue.length}
    (steady : wiring.Steady) (rising : queue.Pairwise wiring.Precedes)
    (runs : course.Runs queue queue.length) :
    ((course.survivors queue.length).map (course.state queue.length)).Pairwise fun earlier later =>
      wiring.Precedes earlier later ∧ wiring.same earlier later = false := by
  have alike := fun place => runs.alike steady place le_rfl le_rfl
  rw [List.pairwise_map]
  refine List.Pairwise.imp_of_mem ?_ (course.survivors_rising queue.length)
  intro earlier later earlierMember laterMember below
  obtain ⟨-, -, last⟩ := course.mem_survivors.mp earlierMember
  obtain ⟨-, operated, -⟩ := course.mem_survivors.mp laterMember
  constructor
  · have inQueue : wiring.Precedes (course.state 0 earlier) (course.state 0 later) := by
      rw [← runs.start, List.pairwise_ofFn] at rising
      exact rising below
    unfold Precedes at inQueue ⊢
    rwa [← (alike earlier).priority, ← (alike later).priority]
  · rw [← (alike earlier).same_eq (alike later)]
    exact last later below later.isLt operated

end Wiring

namespace Instance

variable {σ : Type} [Identified σ]

/-- The order and the search for repeated calls look at nothing but the call. -/
theorem alike_of_call {left right : Instance σ} (same : left.call = right.call) :
    wiring.Alike left right := by
  obtain ⟨unwired, arguments⟩ := Prod.mk.inj same
  have name : left.rule.name = right.rule.name := by
    rw [← Rule.name_unwired, unwired, Rule.name_unwired]
  refine ⟨?_, fun other => ?_, fun other => ?_⟩
  · show left.rule.priority = right.rule.priority
    rw [← Rule.priority_unwired, unwired, Rule.priority_unwired]
  · simp only [wiring, Instance.same, name, arguments]
  · simp only [wiring, Instance.same, name, arguments]

/-- Lists of instances of the same calls are alike one by one. -/
theorem forall₂_alike_of_calls {left right : List (Instance σ)} (same : left.map call = right.map call) :
    List.Forall₂ wiring.Alike left right := by
  have mapped : List.Forall₂ (· = ·) (left.map call) (right.map call) := by
    rw [same, List.forall₂_same]
    exact fun _ _ => rfl
  simp only [List.forall₂_map_left_iff, List.forall₂_map_right_iff] at mapped
  exact mapped.imp fun _ _ => alike_of_call

/-- The wiring of rules leaves all calls what they are. -/
theorem wiring_steady : (wiring : Wiring (Instance σ) SchemaFault).Steady := by
  intro entry wired siblings amended outcome
  obtain ⟨own, others⟩ := calls_wire outcome
  obtain ⟨before, after⟩ := (Siblings.mk.injEq ..).mp others.symm
  exact ⟨alike_of_call own.symm, forall₂_alike_of_calls before, forall₂_alike_of_calls after⟩

end Instance

namespace Wiring

variable {ι ε : Type} {wiring : Wiring ι ε}

/-- **Ordering, wiring and sifting.**  Assembling wires every entry once, in the order of the priorities, and
brings those that operate and are not called again later; or it brings the first failure. -/
theorem isAssembly_assemble (steady : wiring.Steady) (entries : List ι) :
    wiring.IsAssembly entries (wiring.assemble entries) := by
  have order := wiring.ordered_isStableOrder entries
  have settled : wiring.assemble entries =
      wiring.settle (wiring.ordered entries).length [] (wiring.ordered entries) := by
    rw [length_ordered]
    rfl
  refine ⟨wiring.ordered entries, order, ?_⟩
  obtain ⟨course, ⟨runs, ended⟩ | ⟨place, failure, runs, failed, ended⟩⟩ :=
    Course.exists_of_settle steady (wiring.ordered entries)
  · exact ⟨course, .inl ⟨runs, _, settled.trans ended, rfl, runs.survivors_sifted steady order.rising⟩⟩
  · exact ⟨course, .inr ⟨place, failure, runs, failed, settled.trans ended⟩⟩

/-- Calls that bound a text twice, with other rules in between. -/
def boundTwice : List (Instance Schema) :=
  [⟨.length .characters .max 0, [.value (.ofNat 5)]⟩, ⟨.check .string, []⟩, ⟨.any, []⟩,
    ⟨.length .characters .max 0, [.value (.ofNat 5)]⟩]

/-- Of a bound that is called twice the later call is kept. -/
theorem isAssembly_assemble_boundTwice :
    (Instance.wiring : Wiring (Instance Schema) SchemaFault).Steady ∧
      Instance.wiring.IsAssembly boundTwice (Instance.wiring.assemble boundTwice) ∧
      (Instance.assemble boundTwice).toOption.map (List.map fun entry => entry.rule.name) =
        some ["string", "string.max"] :=
  ⟨Instance.wiring_steady, isAssembly_assemble Instance.wiring_steady boundTwice, by decide +kernel⟩

end Wiring

end Vetting

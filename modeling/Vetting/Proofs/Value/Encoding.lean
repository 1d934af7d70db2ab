import Mathlib.Data.List.Perm.Basic
import Vetting.Proofs.Value.Equality
import Vetting.Report.Encoding

/-!
# Two encodings of one document

A document is arranged if the members of its objects are in the order of their names.  Arranging does nothing but put
members in order (`Json.arranged_object_eq_iff`).  The encoding that leaves members as they stand is, once arranged, the
one that puts them in order itself, for values as well as for reports (`encodings_agree`).
-/

namespace Vetting

namespace Members

variable {α : Type} {members left right : Members α} {name : String} {member : α}

/-! ## Members in order -/

/-- The names rise. -/
def Rises (members : Members α) : Prop :=
  members.Pairwise fun earlier later => earlier.1 < later.1

/-- A fresh member is put somewhere among the others. -/
theorem putSorted_perm (member : α) (fresh : name ∉ members.names) :
    (members.putSorted name member).Perm ((name, member) :: members) := by
  induction members with
  | nil => exact .refl _
  | cons head rest ih =>
      obtain ⟨other, old⟩ := head
      obtain ⟨apart, further⟩ := List.ne_and_not_mem_of_not_mem_cons fresh
      rw [putSorted, if_neg apart]
      split
      · exact .refl _
      · exact ((ih further).cons _).trans (.swap _ _ _)

/-- What is there after a member has been put in order is that member or was there before. -/
theorem mem_of_mem_putSorted {entry : String × α} (inside : entry ∈ members.putSorted name member) :
    entry = (name, member) ∨ entry ∈ members := by
  induction members with
  | nil => exact .inl (List.mem_singleton.mp inside)
  | cons head rest ih =>
      obtain ⟨other, old⟩ := head
      rw [putSorted] at inside
      split_ifs at inside
      · exact List.mem_cons.mp inside
      · exact (List.mem_cons.mp inside).imp_right (List.mem_cons_of_mem _)
      · rcases List.mem_cons.mp inside with rfl | later
        · exact .inr List.mem_cons_self
        · exact (ih later).imp_right (List.mem_cons_of_mem _)

/-- Names that rise still do after a member has been put in order. -/
theorem rises_putSorted (rises : members.Rises) : (members.putSorted name member).Rises := by
  induction members with
  | nil => exact List.pairwise_singleton _ _
  | cons head rest ih =>
      obtain ⟨other, old⟩ := head
      obtain ⟨below, further⟩ := List.pairwise_cons.mp rises
      rw [putSorted]
      split_ifs with before own
      · refine List.pairwise_cons.mpr ⟨List.forall_mem_cons.mpr ⟨before, fun entry inside => ?_⟩, rises⟩
        exact String.lt_trans before (below entry inside)
      · exact List.pairwise_cons.mpr ⟨fun entry inside => own ▸ below entry inside, further⟩
      · refine List.pairwise_cons.mpr ⟨fun entry inside => ?_, ih further⟩
        rcases mem_of_mem_putSorted inside with rfl | later
        · exact Std.lt_of_le_of_ne (String.not_lt.mp before) (Ne.symm own)
        · exact below entry later

/-- Puts the members of the second list one after the other, each in its place among the names. -/
def putAllSorted (members additions : Members α) : Members α :=
  additions.foldl (fun total (name, member) => total.putSorted name member) members

/-- Members are sorted by putting them in order one after the other. -/
theorem sorted_eq (members : Members α) : members.sorted = putAllSorted [] members :=
  rfl

/-- Names that rise still do after further members have been put in order. -/
theorem rises_putAllSorted (rises : members.Rises) (additions : Members α) :
    (members.putAllSorted additions).Rises := by
  induction additions generalizing members with
  | nil => exact rises
  | cons addition rest ih => exact ih (rises_putSorted rises)

/-- The names of sorted members rise. -/
theorem rises_sorted (members : Members α) : members.sorted.Rises :=
  rises_putAllSorted .nil members

/-- What is there after members have been put in order is one of them or was there before. -/
theorem mem_of_mem_putAllSorted {additions : Members α} {entry : String × α}
    (inside : entry ∈ members.putAllSorted additions) : entry ∈ members ∨ entry ∈ additions := by
  induction additions generalizing members with
  | nil => exact .inl inside
  | cons addition rest ih =>
      rcases ih inside with placed | later
      · rcases mem_of_mem_putSorted placed with rfl | before
        · exact .inr List.mem_cons_self
        · exact .inl before
      · exact .inr (List.mem_cons_of_mem _ later)

/-- Sorting adds no members. -/
theorem mem_of_mem_sorted {entry : String × α} (inside : entry ∈ members.sorted) : entry ∈ members :=
  (mem_of_mem_putAllSorted inside).resolve_left List.not_mem_nil

/-- If no name is there twice, putting members in order rearranges all of them. -/
theorem putAllSorted_perm {additions : Members α} (once : (names (members ++ additions)).Nodup) :
    (members.putAllSorted additions).Perm (members ++ additions) := by
  induction additions generalizing members with
  | nil => exact .of_eq (List.append_nil members).symm
  | cons addition rest ih =>
      obtain ⟨name, member⟩ := addition
      have moved : (members ++ (name, member) :: rest).Perm ((name, member) :: members ++ rest) := List.perm_middle
      have fresh : name ∉ members.names := by
        have distinct := (moved.map Prod.fst).nodup_iff.mp once
        rw [List.cons_append, List.map_cons, List.map_append, List.nodup_cons, List.mem_append, not_or] at distinct
        exact distinct.1.1
      have same := ((putSorted_perm member fresh).append_right rest).trans moved.symm
      exact (ih ((same.map Prod.fst).nodup_iff.mpr once)).trans same

/-- Members of different names are only moved. -/
theorem sorted_perm (once : members.names.Nodup) : members.sorted.Perm members :=
  putAllSorted_perm once

/-- There is one order only in which the names rise. -/
theorem eq_of_perm_of_rises (perm : left.Perm right) (rises : left.Rises) (also : right.Rises) : left = right :=
  perm.eq_of_pairwise (fun _ _ _ _ before after => absurd after (String.lt_asymm before)) rises also

/-- Putting members in order forgets their order, and nothing else. -/
theorem sorted_eq_sorted_iff (once : left.names.Nodup) (other : right.names.Nodup) :
    left.sorted = right.sorted ↔ left.Perm right := by
  constructor
  · intro same
    exact (sorted_perm once).symm.trans (same ▸ sorted_perm other)
  · intro perm
    have both : left.sorted.Perm right.sorted := (sorted_perm once).trans (perm.trans (sorted_perm other).symm)
    exact eq_of_perm_of_rises both (rises_sorted left) (rises_sorted right)

/-- Names that rise are all different. -/
theorem nodup_names_of_rises (rises : members.Rises) : members.names.Nodup :=
  List.pairwise_map.mpr (rises.imp fun before => String.ne_of_lt before)

/-- No name is there twice after sorting. -/
theorem nodup_names_sorted (members : Members α) : members.sorted.names.Nodup :=
  nodup_names_of_rises (rises_sorted members)

/-- Members in order stay as they are. -/
theorem sorted_eq_self (rises : members.Rises) : members.sorted = members :=
  eq_of_perm_of_rises (sorted_perm (nodup_names_of_rises rises)) (rises_sorted members) rises

end Members

namespace Json

/-! ## Arranged documents -/

mutual

/-- The document with the members of all its objects in the order of their names. -/
def arranged : Json → Json
  | null => null
  | boolean value => boolean value
  | number value => number value
  | string text => string text
  | array items => array (arrangedItems items)
  | object members => object (arrangedMembers [] members)

/-- The arranged items. -/
def arrangedItems : List Json → List Json
  | [] => []
  | item :: rest => arranged item :: arrangedItems rest

/-- The arranged members, put among those that have been arranged already. -/
def arrangedMembers (placed : List (String × Json)) : List (String × Json) → List (String × Json)
  | [] => placed
  | (name, member) :: rest => arrangedMembers (Members.putSorted placed name (arranged member)) rest

end

variable {members left right : Members Json} {items : List Json}

/-- An array is arranged item by item. -/
theorem arranged_array (items : List Json) : (array items).arranged = array (items.map arranged) := by
  rw [arranged]
  congr 1
  induction items with
  | nil => rfl
  | cons item rest ih => rw [arrangedItems, ih, List.map_cons]

/-- Members are arranged one by one, and then put in order. -/
theorem arrangedMembers_eq (placed members : Members Json) : arrangedMembers placed members =
    placed.putAllSorted (members.map fun (name, member) => (name, member.arranged)) := by
  induction members generalizing placed with
  | nil => rfl
  | cons head rest ih =>
      rw [arrangedMembers, ih]
      rfl

/-- An object is arranged member by member, and then sorted. -/
theorem arranged_object (members : Members Json) : (object members).arranged =
    object (Members.sorted (members.map fun (name, member) => (name, member.arranged))) := by
  rw [arranged, arrangedMembers_eq, Members.sorted_eq]

/-- **Equal but for order.**  Objects are arranged alike exactly if, arranged inside, they have the same members in any
order. -/
theorem arranged_object_eq_iff (once : left.names.Nodup) (other : right.names.Nodup) :
    (object left).arranged = (object right).arranged ↔
      (left.map fun (name, member) => (name, member.arranged)).Perm
        (right.map fun (name, member) => (name, member.arranged)) := by
  rw [← Members.names_map arranged] at once other
  rw [arranged_object, arranged_object, object.injEq]
  exact Members.sorted_eq_sorted_iff once other

end Json

namespace Value

/-! ## Values -/

/-- Items are encoded one by one. -/
theorem itemsToJson_eq (items : List Value) : itemsToJson items = items.map toJson := by
  induction items with
  | nil => rfl
  | cons item rest ih => rw [itemsToJson, ih, List.map_cons]

/-- Items are encoded one by one, also where members keep their order. -/
theorem itemsInOrder_eq (items : List Value) : itemsInOrder items = items.map toJsonInOrder := by
  induction items with
  | nil => rfl
  | cons item rest ih => rw [itemsInOrder, ih, List.map_cons]

/-- The members that are there. -/
def present (members : Members Value) : Members Value :=
  members.filter fun entry => entry.2.isPresent

/-- Members that are there are encoded one by one and keep their order. -/
theorem membersInOrder_eq (members : Members Value) :
    membersInOrder members = (present members).map fun (name, member) => (name, member.toJsonInOrder) := by
  induction members with
  | nil => rfl
  | cons head rest ih =>
      obtain ⟨name, member⟩ := head
      rw [membersInOrder, ih, present, present, List.filter_cons]
      split <;> rfl

/-- Members that are there are encoded one by one and put in order. -/
theorem membersToJson_eq (encoded : Members Json) (members : Members Value) : membersToJson encoded members =
    encoded.putAllSorted ((present members).map fun (name, member) => (name, member.toJson)) := by
  induction members generalizing encoded with
  | nil => rfl
  | cons head rest ih =>
      obtain ⟨name, member⟩ := head
      rw [membersToJson, ih, present, present, List.filter_cons]
      split <;> rfl

/-- The encoding of an array has the encodings of its items. -/
theorem toJson_array (items : List Value) : (array items).toJson = .array (items.map toJson) := by
  rw [toJson, itemsToJson_eq]

/-- The encoding of an object has the encodings of its members, sorted. -/
theorem toJson_object (members : Members Value) : (object members).toJson =
    .object (Members.sorted ((present members).map fun (name, member) => (name, member.toJson))) := by
  rw [toJson, membersToJson_eq, Members.sorted_eq]

/-- Both encodings of a value without parts are the same. -/
theorem arranged_toJsonInOrder_of_isLeaf {value : Value} (leaf : value.IsLeaf) :
    value.toJsonInOrder.arranged = value.toJson := by
  cases value with
  | array items => cases leaf.1
  | object members => cases leaf.2
  | number n =>
      simp only [toJsonInOrder, toJson, numberToJson]
      split <;> rfl
  | _ => rfl

/-- **Two encodings.**  Where members keep their order, the encoding is arranged into the other one. -/
theorem arranged_toJsonInOrder (value : Value) : value.toJsonInOrder.arranged = value.toJson := by
  induction value using induction with
  | leaf value leaf => exact arranged_toJsonInOrder_of_isLeaf leaf
  | array items ih =>
      rw [toJsonInOrder, itemsInOrder_eq, Json.arranged_array, List.map_map, toJson_array]
      exact congrArg Json.array (List.map_congr_left ih)
  | object members ih =>
      rw [toJsonInOrder, membersInOrder_eq, Json.arranged_object, List.map_map, toJson_object]
      refine congrArg (fun members => Json.object (Members.sorted members)) (List.map_congr_left fun entry inside => ?_)
      exact congrArg (Prod.mk entry.1) (ih entry (List.mem_of_mem_filter inside))

end Value

/-! ## Reports -/

/-- Particulars are members of a document even where they are absent. -/
theorem arranged_particulars (context : Context) :
    (Json.object (context.map fun (name, value) => (name, value.toJsonInOrder))).arranged =
      .object (Members.sorted (context.map fun (name, value) => (name, value.toJson))) := by
  rw [Json.arranged_object, List.map_map]
  refine congrArg (fun members => Json.object (Members.sorted members)) (List.map_congr_left fun entry _ => ?_)
  exact congrArg (Prod.mk entry.1) entry.2.arranged_toJsonInOrder

/-- The two encodings of a finding differ in the order of members only. -/
theorem Finding.arranged_toJsonInOrder (finding : Finding) : finding.toJsonInOrder.arranged = finding.toJson := by
  have particulars := arranged_particulars finding.context
  rw [toJsonInOrder, Json.arranged_object, toJson]
  cases finding.message with
  | none =>
      exact congrArg (fun context => Json.object (Members.sorted
        [("path", .string finding.path.text), ("type", .string finding.rule), ("context", context)])) particulars
  | some message =>
      exact congrArg (fun context => Json.object (Members.sorted
        [("path", .string finding.path.text), ("type", .string finding.rule), ("context", context),
          ("message", .string message)])) particulars

/-- The two encodings of a report differ in the order of members only. -/
theorem Report.arranged_toJsonInOrder (report : Report) : report.toJsonInOrder.arranged = report.toJson := by
  have details : (Json.array (report.findings.map Finding.toJsonInOrder)).arranged =
      .array (report.findings.map Finding.toJson) := by
    rw [Json.arranged_array, List.map_map]
    exact congrArg Json.array (List.map_congr_left fun finding _ => finding.arranged_toJsonInOrder)
  rw [toJsonInOrder, Json.arranged_object, toJson]
  exact congrArg (fun details => Json.object (Members.sorted
    [("isJoi", .boolean true), ("name", .string "ValidationError"), ("details", details)])) details

/-- **Two encodings.**  Values and reports have one document, however they are encoded, but for the order of members. -/
theorem encodings_agree : (∀ value : Value, value.toJsonInOrder.arranged = value.toJson) ∧
    ∀ report : Report, report.toJsonInOrder.arranged = report.toJson :=
  ⟨Value.arranged_toJsonInOrder, Report.arranged_toJsonInOrder⟩

end Vetting

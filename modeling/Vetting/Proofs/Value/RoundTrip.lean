import Vetting.Proofs.Value.Encoding

/-!
# Documents read back

A document has no place for some values, so what is read back from it need not be the value that was written.  But it is
written as the same document again (`Value.toJson_ofJson_toJson`): absent members are gone after the first time, members
are in order, and what has become null or a text stays so.  A plain value, for all parts of which there is a place, comes
back equal to itself (`Value.Plain.same_ofJson_toJson`): nothing happens to it but that its members are put in order.
-/

namespace Vetting

namespace Value

/-! ## Reading a document -/

/-- An array is read back item by item. -/
theorem ofJson_array (items : List Json) : ofJson (.array items) = array (items.map ofJson) := by
  rw [ofJson]
  congr 1
  induction items with
  | nil => rfl
  | cons item rest ih => rw [itemsOfJson, ih, List.map_cons]

/-- An object is read back member by member. -/
theorem ofJson_object (members : Members Json) :
    ofJson (.object members) = object (members.map fun (name, member) => (name, ofJson member)) := by
  rw [ofJson]
  congr 1
  induction members with
  | nil => rfl
  | cons head rest ih =>
      obtain ⟨name, member⟩ := head
      rw [membersOfJson, ih, List.map_cons]

/-- Nothing that is read from a document is absent. -/
theorem isPresent_ofJson (document : Json) : (ofJson document).isPresent = true := by
  cases document <;> rfl

/-- If every member is there, none is left out. -/
theorem present_eq_self {members : Members Value} (all : ∀ entry ∈ members, entry.2.isPresent = true) :
    present members = members :=
  List.filter_eq_self.mpr all

/-! ## Writing again what was read -/

/-- The encoding of a value without parts is found again when it is read back and encoded. -/
theorem toJson_ofJson_toJson_of_isLeaf {value : Value} (leaf : value.IsLeaf) :
    (ofJson value.toJson).toJson = value.toJson := by
  cases value with
  | array items => cases leaf.1
  | object members => cases leaf.2
  | number n =>
      rw [toJson, numberToJson]
      split
      next finite => rw [ofJson, toJson, numberToJson, if_pos finite]
      · rfl
  | _ => rfl

/-- The document of an object is in order, and nothing is absent from what is read from it. -/
theorem toJson_ofJson_object {members : Members Json} (rises : members.Rises)
    (settled : ∀ entry ∈ members, (ofJson entry.2).toJson = entry.2) :
    (ofJson (.object members)).toJson = .object members := by
  have all : ∀ entry ∈ members.map fun (name, member) => (name, ofJson member), entry.2.isPresent = true := by
    intro entry listed
    obtain ⟨origin, -, rfl⟩ := List.mem_map.mp listed
    exact isPresent_ofJson origin.2
  have unchanged : (members.map fun (name, member) => (name, (ofJson member).toJson)) = members := by
    refine (List.map_congr_left fun entry listed => ?_).trans (List.map_id members)
    exact congrArg (Prod.mk entry.1) (settled entry listed)
  rw [ofJson_object, toJson_object, present_eq_self all, List.map_map]
  exact congrArg Json.object ((congrArg Members.sorted unchanged).trans (Members.sorted_eq_self rises))

/-- A document that comes from a value is written again as it was read. -/
theorem toJson_ofJson_toJson (value : Value) : (ofJson value.toJson).toJson = value.toJson := by
  induction value using induction with
  | leaf value leaf => exact toJson_ofJson_toJson_of_isLeaf leaf
  | array items ih =>
      rw [toJson_array, ofJson_array, toJson_array, List.map_map, List.map_map]
      exact congrArg Json.array (List.map_congr_left ih)
  | object members ih =>
      rw [toJson_object]
      apply toJson_ofJson_object (Members.rises_sorted _)
      intro entry listed
      obtain ⟨origin, there, rfl⟩ := List.mem_map.mp (Members.mem_of_mem_sorted listed)
      exact ih origin (List.mem_of_mem_filter there)

/-! ## Plain values -/

/-- A value that is made of null, flags, finite numbers, texts, arrays, and objects in which every name is there once. -/
inductive Plain : Value → Prop where
  | null : Plain .null
  | boolean (flag : Bool) : Plain (.boolean flag)
  | number {n : Float} (finite : n.isFinite = true) : Plain (.number n)
  | string (text : String) : Plain (.string text)
  | array {items : List Value} (inside : ∀ item ∈ items, Plain item) : Plain (.array items)
  | object {members : Members Value} (once : members.names.Nodup) (inside : ∀ entry ∈ members, Plain entry.2) :
    Plain (.object members)

/-- A plain value is there. -/
theorem Plain.isPresent {value : Value} (plain : value.Plain) : value.isPresent = true := by
  cases plain <;> rfl

/-- A plain value comes back from its document. -/
theorem Plain.same_ofJson_toJson {value : Value} (plain : value.Plain) : (ofJson value.toJson).same value = true := by
  induction plain with
  | null => rfl
  | boolean flag => cases flag <;> rfl
  | @number n finite =>
      rw [toJson, numberToJson, if_pos finite, ofJson, same, Number.beq_self_iff]
      exact Number.isNaN_of_isFinite finite
  | string text => rw [toJson, ofJson, same, beq_self_eq_true]
  | @array items inside ih =>
      rw [toJson_array, ofJson_array, List.map_map, same_array_iff, List.forall₂_map_left_iff, List.forall₂_same]
      exact ih
  | @object members once inside ih =>
      have moved := Members.sorted_perm (Members.names_map toJson members ▸ once)
      rw [toJson_object, present_eq_self fun entry listed => (inside entry listed).isPresent, ofJson_object, same_object_iff]
      constructor
      · rw [List.length_map, moved.length_eq, List.length_map]
      · intro entry listed
        obtain ⟨written, there, rfl⟩ := List.mem_map.mp listed
        obtain ⟨⟨name, member⟩, stands, rfl⟩ := List.mem_map.mp (moved.mem_iff.mp there)
        exact ⟨member, Members.get?_of_mem once stands, ih _ stands⟩

/-- A leaf that comes back is one that there is a place for. -/
theorem plain_of_isLeaf {value : Value} (leaf : value.IsLeaf) (back : (ofJson value.toJson).same value = true) :
    value.Plain := by
  cases value with
  | array items => cases leaf.1
  | object members => cases leaf.2
  | null => exact .null
  | boolean flag => exact .boolean flag
  | string text => exact .string text
  | number n =>
      rw [toJson, numberToJson] at back
      split at back
      next finite => exact .number finite
      · cases back
  | undefined | date _ | function _ _ => cases back

/-- Of an object that comes back nothing has been left out, and no two members have been made one. -/
theorem plain_of_object {members : Members Value}
    (back : (ofJson (object members).toJson).same (object members) = true)
    (inner : ∀ entry ∈ members, (ofJson entry.2.toJson).same entry.2 = true → entry.2.Plain) :
    (object members).Plain := by
  rw [toJson_object, ofJson_object] at back
  have inOrder := Members.nodup_names_sorted (present members |>.map fun entry => (entry.1, entry.2.toJson))
  rw [← Members.names_map ofJson] at inOrder
  obtain ⟨once, partners⟩ := partners_of_same_object inOrder back
  apply Plain.object once
  intro entry listed
  obtain ⟨returned, there, equal⟩ := partners entry listed
  obtain ⟨written, among, same⟩ := List.mem_map.mp there
  obtain ⟨origin, stands, rfl⟩ := List.mem_map.mp (Members.mem_of_mem_sorted among)
  obtain ⟨own, rfl⟩ := Prod.mk.inj same
  -- The member was written from the one that has its name, and that is the member itself.
  have found := Members.get?_of_mem once (List.mem_of_mem_filter stands)
  rw [own, Members.get?_of_mem once listed] at found
  rw [← Option.some.inj found] at equal
  exact inner entry listed equal

/-- A value that is equal to what is read back from its encoding is plain. -/
theorem plain_of_same_ofJson_toJson (value : Value) (back : (ofJson value.toJson).same value = true) : value.Plain := by
  induction value using induction with
  | leaf value leaf => exact plain_of_isLeaf leaf back
  | array items ih =>
      rw [toJson_array, ofJson_array, List.map_map, same_array_iff, List.forall₂_map_left_iff, List.forall₂_same] at back
      exact .array fun item listed => ih item listed (back item listed)
  | object members ih => exact plain_of_object back ih

/-- **There and back.**  What is read from the document of a value is written as the same document again, and it is
equal to the value exactly if that is plain. -/
theorem documents_settle (value : Value) : (ofJson value.toJson).toJson = value.toJson ∧
    ((ofJson value.toJson).same value = true ↔ value.Plain) :=
  ⟨toJson_ofJson_toJson value, plain_of_same_ofJson_toJson value, Plain.same_ofJson_toJson⟩

end Value

end Vetting

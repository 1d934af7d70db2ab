import Mathlib.Data.List.Induction
import Vetting.Members

/-!
# Named members

What becomes of named members under a translation, and of members that are put again.  Putting a member that
is there already changes nothing.  Nor does putting several members that have been put right before, one after
the other, even if some of them are of the same name (`Members.putAll_putAll`).  Members of different names
are found again as they were put (`Members.get?_putAll`), and of those of one name the last one is, in the place
of the first (`Members.merges_ofList`).
-/

namespace Vetting.Members

variable {α β : Type}

/-! ## Translating members -/

/-- Members with a translation of each of them. -/
theorem put_map (f : α → β) (members : Members α) (name : String) (member : α) :
    put (members.map fun (name, entry) => (name, f entry)) name (f member) =
      (put members name member).map fun (name, entry) => (name, f entry) := by
  induction members with
  | nil => rfl
  | cons head rest ih =>
      obtain ⟨other, old⟩ := head
      by_cases same : other = name
      · simp only [List.map_cons, put, same, ↓reduceIte]
      · simp only [List.map_cons, put, same, ↓reduceIte, ih]

/-- Members may be put before they are translated or after. -/
theorem putAll_map (f : α → β) (members additions : Members α) :
    putAll (members.map fun (name, entry) => (name, f entry))
        (additions.map fun (name, entry) => (name, f entry)) =
      (putAll members additions).map fun (name, entry) => (name, f entry) := by
  unfold putAll
  induction additions generalizing members with
  | nil => rfl
  | cons head rest ih =>
      obtain ⟨name, member⟩ := head
      simp only [List.map_cons, List.foldl_cons, put_map, ih]

/-- A translated member is found by the name that it had before. -/
theorem get?_map (f : α → β) (members : Members α) (name : String) :
    get? (members.map fun (name, entry) => (name, f entry)) name = (members.get? name).map f := by
  induction members with
  | nil => rfl
  | cons head rest ih =>
      obtain ⟨other, member⟩ := head
      by_cases same : other = name
      · simp only [List.map_cons, get?, same, ↓reduceIte, Option.map_some]
      · simp only [List.map_cons, get?, same, ↓reduceIte, ih]

/-- A translation leaves the names of members. -/
theorem names_map (f : α → β) (members : Members α) :
    names (members.map fun (name, entry) => (name, f entry)) = members.names := by
  rw [names, List.map_map]
  rfl

/-! ## Putting members again -/

/-- Putting a member in its own place changes nothing. -/
theorem put_get? {members : Members α} {name : String} {member : α}
    (there : members.get? name = some member) : members.put name member = members := by
  induction members with
  | nil => cases there
  | cons head rest ih =>
      obtain ⟨other, old⟩ := head
      by_cases same : other = name
      · simp only [get?, same, ↓reduceIte, Option.some.injEq] at there
        simp only [put, same, there, ↓reduceIte]
      · simp only [get?, same, ↓reduceIte] at there
        simp only [put, same, ih there, ↓reduceIte]

/-- Of two members that are put under one name the later one counts. -/
theorem put_put (members : Members α) (name : String) (first second : α) :
    (members.put name first).put name second = members.put name second := by
  induction members with
  | nil => simp only [put, ↓reduceIte]
  | cons head rest ih =>
      obtain ⟨other, old⟩ := head
      by_cases same : other = name
      · simp only [put, same, ↓reduceIte]
      · simp only [put, same, ih, ↓reduceIte]

/-- Members can be put in any order if one of them does not come in at the end. -/
theorem put_comm {members : Members α} {name other : String} (distinct : name ≠ other)
    (present : members.has name = true) (first second : α) :
    (members.put name first).put other second = (members.put other second).put name first := by
  induction members with
  | nil => cases present
  | cons head rest ih =>
      obtain ⟨known, old⟩ := head
      by_cases own : known = name
      · subst own
        simp only [put, distinct, ↓reduceIte]
      · have inRest : has rest name = true := by simpa only [has, get?, own, ↓reduceIte] using present
        by_cases foreign : known = other
        · simp only [put, foreign, distinct.symm, ↓reduceIte]
        · simp only [put, own, foreign, ih inRest, ↓reduceIte]

/-- A member is there still after another one has been put. -/
theorem has_put {members : Members α} {name : String} (present : members.has name = true) (other : String)
    (member : α) : (members.put other member).has name = true := by
  unfold has at present ⊢
  rw [get?_put]
  split
  · rfl
  · exact present

/-- A member is there once it has been put. -/
theorem has_put_self (members : Members α) (name : String) (member : α) :
    (members.put name member).has name = true := by
  simp only [has, get?_put, ↓reduceIte, Option.isSome_some]

@[simp] theorem putAll_nil (members : Members α) : members.putAll [] = members := rfl

/-- Members are put one after the other. -/
theorem putAll_cons (members : Members α) (name : String) (member : α) (rest : Members α) :
    members.putAll ((name, member) :: rest) = (members.put name member).putAll rest := rfl

/-- A member is there still after others have been put. -/
theorem has_putAll {members : Members α} {name : String} (present : members.has name = true)
    (additions : Members α) : (members.putAll additions).has name = true := by
  induction additions generalizing members with
  | nil => exact present
  | cons addition rest ih =>
      obtain ⟨other, member⟩ := addition
      rw [putAll_cons]
      exact ih (has_put present other member)

/-- What has been put is there. -/
theorem has_putAll_of_mem {additions : Members α} {name : String} (put : name ∈ additions.names)
    (members : Members α) : (members.putAll additions).has name = true := by
  induction additions generalizing members with
  | nil => cases put
  | cons addition rest ih =>
      obtain ⟨other, member⟩ := addition
      rw [putAll_cons]
      rcases List.mem_cons.mp put with rfl | later
      · exact has_putAll (has_put_self members name member) rest
      · exact ih later _

/-- A member whose name is not put is found as before. -/
theorem get?_putAll_of_not_mem {additions : Members α} {name : String} (absent : name ∉ additions.names)
    (members : Members α) : (members.putAll additions).get? name = members.get? name := by
  induction additions generalizing members with
  | nil => rfl
  | cons addition rest ih =>
      obtain ⟨other, member⟩ := addition
      simp only [names, List.map_cons, List.mem_cons, not_or] at absent
      rw [putAll_cons, ih absent.2, get?_put, if_neg absent.1]

/-- A member that is put again later need not be put before. -/
theorem putAll_put {members additions : Members α} {name : String} (later : name ∈ additions.names)
    (present : members.has name = true) (member : α) :
    (members.put name member).putAll additions = members.putAll additions := by
  induction additions generalizing members with
  | nil => cases later
  | cons addition rest ih =>
      obtain ⟨other, next⟩ := addition
      rw [putAll_cons, putAll_cons]
      by_cases same : other = name
      · rw [same, put_put]
      · have inRest : name ∈ names rest :=
          (List.mem_cons.mp later).resolve_left fun own => same own.symm
        rw [put_comm (Ne.symm same) present, ih inRest (has_put present other next)]

/-- A member that is there already may as well be put before others. -/
theorem put_putAll {members additions : Members α} {name : String} (apart : name ∉ additions.names)
    (present : members.has name = true) (member : α) :
    (members.putAll additions).put name member = (members.put name member).putAll additions := by
  induction additions generalizing members with
  | nil => rfl
  | cons addition rest ih =>
      obtain ⟨other, next⟩ := addition
      simp only [names, List.map_cons, List.mem_cons, not_or] at apart
      rw [putAll_cons, putAll_cons, ih apart.2 (has_put present other next), put_comm apart.1 present]

/-- Putting the same members once more changes nothing. -/
theorem putAll_putAll (members additions : Members α) :
    (members.putAll additions).putAll additions = members.putAll additions := by
  induction additions generalizing members with
  | nil => rfl
  | cons addition rest ih =>
      obtain ⟨name, member⟩ := addition
      have unchanged : (((members.put name member).putAll rest).put name member).putAll rest =
          ((members.put name member).putAll rest).putAll rest := by
        by_cases later : name ∈ names rest
        · exact putAll_put later (has_putAll (has_put_self members name member) rest) member
        · rw [put_get? (by rw [get?_putAll_of_not_mem later, get?_put, if_pos rfl])]
      rw [putAll_cons, putAll_cons, unchanged, ih]

/-- What is found is there. -/
theorem mem_of_get? {members : Members α} {name : String} {member : α}
    (found : members.get? name = some member) : (name, member) ∈ members := by
  induction members with
  | nil => cases found
  | cons head rest ih =>
      obtain ⟨other, own⟩ := head
      rw [get?] at found
      split at found
      next same =>
        obtain rfl := Option.some.inj found
        exact same ▸ List.mem_cons_self
      · exact List.mem_cons_of_mem _ (ih found)

/-- What is there after a member has been put is that member or was there before. -/
theorem mem_of_mem_put {members : Members α} {name : String} {member : α} {entry : String × α}
    (inside : entry ∈ members.put name member) : entry = (name, member) ∨ entry ∈ members := by
  induction members with
  | nil => exact .inl (List.mem_singleton.mp inside)
  | cons head rest ih =>
      obtain ⟨other, old⟩ := head
      rw [put] at inside
      split at inside
      · exact (List.mem_cons.mp inside).imp_right (List.mem_cons_of_mem _)
      · rcases List.mem_cons.mp inside with rfl | later
        · exact .inr List.mem_cons_self
        · exact (ih later).imp_right (List.mem_cons_of_mem _)

/-- What is there after members have been put is one of them or was there before. -/
theorem mem_of_mem_putAll {members additions : Members α} {entry : String × α}
    (inside : entry ∈ members.putAll additions) : entry ∈ members ∨ entry ∈ additions := by
  induction additions generalizing members with
  | nil => exact .inl inside
  | cons addition rest ih =>
      rcases ih inside with placed | later
      · rcases mem_of_mem_put placed with rfl | before
        · exact .inr List.mem_cons_self
        · exact .inl before
      · exact .inr (List.mem_cons_of_mem _ later)

/-! ## Members of different names -/

/-- A member is there exactly if its name is among the names. -/
theorem has_iff_mem_names {members : Members α} {name : String} :
    members.has name = true ↔ name ∈ members.names := by
  induction members with
  | nil => simp [has, names]
  | cons head rest ih =>
      obtain ⟨other, member⟩ := head
      unfold has names at ih ⊢
      rw [get?, List.map_cons, List.mem_cons, ← ih]
      by_cases same : other = name
      · simp only [same, ↓reduceIte, Option.isSome_some, true_or]
      · simp only [same, Ne.symm same, ↓reduceIte, false_or]

/-- Members of different names stay so when one is put. -/
theorem nodup_names_put {members : Members α} (distinct : members.names.Nodup) (name : String) (member : α) :
    (members.put name member).names.Nodup := by
  cases present : members.has name with
  | true => rwa [names_put_of_has member present]
  | false =>
      have absent : name ∉ members.names := fun listed => by
        rw [has_iff_mem_names.mpr listed] at present
        cases present
      rw [names_put_of_not_has member present]
      refine List.nodup_append.mpr ⟨distinct, List.pairwise_singleton _ name, fun other listed last single same => ?_⟩
      rw [same, List.mem_singleton.mp single] at listed
      exact absent listed

/-- If no name is there twice, none is after further members have been put. -/
theorem nodup_names_putAll {members : Members α} (distinct : members.names.Nodup) (additions : Members α) :
    (members.putAll additions).names.Nodup := by
  induction additions generalizing members with
  | nil => exact distinct
  | cons addition rest ih =>
      obtain ⟨name, member⟩ := addition
      rw [putAll_cons]
      exact ih (nodup_names_put distinct name member)

/-- A new member goes to the end. -/
theorem put_eq_append {members : Members α} {name : String} (absent : members.has name = false) (member : α) :
    members.put name member = members ++ [(name, member)] := by
  induction members with
  | nil => rfl
  | cons head rest ih =>
      obtain ⟨other, old⟩ := head
      by_cases same : other = name
      · simp only [has, get?, same, ↓reduceIte, Option.isSome_some, Bool.true_eq_false] at absent
      · have notInRest : has rest name = false := by simpa only [has, get?, same, ↓reduceIte] using absent
        rw [put, if_neg same, ih notInRest, List.cons_append]

/-- A member of members of different names is put in its place. -/
theorem put_eq_map {members : Members α} {name : String} (distinct : members.names.Nodup)
    (present : members.has name = true) (member : α) :
    members.put name member = members.map fun (other, old) => (other, if other = name then member else old) := by
  induction members with
  | nil => cases present
  | cons head rest ih =>
      obtain ⟨other, old⟩ := head
      obtain ⟨own, further⟩ := List.nodup_cons.mp distinct
      by_cases same : other = name
      · subst same
        have spared : ∀ entry ∈ rest, (entry.1, if entry.1 = other then member else entry.2) = entry := by
          intro entry inside
          rw [if_neg fun same : entry.1 = other => own (List.mem_map.mpr ⟨entry, inside, same⟩)]
        simp only [put, List.map_cons, ↓reduceIte, List.map_congr_left spared, List.map_id']
      · have inRest : has rest name = true := by simpa only [has, get?, same, ↓reduceIte] using present
        simp only [put, List.map_cons, same, ↓reduceIte, ih further inRest]

/-- Additions of different names take the place of what was there, and leave the rest. -/
theorem get?_putAll {additions : Members α} (distinct : additions.names.Nodup) (members : Members α)
    (name : String) : (members.putAll additions).get? name = (additions.get? name).or (members.get? name) := by
  induction additions generalizing members with
  | nil => rfl
  | cons addition rest ih =>
      obtain ⟨other, member⟩ := addition
      obtain ⟨absent, distinctRest⟩ := List.nodup_cons.mp distinct
      rw [putAll_cons, get?]
      by_cases same : other = name
      · subst same
        rw [get?_putAll_of_not_mem absent, get?_put, if_pos rfl, if_pos rfl, Option.some_or]
      · rw [ih distinctRest, get?_put, if_neg (Ne.symm same), if_neg same]

/-! ## Entries in which names may repeat -/

/-- The entries put together: a name that comes again keeps its first place and takes its last member. -/
structure Merges (entries merged : Members α) : Prop where
  names_eq : merged.names = (names entries).eraseDups
  get?_eq : ∀ name, merged.get? name = get? entries.reverse name

/-- Of a row of entries the last one is put last. -/
theorem ofList_concat (entries : List (String × α)) (name : String) (member : α) :
    ofList (entries ++ [(name, member)]) = (ofList entries).put name member := by
  rw [ofList, putAll, List.foldl_append]
  rfl

/-- A row of entries makes members that hold the last entry of each name, in the order in which names came first. -/
theorem merges_ofList (entries : List (String × α)) : Merges entries (ofList entries) := by
  induction entries using List.reverseRecOn with
  | nil => exact ⟨rfl, fun _ => rfl⟩
  | append_singleton entries entry ih =>
      obtain ⟨name, member⟩ := entry
      rw [ofList_concat]
      constructor
      · have listed : name ∈ (ofList entries).names ↔ name ∈ names entries := by
          rw [ih.names_eq, List.mem_eraseDups]
        have split : names (entries ++ [(name, member)]) = names entries ++ [name] := List.map_append
        rw [split, List.eraseDups_append]
        by_cases known : name ∈ names entries
        · have gone : List.removeAll [name] (names entries) = [] := by simp [List.removeAll, known]
          rw [names_put_of_has member (has_iff_mem_names.mpr (listed.mpr known)), ih.names_eq, gone,
            List.eraseDups_nil, List.append_nil]
        · have stays : List.removeAll [name] (names entries) = [name] := by simp [List.removeAll, known]
          have absent : (ofList entries).has name = false :=
            Bool.eq_false_iff.mpr fun there => known (listed.mp (has_iff_mem_names.mp there))
          rw [names_put_of_not_has member absent, ih.names_eq, stays]
          rfl
      · intro asked
        rw [get?_put, List.reverse_append, List.reverse_singleton, List.singleton_append, get?, ih.get?_eq]
        exact if_congr eq_comm rfl rfl

end Vetting.Members

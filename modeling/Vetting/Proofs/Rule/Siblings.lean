import Vetting.Rule.Siblings

/-!
# Amending siblings

An amendment changes entries in place.  So whatever it leaves alone in one entry it leaves alone in all
siblings (`Keeps`), and if it commutes with a translation of entries, so do all ways to reach siblings
(`Commutes`).
-/

namespace Vetting

variable {ι κ : Type}

/-- The amendment leaves alone what the view shows of an entry. -/
def Keeps (view : ι → κ) (amend : ι → Option ι) : Prop :=
  ∀ ⦃entry amended : ι⦄, amend entry = some amended → view amended = view entry

/-- Amending a translated entry is the same as translating the amended one. -/
def Commutes (translate : ι → κ) (amend : ι → Option ι) (amendTranslated : κ → Option κ) : Prop :=
  ∀ entry, amendTranslated (translate entry) = (amend entry).map translate

/-- The siblings with a translation of every entry. -/
def Siblings.map (translate : ι → κ) (siblings : Siblings ι) : Siblings κ :=
  ⟨siblings.before.map translate, siblings.after.map translate⟩

namespace Keeps

variable {view : ι → κ} {amend : ι → Option ι}

/-- What each amendment keeps is kept of all entries. -/
theorem amendAll (keeps : Keeps view amend) (entries : List ι) :
    (amendAll amend entries).map view = entries.map view := by
  unfold Vetting.amendAll
  rw [List.map_map]
  refine List.map_congr_left fun entry _ => ?_
  cases amended : amend entry with
  | none => simp only [Function.comp_apply, amended, Option.getD_none]
  | some next => simpa only [Function.comp_apply, amended, Option.getD_some] using keeps amended

/-- What each amendment keeps is kept of all entries when the first possible one is amended. -/
theorem amendFirst? (keeps : Keeps view amend) {entries amended : List ι}
    (reached : amendFirst? amend entries = some amended) : amended.map view = entries.map view := by
  induction entries generalizing amended with
  | nil => simp [Vetting.amendFirst?] at reached
  | cons entry rest ih =>
      rw [Vetting.amendFirst?] at reached
      cases own : amend entry with
      | some next =>
          rw [own] at reached
          obtain rfl := Option.some.inj reached
          rw [List.map_cons, List.map_cons, keeps own]
      | none =>
          rw [own] at reached
          obtain ⟨others, found, rfl⟩ := Option.map_eq_some_iff.mp reached
          rw [List.map_cons, List.map_cons, ih found]

/-- What each amendment keeps is kept of all entries when the last possible one is amended. -/
theorem amendLast? (keeps : Keeps view amend) {entries amended : List ι}
    (reached : amendLast? amend entries = some amended) : amended.map view = entries.map view := by
  induction entries generalizing amended with
  | nil => simp [Vetting.amendLast?] at reached
  | cons entry rest ih =>
      rw [Vetting.amendLast?] at reached
      cases later : Vetting.amendLast? amend rest with
      | some others =>
          rw [later] at reached
          obtain rfl := Option.some.inj reached
          rw [List.map_cons, List.map_cons, ih later]
      | none =>
          rw [later] at reached
          obtain ⟨next, own, rfl⟩ := Option.map_eq_some_iff.mp reached
          rw [List.map_cons, List.map_cons, keeps own]

/-- What each amendment keeps is kept of all siblings. -/
theorem all (keeps : Keeps view amend) (siblings : Siblings ι) :
    (siblings.all amend).map view = siblings.map view := by
  simp only [Siblings.all, Siblings.map, keeps.amendAll]

variable {siblings amended : Siblings ι}

/-- What each amendment keeps is kept of all siblings when the first earlier one is amended. -/
theorem first? (keeps : Keeps view amend) (reached : siblings.first? amend = some amended) :
    amended.map view = siblings.map view := by
  obtain ⟨before, found, rfl⟩ := Option.map_eq_some_iff.mp reached
  simp only [Siblings.map, keeps.amendFirst? found]

/-- What each amendment keeps is kept of all siblings when the last earlier one is amended. -/
theorem last? (keeps : Keeps view amend) (reached : siblings.last? amend = some amended) :
    amended.map view = siblings.map view := by
  obtain ⟨before, found, rfl⟩ := Option.map_eq_some_iff.mp reached
  simp only [Siblings.map, keeps.amendLast? found]

/-- What each amendment keeps is kept of all siblings when the next later one is amended. -/
theorem next? (keeps : Keeps view amend) (reached : siblings.next? amend = some amended) :
    amended.map view = siblings.map view := by
  obtain ⟨after, found, rfl⟩ := Option.map_eq_some_iff.mp reached
  simp only [Siblings.map, keeps.amendFirst? found]

end Keeps

namespace Commutes

variable {translate : ι → κ} {amend : ι → Option ι} {amendTranslated : κ → Option κ}

/-- All entries may be amended before they are translated or after. -/
theorem amendAll (commutes : Commutes translate amend amendTranslated) (entries : List ι) :
    amendAll amendTranslated (entries.map translate) = (amendAll amend entries).map translate := by
  unfold Vetting.amendAll
  rw [List.map_map, List.map_map]
  refine List.map_congr_left fun entry _ => ?_
  rw [Function.comp_apply, Function.comp_apply, commutes, Option.getD_map]

/-- The first entry that can be amended is the first one after a translation, too. -/
theorem amendFirst? (commutes : Commutes translate amend amendTranslated) (entries : List ι) :
    amendFirst? amendTranslated (entries.map translate) =
      (amendFirst? amend entries).map (List.map translate) := by
  induction entries with
  | nil => rfl
  | cons entry rest ih =>
      rw [List.map_cons, Vetting.amendFirst?, Vetting.amendFirst?, commutes entry, ih]
      cases amend entry with
      | some next => rfl
      | none => simp only [Option.map_none, Option.map_map, Function.comp_def, List.map_cons]

/-- The last entry that can be amended is the last one after a translation, too. -/
theorem amendLast? (commutes : Commutes translate amend amendTranslated) (entries : List ι) :
    amendLast? amendTranslated (entries.map translate) =
      (amendLast? amend entries).map (List.map translate) := by
  induction entries with
  | nil => rfl
  | cons entry rest ih =>
      rw [List.map_cons, Vetting.amendLast?, Vetting.amendLast?, commutes entry, ih]
      cases Vetting.amendLast? amend rest with
      | some others => rfl
      | none => simp only [Option.map_none, Option.map_map, Function.comp_def, List.map_cons]

/-- All siblings may be amended before they are translated or after. -/
theorem all (commutes : Commutes translate amend amendTranslated) (siblings : Siblings ι) :
    (siblings.map translate).all amendTranslated = (siblings.all amend).map translate := by
  simp only [Siblings.all, Siblings.map, commutes.amendAll]

/-- The first earlier sibling that can be amended is the first one after a translation, too. -/
theorem first? (commutes : Commutes translate amend amendTranslated) (siblings : Siblings ι) :
    (siblings.map translate).first? amendTranslated =
      (siblings.first? amend).map (Siblings.map translate) := by
  simp only [Siblings.first?, Siblings.map, commutes.amendFirst?, Option.map_map, Function.comp_def]

/-- The last earlier sibling that can be amended is the last one after a translation, too. -/
theorem last? (commutes : Commutes translate amend amendTranslated) (siblings : Siblings ι) :
    (siblings.map translate).last? amendTranslated =
      (siblings.last? amend).map (Siblings.map translate) := by
  simp only [Siblings.last?, Siblings.map, commutes.amendLast?, Option.map_map, Function.comp_def]

/-- The next later sibling that can be amended is the next one after a translation, too. -/
theorem next? (commutes : Commutes translate amend amendTranslated) (siblings : Siblings ι) :
    (siblings.map translate).next? amendTranslated =
      (siblings.next? amend).map (Siblings.map translate) := by
  simp only [Siblings.next?, Siblings.map, commutes.amendFirst?, Option.map_map, Function.comp_def]

/-- Whether some sibling can be amended is the same after a translation. -/
theorem applies (commutes : Commutes translate amend amendTranslated) (siblings : Siblings ι) :
    (siblings.map translate).applies amendTranslated = siblings.applies amend := by
  have seen : ∀ entry, (amendTranslated (translate entry)).isSome = (amend entry).isSome := by
    intro entry
    rw [commutes, Option.isSome_map]
  simp only [Siblings.applies, Siblings.map, List.any_map, Function.comp_def, seen]

end Commutes

end Vetting

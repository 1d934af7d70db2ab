import Vetting.Text.Pieces

/-!
# Texts and their pieces

The pieces of a text are free of the separator, and pieces of that kind are found again when they are joined by it
(`pieces_intercalate`).  A text is cut at its first separator, or it has none (`exists_cutAt`).
-/

namespace Vetting.Text

variable {separator : Char}

/-- A text without the separator is its only piece. -/
theorem pieces_of_not_mem {piece : List Char} (free : separator ∉ piece) : pieces separator piece = [piece] := by
  induction piece with
  | nil => rfl
  | cons c rest ih =>
      obtain ⟨other, freeRest⟩ := List.ne_and_not_mem_of_not_mem_cons free
      rw [pieces, if_neg (Ne.symm other), ih freeRest]

/-- What stands before the first separator is the first piece. -/
theorem pieces_append {piece : List Char} (free : separator ∉ piece) (rest : List Char) :
    pieces separator (piece ++ separator :: rest) = piece :: pieces separator rest := by
  induction piece with
  | nil => rw [List.nil_append, pieces, if_pos rfl]
  | cons c others ih =>
      obtain ⟨other, freeOthers⟩ := List.ne_and_not_mem_of_not_mem_cons free
      rw [List.cons_append, pieces, if_neg (Ne.symm other), ih freeOthers]

/-- Pieces without the separator are found again when they are joined by it. -/
theorem pieces_intercalate {parts : List (List Char)} (some : parts ≠ []) (free : ∀ part ∈ parts, separator ∉ part) :
    pieces separator ([separator].intercalate parts) = parts := by
  induction parts with
  | nil => exact absurd rfl some
  | cons part rest ih =>
      have freePart := free part List.mem_cons_self
      cases rest with
      | nil => rw [List.intercalate_singleton, pieces_of_not_mem freePart]
      | cons next others =>
          rw [List.intercalate_cons_cons, List.append_assoc, List.singleton_append, pieces_append freePart,
            ih (List.cons_ne_nil _ _) fun part member => free part (List.mem_cons_of_mem _ member)]

/-- No piece has the separator inside. -/
theorem not_mem_of_mem_pieces {text piece : List Char} (member : piece ∈ pieces separator text) :
    separator ∉ piece := by
  induction text generalizing piece with
  | nil =>
      obtain rfl := List.mem_singleton.mp member
      exact List.not_mem_nil
  | cons c rest ih =>
      rw [pieces] at member
      split at member
      · rcases List.mem_cons.mp member with rfl | later
        · exact List.not_mem_nil
        · exact ih later
      next other =>
        cases parts : pieces separator rest with
        | nil => exact absurd parts (pieces_ne_nil separator rest)
        | cons first others =>
            rw [parts] at member ih
            rcases List.mem_cons.mp member with rfl | later
            · exact List.not_mem_cons_of_ne_of_not_mem (Ne.symm other) (ih List.mem_cons_self)
            · exact ih (List.mem_cons_of_mem _ later)

/-- A character that does not separate stands in one of the pieces. -/
theorem exists_mem_pieces {text : List Char} {c : Char} (member : c ∈ text) (other : c ≠ separator) :
    ∃ piece ∈ pieces separator text, c ∈ piece := by
  induction text with
  | nil => cases member
  | cons first rest ih =>
      rw [pieces]
      by_cases separates : first = separator
      · rw [if_pos separates]
        have later := (List.mem_cons.mp member).resolve_left fun same => other (same.trans separates)
        obtain ⟨piece, found, inside⟩ := ih later
        exact ⟨piece, List.mem_cons_of_mem _ found, inside⟩
      · rw [if_neg separates]
        cases parts : pieces separator rest with
        | nil => exact absurd parts (pieces_ne_nil separator rest)
        | cons piece others =>
            rcases List.mem_cons.mp member with rfl | later
            · exact ⟨c :: piece, List.mem_cons_self, List.mem_cons_self⟩
            · obtain ⟨found, among, inside⟩ := ih later
              rw [parts] at among
              rcases List.mem_cons.mp among with rfl | further
              · exact ⟨first :: found, List.mem_cons_self, List.mem_cons_of_mem _ inside⟩
              · exact ⟨found, List.mem_cons_of_mem _ further, inside⟩

/-! ## The first separator -/

/-- What stands before the first separator of a text, and what stands behind it, if there is one. -/
inductive CutAt (separator : Char) : List Char → List Char → Option (List Char) → Prop
  | whole {text : List Char} (free : separator ∉ text) : CutAt separator text text none
  | parts {before : List Char} (free : separator ∉ before) (after : List Char) :
      CutAt separator (before ++ separator :: after) before (some after)

/-- A text without the separator is not cut. -/
theorem cutAtFirst?_of_not_mem {text : List Char} (free : separator ∉ text) : cutAtFirst? separator text = none := by
  induction text with
  | nil => rfl
  | cons c rest ih =>
      obtain ⟨other, freeRest⟩ := List.ne_and_not_mem_of_not_mem_cons free
      rw [cutAtFirst?, if_neg (Ne.symm other), ih freeRest, Option.map_none]

/-- A text is cut at its first separator. -/
theorem cutAtFirst?_append {before : List Char} (free : separator ∉ before) (after : List Char) :
    cutAtFirst? separator (before ++ separator :: after) = some (before, after) := by
  induction before with
  | nil => rw [List.nil_append, cutAtFirst?, if_pos rfl]
  | cons c rest ih =>
      obtain ⟨other, freeRest⟩ := List.ne_and_not_mem_of_not_mem_cons free
      rw [List.cons_append, cutAtFirst?, if_neg (Ne.symm other), ih freeRest, Option.map_some]

/-- Every text is cut, or has no separator. -/
theorem exists_cutAt (separator : Char) (text : List Char) : ∃ before after?, CutAt separator text before after? := by
  by_cases free : separator ∈ text
  · obtain ⟨before, after, rfl, first⟩ := List.eq_append_cons_of_mem free
    exact ⟨before, some after, .parts first after⟩
  · exact ⟨text, none, .whole free⟩

end Vetting.Text

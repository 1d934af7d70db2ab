/-!
# Cutting a text at a separator

`pieces` cuts at every separator, `cutAtFirst?` at the first one only.  Joining the pieces with the
separator gives the text back.
-/

namespace Vetting.Text

/-- The parts between the separators; a text without one is its only part. -/
def pieces (separator : Char) : List Char → List (List Char)
  | [] => [[]]
  | c :: rest =>
    if c = separator then [] :: pieces separator rest
    else match pieces separator rest with
      | [] => [[c]]
      | piece :: others => (c :: piece) :: others

/-- The parts before and after the first separator. -/
def cutAtFirst? (separator : Char) : List Char → Option (List Char × List Char)
  | [] => none
  | c :: rest =>
    if c = separator then some ([], rest)
    else (cutAtFirst? separator rest).map fun (before, after) => (c :: before, after)

/-- Every text has a piece. -/
theorem pieces_ne_nil (separator : Char) (text : List Char) : pieces separator text ≠ [] := by
  cases text with
  | nil => simp [pieces]
  | cons c rest => grind [pieces]

/-- The pieces, joined by the separator, are the text again. -/
theorem intercalate_pieces (separator : Char) (text : List Char) :
    [separator].intercalate (pieces separator text) = text := by
  induction text with
  | nil => rfl
  | cons c rest ih =>
    have nonempty := pieces_ne_nil separator rest
    cases found : pieces separator rest with
    | nil => exact absurd found nonempty
    | cons piece others =>
      rw [found] at ih
      by_cases same : c = separator
      · subst same
        simp [pieces, found, List.intercalate_cons_cons, ih]
      · have step : pieces separator (c :: rest) = (c :: piece) :: others := by
          simp [pieces, same, found]
        rw [step]
        cases others with
        | nil => simp_all [List.intercalate]
        | cons next more =>
          simp only [List.intercalate_cons_cons] at ih ⊢
          simpa using ih

/-- The parts of a string between the separators. -/
def piecesOf (separator : Char) (text : String) : List String :=
  (pieces separator text.toList).map String.ofList

end Vetting.Text

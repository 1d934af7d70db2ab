import Mathlib.Data.List.Basic
import Mathlib.Data.List.Forall2
import Vetting.Message.Template
import Vetting.Proofs.Members

/-!
# Pieces of templates

A template falls into characters that stand for themselves and placeholders, and nothing of it is lost
(`source_pieces`).  Its message is made up of what the pieces are replaced by (`toList_render`).  So if all
placeholders have values, the message is the template with the values in their places (`spells_render`); and if one
has none, it can be found in the message with its braces (`infix_render`).
-/

namespace Vetting.Message

variable {finding : Finding} {template : String}

/-- A piece of a template. -/
inductive Piece where
  /-- A character that stands for itself. -/
  | plain (c : Char)
  /-- A name in braces. -/
  | hole (name : List Char)
deriving DecidableEq

namespace Piece

/-- The piece as it is written in the template. -/
def source : Piece → List Char
  | plain c => [c]
  | hole name => '\x7b' :: name ++ ['\x7d']

/-- What the piece is replaced by in the message. -/
def filled (finding : Finding) : Piece → List Char
  | plain c => [c]
  | hole name => Message.filled finding name

/-- The piece of the message that it stands for, if every placeholder needs a value. -/
def meaning? (finding : Finding) : Piece → Option (List Char)
  | plain c => some [c]
  | hole name => (placeholder? finding (String.ofList name)).map fun value => value.text.toList

/-- The name of a placeholder. -/
def name? : Piece → Option String
  | plain _ => none
  | hole name => some (String.ofList name)

end Piece

/-- The pieces of a template, given the characters read since an open brace, last first. -/
def piecesFrom : Option (List Char) → List Char → List Piece
  | none, [] => []
  | some read, [] => .plain '\x7b' :: read.reverse.map .plain
  | none, c :: rest => if c = '\x7b' then piecesFrom (some []) rest else .plain c :: piecesFrom none rest
  | some read, c :: rest =>
    if c = '\x7d' then .hole read.reverse :: piecesFrom none rest else piecesFrom (some (c :: read)) rest

/-- The pieces of a template. -/
def pieces (template : String) : List Piece :=
  piecesFrom none template.toList

/-- The names in the braces of a template. -/
def placeholders (template : String) : List String :=
  (pieces template).filterMap Piece.name?

/-- All placeholders of the template have values. -/
def Resolves (finding : Finding) (template : String) : Prop :=
  ∀ name ∈ placeholders template, (placeholder? finding name).isSome

/-- The words are the template with values in place of all its placeholders. -/
def Spells (finding : Finding) (template words : String) : Prop :=
  ∃ parts, List.Forall₂ (fun piece part => piece.meaning? finding = some part) (pieces template) parts ∧
    words.toList = parts.flatten

/-! ## What becomes of a template -/

/-- The pieces of a text, one behind the other, are the text again, with the brace of a name that has been begun. -/
theorem source_piecesFrom (read : Option (List Char)) (rest : List Char) :
    (piecesFrom read rest).flatMap Piece.source =
      (read.map fun name => '\x7b' :: name.reverse).getD [] ++ rest := by
  induction rest generalizing read with
  | nil =>
      cases read with
      | none => rfl
      | some read => simp only [piecesFrom, List.flatMap_cons, List.flatMap_map, Piece.source, List.flatMap_singleton',
          List.singleton_append, Option.map_some, Option.getD_some, List.append_nil]
  | cons c rest ih =>
      cases read with
      | none =>
          simp only [piecesFrom]
          split
          next brace => simp [ih, brace]
          next => simp [ih, Piece.source]
      | some read =>
          simp only [piecesFrom]
          split
          next brace => simp [ih, brace, Piece.source]
          next => simp [ih]

/-- Put together again, the pieces are the template. -/
theorem source_pieces (template : String) : (pieces template).flatMap Piece.source = template.toList :=
  source_piecesFrom none template.toList

/-- A text is filled in piece by piece. -/
theorem fillFrom_eq (read : Option (List Char)) (rest : List Char) :
    fillFrom finding read rest = (piecesFrom read rest).flatMap (Piece.filled finding) := by
  induction rest generalizing read with
  | nil =>
      cases read with
      | none => rfl
      | some read => simp only [fillFrom, piecesFrom, List.flatMap_cons, List.flatMap_map, Piece.filled,
          List.flatMap_singleton', List.singleton_append]
  | cons c rest ih =>
      cases read with
      | none =>
          simp only [fillFrom, piecesFrom]
          split
          next => exact ih _
          next => simp [ih, Piece.filled]
      | some read =>
          simp only [fillFrom, piecesFrom]
          split
          next => simp [ih, Piece.filled]
          next => exact ih _

/-- The message of a template, piece by piece. -/
theorem toList_render : (render template finding).toList = (pieces template).flatMap (Piece.filled finding) := by
  rw [render, String.toList_ofList, fillFrom_eq]
  rfl

/-- A template does not look at the message that a finding has already. -/
theorem render_withMessage (words : Option String) : render template { finding with message := words } =
    render template finding := by
  have same : Piece.filled { finding with message := words } = Piece.filled finding := by
    funext piece
    cases piece <;> rfl
  rw [render, fillFrom_eq, same, ← fillFrom_eq, render]

/-- **A template that resolves.**  Its message has a value in place of every placeholder. -/
theorem spells_render (resolves : Resolves finding template) : Spells finding template (render template finding) := by
  refine ⟨(pieces template).map (Piece.filled finding), ?_, ?_⟩
  · rw [List.forall₂_map_right_iff]
    refine List.forall₂_same.mpr fun piece member => ?_
    cases piece with
    | plain c => rfl
    | hole name =>
        have known := resolves _ (List.mem_filterMap.mpr ⟨_, member, rfl⟩)
        obtain ⟨value, found⟩ := Option.isSome_iff_exists.mp known
        simp only [Piece.meaning?, Piece.filled, filled, found, Option.map_some]
  · rw [toList_render, List.flatMap_def]

/-- **A placeholder without a value.**  The message still has it, braces and all. -/
theorem infix_render {name : String} (member : name ∈ placeholders template)
    (unknown : placeholder? finding name = none) :
    '\x7b' :: name.toList ++ ['\x7d'] <:+: (render template finding).toList := by
  obtain ⟨piece, listed, named⟩ := List.mem_filterMap.mp member
  cases piece with
  | plain c => cases named
  | hole written =>
      obtain rfl := Option.some.inj named
      have stays : Piece.filled finding (.hole written) = '\x7b' :: written ++ ['\x7d'] := by
        simp only [Piece.filled, filled, unknown]
      rw [String.toList_ofList, ← stays, toList_render, List.flatMap_def]
      exact List.infix_of_mem_flatten (List.mem_map_of_mem listed)

/-! ## What a template asks for -/

/-- The particular that a placeholder leads into. -/
def root (name : String) : String :=
  match Text.cutAtFirst? '.' name.toList with
  | none => name
  | some (head, _) => String.ofList head

/-- The particulars that a template asks for. -/
def asks (template : String) : List String :=
  ((placeholders template).filter fun name => name ≠ "label").map root

/-- What a template asks for can be read off its characters. -/
theorem asks_of_spelled {characters : List Char} {names : List String} (spelled : template = String.ofList characters)
    (asked : (((piecesFrom none characters).filterMap Piece.name?).filter fun name => name ≠ "label").map root = names) :
    asks template = names := by
  subst spelled
  rw [asks, placeholders, pieces, String.toList_ofList]
  exact asked

example : asks "\"{label}\" must be at least {min} characters long." = ["min"] :=
  asks_of_spelled rfl rfl

/-- A placeholder stands for something if it is the label or names something of the context. -/
theorem isSome_placeholder? (name : String) :
    (placeholder? finding name).isSome ↔ name = "label" ∨ finding.context.has (root name) = true := by
  unfold placeholder? root Members.has
  split
  next place => simp [place]
  next other =>
    cases Text.cutAtFirst? '.' name.toList with
    | none => simp [other]
    | some parts => simp [other]

/-- A template resolves as soon as the finding has the particulars that it asks for. -/
theorem resolves_iff : Resolves finding template ↔ ∀ name ∈ asks template, finding.context.has name = true := by
  simp only [Resolves, isSome_placeholder?, asks, List.forall_mem_map, List.mem_filter, decide_eq_true_eq, and_imp]
  exact forall₂_congr fun name _ => or_iff_not_imp_left

end Vetting.Message

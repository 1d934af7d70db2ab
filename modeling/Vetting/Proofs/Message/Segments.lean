import Vetting.Message.Template

/-!
# Segments of templates

A template is laid out in literal texts and placeholders, behind which may stand a brace that is never closed
(`exists_layout`).  Its message has the texts as they are, what the placeholders stand for, and everything from that
brace on (`render_source`); what a placeholder is replaced by is not read as a template again.
-/

namespace Vetting.Message

variable {finding : Finding} {text name read rest : List Char}

/-- A part of a template. -/
inductive Segment where
  /-- A text without an opening brace. -/
  | literal (text : String) (free : '\x7b' ∉ text.toList)
  /-- A name in braces, without a closing brace in it. -/
  | placeholder (name : String) (free : '\x7d' ∉ name.toList)

/-- Segments one after the other, and perhaps a brace that is never closed and what follows it. -/
structure Layout where
  segments : List Segment
  tail : Option { text : String // '\x7d' ∉ text.toList }

namespace Segment

/-- The segment as it is written in the template. -/
def source : Segment → String
  | literal text _ => text
  | placeholder name _ => "\x7b" ++ name ++ "\x7d"

/-- What becomes of the segment: a placeholder that has no value stays as it is. -/
def message (finding : Finding) : Segment → String
  | literal text _ => text
  | placeholder name _ => ((placeholder? finding name).map Value.text).getD ("\x7b" ++ name ++ "\x7d")

end Segment

namespace Layout

/-- What stands behind the segments. -/
def ending (layout : Layout) : String :=
  match layout.tail with
  | none => ""
  | some text => "\x7b" ++ text.val

/-- The template with the layout. -/
def source (layout : Layout) : String :=
  String.join (layout.segments.map Segment.source) ++ layout.ending

/-- What becomes of the template. -/
def message (finding : Finding) (layout : Layout) : String :=
  String.join (layout.segments.map (Segment.message finding)) ++ layout.ending

end Layout

/-! ## Rendering -/

/-- A text without an opening brace is taken over as it is. -/
theorem fillFrom_append_text (free : '\x7b' ∉ text) :
    fillFrom finding none (text ++ rest) = text ++ fillFrom finding none rest := by
  induction text with
  | nil => rfl
  | cons c others ih =>
      rw [List.mem_cons, not_or] at free
      rw [List.cons_append, fillFrom, if_neg (Ne.symm free.1), ih free.2, List.cons_append]

/-- A name is read on up to its closing brace. -/
theorem fillFrom_append_name (free : '\x7d' ∉ name) :
    fillFrom finding (some read) (name ++ rest) = fillFrom finding (some (name.reverse ++ read)) rest := by
  induction name generalizing read with
  | nil => rfl
  | cons c others ih =>
      rw [List.mem_cons, not_or] at free
      rw [List.cons_append, fillFrom, if_neg (Ne.symm free.1), ih free.2, List.reverse_cons, List.append_assoc,
        List.singleton_append]

/-- An opening brace, and a name without a closing one. -/
theorem fillFrom_open (free : '\x7d' ∉ name) :
    fillFrom finding none ('\x7b' :: (name ++ rest)) = fillFrom finding (some name.reverse) rest := by
  rw [fillFrom, if_pos rfl, fillFrom_append_name free, List.append_nil]

/-- A placeholder is replaced by what its name stands for. -/
theorem toList_message_placeholder (name : String) (free : '\x7d' ∉ name.toList) :
    ((Segment.placeholder name free).message finding).toList = filled finding name.toList := by
  rw [Segment.message, filled, String.ofList_toList]
  cases placeholder? finding name with
  | some value => rfl
  | none => simp only [Option.map_none, Option.getD_none, String.toList_append]; rfl

/-- What becomes of a segment does not depend on what stands behind it, and is not read again. -/
theorem fillFrom_append_source (segment : Segment) :
    fillFrom finding none (segment.source.toList ++ rest) =
      (segment.message finding).toList ++ fillFrom finding none rest := by
  cases segment with
  | literal text free => exact fillFrom_append_text free
  | placeholder name free =>
      have written : (Segment.placeholder name free).source.toList ++ rest =
          '\x7b' :: (name.toList ++ '\x7d' :: rest) := by
        simp only [Segment.source, String.toList_append, List.append_assoc]
        rfl
      rw [written, fillFrom_open free, fillFrom, if_pos rfl, List.reverse_reverse, toList_message_placeholder]

/-- Segments are filled in one after the other. -/
theorem fillFrom_append_sources (segments : List Segment) :
    fillFrom finding none ((String.join (segments.map Segment.source)).toList ++ rest) =
      (String.join (segments.map (Segment.message finding))).toList ++ fillFrom finding none rest := by
  induction segments with
  | nil => rfl
  | cons segment others ih =>
      rw [List.map_cons, String.join_cons, String.toList_append, List.append_assoc, fillFrom_append_source, ih,
        List.map_cons, String.join_cons, String.toList_append, List.append_assoc]

/-- A brace that is never closed stays, with everything behind it. -/
theorem fillFrom_ending (layout : Layout) : fillFrom finding none layout.ending.toList = layout.ending.toList := by
  obtain ⟨segments, tail⟩ := layout
  cases tail with
  | none => rfl
  | some text =>
      have written : (Layout.mk segments (some text)).ending.toList = '\x7b' :: (text.val.toList ++ []) := by
        rw [Layout.ending, String.toList_append, List.append_nil]
        rfl
      rw [written, fillFrom_open text.property, fillFrom, List.reverse_reverse, List.append_nil]

/-- **Rendering.**  The message of a template has its literal texts as they are, the texts of the values in place of the
placeholders that have one, the others as they are, and a brace that is never closed with everything behind it. -/
theorem render_source (layout : Layout) (finding : Finding) :
    render layout.source finding = layout.message finding := by
  rw [render, ← String.toList_inj, String.toList_ofList, Layout.source, String.toList_append, fillFrom_append_sources,
    fillFrom_ending, Layout.message, String.toList_append]

/-- Braces in a value are no placeholder, and a brace in the name of one does not begin another. -/
example : render "\x7bvalue\x7d \x7b\x7blabel\x7d \x7blabel"
    ⟨[], "some", [("value", .string "\x7blabel\x7d")], none⟩ =
      "\x7blabel\x7d \x7b\x7blabel\x7d \x7blabel" := by
  decide +kernel

/-! ## Layouts -/

/-- A segment in front of a layout. -/
def Layout.cons (segment : Segment) (layout : Layout) : Layout :=
  { layout with segments := segment :: layout.segments }

/-- A segment in front of a layout is written in front of it. -/
theorem Layout.toList_source_cons (segment : Segment) (layout : Layout) :
    (layout.cons segment).source.toList = segment.source.toList ++ layout.source.toList := by
  rw [source, cons, List.map_cons, String.join_cons, String.append_assoc, String.toList_append, source]
  rfl

/-- Segments begin where a template is read outside of braces; what has been read inside of them is not lost. -/
theorem exists_layout_from (read : Option (List Char)) (rest : List Char) (free : ∀ name ∈ read, '\x7d' ∉ name) :
    ∃ layout : Layout, layout.source.toList = (read.map fun name => '\x7b' :: name.reverse).getD [] ++ rest := by
  induction rest generalizing read with
  | nil =>
      cases read with
      | none => exact ⟨⟨[], none⟩, rfl⟩
      | some name =>
          refine ⟨⟨[], some ⟨.ofList name.reverse, ?_⟩⟩, ?_⟩
          · rw [String.toList_ofList, List.mem_reverse]
            exact free name rfl
          · simp [Layout.source, Layout.ending]
  | cons c rest ih =>
      cases read with
      | none =>
          by_cases brace : c = '\x7b'
          · obtain ⟨layout, same⟩ := ih (some []) (by simp)
            exact ⟨layout, brace ▸ same⟩
          · obtain ⟨layout, same⟩ := ih none (fun _ given => nomatch given)
            refine ⟨layout.cons (.literal (.singleton c) ?_), ?_⟩
            · simpa using Ne.symm brace
            · rw [Layout.toList_source_cons, same]
              simp [Segment.source]
      | some name =>
          by_cases brace : c = '\x7d'
          · obtain ⟨layout, same⟩ := ih none (fun _ given => nomatch given)
            refine ⟨layout.cons (.placeholder (.ofList name.reverse) ?_), ?_⟩
            · rw [String.toList_ofList, List.mem_reverse]
              exact free name rfl
            · rw [Layout.toList_source_cons, same]
              simp [Segment.source, brace]
          · obtain ⟨layout, same⟩ := ih (some (c :: name)) (by simpa [Ne.symm brace] using free)
            exact ⟨layout, by simpa using same⟩

/-- Every template has a layout. -/
theorem exists_layout (template : String) : ∃ layout : Layout, layout.source = template := by
  obtain ⟨layout, same⟩ := exists_layout_from none template.toList fun _ given => nomatch given
  exact ⟨layout, String.toList_inj.mp same⟩

end Vetting.Message

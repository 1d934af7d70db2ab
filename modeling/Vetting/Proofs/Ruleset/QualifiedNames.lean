import Vetting.Proofs.Text.Pieces
import Vetting.Ruleset.Basic

/-!
# Qualified names

The names between the dots of a qualified name are free of dots, and there is at least one of them.  Names of
that kind are told apart by the dots that join them (`Ruleset.split_intercalate`).
-/

namespace Vetting

namespace Ruleset

open Vetting.Text

/-- The name can stand between the dots of a qualified name. -/
def Undotted (name : String) : Prop :=
  '.' ∉ name.toList

/-- The names between the dots of a text have none themselves. -/
theorem undotted_of_mem_split {name part : String} (member : part ∈ split name) : Undotted part := by
  obtain ⟨piece, inside, rfl⟩ := List.mem_map.mp member
  rw [Undotted, String.toList_ofList]
  exact not_mem_of_mem_pieces inside

/-- The names between the dots are the pieces of the text, character by character. -/
theorem toList_map_split (name : String) : (split name).map String.toList = pieces '.' name.toList := by
  unfold split piecesOf
  rw [List.map_map]
  exact (List.map_congr_left fun _ _ => String.toList_ofList).trans (List.map_id _)

/-- The names between the dots, joined by dots, are the text again. -/
theorem intercalate_split (name : String) : ".".intercalate (split name) = name := by
  refine String.toList_injective ?_
  rw [String.toList_intercalate, toList_map_split]
  exact intercalate_pieces '.' name.toList

/-- Names without dots are found again when they are joined by dots. -/
theorem split_intercalate {names : Names} (some : names ≠ []) (undotted : ∀ name ∈ names, Undotted name) :
    split (".".intercalate names) = names := by
  have parts : pieces '.' (".".intercalate names).toList = names.map String.toList := by
    rw [String.toList_intercalate]
    refine pieces_intercalate (mt List.map_eq_nil_iff.mp some) fun part member => ?_
    obtain ⟨name, listed, rfl⟩ := List.mem_map.mp member
    exact undotted name listed
  refine (List.map_inj_right fun _ _ same => String.toList_injective same).mp ?_
  rw [toList_map_split, parts]

/-- Texts with the same names between their dots are the same. -/
theorem split_injective {first second : String} (same : split first = split second) : first = second := by
  rw [← intercalate_split first, same, intercalate_split]

end Ruleset

end Vetting

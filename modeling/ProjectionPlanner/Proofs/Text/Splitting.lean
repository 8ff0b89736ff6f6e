import ProjectionPlanner.Text.Pieces

/-! # Splitting undoes joining

The pieces of a text are described here without saying how they are found: none of them holds the
character at which the text is split, and joined with it they give the text. There is only one such
list, so that whoever writes a text by joining pieces knows what it will be split into.
-/

namespace ProjectionPlanner.Text

/-- The parts give the text when they are joined with a character that is in none of them. -/
structure Splits (mark : Char) (text : String) (parts : List String) : Prop where
  nonempty : parts ≠ []
  unmarked : ∀ part ∈ parts, mark ∉ part.toList
  joined : join (String.singleton mark) parts = text

theorem cut_eq_splitOn (mark : Char) (chars : List Char) : cut mark chars = chars.splitOn mark := by
  induction chars with
  | nil => rfl
  | cons c rest ih =>
      simp only [cut, ih, List.splitOn, List.splitOnP_cons_eq_if_modifyHead, beq_iff_eq]
      split
      · rfl
      · cases pieces : rest.splitOnP (· == mark) with
        | nil => exact absurd pieces (List.splitOnP_ne_nil _ _)
        | cons first others => rfl

theorem toList_join (mark : Char) (parts : List String) :
    (join (String.singleton mark) parts).toList =
      [mark].intercalate (parts.map String.toList) := by
  induction parts with
  | nil => rfl
  | cons first rest ih =>
      cases rest with
      | nil => simp [join, List.intercalate]
      | cons second others =>
          simp only [join, String.toList_append, String.toList_singleton, ih, List.map_cons,
            List.intercalate_cons_cons]

theorem splits_pieces (mark : Char) (text : String) : Splits mark text (pieces mark text) where
  nonempty := pieces_ne_nil mark text
  unmarked := by
    intro part member
    obtain ⟨chars, cutOff, rfl⟩ := List.mem_map.mp member
    rw [String.toList_ofList]
    exact not_mem_of_mem_cut cutOff
  joined := by
    rw [← String.toList_inj, toList_join, pieces, List.map_map]
    simp [Function.comp_def, intercalate_cut]

/-- A text is split into its pieces and in no other way. -/
theorem splits_iff {mark : Char} {text : String} {parts : List String} :
    Splits mark text parts ↔ parts = pieces mark text := by
  constructor
  · intro splits
    have unmarked : ∀ chars ∈ parts.map String.toList, mark ∉ chars := by
      intro chars member
      obtain ⟨part, listed, rfl⟩ := List.mem_map.mp member
      exact splits.unmarked part listed
    have cutAgain : cut mark text.toList = parts.map String.toList := by
      rw [← splits.joined, toList_join, cut_eq_splitOn]
      exact List.splitOn_intercalate mark unmarked (by simpa using splits.nonempty)
    rw [pieces, cutAgain, List.map_map]
    simp [Function.comp_def]
  · rintro rfl
    exact splits_pieces mark text

end ProjectionPlanner.Text

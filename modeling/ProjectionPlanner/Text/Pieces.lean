/-! # Texts and their pieces

Joining texts with a separator, cutting a text at a character, and comparing spellings without
regard to the case of ASCII letters. Cutting works on characters, so that it can be reasoned about
by induction; the last statement says that joining what was cut gives the text back.
-/

namespace ProjectionPlanner.Text

/-- Put the separator between neighbouring pieces. -/
def join (separator : String) : List String → String
  | [] => ""
  | [piece] => piece
  | piece :: rest => piece ++ separator ++ join separator rest

/-- Cut a character list at every occurrence of a character. There is always at least one piece. -/
def cut (mark : Char) : List Char → List (List Char)
  | [] => [[]]
  | c :: rest =>
      if c = mark then
        [] :: cut mark rest
      else
        match cut mark rest with
        | [] => [[c]]
        | piece :: pieces => (c :: piece) :: pieces

/-- The pieces of a text between the occurrences of a character. -/
def pieces (mark : Char) (text : String) : List String :=
  (cut mark text.toList).map String.ofList

/-- Equality of spellings when `A` to `Z` and `a` to `z` are the same letters. Other characters,
    accented ones included, are compared as they are. -/
def sameLetters (left right : String) : Bool :=
  left.toList.map Char.toLower == right.toList.map Char.toLower

theorem cut_ne_nil (mark : Char) (chars : List Char) : cut mark chars ≠ [] := by
  cases chars with
  | nil => simp [cut]
  | cons c rest =>
      rw [cut]
      split
      · simp
      · split <;> simp

theorem pieces_ne_nil (mark : Char) (text : String) : pieces mark text ≠ [] := by
  simp [pieces, cut_ne_nil]

/-- No piece holds the character at which the text was cut. -/
theorem not_mem_of_mem_cut {mark : Char} {chars piece : List Char}
    (h : piece ∈ cut mark chars) : mark ∉ piece := by
  induction chars generalizing piece with
  | nil => simp_all [cut]
  | cons c rest ih =>
      rw [cut] at h
      split at h
      · rcases List.mem_cons.mp h with rfl | later
        · simp
        · exact ih later
      · rename_i other
        split at h
        · simp_all [Ne.symm other]
        · rename_i first others cutRest
          rcases List.mem_cons.mp h with rfl | later
          · have : mark ∉ first := ih (by simp [cutRest])
            simp [this, Ne.symm other]
          · exact ih (by simp [cutRest, later])

/-- The first piece ends where the character stands first. -/
theorem head?_cut (mark : Char) (chars : List Char) :
    (cut mark chars).head? = some (chars.takeWhile (· != mark)) := by
  induction chars with
  | nil => rfl
  | cons c rest ih =>
      rw [cut]
      by_cases same : c = mark
      · simp [same]
      · rw [if_neg same]
        cases cutRest : cut mark rest with
        | nil => exact absurd cutRest (cut_ne_nil mark rest)
        | cons first others =>
            rw [cutRest] at ih
            simp [same, Option.some.inj ih]

/-- Writing the character between the pieces restores the characters that were cut. -/
theorem intercalate_cut (mark : Char) (chars : List Char) :
    [mark].intercalate (cut mark chars) = chars := by
  induction chars with
  | nil => simp [cut, List.intercalate]
  | cons c rest ih =>
      rw [cut]
      cases cutRest : cut mark rest with
      | nil => exact absurd cutRest (cut_ne_nil mark rest)
      | cons first others =>
          rw [cutRest] at ih
          by_cases same : c = mark
          · subst same
            rw [if_pos rfl, ← ih]
            simp [List.intercalate]
          · rw [if_neg same]
            rw [← ih]
            cases others <;> simp [List.intercalate]

end ProjectionPlanner.Text

import Mathlib.Tactic.ByContra
import ProjectionPlanner.Proofs.Text.Splitting
import ProjectionPlanner.Text.Uppercase

/-! # Texts of one line

A text that holds no line feed is a single line. Texts that are put together from single lines are
single lines again, whether they are written one after the other, joined with a separator or
capitalized, and single lines that are joined with line feeds are what the result is split into.
-/

namespace ProjectionPlanner.Text

/-- The text holds no line feed. -/
def OneLine (text : String) : Prop :=
  '\n' ∉ text.toList

instance (text : String) : Decidable (OneLine text) :=
  inferInstanceAs (Decidable (¬ _))

/-- None of the texts holds a line feed. -/
def OneLines (texts : List String) : Prop :=
  ∀ text ∈ texts, OneLine text

instance (texts : List String) : Decidable (OneLines texts) :=
  inferInstanceAs (Decidable (∀ text ∈ texts, OneLine text))

/-! ## Several texts -/

@[simp]
theorem oneLines_nil : OneLines [] :=
  List.forall_mem_nil _

@[simp]
theorem oneLines_cons {text : String} {rest : List String} :
    OneLines (text :: rest) ↔ OneLine text ∧ OneLines rest :=
  List.forall_mem_cons

@[simp]
theorem oneLines_append {left right : List String} :
    OneLines (left ++ right) ↔ OneLines left ∧ OneLines right :=
  List.forall_mem_append

@[simp]
theorem oneLines_flatMap {α : Type} {items : List α} {strings : α → List String} :
    OneLines (items.flatMap strings) ↔ ∀ item ∈ items, OneLines (strings item) :=
  List.forall_mem_flatMap

@[simp]
theorem oneLines_map {α : Type} {items : List α} {string : α → String} :
    OneLines (items.map string) ↔ ∀ item ∈ items, OneLine (string item) :=
  List.forall_mem_map

/-! ## Putting texts together -/

@[simp]
theorem oneLine_append {left right : String} :
    OneLine (left ++ right) ↔ OneLine left ∧ OneLine right := by
  simp [OneLine]

theorem oneLine_join {separator : String} (plain : OneLine separator) {parts : List String} :
    OneLine (join separator parts) ↔ OneLines parts := by
  induction parts with
  | nil => simp [join, OneLine]
  | cons first rest ih =>
      cases rest with
      | nil => simp [join]
      | cons second others =>
          simp only [join, oneLine_append, ih, plain, and_true, oneLines_cons]

/-- The pieces between the occurrences of any other character are single lines too. -/
theorem Splits.oneLines {mark : Char} {text : String} {parts : List String}
    (splits : Splits mark text parts) (other : mark ≠ '\n') (oneLine : OneLine text) :
    OneLines parts := by
  have plain : OneLine (String.singleton mark) := by
    simpa [OneLine] using other.symm
  rw [← splits.joined, oneLine_join plain] at oneLine
  exact oneLine

@[simp]
theorem oneLine_toString (number : Nat) : OneLine (toString number) := by
  intro feed
  rw [Nat.toString_eq_repr, Nat.toList_repr] at feed
  have digit := Nat.isDigit_of_mem_toDigits (by decide) (by decide) feed
  exact absurd digit (by decide)

/-- Lines that are joined with line feeds are what the text is split into. -/
theorem pieces_lines {lines : List String} (nonempty : lines ≠ []) (oneLines : OneLines lines) :
    pieces '\n' (join "\n" lines) = lines := by
  have splits : Splits '\n' (join "\n" lines) lines := ⟨nonempty, oneLines, rfl⟩
  exact (splits_iff.mp splits).symm

/-! ## Capitals -/

theorem eq_of_ofNat_eq_lineFeed {code : Nat} (feed : Char.ofNat code = '\n') : code = 10 := by
  by_cases valid : code.isValidChar
  · have same := congrArg Char.toNat feed
    rw [Char.ofNat, dif_pos valid] at same
    exact same
  · rw [Char.ofNat, dif_neg valid] at feed
    exact absurd feed (by decide)

theorem upperCode_ne_lineFeed {code : Nat} (other : code ≠ 10) : upperCode code ≠ 10 := by
  have above : ∀ run ∈ upperRuns, 10 < run.2.2.2 := by decide +kernel
  unfold upperCode
  split
  · rename_i found
    have := above _ (List.mem_of_find?_eq_some found)
    simp only at this
    omega
  · exact other

/-- Only the line feed becomes a line feed in upper case. -/
theorem lineFeed_mem_upperCase {c : Char} (feed : '\n' ∈ upperCase c) : c = '\n' := by
  have apart : ∀ entry ∈ upperSequences, '\n' ∉ entry.2.map Char.ofNat := by decide +kernel
  unfold upperCase at feed
  split at feed
  · rename_i codes found
    obtain ⟨before, after, split, -⟩ := List.lookup_eq_some_iff.mp found
    exact absurd feed (apart (c.toNat, codes) (by simp [split]))
  · by_contra other
    have code : c.toNat ≠ 10 := fun same => other (Char.toNat_inj.mp same)
    exact upperCode_ne_lineFeed code
      (eq_of_ofNat_eq_lineFeed (List.mem_singleton.mp feed).symm)

theorem oneLine_capitalized {text : String} (oneLine : OneLine text) :
    OneLine (capitalized text) := by
  unfold capitalized
  unfold OneLine at oneLine ⊢
  cases chars : text.toList with
  | nil => simp
  | cons first rest =>
      rw [chars, List.mem_cons, not_or] at oneLine
      rw [String.toList_ofList, List.mem_append, not_or]
      exact ⟨fun feed => oneLine.1 (lineFeed_mem_upperCase feed).symm, oneLine.2⟩

end ProjectionPlanner.Text

import ProjectionPlanner.SettingsFile

/-! # What a settings file gives

A settings file is missing, or it holds the bytes of no text, or it is a text. A text is no TOML, or
it is TOML that says settings or something else. Each of these states has one outcome, and of the
first alone the usual settings make up for it. Of the TOML library nothing is assumed for this, and
of the platform only that it reads a text from its bytes and tells a missing file from garbled bytes.
-/

namespace ProjectionPlanner

/-- The bytes read as a text are the bytes of the text. -/
theorem fromUTF8?_eq_some_iff {bytes : ByteArray} {text : String} :
    String.fromUTF8? bytes = some text ↔ text.toUTF8 = bytes := by
  unfold String.fromUTF8?
  constructor
  · intro read
    split at read
    · cases read
      rfl
    · cases read
  · intro same
    subst same
    rw [String.toUTF8_eq_toByteArray, dif_pos text.isValidUTF8]
    rfl

theorem fromUTF8?_eq_none_iff {bytes : ByteArray} :
    String.fromUTF8? bytes = none ↔ ∀ text : String, text.toUTF8 ≠ bytes := by
  rw [Option.eq_none_iff_forall_ne_some]
  simp only [ne_eq, fromUTF8?_eq_some_iff]

/-- What is assumed of the platform: how it reads a file as a text. -/
structure SettingsReader.ReadsTexts (reader : SettingsReader) : Prop where
  /-- It tells of a missing file that it was not found. -/
  missing : ∃ told, reader.readText none = .error (.notFound told)
  /-- It refuses bytes that are those of no text, in other words. -/
  garbled : ∀ bytes : ByteArray, (∀ text : String, text.toUTF8 ≠ bytes) →
    ∃ told, reader.readText (some bytes) = .error (.other told)
  /-- It reads a text back from the bytes of the text. -/
  text : ∀ text : String, reader.readText (some text.toUTF8) = .ok text

theorem SettingsReader.standard_readsTexts : standard.ReadsTexts where
  missing := ⟨_, rfl⟩
  garbled := by
    intro bytes noText
    simp [standard, fromUTF8?_eq_none_iff.mpr noText]
  text := by
    intro text
    have read : String.fromUTF8? text.toUTF8 = some text := fromUTF8?_eq_some_iff.mpr rfl
    simp only [standard, read]

namespace Settings

/-- What a settings file gives, by the state that it is in. -/
inductive Loads (reader : SettingsReader) (path : String) :
    Option ByteArray → Except SettingsError Settings → Prop where
  | missing {told : String} (absent : reader.readText none = .error (.notFound told)) :
      Loads reader path none (.error (@SettingsError.missing path told))
  /-- The bytes are those of no text. -/
  | unreadable {bytes : ByteArray} {told : String} (garbled : ∀ text : String, text.toUTF8 ≠ bytes)
      (refused : reader.readText (some bytes) = .error (.other told)) :
      Loads reader path (some bytes) (.error (@SettingsError.unreadable path told))
  /-- The text is not TOML. -/
  | malformed {text told : String} (refused : reader.readTable text = .error told) :
      Loads reader path (some text.toUTF8) (.error (@SettingsError.invalid told))
  /-- The text says something that is no setting. -/
  | misfit {text : String} {table : Toml.Table} (said : reader.readTable text = .ok table)
      (refused : ofTable? table = none) :
      Loads reader path (some text.toUTF8) (.error (@SettingsError.invalid (reader.misfit text)))
  | settings {text : String} {table : Toml.Table} {settings : Settings}
      (said : reader.readTable text = .ok table) (given : ofTable? table = some settings) :
      Loads reader path (some text.toUTF8) (.ok settings)

variable {reader : SettingsReader} {path : String} {file : Option ByteArray}

theorem ofFile_of_unread {error : ReadError} (unread : reader.readText file = .error error) :
    ofFile file path reader = .error (.ofRead path error) := by
  rw [ofFile, load, unread]

theorem ofFile_of_text {text : String} (read : reader.readText file = .ok text) :
    ofFile file path reader = ofText text reader := by
  simp only [ofFile, load, read]
  cases ofText text reader <;> rfl

theorem ofText_of_malformed {text told : String} (refused : reader.readTable text = .error told) :
    ofText text reader = .error (@SettingsError.invalid told) := by
  rw [ofText, refused]

theorem ofText_of_misfit {text : String} {table : Toml.Table}
    (said : reader.readTable text = .ok table) (refused : ofTable? table = none) :
    ofText text reader = .error (@SettingsError.invalid (reader.misfit text)) := by
  simp only [ofText, said, refused]

theorem ofText_of_settings {text : String} {table : Toml.Table} {settings : Settings}
    (said : reader.readTable text = .ok table) (given : ofTable? table = some settings) :
    ofText text reader = .ok settings := by
  simp only [ofText, said, given]

theorem Loads.ofFile_eq (reads : reader.ReadsTexts) {loaded : Except SettingsError Settings}
    (loads : Loads reader path file loaded) : ofFile file path reader = loaded := by
  cases loads with
  | missing absent => exact ofFile_of_unread absent
  | unreadable garbled refused => exact ofFile_of_unread refused
  | malformed refused => rw [ofFile_of_text (reads.text _), ofText_of_malformed refused]
  | misfit said refused => rw [ofFile_of_text (reads.text _), ofText_of_misfit said refused]
  | settings said given => rw [ofFile_of_text (reads.text _), ofText_of_settings said given]

/-- Every file is in one of the states. -/
theorem exists_loads (reads : reader.ReadsTexts) (path : String) (file : Option ByteArray) :
    ∃ loaded, Loads reader path file loaded := by
  cases file with
  | none =>
      obtain ⟨told, absent⟩ := reads.missing
      exact ⟨_, .missing absent⟩
  | some bytes =>
      by_cases readable : ∃ text : String, text.toUTF8 = bytes
      · obtain ⟨text, rfl⟩ := readable
        cases said : reader.readTable text with
        | error told => exact ⟨_, .malformed said⟩
        | ok table =>
            cases given : ofTable? table with
            | none => exact ⟨_, .misfit said given⟩
            | some settings => exact ⟨_, .settings said given⟩
      · rw [not_exists] at readable
        obtain ⟨told, refused⟩ := reads.garbled bytes readable
        exact ⟨_, .unreadable readable refused⟩

theorem ofFile_eq_iff_loads (reads : reader.ReadsTexts) {loaded : Except SettingsError Settings} :
    ofFile file path reader = loaded ↔ Loads reader path file loaded := by
  obtain ⟨given, loads⟩ := exists_loads reads path file
  rw [loads.ofFile_eq reads]
  constructor
  · intro same
    rwa [← same]
  · intro others
    rw [← loads.ofFile_eq reads, others.ofFile_eq reads]

theorem ofFileOrUsual_of_missing (reads : reader.ReadsTexts) (path : String) :
    ofFileOrUsual none path reader = .ok {} := by
  obtain ⟨told, absent⟩ := reads.missing
  have missing : (load none path reader).result = .error (@SettingsError.missing path told) :=
    ofFile_of_unread absent
  rw [ofFileOrUsual, loadOrUsual, missing]

theorem log_of_refused {error : SettingsError} (refused : ofFile file path reader = .error error) :
    (load file path reader).log = [] := by
  unfold ofFile load at refused
  unfold load
  split
  · rfl
  · rename_i text read
    rw [read] at refused
    split
    · rfl
    · rename_i given
      simp [given] at refused

/-- The usual settings stand in for a missing file only. -/
theorem loadOrUsual_of_some (reads : reader.ReadsTexts) (path : String) (bytes : ByteArray) :
    loadOrUsual (some bytes) path reader = load (some bytes) path reader := by
  obtain ⟨loaded, loads⟩ := exists_loads reads path (some bytes)
  have result : (load (some bytes) path reader).result = loaded := loads.ofFile_eq reads
  rw [loadOrUsual, result]
  cases loads <;> rfl

end Settings

end ProjectionPlanner

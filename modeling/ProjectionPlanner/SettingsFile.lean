import ProjectionPlanner.Build.Signal
import ProjectionPlanner.Document.Declaration
import ProjectionPlanner.Toml.Reader

/-! # The settings file

Settings are kept in a TOML file with a single table, `engine`. Settings that the file leaves out
have their usual values, and so have all when the table is left out. Anything else in the file is
refused. The platform reads the file and a TOML library its text. Who they are is left open: what
they give is taken as it is, and what they say of a failure is passed on in their words.
-/

namespace ProjectionPlanner

/-- Why a file is not read as a text, in the words of the platform. -/
inductive ReadError where
  /-- There is no such file. -/
  | notFound (text : String)
  /-- The file cannot be read, or its bytes are no text. -/
  | other (text : String)
  deriving DecidableEq, Repr

/-- What reading a settings file relies on. -/
structure SettingsReader where
  /-- The text of a file, from the bytes in it; `none` stands for no such file. -/
  readText : Option ByteArray → Except ReadError String
  /-- What a TOML text says, or why it is none. -/
  readTable : String → Except String Toml.Table
  /-- Why a text is refused that is TOML but does not say settings. -/
  misfit : String → String
  /-- Settings as a log shows them. -/
  shown : Settings → String

namespace SettingsReader

/-- The reader to run with. Files are UTF-8, and TOML is read by the modules beside this one, which
    do not say what they refuse a text for. -/
def standard : SettingsReader where
  readText
    | none => .error (.notFound "No such file or directory (os error 2)")
    | some bytes =>
        match String.fromUTF8? bytes with
        | some text => .ok text
        | none => .error (.other "stream did not contain valid UTF-8")
  readTable text :=
    match Toml.table? text with
    | some table => .ok table
    | none => .error "TOML parse error"
  misfit _ := "TOML parse error"
  shown settings :=
    "EngineConfig \x7b compute_method_prefix: " ++ settings.methodLead.quote ++
      ", numeric_widening: " ++ toString settings.numericWidening ++
      ", check_projected_types: " ++ toString settings.checkProjectedTypes ++
      ", identity_reduction: " ++ toString settings.identityReduction ++ " \x7d"

end SettingsReader

/-- Why a settings file gives no settings. With it come the path of the file and the words of those
    who read it. They are left implicit, for whoever asks no more than which of the three it is. -/
inductive SettingsError where
  /-- There is no such file. -/
  | missing {path text : String}
  /-- There is a file, but it gives no text. -/
  | unreadable {path text : String}
  /-- The text is not TOML, or says something that is no setting. -/
  | invalid {text : String}
  deriving DecidableEq, Repr

namespace SettingsError

def ofRead (path : String) : ReadError → SettingsError
  | .notFound text => @missing path text
  | .other text => @unreadable path text

def message : SettingsError → String
  | @missing path text | @unreadable path text =>
      "failed to read config file '" ++ path ++ "': " ++ text
  | @invalid text => "invalid projector config: " ++ text

end SettingsError

/-- What comes of reading a settings file, and what is logged about it. -/
structure Loading where
  result : Except SettingsError Settings
  log : List LogRecord

namespace Settings

/-- Settings from the value of the table. They may also be given as a list, in order; what stands
    in the list behind the last of them is passed over. -/
def ofValue? : Toml.Value → Option Settings
  | .table _ entries => (Toml.documentMembers? entries).bind ofMembers?
  | .list items => (Toml.documentMembers? (memberNames.zip items)).bind ofMembers?
  | _ => none

/-- Settings from all that a file says. -/
def ofTable? : Toml.Table → Option Settings
  | [] => some {}
  | [("engine", value)] => ofValue? value
  | _ => none

/-- Settings from the text of a file. -/
def ofText (text : String) (reader : SettingsReader := .standard) :
    Except SettingsError Settings :=
  match reader.readTable text with
  | .error refusal => .error (@SettingsError.invalid refusal)
  | .ok table =>
      match ofTable? table with
      | some settings => .ok settings
      | none => .error (@SettingsError.invalid (reader.misfit text))

/-- The usual name of a settings file. -/
def fileName : String := "projector.toml"

/-- Read the settings file of a path. -/
def load (file : Option ByteArray) (path : String) (reader : SettingsReader) : Loading :=
  match reader.readText file with
  | .error error => ⟨.error (.ofRead path error), []⟩
  | .ok text =>
      match ofText text reader with
      | .error error => ⟨.error error, []⟩
      | .ok settings =>
          ⟨.ok settings,
            [.event .debug
              [("message", "loaded projector config"), ("path", path),
                ("config", reader.shown settings)]]⟩

/-- Read the settings file of a path, but take the usual settings if there is no such file. -/
def loadOrUsual (file : Option ByteArray) (path : String) (reader : SettingsReader) : Loading :=
  match (load file path reader).result with
  | .error .missing =>
      ⟨.ok {},
        [.event .debug [("message", "no projector config, using defaults"), ("path", path)]]⟩
  | _ => load file path reader

/-- The settings that a file gives. -/
def ofFile (file : Option ByteArray) (path : String := fileName)
    (reader : SettingsReader := .standard) : Except SettingsError Settings :=
  (load file path reader).result

/-- The settings that a file gives, or the usual ones if there is no such file. -/
def ofFileOrUsual (file : Option ByteArray) (path : String := fileName)
    (reader : SettingsReader := .standard) : Except SettingsError Settings :=
  (loadOrUsual file path reader).result

end Settings

end ProjectionPlanner

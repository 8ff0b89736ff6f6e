import ProjectionPlanner.Build.Outcome
import ProjectionPlanner.Document.Report
import ProjectionPlanner.SettingsFile

/-! # Projections

The two ways in for callers that want a plan or a single failure: with the usual settings, or with
those of a settings file. A failure keeps what a caller can act on, the diagnostics' codes, and the
full text for people. When the settings file gives no settings nothing is built, and nothing is
told about a build.
-/

namespace ProjectionPlanner

/-- What kind of failure it is. -/
inductive FailureKind where
  /-- The settings file gives no settings. -/
  | settings
  /-- Some target fields could not be planned. -/
  | build (projection : String) (codes : List ErrorCode)
  deriving DecidableEq, Repr

/-- Why there is no plan. -/
structure Failure where
  kind : FailureKind
  message : String
  deriving DecidableEq, Repr

namespace Failure

/-- The codes of the diagnostics, in order. There are none if nothing was built. -/
def codes (failure : Failure) : List ErrorCode :=
  match failure.kind with
  | .settings => []
  | .build _ codes => codes

def ofSettings (error : SettingsError) : Failure :=
  ⟨.settings, error.message⟩

def ofBuild (errors : BuildErrors) : Failure :=
  ⟨.build errors.projection errors.codes, errors.message⟩

def document (failure : Failure) : Document :=
  .object
    [("kind",
        match failure.kind with
        | .settings => .text "Config"
        | .build projection codes =>
            .tagged "Build"
              (.object
                [("projection", .text projection), ("codes", .ofList ErrorCode.document codes)])),
      ("message", .text failure.message)]

end Failure

def FailureKind.ofDocument? : Document → Option FailureKind
  | .text "Config" => some .settings
  | .object [("Build", .object members)] => do
    let projection ← Document.Members.required members "projection" Document.text?
    let codes ← Document.Members.required members "codes" (Document.list? ErrorCode.ofDocument?)
    return .build projection codes
  | _ => none

def Failure.ofDocument? (document : Document) : Option Failure := do
  let members ← document.members?
  let kind ← members.required "kind" FailureKind.ofDocument?
  let message ← members.required "message" Document.text?
  return ⟨kind, message⟩

@[simp]
theorem Failure.ofDocument?_document (failure : Failure) :
    ofDocument? failure.document = some failure := by
  obtain ⟨kind, message⟩ := failure
  cases kind with
  | settings => simp [document, ofDocument?, FailureKind.ofDocument?]
  | build projection codes =>
      have same :
          Document.list? ErrorCode.ofDocument? (.ofList ErrorCode.document codes) = some codes :=
        Document.list?_ofList fun code _ => code.ofDocument?_document
      simp [document, ofDocument?, FailureKind.ofDocument?, Document.tagged, same]

/-- A plan or a failure, and all that was told on the way. -/
structure Outcome where
  result : Except Failure Plan
  /-- What is logged before the build, while its settings are read. -/
  loading : List LogRecord := []
  /-- What the build tells, if there is one. -/
  signals : List Signal

namespace Projection

/-- Run a build. -/
def run (build : Build) : Outcome where
  result := build.result.mapError Failure.ofBuild
  signals := build.signals

/-- A plan with the usual settings. -/
def plan (source : SourceType) (declaration : Declaration) (registry : Registry) : Outcome :=
  run { source, declaration, registry }

/-- A plan with the settings of a file. -/
def planWithSettingsFile (file : Option ByteArray) (source : SourceType)
    (declaration : Declaration) (registry : Registry) (path : String := Settings.fileName)
    (reader : SettingsReader := .standard) : Outcome :=
  let loading := Settings.load file path reader
  match loading.result with
  | .error error =>
      { result := .error (.ofSettings error), loading := loading.log, signals := [] }
  | .ok settings =>
      { run { settings, source, declaration, registry } with loading := loading.log }

end Projection

end ProjectionPlanner

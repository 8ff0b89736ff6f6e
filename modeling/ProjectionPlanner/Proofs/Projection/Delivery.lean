import ProjectionPlanner.Projection
import ProjectionPlanner.Proofs.Projection.Loading
import ProjectionPlanner.Report.Recorder

/-! # What the ways in hand out

Whether the settings are the usual ones or those of a file, one build is run with them. Its plan is
handed out as it is, a failure keeps its codes and its message, and its events are told and no
others. A file that gives no settings ends the run before there is a build, so that whoever counts
builds counts nothing.
-/

namespace ProjectionPlanner

/-- The events of a run. -/
def Outcome.events (outcome : Outcome) : List BuildEvent :=
  outcome.signals.filterMap Signal.event?

/-- Take the events of a run, however it ends. -/
def Recorder.hear (recorder : Recorder) (outcome : Outcome) : Recorder :=
  recorder.recordAll outcome.events

/-- The failure keeps of a failed build the name of the target record, the codes of all its
    diagnostics in order, and its full text. -/
structure Failure.Keeps (failure : Failure) (errors : BuildErrors) : Prop where
  kind : failure.kind = .build errors.projection errors.codes
  codes : failure.codes = errors.codes
  message : failure.message = errors.message

theorem Failure.keeps_iff {failure : Failure} {errors : BuildErrors} :
    failure.Keeps errors ↔ failure = .ofBuild errors := by
  constructor
  · intro keeps
    obtain ⟨kind, message⟩ := failure
    cases keeps.kind
    cases keeps.message
    rfl
  · intro same
    rw [same]
    exact ⟨rfl, rfl, rfl⟩

namespace Outcome

/-- The run is one of the build: it hands out the build's plan or keeps its failure, and tells its
    events. -/
structure HandsOut (outcome : Outcome) (build : Build) : Prop where
  plan : ∀ plan, outcome.result = .ok plan ↔ build.result = .ok plan
  failure : ∀ failure, outcome.result = .error failure ↔
    ∃ errors, build.result = .error errors ∧ failure.Keeps errors
  events : outcome.events = build.events
  recorded : ∀ recorder : Recorder, recorder.hear outcome = recorder.runBuild build

/-- The run ends before there is a build, and the failure says why. Nothing is told or logged, and
    no recorder changes, be it in its counters or in what it delivers. -/
structure EndsEarly (outcome : Outcome) (error : SettingsError) : Prop where
  failure : ∃ failure, outcome.result = .error failure ∧ failure.kind = .settings ∧
    failure.codes = [] ∧ failure.message = error.message
  quiet : outcome.loading = []
  untold : outcome.signals = []
  recorded : ∀ recorder : Recorder, recorder.hear outcome = recorder

end Outcome

namespace Projection

variable {build : Build}

theorem result_run_of_planned {made : Plan} (planned : build.result = .ok made) :
    (run build).result = .ok made := by
  rw [run, planned]
  rfl

theorem result_run_of_failed {errors : BuildErrors} (failed : build.result = .error errors) :
    (run build).result = .error (.ofBuild errors) := by
  rw [run, failed]
  rfl

theorem handsOut_run (build : Build) : (run build).HandsOut build where
  plan := by
    intro plan
    cases outcome : build.result with
    | ok made => simp [result_run_of_planned outcome]
    | error errors => simp [result_run_of_failed outcome]
  failure := by
    intro failure
    cases outcome : build.result with
    | ok made => simp [result_run_of_planned outcome]
    | error errors => simp [result_run_of_failed outcome, Failure.keeps_iff, eq_comm]
  events := rfl
  recorded := fun _ => rfl

variable {reader : SettingsReader} {file : Option ByteArray} {path : String}

theorem handsOut_planWithSettingsFile {settings : Settings}
    (given : Settings.ofFile file path reader = .ok settings) (source : SourceType)
    (declaration : Declaration) (registry : Registry) :
    (planWithSettingsFile file source declaration registry path reader).HandsOut
      { settings, source, declaration, registry } := by
  have loaded : (Settings.load file path reader).result = .ok settings := given
  have hands := handsOut_run { settings, source, declaration, registry }
  simp only [planWithSettingsFile, loaded]
  exact ⟨hands.plan, hands.failure, hands.events, hands.recorded⟩

theorem endsEarly_planWithSettingsFile {error : SettingsError}
    (refused : Settings.ofFile file path reader = .error error) (source : SourceType)
    (declaration : Declaration) (registry : Registry) :
    (planWithSettingsFile file source declaration registry path reader).EndsEarly error := by
  have failed : (Settings.load file path reader).result = .error error := refused
  simp only [planWithSettingsFile, failed]
  exact ⟨⟨_, rfl, rfl, rfl, rfl⟩, Settings.log_of_refused refused, rfl, fun _ => rfl⟩

/-- Both ways in add nothing to a build and lose nothing of it. The one hands out the build with
    the usual settings; the other hands out the build with the settings that the file gives, and
    ends early if it gives none. What a file gives follows from its state, and the usual settings
    stand in for a file only if it is missing. -/
theorem ways_in_hand_out_builds {reader : SettingsReader} (reads : reader.ReadsTexts)
    (file : Option ByteArray) (path : String) (source : SourceType) (declaration : Declaration)
    (registry : Registry) :
    (plan source declaration registry).HandsOut { settings := {}, source, declaration, registry } ∧
      (∀ settings, Settings.ofFile file path reader = .ok settings →
        (planWithSettingsFile file source declaration registry path reader).HandsOut
          { settings, source, declaration, registry }) ∧
      (∀ error, Settings.ofFile file path reader = .error error →
        (planWithSettingsFile file source declaration registry path reader).EndsEarly error) ∧
      (∀ loaded, Settings.ofFile file path reader = loaded ↔
        Settings.Loads reader path file loaded) ∧
      (file = none → Settings.ofFileOrUsual file path reader = .ok {}) ∧
      (file ≠ none →
        Settings.loadOrUsual file path reader = Settings.load file path reader) := by
  refine ⟨handsOut_run _, ?_, ?_, fun _ => Settings.ofFile_eq_iff_loads reads, ?_, ?_⟩
  · intro settings given
    exact handsOut_planWithSettingsFile given source declaration registry
  · intro error refused
    exact endsEarly_planWithSettingsFile refused source declaration registry
  · intro missing
    rw [missing]
    exact Settings.ofFileOrUsual_of_missing reads path
  · intro there
    obtain ⟨bytes, rfl⟩ := Option.ne_none_iff_exists'.mp there
    exact Settings.loadOrUsual_of_some reads path bytes

/-- A file that lets numbers widen. -/
def wideningFile : ByteArray :=
  "[engine]\nnumeric_widening = true\n".toUTF8

def sizedOrder : SourceType :=
  ⟨"Order", [("size", ⟨"size", .scalar .int32, false⟩)]⟩

/-- A view of the order that asks for more room for its size. -/
def sizedView : Declaration :=
  ⟨"OrderView", [⟨"size", .scalar .int64, .implicit⟩]⟩

/-- The view needs the settings of the file. Without a file to read them from there is no build. -/
theorem sizedView_delivered :
    SettingsReader.standard.ReadsTexts ∧
      (∃ made,
        (planWithSettingsFile (some wideningFile) sizedOrder sizedView {}).result = .ok made) ∧
      (∃ failure, (plan sizedOrder sizedView {}).result = .error failure ∧
        failure.codes = [.typeMismatch]) ∧
      ∃ error, (planWithSettingsFile none sizedOrder sizedView {}).EndsEarly error ∧
        error.message = "failed to read config file 'projector.toml': " ++
          "No such file or directory (os error 2)" := by
  have reads := SettingsReader.standard_readsTexts
  obtain ⟨usual, given, -⟩ :=
    ways_in_hand_out_builds reads (some wideningFile) Settings.fileName sizedOrder sizedView {}
  obtain ⟨-, -, ended, -⟩ :=
    ways_in_hand_out_builds reads none Settings.fileName sizedOrder sizedView {}
  have widens : Settings.ofFile (some wideningFile) = .ok { numericWidening := true } := by
    have said : (Toml.table? "[engine]\nnumeric_widening = true\n").bind Settings.ofTable? =
        some { numericWidening := true } := by decide +kernel
    obtain ⟨table, read, given⟩ := Option.bind_eq_some_iff.mp said
    rw [wideningFile, Settings.ofFile_of_text (reads.text _)]
    apply Settings.ofText_of_settings _ given
    simp only [SettingsReader.standard, read]
  refine ⟨reads, ⟨_, ((given _ widens).plan _).mpr rfl⟩, ?_, _, ended _ rfl, rfl⟩
  exact ⟨_, (usual.failure _).mpr ⟨_, rfl, Failure.keeps_iff.mpr rfl⟩, rfl⟩

end Projection

end ProjectionPlanner

import ProjectionPlanner.Diagnostic
import ProjectionPlanner.Proofs.Lines.Strings

/-! # The lines of a failure

A diagnostic is put together from what it was about: names, paths, identifiers and types, and for a
method that was missed any number of providers and near misses. None of the words between them ends
a line, and so the message of a diagnostic is a single line unless something that it is about is
not. A failure then has one line for each of its diagnostics, below a header.
-/

namespace ProjectionPlanner

open Text

/-! ## What diagnostics are about -/

def PathError.strings : PathError → List String
  | .emptySegment path => [path]
  | .notFound path segment owner resolved => [path, segment, owner, resolved]
  | .endsOnCollection path segment => [path, segment]

def ReturnConstraint.strings : ReturnConstraint → List String
  | .any => []
  | .assignableTo type => type.strings

def ExpectedSignature.strings (expected : ExpectedSignature) : List String :=
  expected.name :: expected.params.flatMap ValueType.strings ++ expected.returns.strings

def NearMiss.strings (miss : NearMiss) : List String :=
  miss.provider :: miss.signature.strings

def MethodError.strings : MethodError → List String
  | .nameRequired => []
  | .notFound expected searched nearMisses =>
      expected.strings ++ searched ++ nearMisses.flatMap NearMiss.strings
  | .providerNotRegistered provider available => provider :: available

def ReducerError.strings : ReducerError → List String
  | .unknown name => [name]
  | .unsupported _ leaf => leaf.strings

def PlanErrorKind.strings : PlanErrorKind → List String
  | .path error => error.strings
  | .method error => error.strings
  | .reducer error => error.strings
  | .circularDependency dependency sibling => [dependency, sibling]
  | .duplicateTargetField => []
  | .reducerCountMismatch _ _ => []
  | .transformationMustBeStateless provider name => [provider, name]
  | .transformationNameRequired => []
  | .typeMismatch expected found => expected.strings ++ found.strings

def PlanError.strings (error : PlanError) : List String :=
  error.field :: error.kind.strings

def BuildErrors.strings (failure : BuildErrors) : List String :=
  failure.projection :: failure.errors.flatMap PlanError.strings

/-! ## One line for each diagnostic -/

theorem ErrorCode.oneLine_name (code : ErrorCode) : OneLine code.name := by
  cases code <;> decide

theorem PathError.oneLine_message {error : PathError} (oneLine : OneLines error.strings) :
    OneLine error.message := by
  -- in each case the parts are single lines by assumption, and what is left are fixed words
  cases error with
  | emptySegment path =>
      simp only [strings, oneLines_cons] at oneLine
      simp only [message.eq_def, oneLine_append, oneLine, and_true]
      decide
  | notFound path segment owner resolved =>
      simp only [strings, oneLines_cons] at oneLine
      simp only [message.eq_def, oneLine_append, oneLine, and_true]
      decide
  | endsOnCollection path segment =>
      simp only [strings, oneLines_cons] at oneLine
      simp only [message.eq_def, oneLine_append, oneLine, and_true]
      decide

theorem ExpectedSignature.oneLine_text {expected : ExpectedSignature}
    (oneLine : OneLines expected.strings) : OneLine expected.text := by
  simp only [strings, oneLines_append, oneLines_cons] at oneLine
  obtain ⟨⟨name, params⟩, returns⟩ := oneLine
  unfold text
  cases wanted : expected.returns with
  | any =>
      simp only [oneLine_append, name, ValueType.oneLine_paramsText, params, and_true]
      decide
  | assignableTo type =>
      have fits : OneLines type.strings := by rwa [wanted] at returns
      simp only [oneLine_append, ValueType.oneLine_text, fits, name, ValueType.oneLine_paramsText,
        params, true_and, and_true]
      decide

namespace MethodError

theorem oneLine_idsText {ids : List String} (oneLine : OneLines ids) : OneLine (idsText ids) := by
  unfold idsText
  split
  · decide
  · exact (oneLine_join (by decide)).mpr oneLine

theorem oneLine_nearMissText {miss : NearMiss} (oneLine : OneLines miss.strings) :
    OneLine (nearMissText miss) := by
  obtain ⟨provider, signature⟩ := oneLines_cons.mp oneLine
  simp only [nearMissText, oneLine_append, provider, MethodSignature.oneLine_text signature,
    and_true]
  decide

/-- However many providers were searched, and however many methods nearly fitted. -/
theorem oneLine_message {error : MethodError} (oneLine : OneLines error.strings) :
    OneLine error.message := by
  cases error with
  | nameRequired =>
      change OneLine "no method name given and no naming convention applies"
      decide
  | notFound expected searched nearMisses =>
      simp only [strings, oneLines_append, oneLines_flatMap] at oneLine
      obtain ⟨⟨wanted, ids⟩, misses⟩ := oneLine
      have name : OneLine expected.name := (oneLines_cons.mp (oneLines_append.mp wanted).1).1
      have tail : OneLine (join "" (nearMisses.map nearMissText)) := by
        refine (oneLine_join (by decide)).mpr (oneLines_map.mpr fun miss listed => ?_)
        exact oneLine_nearMissText (misses miss listed)
      simp only [message.eq_def, oneLine_append, name, oneLine_idsText ids,
        ExpectedSignature.oneLine_text wanted, tail, and_true]
      decide
  | providerNotRegistered provider available =>
      obtain ⟨name, ids⟩ := oneLines_cons.mp oneLine
      simp only [message.eq_def, oneLine_append, name, oneLine_idsText ids, and_true]
      decide

end MethodError

theorem ReducerError.oneLine_message {error : ReducerError} (oneLine : OneLines error.strings) :
    OneLine error.message := by
  cases error with
  | unknown name =>
      simp only [message.eq_def, oneLine_append, (oneLines_cons.mp oneLine).1, and_true]
      decide
  | unsupported reducer leaf =>
      have type : OneLines leaf.strings := oneLine
      simp only [message.eq_def, oneLine_append, reducer.oneLine_name, ValueType.oneLine_text,
        type, and_true]
      decide

/-- Whatever is wrong, it is said on one line. -/
theorem PlanErrorKind.oneLine_message {kind : PlanErrorKind} (oneLine : OneLines kind.strings) :
    OneLine kind.message := by
  cases kind with
  | path error => exact error.oneLine_message oneLine
  | method error => exact error.oneLine_message oneLine
  | reducer error => exact error.oneLine_message oneLine
  | circularDependency dependency sibling =>
      simp only [strings, oneLines_cons] at oneLine
      simp only [message.eq_def, oneLine_append, oneLine, and_true]
      decide
  | duplicateTargetField =>
      change OneLine "target field is declared more than once"
      decide
  | reducerCountMismatch expected found =>
      simp only [message.eq_def, oneLine_append, oneLine_toString, and_true]
      decide
  | transformationMustBeStateless provider name =>
      simp only [strings, oneLines_cons] at oneLine
      simp only [message.eq_def, oneLine_append, oneLine, and_true]
      decide
  | transformationNameRequired =>
      change OneLine "transformation reference must name a method"
      decide
  | typeMismatch expected found =>
      obtain ⟨wanted, given⟩ := oneLines_append.mp oneLine
      simp only [message.eq_def, oneLine_append, ValueType.oneLine_text, wanted, given, and_true]
      decide

/-- The lines are those of the failure, one for each diagnostic, and there are no others. -/
structure BuildErrors.ListedBy (failure : BuildErrors) (lines : List String) : Prop where
  length : lines.length = 1 + failure.size
  header : lines[0]? = some ("projection '" ++ failure.projection ++ "' has " ++
    toString failure.size ++ " error(s):")
  diagnostic : ∀ {position : Nat} {error : PlanError}, failure.errors[position]? = some error →
    lines[position + 1]? = some ("  [" ++ error.code.name ++ "] " ++
      ("field '" ++ error.field ++ "': " ++ error.kind.message))

namespace BuildErrors

variable {failure : BuildErrors}

theorem oneLine_header (oneLine : OneLines failure.strings) : OneLine failure.header := by
  unfold header
  simp only [oneLine_append, (oneLines_cons.mp oneLine).1, oneLine_toString, and_true]
  decide

theorem oneLine_errorLine {error : PlanError} (oneLine : OneLines error.strings) :
    OneLine (errorLine error) := by
  obtain ⟨field, kind⟩ := oneLines_cons.mp oneLine
  simp only [errorLine, PlanError.message, oneLine_append, error.code.oneLine_name, field,
    error.kind.oneLine_message kind, and_true]
  decide

/-- Unless a string in it holds a line feed, a failure is listed by its lines. -/
theorem listedBy_lines (oneLine : OneLines failure.strings) :
    failure.ListedBy (pieces '\n' failure.message) := by
  have errors : OneLines (failure.errors.map errorLine) := by
    have about := oneLines_flatMap.mp (oneLines_cons.mp oneLine).2
    exact oneLines_map.mpr fun error listed => oneLine_errorLine (about error listed)
  have lines : pieces '\n' failure.message = failure.header :: failure.errors.map errorLine :=
    pieces_lines (List.cons_ne_nil _ _) (oneLines_cons.mpr ⟨oneLine_header oneLine, errors⟩)
  rw [lines]
  constructor
  · rw [List.length_cons, List.length_map, Nat.add_comm]
    rfl
  · rfl
  · intro position error there
    rw [List.getElem?_cons_succ, List.getElem?_map, there]
    rfl

end BuildErrors

end ProjectionPlanner

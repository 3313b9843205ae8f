import ObjectRole.Api.Compile
import ObjectRole.CommandLine.Arguments
import ObjectRole.CommandLine.Outcome
import ObjectRole.Model.Document.Codec
import ObjectRole.Model.Resolution
import ObjectRole.Model.Snapshot.Codec

/-! The commands, as functions of the files they read. -/
namespace ObjectRole.CommandLine

/-- The files at hand, by path. -/
abbrev Files := String → Except FileError String

private def modelFailure (path : String) (causes : List String) : Failure :=
  ⟨"failed to load model " ++ path, causes⟩

/-- Reads and resolves a model. -/
def loadModel (files : Files) (path : String) : Except Failure Snapshot := do
  let text ← (files path).mapError fun error =>
    modelFailure path [(ModelError.unreadable error.describe).message, error.describe]
  let document ← (Document.ofText text).mapError fun error =>
    let cause :=
      match error with
      | .malformed problem => [problem.describe]
      | _ => []
    modelFailure path (error.message :: cause)
  document.resolve.mapError fun error => modelFailure path [error.message]

def loadSettings (files : Files) : Option String → Except Failure Settings
  | none => .ok {}
  | some path => do
    let text ← (files path).mapError fun error =>
      ⟨"failed to read config " ++ path, [error.describe]⟩
    (Settings.ofText text).mapError fun problem => ⟨"malformed config " ++ path, [problem.describe]⟩

private def compilePlan (files : Files) (model : String)
    (config out title apiVersion : Option String) (compact : Bool) : Except Failure Plan := do
  let settings ← loadSettings files config
  let settings :=
    { settings with title := title.or settings.title, version := apiVersion.or settings.version }
  let s ← loadModel files model
  let document ← (s.compile settings).mapError fun error =>
    ⟨"failed to compile " ++ model, [error.message]⟩
  let text := document.render !compact
  let summary :=
    s!"  → {document.schemas.size} schemas, {document.paths.size} paths\n" ++
    s!"  → model  {s.digest.render}\n" ++ s!"  → output {(Digest.ofText text).render}\n"
  return match out with
    | none => .finish { stdout := text, stderr := summary }
    | some path =>
      .write path text { stderr := s!"wrote {path}\n" ++ summary } fun error =>
        Failure.outcome ⟨"failed to write " ++ path, [error.describe]⟩ ""

private def checkPlan (files : Files) (model : String) : Except Failure Plan := do
  let s ← loadModel files model
  let counts :=
    s!"(nouns={s.nouns.length} factTypes={s.factTypes.length} roles={s.roles.length} " ++
    s!"constraints={s.constraints.length})"
  return .finish { stdout := s.digest.render ++ "\n", stderr := s!"ok {model} {counts}\n" }

private def tokenLine (t : Token) : String :=
  (if t.isNoun then "noun " else "word ") ++ t.text ++ "\n"

private def tokenizePlan (files : Files) (model reading : String) : Except Failure Plan := do
  let s ← loadModel files model
  let tokens := (NounPattern.ofNames s.nounNames).tokenize reading
  return .finish { stdout := String.join (tokens.map tokenLine) }

/-- A label in a column of thirteen, then the title. -/
private def shapeLine (label title : String) : String :=
  label ++ String.ofList (List.replicate (13 - label.length) ' ') ++ " " ++ title ++ "\n"

/-- The lines of the fact types up to the first that has no shape. -/
private def classifyFrom (s : Snapshot) (printed : String) : List FactTypeId → Outcome
  | [] => { stdout := printed }
  | id :: rest =>
    let title := (s.factType id).title
    match s.shapeOf id with
    | .ok shape => classifyFrom s (printed ++ shapeLine shape.label title) rest
    | .error error => Failure.outcome ⟨s!"failed to classify `{title}`", [error.message]⟩ printed

private def classifyPlan (files : Files) (model : String) : Except Failure Plan := do
  let s ← loadModel files model
  return .finish (classifyFrom s "" s.orderedFactTypes)

def Command.plan (files : Files) : Command → Plan
  | compile model config out title apiVersion compact =>
    settled (compilePlan files model config out title apiVersion compact)
  | check model => settled (checkPlan files model)
  | tokenize model reading => settled (tokenizePlan files model reading)
  | classify model => settled (classifyPlan files model)
where
  settled : Except Failure Plan → Plan
    | .ok plan => plan
    | .error failure => .finish (failure.outcome "")

/-- The paths that a command reads. -/
def Command.inputs : Command → List String
  | compile model config _ _ _ _ => config.toList ++ [model]
  | check model | tokenize model _ | classify model => [model]

def usage : String :=
  "Usage: compile MODEL [--config FILE] [-o FILE] [--title TITLE] [--api-version VERSION]\n" ++
  "               [--compact]\n" ++
  "       check MODEL\n       tokenize MODEL READING\n       classify MODEL\n"

/-- Misuse ends with code 2. -/
def Request.plan (files : Files) : Request → Plan
  | run command => command.plan files
  | help => .finish { stdout := usage }
  | misuse => .finish { code := 2, stderr := usage }

end ObjectRole.CommandLine

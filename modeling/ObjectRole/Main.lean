import ObjectRole.CommandLine.Run

/-! Compiles object-role models into OpenAPI documents. -/
open ObjectRole CommandLine

private def fileError : IO.Error → FileError
  | .noFileOrDirectory .. => .notFound
  | .permissionDenied .. => .denied
  | .inappropriateType _ 20 _ => .notDirectory
  | .inappropriateType .. => .isDirectory
  | error => .other (toString error)

private def readText (path : String) : IO (String × Except FileError String) := do
  let contents ← (IO.FS.readBinFile path).toBaseIO
  return (path,
    match contents with
    | .error error => .error (fileError error)
    | .ok bytes =>
      match String.fromUTF8? bytes with
      | some text => .ok text
      | none => .error .notText)

private def report (outcome : Outcome) : IO UInt32 := do
  IO.print outcome.stdout
  IO.eprint outcome.stderr
  return outcome.code

def main (arguments : List String) : IO UInt32 := do
  let request := Request.ofArguments arguments
  let paths :=
    match request with
    | .run command => command.inputs
    | _ => []
  let contents ← paths.mapM readText
  let files : Files := fun path => (contents.lookup path).getD (.error .notFound)
  match request.plan files with
  | .finish outcome => report outcome
  | .write path text written failed =>
    match ← (IO.FS.writeFile path text).toBaseIO with
    | .ok () => report written
    | .error error => report (failed (fileError error))

/-! What a run leaves behind, and how failures are reported: what failed, then the causes. -/
namespace ObjectRole.CommandLine

/-- Why a file cannot be read or written. -/
inductive FileError where
  | notFound
  | denied
  | notDirectory
  | isDirectory
  | notText
  | other (description : String)
deriving DecidableEq, Repr, Inhabited

def FileError.describe : FileError → String
  | notFound => "No such file or directory (os error 2)"
  | denied => "Permission denied (os error 13)"
  | notDirectory => "Not a directory (os error 20)"
  | isDirectory => "Is a directory (os error 21)"
  | notText => "stream did not contain valid UTF-8"
  | other description => description

structure Outcome where
  code : UInt32 := 0
  stdout : String := ""
  stderr : String := ""
deriving DecidableEq, Repr, Inhabited

/-- What is left to do once all input has been read. -/
inductive Plan where
  | finish (outcome : Outcome)
  /-- Writes a file; the outcome depends on whether that works. -/
  | write (path text : String) (written : Outcome) (failed : FileError → Outcome)

/-- What failed, and the chain of causes. -/
structure Failure where
  context : String
  causes : List String
deriving DecidableEq, Repr, Inhabited

namespace Failure

private def indentLines (lead follow text : String) : String :=
  lead ++ ("\n" ++ follow).intercalate (text.splitOn "\n")

/-- A single cause stands alone, several are numbered. -/
def render (f : Failure) : String :=
  let causes :=
    match f.causes with
    | [cause] => [indentLines "    " "    " cause]
    | causes => causes.mapIdx fun place cause => indentLines s!"    {place}: " "       " cause
  let listed := causes.map ("\n" ++ ·)
  "Error: " ++ f.context ++
    (if causes.isEmpty then "" else "\n\nCaused by:" ++ String.join listed) ++ "\n"

/-- The outcome of a failure, with what was written to standard output before it. -/
def outcome (f : Failure) (stdout : String) : Outcome := ⟨1, stdout, f.render⟩

end Failure
end ObjectRole.CommandLine

/-! The arguments of the command line. Options may stand anywhere behind the command's name; long
ones take their value behind `=` or as the next argument, short ones also directly behind the
letter. Nothing may be given twice. -/
namespace ObjectRole.CommandLine

inductive Command where
  | compile (model : String) (config out title apiVersion : Option String) (compact : Bool)
  | check (model : String)
  | tokenize (model reading : String)
  | classify (model : String)
deriving DecidableEq, Repr, Inhabited

/-- What a list of arguments asks for. -/
inductive Request where
  | run (command : Command)
  | help
  | misuse
deriving DecidableEq, Repr, Inhabited

/-- An option that takes a value. Paths must not be empty. -/
structure OptionForm where
  name : String
  letter : Option Char := none
  isPath : Bool := false

structure Switch where
  name : String
  letter : Option Char := none

/-- What may be written behind the name of a command. -/
structure CommandForm where
  name : String
  options : List OptionForm := []
  switches : List Switch := []
  /-- The positional arguments; true for a path. -/
  positional : List Bool

def verbose : Switch := ⟨"verbose", some 'v'⟩

def commandForms : List CommandForm := [
  { name := "compile"
    options := [⟨"config", none, true⟩, ⟨"out", some 'o', true⟩, ⟨"title", none, false⟩,
      ⟨"api-version", none, false⟩]
    switches := [verbose, ⟨"compact", none⟩]
    positional := [true] },
  { name := "check", switches := [verbose], positional := [true] },
  { name := "tokenize", switches := [verbose], positional := [true, false] },
  { name := "classify", switches := [verbose], positional := [true] }]

/-- The arguments taken so far. -/
structure Taken where
  values : List (String × String) := []
  switches : List String := []
  positional : List String := []

/-- A list of arguments ends early in a call for help or in a misuse. -/
abbrev Parsed (α : Type) := Except Request α

namespace Taken

private def withValue (t : Taken) (o : OptionForm) (value : String) : Parsed Taken :=
  if (t.values.lookup o.name).isSome || o.isPath && value.isEmpty then .error .misuse
  else .ok { t with values := (o.name, value) :: t.values }

private def withSwitch (t : Taken) (s : Switch) : Parsed Taken :=
  if t.switches.contains s.name then .error .misuse
  else .ok { t with switches := s.name :: t.switches }

private def withPositional (t : Taken) (form : CommandForm) (value : String) : Parsed Taken :=
  match form.positional[t.positional.length]? with
  | none => .error .misuse
  | some isPath =>
    if isPath && value.isEmpty then .error .misuse
    else .ok { t with positional := t.positional ++ [value] }

end Taken

/-- What one argument does: it is complete, or it is an option whose value comes next. -/
private inductive Effect where
  | taken (t : Taken)
  | awaits (o : OptionForm)

/-- A long option or switch, its dashes dropped. -/
private def takeLong (form : CommandForm) (t : Taken) (text : List Char) : Parsed Effect :=
  let name := String.ofList (text.takeWhile (· != '='))
  let value :=
    match text.dropWhile (· != '=') with
    | _ :: value => some (String.ofList value)
    | [] => none
  match form.options.find? (·.name == name), form.switches.find? (·.name == name), value with
  | some o, _, some value => .taken <$> t.withValue o value
  | some o, _, none => .ok (.awaits o)
  | none, some s, none => .taken <$> t.withSwitch s
  | none, none, none => .error (if name == "help" then .help else .misuse)
  | none, _, some _ => .error .misuse

/-- Short switches behind one dash; an option takes the rest as its value. -/
private def takeShort (form : CommandForm) (t : Taken) : List Char → Parsed Effect
  | [] => .ok (.taken t)
  | c :: rest =>
    match form.options.find? (·.letter == some c), form.switches.find? (·.letter == some c) with
    | some o, _ =>
      match rest with
      | [] => .ok (.awaits o)
      | '=' :: value => .taken <$> t.withValue o (.ofList value)
      | value => .taken <$> t.withValue o (.ofList value)
    | none, some s => do
      let t ← t.withSwitch s
      takeShort form t rest
    | none, none => .error (if c == 'h' then .help else .misuse)

/-- An argument that begins with a dash is an option, a dash alone is a value. -/
private def isDashed : List Char → Bool
  | '-' :: _ :: _ => true
  | _ => false

private def takeArgument (form : CommandForm) (t : Taken) (argument : String) : Parsed Effect :=
  match argument.toList with
  | '-' :: '-' :: name => takeLong form t name
  | '-' :: c :: rest => takeShort form t (c :: rest)
  | _ => .taken <$> t.withPositional form argument

private def takeAll (form : CommandForm) (t : Taken) : List String → Parsed Taken
  | [] => .ok t
  | "--" :: rest => rest.foldlM (fun t value => t.withPositional form value) t
  | argument :: rest => do
    match ← takeArgument form t argument, rest with
    | .taken t, rest => takeAll form t rest
    | .awaits _, [] => .error .misuse
    | .awaits o, value :: rest =>
      if isDashed value.toList then .error .misuse
      else do
        let t ← t.withValue o value
        takeAll form t rest

private def commandOf (form : CommandForm) (t : Taken) : Parsed Command :=
  match form.name, t.positional with
  | "compile", [model] =>
    .ok (.compile model (t.values.lookup "config") (t.values.lookup "out")
      (t.values.lookup "title") (t.values.lookup "api-version") (t.switches.contains "compact"))
  | "check", [model] => .ok (.check model)
  | "tokenize", [model, reading] => .ok (.tokenize model reading)
  | "classify", [model] => .ok (.classify model)
  | _, _ => .error .misuse

private def ofHelp : List String → Request
  | [] => .help
  | [name] => if name == "help" || commandForms.any (·.name == name) then .help else .misuse
  | _ => .misuse

/-- The switches before a command's name; `seen` if the verbose one was given. -/
private def beforeCommand (seen : Bool) : List Char → Parsed Bool
  | [] => .ok seen
  | 'v' :: rest => if seen then .error .misuse else beforeCommand true rest
  | c :: _ => .error (if c == 'h' || c == 'V' then .help else .misuse)

private def parse (seen : Bool) : List String → Parsed Command
  | [] => .error .misuse
  | argument :: rest =>
    match argument, argument.toList with
    | "--verbose", _ => if seen then .error .misuse else parse true rest
    | "--help", _ | "--version", _ => .error .help
    | "help", _ => .error (ofHelp rest)
    | _, '-' :: '-' :: _ => .error .misuse
    | _, '-' :: c :: letters => do
      let seen ← beforeCommand seen (c :: letters)
      parse seen rest
    | name, _ =>
      match commandForms.find? (·.name == name) with
      | some form => do
        let taken ← takeAll form {} rest
        commandOf form taken
      | none => .error .misuse

def Request.ofArguments (arguments : List String) : Request :=
  match parse false arguments with
  | .ok command => .run command
  | .error request => request

end ObjectRole.CommandLine

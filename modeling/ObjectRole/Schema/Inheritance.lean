import ObjectRole.CompileError
import ObjectRole.Schema.Basic

/-! Folding inherited schemas in. An `allOf` entry that refers to a schema of the same map is
replaced by what that schema says; the schema's own words win. This is repeated until no such
entry is left, so that chains of any length collapse. -/
namespace ObjectRole

namespace Schema

/-- The schema of the map that an entry refers to, with its key. -/
def parentIn? (schemas : SchemaMap) (entry : Schema) : Option (String × Schema) := do
  let target ← entry.target?
  let parent ← schemas.get? target
  return (target, parent)

def inherits (schemas : SchemaMap) (s : Schema) : Bool :=
  s.parents.any fun entry => (parentIn? schemas entry).isSome

end Schema

/-- A schema whose `allOf` entries are being folded in. -/
structure Inheritance where
  /-- Its plain words so far. -/
  schema : Schema
  required : List String
  properties : List (String × Schema)
  /-- Entries left for the next round, and those that lead nowhere. -/
  pending : List Schema

namespace Inheritance

def start (s : Schema) : Inheritance :=
  { schema := { s with required := none, properties := none, allOf := none }
    required := s.requiredNames
    properties := s.fields
    pending := [] }

/-- What a parent says where the schema itself says nothing. -/
def inheritWords (s parent : Schema) : Schema :=
  { s with
    title := s.title.or parent.title
    description := s.description.or parent.description
    type := s.type.or parent.type
    examples := s.examples.or (parent.examples.filter (!·.isEmpty)) }

def requireNew (required : List String) (name : String) : List String :=
  if required.contains name then required else required ++ [name]

def insertNew (properties : List (String × Schema)) (entry : String × Schema) :
    List (String × Schema) :=
  if Entries.contains entry.1 properties then properties
  else Entries.insert entry.1 entry.2 properties

def absorb (i : Inheritance) (parent : Schema) : Inheritance :=
  { schema := inheritWords i.schema parent
    required := parent.requiredNames.foldl requireNew i.required
    properties := parent.fields.foldl insertNew i.properties
    pending := i.pending ++ parent.parents }

def step (schemas : SchemaMap) (key : String) (i : Inheritance) (entry : Schema) :
    Except CompileError Inheritance :=
  match Schema.parentIn? schemas entry with
  | none => .ok { i with pending := i.pending ++ [entry] }
  | some (target, parent) =>
    if target = key then .error (.inheritanceCycle key) else .ok (i.absorb parent)

def unlessEmpty (values : List α) : Option (List α) :=
  if values.isEmpty then none else some values

def finish (i : Inheritance) : Schema :=
  { i.schema with
    properties := unlessEmpty i.properties
    required := unlessEmpty i.required
    allOf := unlessEmpty i.pending }

/-- One round: every entry that refers to a schema of the map is folded in. -/
def round (schemas : SchemaMap) (key : String) (s : Schema) : Except CompileError Schema :=
  finish <$> s.parents.foldlM (step schemas key) (start s)

/-- As many rounds as are needed, but no more than `rounds`. -/
def settle (schemas : SchemaMap) (key : String) : Nat → Schema → Except CompileError Schema
  | 0, s => if s.inherits schemas then .error (.inheritanceCycle key) else .ok s
  | rounds + 1, s =>
    if s.inherits schemas then do
      let s ← round schemas key s
      settle schemas key rounds s
    else .ok s

end Inheritance

namespace SchemaMap

def settleKey (schemas : SchemaMap) (key : String) : Except CompileError SchemaMap :=
  match schemas.get? key with
  | none => .ok schemas
  | some s => (schemas.insert key ·) <$> Inheritance.settle schemas key (schemas.size + 1) s

/-- Folds inherited schemas into the schemas of some keys, one after the other. After a failure the
schemas stay as they were when it was met. -/
def flattenKeys (schemas : SchemaMap) : List String → SchemaMap × Except CompileError Unit
  | [] => (schemas, .ok ())
  | key :: rest =>
    match schemas.settleKey key with
    | .ok schemas => flattenKeys schemas rest
    | .error error => (schemas, .error error)

/-- Folds inherited schemas into every schema. -/
def flatten (schemas : SchemaMap) : Except CompileError SchemaMap :=
  let (flat, result) := schemas.flattenKeys schemas.keys
  result.map fun _ => flat

end SchemaMap
end ObjectRole

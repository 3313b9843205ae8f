import ObjectRole.Schema.Basic
import ObjectRole.Text.Split

/-! Templates are example values. Their shape is taken as a schema, payloads are put into it at a
dotted path of field names, and error templates are filled in at such paths. -/
namespace ObjectRole

/-- The field names of a dotted path; empty ones do not count. -/
def pathSteps (path : String) : List String :=
  (Text.piecesWhen (· == '.') path.toList).map .ofList

namespace Schema

mutual

/-- The schema of a value like this one. An array takes the shape of its first item. -/
def ofExample : Json → Schema
  | .null => typed "null"
  | .bool _ => typed "boolean"
  | .number _ => typed "number"
  | .string _ => typed "string"
  | .array [] => typed "array"
  | .array (first :: _) => arrayOf (ofExample first)
  | .object [] => typed "object"
  | .object (field :: rest) =>
    { typed "object" with properties := some (ofExampleFields (field :: rest)) }

def ofExampleFields : List (String × Json) → List (String × Schema)
  | [] => []
  | (name, value) :: rest => (name, ofExample value) :: ofExampleFields rest

end

/-- Changes the schema that a path leads to through properties, if it leads anywhere. -/
def updateAt (change : Schema → Schema) : List String → Schema → Schema
  | [], s => s
  | name :: rest, s =>
    match s.property? name with
    | none => s
    | some property =>
      s.withProperty name (if rest.isEmpty then change property else updateAt change rest property)

/-- Removes the property that a path leads to. -/
def removeAt : List String → Schema → Schema
  | [], s => s
  | [name], s => { s with properties := s.properties.map (Entries.erase name) }
  | name :: rest, s =>
    match s.property? name with
    | none => s
    | some property => s.withProperty name (removeAt rest property)

/-- The payload inside the shape of a wrapper: it takes the place at the path, or is dropped where
the path leads nowhere. Without a payload that place is removed, without a wrapper nothing is
added. -/
def wrap (wrapper : Option Json) (path : String) (payload : Option Schema) : Option Schema :=
  match wrapper, payload with
  | none, payload => payload
  | some wrapper, some payload =>
    some (updateAt (fun _ => payload) (pathSteps path) (ofExample wrapper))
  | some wrapper, none => some (removeAt (pathSteps path) (ofExample wrapper))

end Schema

namespace Json

/-- The fields of an object; other values have none. -/
def fieldsOf : Json → List (String × Json)
  | object fields => fields
  | _ => []

/-- Puts a value at a path. Objects are made on the way, in place of anything that is none. -/
def setAt (value : Json) : List String → Json → Json
  | [], target => target
  | [name], target => object (Entries.insert name value target.fieldsOf)
  | name :: rest, target =>
    let inner := (Entries.get? name target.fieldsOf).getD (object [])
    object (Entries.insert name (setAt value rest inner) target.fieldsOf)

def setPath (target : Json) (path : String) (value : Json) : Json :=
  setAt value (pathSteps path) target

/-- An error template with its message and then its code filled in. -/
def fillError (template : Json) (messagePath codePath message : String) (code : Nat) : Json :=
  (template.setPath messagePath (string message)).setPath codePath (ofNat code)

end Json
end ObjectRole

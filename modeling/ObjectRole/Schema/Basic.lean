import ObjectRole.Dict
import ObjectRole.Json

/-! JSON Schema fragments: the keywords that hold plain values, and those that hold schemas. -/
namespace ObjectRole

/-- The keywords that hold no schemas. -/
structure Keywords where
  id : Option String := none
  reference : Option String := none
  title : Option String := none
  description : Option String := none
  type : Option String := none
  format : Option String := none
  pattern : Option String := none
  enumeration : Option (List Json) := none
  nullable : Option Bool := none
  minLength : Option UInt64 := none
  maxLength : Option UInt64 := none
  minimum : Option Number := none
  maximum : Option Number := none
  exclusiveMinimum : Option Number := none
  exclusiveMaximum : Option Number := none
  multipleOf : Option Number := none
  required : Option (List String) := none
  examples : Option (List Json) := none
deriving Inhabited

/-- A schema. Its properties are kept in key order. -/
structure Schema extends Keywords where
  properties : Option (List (String × Schema)) := none
  items : Option Schema := none
  allOf : Option (List Schema) := none
  oneOf : Option (List Schema) := none
deriving Inhabited

/-- The schemas of a document by key. -/
abbrev SchemaMap := Dict Schema

/-- What precedes the key in a reference to a schema of the same document. -/
def componentPath : String := "#/components/schemas/"

def componentReference (key : String) : String := componentPath ++ key

namespace Keywords

/-- The key that a reference within the document leads to. -/
def target? (k : Keywords) : Option String := do
  let reference ← k.reference
  let key ← componentPath.toList.isPrefixOf? reference.toList
  return .ofList key

end Keywords

namespace Schema

def empty : Schema := {}

def typed (type : String) : Schema := { type := some type }

def component (key : String) : Schema := { reference := some (componentReference key) }

def arrayOf (items : Schema) : Schema := { type := some "array", items := some items }

def describedAs (s : Schema) (description : String) : Schema :=
  { s with description := some description }

def fields (s : Schema) : List (String × Schema) := s.properties.getD []

def property? (s : Schema) (name : String) : Option Schema := Entries.get? name s.fields

def withProperty (s : Schema) (name : String) (property : Schema) : Schema :=
  { s with properties := some (Entries.insert name property s.fields) }

/-- Keeps the property of the name that is there already. -/
def withNewProperty (s : Schema) (name : String) (property : Schema) : Schema :=
  if Entries.contains name s.fields then s else s.withProperty name property

def requiredNames (s : Schema) : List String := s.required.getD []

/-- Requires a property, once. -/
def require (s : Schema) (name : String) : Schema :=
  let names := s.requiredNames
  { s with required := some (if names.contains name then names else names ++ [name]) }

def parents (s : Schema) : List Schema := s.allOf.getD []

def propertyCount (s : Schema) : Nat := s.fields.length

def requiredCount (s : Schema) : Nat := s.requiredNames.length

end Schema
end ObjectRole

import ObjectRole.Api.Settings
import ObjectRole.Schema.Basic

/-! OpenAPI documents. -/
namespace ObjectRole

inductive ParameterLocation where
  | query
  | path
deriving DecidableEq, Repr, Inhabited

structure Parameter where
  name : String
  location : ParameterLocation
  required : Option Bool := none
  description : Option String := none
  schema : Schema
deriving Inhabited

structure MediaType where
  schema : Schema
deriving Inhabited

/-- Bodies by media type. -/
abbrev Content := Dict MediaType

def Content.json (schema : Schema) : Content := Dict.empty.insert "application/json" ⟨schema⟩

structure Response where
  description : String
  content : Option Content := none
deriving Inhabited

structure RequestBody where
  content : Content
deriving Inhabited

structure Operation where
  summary : String
  operationId : String
  parameters : Option (List Parameter) := none
  requestBody : Option RequestBody := none
  responses : Dict Response
deriving Inhabited

structure PathItem where
  parameters : Option (List Parameter) := none
  get : Option Operation := none
  post : Option Operation := none
  patch : Option Operation := none
  delete : Option Operation := none
deriving Inhabited

/-- The operations of a path in their order. -/
def PathItem.operations (p : PathItem) : List Operation :=
  [p.get, p.post, p.patch, p.delete].filterMap id

structure Info where
  title : Option String := none
  version : Option String := none
  contact : Option Contact := none
  description : Option String := none
deriving DecidableEq, Repr, Inhabited

structure ApiDocument where
  version : String
  info : Info
  servers : Option Json := none
  paths : Dict PathItem
  schemas : SchemaMap
deriving Inhabited

end ObjectRole

import ObjectRole.Api.Document
import ObjectRole.Api.Renames
import ObjectRole.CompileError
import ObjectRole.Schema.Walk

/-! All schemas of a document, each with the place where it stands, in one order: components, then
per path its parameters and its operations with their parameters, request and responses. Changes
reach the same schemas. -/
namespace ObjectRole

def Parameter.schemas (parameters : Option (List Parameter)) : List Schema :=
  (parameters.getD []).map (·.schema)

def Content.schemas (content : Content) : List Schema := content.values.map (·.schema)

def RequestBody.schemas (body : RequestBody) : List Schema := Content.schemas body.content

def Response.schemas (response : Response) : List Schema :=
  response.content.toList.flatMap Content.schemas

def Operation.schemas (o : Operation) : List Schema :=
  Parameter.schemas o.parameters ++ o.requestBody.toList.flatMap RequestBody.schemas ++
    o.responses.values.flatMap Response.schemas

/-- The schemas of a path, each with the path or the operation it belongs to. -/
def PathItem.placedSchemas (path : String) (p : PathItem) : List (String × Schema) :=
  (Parameter.schemas p.parameters).map (path, ·) ++
    p.operations.flatMap fun o => o.schemas.map (s!"{path} ({o.operationId})", ·)

def Parameter.mapSchemas (f : Schema → Schema) :
    Option (List Parameter) → Option (List Parameter) :=
  Option.map (·.map fun p => { p with schema := f p.schema })

def Content.mapSchemas (f : Schema → Schema) (content : Content) : Content :=
  content.mapValues fun media => ⟨f media.schema⟩

def Operation.mapSchemas (f : Schema → Schema) (o : Operation) : Operation :=
  { o with
    parameters := Parameter.mapSchemas f o.parameters
    requestBody := o.requestBody.map fun body => ⟨Content.mapSchemas f body.content⟩
    responses := o.responses.mapValues fun response =>
      { response with content := response.content.map (Content.mapSchemas f) } }

def PathItem.mapSchemas (f : Schema → Schema) (p : PathItem) : PathItem :=
  { parameters := Parameter.mapSchemas f p.parameters
    get := p.get.map (·.mapSchemas f)
    post := p.post.map (·.mapSchemas f)
    patch := p.patch.map (·.mapSchemas f)
    delete := p.delete.map (·.mapSchemas f) }

namespace ApiDocument

/-- Every outermost schema with the place where it stands. -/
def placedSchemas (d : ApiDocument) : List (String × Schema) :=
  (d.schemas.entries.map fun (key, s) => (s!"components.schemas.{key}", s)) ++
    d.paths.entries.flatMap fun (path, item) => item.placedSchemas path

def mapSchemas (f : Schema → Schema) (d : ApiDocument) : ApiDocument :=
  { d with
    schemas := d.schemas.mapValues f
    paths := d.paths.mapValues (·.mapSchemas f) }

/-- Every reference with the place where it stands. -/
def references (d : ApiDocument) : List (String × String) :=
  d.placedSchemas.flatMap fun (place, s) => s.references.map (place, ·)

/-- Leads every reference to a component to the key that took its place. -/
def relabel (r : Renames) (d : ApiDocument) : ApiDocument :=
  d.mapSchemas (·.mapKeywords (·.relabel r))

/-- The key that a component schema at a place refers to, and that is missing. -/
def dangling? (d : ApiDocument) (place : String) (s : Schema) : Option CompileError := do
  let target ← s.target?
  if d.schemas.contains target then none
  else some (.danglingReference (componentReference target) place)

/-- Refuses the first reference to a component that is not there. -/
def checkReferences (d : ApiDocument) : Except CompileError Unit :=
  let found := d.placedSchemas.findSome? fun (place, s) => s.nested.findSome? (d.dangling? place)
  match found with
  | some error => .error error
  | none => .ok ()

end ApiDocument
end ObjectRole

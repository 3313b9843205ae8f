import ObjectRole.Api.Document
import ObjectRole.Api.Envelope
import ObjectRole.Api.Tiers
import ObjectRole.Naming

/-! The five operations of a resource, with their envelopes and error responses. -/
namespace ObjectRole

/-- What the operations of a resource speak of. -/
structure ResourceView where
  key : String
  title : String
  plural : String
  permissions : List Permission
  /-- Whether the only identifier is `id`, which the server assigns. -/
  isId : Bool
deriving DecidableEq, Repr, Inhabited

def listModelKey : String := "ListModel"
def errorModelKey : String := "ErrorModel"

namespace ResourceView

variable (r : ResourceView) (settings : Settings)

def allows (p : Permission) : Bool := r.permissions.contains p

/-- A resource whose title is its own plural takes no article. -/
def isPlural : Bool := r.plural == r.title

/-- Text that is left out of a plural. -/
def unlessPlural (text : String) : String := if r.isPlural then "" else text

def lowered (text : String) : String := .ofList (Text.lower text.toList)

def collectionName : String := lowered (Naming.schemaKey r.plural)

def collectionPath : String := "/" ++ r.collectionName

def itemName : String := lowered r.key

/-- A payload in the envelope of the settings. -/
def envelope (payload : Option Schema) : Option Schema :=
  Schema.wrap settings.wrapper settings.replacementFieldPath payload

def itemBody : Option Schema := envelope settings (some (.component r.key))

def errorResponse (template : Json) (code : Nat) (message : String) : String × Response :=
  let sample :=
    template.fillError settings.errorMessagePath settings.errorCodePath message code
  let schema := { Schema.component errorModelKey with examples := some [sample] }
  (toString code, { description := message, content := some (.json schema) })

/-- The responses of an operation: success, and with an error template the failures. -/
def responses (success : String) (body : Option Schema) (failures : List (Nat × String)) :
    Dict Response :=
  let ok : String × Response := ("200", { description := success, content := body.map .json })
  let errors :=
    match settings.errorShape with
    | none => []
    | some template =>
      let access := if r.allows .login then [(401, "Unauthorized")] else []
      let rate := if r.allows .rateLimit then [(429, "Too Many Requests")] else []
      (access ++ rate ++ failures).map fun (code, message) =>
        errorResponse settings template code message
  .ofList (errors ++ [ok])

def depthParameter : Parameter :=
  { name := "depth"
    location := .query
    required := some false
    description := some "The number of levels of related objects to include in the response"
    schema := .typed "integer" }

def listParameters : List Parameter := [
  { name := "sort"
    location := .query
    description := some
      "Name of a top-level field to sort by, ascending; prefix with \"-\" to sort descending"
    schema := .typed "string" },
  { name := "limit"
    location := .query
    description := some "Limit number of results, default 10"
    schema := .typed "number" },
  { name := "where"
    location := .query
    description := some "Search for results fitting criteria"
    schema := .component (whereKey r.key) }]

def list : Operation :=
  let items := (envelope settings (some (.arrayOf (.component r.key)))).getD .empty
  let body : Schema := { allOf := some [items, .component listModelKey] }
  { summary := s!"Get {r.plural}"
    operationId := s!"get-{r.collectionName}-list"
    parameters := some r.listParameters
    responses := r.responses settings s!"{r.plural} Found" (some body) [] }

def create : Operation :=
  let (verb, done) := if r.isId then ("Create", "Created") else ("Add", "Added")
  let article := r.unlessPlural "a "
  { summary := s!"{verb} {article}new {r.title}"
    operationId := s!"post-{r.itemName}"
    requestBody := some ⟨.json (.component (newKey r.key))⟩
    responses := r.responses settings s!"{r.title} {done}" (r.itemBody settings)
      [(400, "Missing Required Information")] }

def notFound : List (Nat × String) := [(404, s!"{r.title} Not Found")]

def read : Operation :=
  let article := r.unlessPlural (Naming.article r.title ++ " ")
  { summary := s!"Retrieve {article}{r.title}"
    operationId := s!"get-{r.itemName}"
    responses := r.responses settings s!"{r.title} Found" (r.itemBody settings) r.notFound }

def update : Operation :=
  let article := r.unlessPlural "an "
  { summary := s!"Update {article}existing {r.title}"
    operationId := s!"patch-{r.itemName}"
    requestBody := some ⟨.json (.component (updateKey r.key))⟩
    responses := r.responses settings s!"{r.title} Updated" (r.itemBody settings) r.notFound }

def delete : Operation :=
  let article := r.unlessPlural "an "
  { summary := s!"Delete {article}existing {r.title}"
    operationId := s!"delete-{r.itemName}"
    responses := r.responses settings s!"{r.title} Deleted" (envelope settings none) r.notFound }

def whenAllowed (p : Permission) (operation : Operation) : Option Operation :=
  if r.allows p then some operation else none

/-- The collection's operations, if any is permitted. -/
def collectionItem? : Option PathItem :=
  if r.allows .list || r.allows .create then
    some {
      parameters := some [depthParameter]
      get := r.whenAllowed .list (r.list settings)
      post := r.whenAllowed .create (r.create settings) }
  else none

/-- One item's operations, if any is permitted. -/
def item? (identifier : List Parameter) : Option PathItem :=
  if r.allows .read || r.allows .update || r.allows .delete then
    some {
      parameters := some (identifier ++ [depthParameter])
      get := r.whenAllowed .read (r.read settings)
      patch := r.whenAllowed .update (r.update settings)
      delete := r.whenAllowed .delete (r.delete settings) }
  else none

/-- The path of one item: the collection's path and the parameters in braces. -/
def itemPath (identifier : List Parameter) : String :=
  let segments := identifier.map fun p => "\x7b" ++ p.name ++ "\x7d"
  r.collectionPath ++ "/" ++ "/".intercalate segments

end ResourceView
end ObjectRole

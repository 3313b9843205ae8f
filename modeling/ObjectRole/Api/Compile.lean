import ObjectRole.Api.Codec
import ObjectRole.Api.Paths
import ObjectRole.Api.References
import ObjectRole.Json.Printer
import ObjectRole.Schema.Inheritance

/-! From a snapshot to its OpenAPI document: tables are built and flattened, paths are made,
references to folded tiers are led on, and every reference is checked. -/
namespace ObjectRole

/-- The envelope of pages that every list response has. -/
def listModel : Schema :=
  let field (type description : String) (sample : Json) : Schema :=
    { (Schema.typed type).describedAs description with examples := some [sample] }
  let number (description : String) (sample : Int) := field "number" description (.integer sample)
  let flag (description : String) := field "boolean" description (.bool true)
  let nullable (s : Schema) : Schema := { s with nullable := some true }
  let properties := [
    ("page", number "Current page number" 2),
    ("nextPage", nullable (number "Number of the next page, null if it doesn't exist" 3)),
    ("prevPage", nullable (number "Number of the previous page, null if it doesn't exist" 1)),
    ("totalPages", number "Total pages available, based upon the limit" 3),
    ("totalCount", number "Total available records" 25),
    ("limit", number "Limit query parameter, defaults to 10" 10),
    ("pagingCounter", number "Number of the first record on the current page" 11),
    ("hasPrevPage", flag "Whether a previous page exists"),
    ("hasNextPage", flag "Whether a next page exists")]
  { Schema.typed "object" with properties := some (Entries.ofList properties) }

namespace ApiDocument

def openApiVersion : String := "3.1.0"

/-- The schemas of a document: those of the tables, the list model, and with an error template its
shape. -/
def componentSchemas (settings : Settings) (schemas : SchemaMap) : SchemaMap :=
  let schemas := schemas.insert listModelKey listModel
  match settings.errorShape with
  | some template => schemas.insert errorModelKey (.ofExample template)
  | none => schemas

/-- The document of finished paths, before references are led on. -/
def ofSynthesis (settings : Settings) (y : Synthesis) : ApiDocument :=
  { version := openApiVersion
    info := {
      title := settings.title
      version := settings.version
      contact := if settings.contact.isEmpty then none else some settings.contact
      description := settings.description }
    servers := settings.servers.filter (!·.isNull)
    paths := y.paths
    schemas := componentSchemas settings y.tiers.schemas }

/-- The text of a document, on one line or indented, with a line end. -/
def render (d : ApiDocument) (pretty : Bool) : String :=
  (if pretty then d.encode.pretty else d.encode.compact) ++ "\n"

end ApiDocument

namespace Snapshot

/-- The tables of a model with inherited schemas folded in. -/
def flatTables (s : Snapshot) : Except CompileError BuiltTables := do
  let built ← s.buildTables
  let schemas ← SchemaMap.flatten built.schemas
  return { built with schemas }

def compile (s : Snapshot) (settings : Settings) : Except CompileError ApiDocument := do
  let tables ← s.flatTables
  let synthesis ← Synthesis.ofTables s settings tables
  let document := (ApiDocument.ofSynthesis settings synthesis).relabel synthesis.tiers.renames
  document.checkReferences
  return document

end Snapshot
end ObjectRole

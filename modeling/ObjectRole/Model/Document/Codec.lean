import ObjectRole.Model.Error
import ObjectRole.Model.Facets
import ObjectRole.Model.Spelling

/-! The JSON form of a model document. Empty optional fields are not written. The facets of a
noun stand among its own fields. -/
namespace ObjectRole

open Json (Decoder Record)

namespace Permission

def listDecoder : Decoder (List Permission) := .array Spelled.decoder

def encodeList (permissions : List Permission) : Json :=
  .array (permissions.map Spelled.encode)

end Permission

namespace NounDeclaration

/-- A noun's own fields; its facets are looked at when the noun has ended. -/
def ownFields : Record (Facets → NounDeclaration) :=
  (fun name plural description objectType valueType referenceScheme superType permissions facets =>
    { name, plural, description, objectType, valueType, facets, referenceScheme, superType,
      permissions })
    <$> .required "name" Decoder.string
    <*> .optional "plural" Decoder.string
    <*> .optional "description" Decoder.string
    <*> .withDefault "objectType" Spelled.decoder .entity
    <*> .optional "valueType" Spelled.decoder
    <*> .withDefault "referenceScheme" (.array Decoder.string) []
    <*> .optional "superType" Decoder.string
    <*> .optional "permissions" Permission.listDecoder

def decoder : Decoder NounDeclaration := Record.withLater ownFields Facets.fields

def encode (n : NounDeclaration) : Json :=
  .record ([
    ("name", some (.string n.name)),
    ("plural", n.plural.map .string),
    ("description", n.description.map .string),
    ("objectType", some (Spelled.encode n.objectType)),
    ("valueType", n.valueType.map Spelled.encode)]
    ++ n.facets.encodeFields ++ [
    ("referenceScheme",
      if n.referenceScheme.isEmpty then none else some (.strings n.referenceScheme)),
    ("superType", n.superType.map .string),
    ("permissions", n.permissions.map Permission.encodeList)])

end NounDeclaration

namespace ReadingDeclaration

def readingFields : Record Reading :=
  Reading.mk <$> .required "text" Decoder.string
    <*> .withDefault "httpVerb" Spelled.decoder .get
    <*> .withDefault "language" Decoder.string defaultLanguage

def decoder : Decoder ReadingDeclaration :=
  .whole (.either (fun draft => text <$> Decoder.string draft)
    fun draft => full <$> Record.named readingFields draft)

def encode : ReadingDeclaration → Json
  | text words => .string words
  | full reading => .record [
      ("text", some (.string reading.text)),
      ("httpVerb", some (Spelled.encode reading.httpVerb)),
      ("language", some (.string reading.language))]

end ReadingDeclaration

namespace FactTypeDeclaration

def decoder : Decoder FactTypeDeclaration :=
  Record.decode <| FactTypeDeclaration.mk
    <$> .optional "name" Decoder.string
    <*> .optional "description" Decoder.string
    <*> .optional "plural" Decoder.string
    <*> .withDefault "readings" (.array ReadingDeclaration.decoder) []
    <*> .optional "roles" (.array Decoder.string)
    <*> .optional "relationship" Spelled.decoder
    <*> .optional "order" Decoder.int64
    <*> .optional "permissions" Permission.listDecoder

def encode (f : FactTypeDeclaration) : Json :=
  .record [
    ("name", f.name.map .string),
    ("description", f.description.map .string),
    ("plural", f.plural.map .string),
    ("readings", some (.array (f.readings.map (·.encode)))),
    ("roles", f.roles.map .strings),
    ("relationship", f.relationship.map Spelled.encode),
    ("order", f.order.map (.integer ·.toInt)),
    ("permissions", f.permissions.map Permission.encodeList)]

end FactTypeDeclaration

namespace RolePosition

def decoder : Decoder RolePosition :=
  .whole (.either (fun draft => index <$> Decoder.uint64 draft)
    fun draft => player <$> Decoder.string draft)

def encode : RolePosition → Json
  | index place => .ofNat place.toNat
  | player name => .string name

end RolePosition

namespace RoleSelector

def decoder : Decoder RoleSelector :=
  Record.decode <| RoleSelector.mk
    <$> .required "factType" Decoder.string
    <*> .required "role" RolePosition.decoder

def encode (r : RoleSelector) : Json :=
  .record [("factType", some (.string r.factType)), ("role", some r.role.encode)]

end RoleSelector

namespace ConstraintDeclaration

def decoder : Decoder ConstraintDeclaration :=
  Record.decode <| ConstraintDeclaration.mk
    <$> .required "kind" Spelled.decoder
    <*> .withDefault "modality" Spelled.decoder .alethic
    <*> .required "roles" (.array RoleSelector.decoder)

def encode (c : ConstraintDeclaration) : Json :=
  .record [
    ("kind", some (Spelled.encode c.kind)),
    ("modality", some (Spelled.encode c.modality)),
    ("roles", some (.array (c.roles.map (·.encode))))]

end ConstraintDeclaration

namespace ExampleDeclaration

def decoder : Decoder ExampleDeclaration :=
  Record.decode <| ExampleDeclaration.mk
    <$> .required "factType" Decoder.string
    <*> .required "values" (.array Decoder.free)

def encode (e : ExampleDeclaration) : Json :=
  .record [("factType", some (.string e.factType)), ("values", some (.array e.values))]

end ExampleDeclaration

namespace JsonExampleDeclaration

def decoder : Decoder JsonExampleDeclaration :=
  Record.decode <| JsonExampleDeclaration.mk
    <$> .required "noun" Decoder.string
    <*> .required "example" Decoder.free

def encode (e : JsonExampleDeclaration) : Json :=
  .record [("noun", some (.string e.noun)), ("example", some e.value)]

end JsonExampleDeclaration

namespace Document

def decoder : Decoder Document :=
  Record.decode <| Document.mk
    <$> .withDefault "nouns" (.array NounDeclaration.decoder) []
    <*> .withDefault "factTypes" (.array FactTypeDeclaration.decoder) []
    <*> .withDefault "constraints" (.array ConstraintDeclaration.decoder) []
    <*> .withDefault "examples" (.array ExampleDeclaration.decoder) []
    <*> .withDefault "jsonExamples" (.array JsonExampleDeclaration.decoder) []

def encode (d : Document) : Json :=
  .record [
    ("nouns", some (.array (d.nouns.map (·.encode)))),
    ("factTypes", some (.array (d.factTypes.map (·.encode)))),
    ("constraints", some (.array (d.constraints.map (·.encode)))),
    ("examples", some (.array (d.examples.map (·.encode)))),
    ("jsonExamples", some (.array (d.jsonExamples.map (·.encode))))]

/-- Reads the text of a document. -/
def ofText (text : String) : Except ModelError Document :=
  (Json.decodeText decoder text).mapError .malformed

end Document
end ObjectRole

import ObjectRole.Digest
import ObjectRole.Json.Printer
import ObjectRole.Model.Facets
import ObjectRole.Model.Snapshot
import ObjectRole.Model.Spelling

/-! The JSON form of a snapshot. Absent values are written as `null`; only absent facets are left
out. Its compact text is what a model's digest is taken of. -/
namespace ObjectRole

open Json (Decoder Record)

namespace Snapshot

def idDecoder (make : UInt32 → α) : Decoder α := fun draft => make <$> Decoder.uint32 draft

def encodeId (number : UInt32) : Json := .ofNat number.toNat

def encodeText : Option String → Json := Json.nullable .string

def encodePermissions : Option (List Permission) → Json :=
  Json.nullable fun permissions => .array (permissions.map Spelled.encode)

end Snapshot

open Snapshot (idDecoder encodeId encodeText encodePermissions)

namespace Player

def kinds : List (String × (UInt32 → Player)) :=
  [("noun", fun id => .noun ⟨id⟩), ("fact_type", fun id => .factType ⟨id⟩)]

def decoder : Decoder Player :=
  Record.decode <| (fun make id => make id)
    <$> .required "kind" (.choice kinds)
    <*> .required "id" Decoder.uint32

def encode : Player → Json
  | noun id => .record [("kind", some (.string "noun")), ("id", some (encodeId id.number))]
  | factType id => .record [("kind", some (.string "fact_type")), ("id", some (encodeId id.number))]

end Player

namespace Noun

def decoder : Decoder Noun :=
  Record.decode <| Noun.mk
    <$> .required "id" (idDecoder NounId.mk)
    <*> .required "name" Decoder.string
    <*> .nullable "plural" Decoder.string
    <*> .nullable "description" Decoder.string
    <*> .required "object_type" Spelled.decoder
    <*> .nullable "value_type" Spelled.decoder
    <*> .required "facets" (Record.decode Facets.fields)
    <*> .required "reference_scheme" (.array (idDecoder NounId.mk))
    <*> .nullable "super_type" (idDecoder NounId.mk)
    <*> .nullable "permissions" (.array Spelled.decoder)

def encode (n : Noun) : Json :=
  .object [
    ("id", encodeId n.id.number),
    ("name", .string n.name),
    ("plural", encodeText n.plural),
    ("description", encodeText n.description),
    ("object_type", Spelled.encode n.objectType),
    ("value_type", .nullable Spelled.encode n.valueType),
    ("facets", .record n.facets.encodeFields),
    ("reference_scheme", .array (n.referenceScheme.map (encodeId ·.number))),
    ("super_type", .nullable (encodeId ·.number) n.superType),
    ("permissions", encodePermissions n.permissions)]

end Noun

namespace Reading

def decoder : Decoder Reading :=
  Record.decode <| Reading.mk
    <$> .required "text" Decoder.string
    <*> .required "http_verb" Spelled.decoder
    <*> .required "language" Decoder.string

def encode (r : Reading) : Json :=
  .object [
    ("text", .string r.text),
    ("http_verb", Spelled.encode r.httpVerb),
    ("language", .string r.language)]

end Reading

namespace FactType

def decoder : Decoder FactType :=
  Record.decode <| FactType.mk
    <$> .required "id" (idDecoder FactTypeId.mk)
    <*> .nullable "name" Decoder.string
    <*> .nullable "description" Decoder.string
    <*> .nullable "plural" Decoder.string
    <*> .required "readings" (.array Reading.decoder)
    <*> .required "roles" (.array (idDecoder RoleId.mk))
    <*> .nullable "order" Decoder.int64
    <*> .nullable "permissions" (.array Spelled.decoder)

def encode (f : FactType) : Json :=
  .object [
    ("id", encodeId f.id.number),
    ("name", encodeText f.name),
    ("description", encodeText f.description),
    ("plural", encodeText f.plural),
    ("readings", .array (f.readings.map (·.encode))),
    ("roles", .array (f.roles.map (encodeId ·.number))),
    ("order", .nullable (.integer ·.toInt) f.order),
    ("permissions", encodePermissions f.permissions)]

end FactType

namespace Role

def decoder : Decoder Role :=
  Record.decode <| Role.mk
    <$> .required "id" (idDecoder RoleId.mk)
    <*> .required "fact_type" (idDecoder FactTypeId.mk)
    <*> .required "player" Player.decoder

def encode (r : Role) : Json :=
  .object [
    ("id", encodeId r.id.number),
    ("fact_type", encodeId r.factType.number),
    ("player", r.player.encode)]

end Role

namespace Constraint

def decoder : Decoder Constraint :=
  Record.decode <| Constraint.mk
    <$> .required "id" (idDecoder ConstraintId.mk)
    <*> .required "kind" Spelled.decoder
    <*> .required "modality" Spelled.decoder

def encode (c : Constraint) : Json :=
  .object [
    ("id", encodeId c.id.number),
    ("kind", Spelled.encode c.kind),
    ("modality", Spelled.encode c.modality)]

end Constraint

namespace Span

def decoder : Decoder Span :=
  Record.decode <| Span.mk
    <$> .required "constraint" (idDecoder ConstraintId.mk)
    <*> .required "roles" (.array (idDecoder RoleId.mk))

def encode (s : Span) : Json :=
  .object [
    ("constraint", encodeId s.constraint.number),
    ("roles", .array (s.roles.map (encodeId ·.number)))]

end Span

namespace Example

def decoder : Decoder Example :=
  Record.decode <| Example.mk
    <$> .required "fact_type" (idDecoder FactTypeId.mk)
    <*> .required "values" (.array Decoder.free)

def encode (e : Example) : Json :=
  .object [("fact_type", encodeId e.factType.number), ("values", .array e.values)]

end Example

namespace JsonExample

def decoder : Decoder JsonExample :=
  Record.decode <| JsonExample.mk
    <$> .required "subject" Player.decoder
    <*> .required "example" Decoder.free

def encode (e : JsonExample) : Json :=
  .object [("subject", e.subject.encode), ("example", e.value)]

end JsonExample

namespace Snapshot

def decoder : Decoder Snapshot :=
  Record.decode <| Snapshot.mk
    <$> .required "nouns" (.array Noun.decoder)
    <*> .required "fact_types" (.array FactType.decoder)
    <*> .required "roles" (.array Role.decoder)
    <*> .required "constraints" (.array Constraint.decoder)
    <*> .required "spans" (.array Span.decoder)
    <*> .required "examples" (.array Example.decoder)
    <*> .required "json_examples" (.array JsonExample.decoder)

def encode (s : Snapshot) : Json :=
  .object [
    ("nouns", .array (s.nouns.map (·.encode))),
    ("fact_types", .array (s.factTypes.map (·.encode))),
    ("roles", .array (s.roles.map (·.encode))),
    ("constraints", .array (s.constraints.map (·.encode))),
    ("spans", .array (s.spans.map (·.encode))),
    ("examples", .array (s.examples.map (·.encode))),
    ("json_examples", .array (s.jsonExamples.map (·.encode)))]

def digest (s : Snapshot) : Digest := .ofText s.encode.compact

end Snapshot
end ObjectRole

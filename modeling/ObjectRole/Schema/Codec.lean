import ObjectRole.Json.Record
import ObjectRole.Schema.Basic

/-! The JSON form of a schema; absent keywords are not written. -/
namespace ObjectRole

/-- A map as an object, in key order. -/
def Dict.encode (encode : α → Json) (d : Dict α) : Json := .object (d.mapValues encode).entries

namespace Json.Draft

mutual

/-- How deep values are nested in a tree. -/
def height : Draft → Nat
  | array _ items _ => heightItems items + 1
  | object _ members _ => heightMembers members + 1
  | _ => 0

def heightItems : List Draft → Nat
  | [] => 0
  | item :: rest => max (height item) (heightItems rest)

def heightMembers : List (Draft × Draft) → Nat
  | [] => 0
  | (_, value) :: rest => max (height value) (heightMembers rest)

end
end Json.Draft

namespace Schema

open Json (Decoder Record)

/-- The fields of a schema, given a decoder for the schemas it holds. -/
def fieldsWith (inner : Decoder Schema) : Record Schema :=
  (fun id reference title description type format pattern enumeration nullable minLength maxLength
      minimum maximum exclusiveMinimum exclusiveMaximum multipleOf
      (properties : Option (Dict Schema)) required items allOf oneOf examples =>
    { id, reference, title, description, type, format, pattern, enumeration, nullable, minLength,
      maxLength, minimum, maximum, exclusiveMinimum, exclusiveMaximum, multipleOf,
      properties := properties.map (·.entries), required, items, allOf, oneOf, examples })
    <$> .optional "$id" Decoder.string
    <*> .optional "$ref" Decoder.string
    <*> .optional "title" Decoder.string
    <*> .optional "description" Decoder.string
    <*> .optional "type" Decoder.string
    <*> .optional "format" Decoder.string
    <*> .optional "pattern" Decoder.string
    <*> .optional "enum" (.array Decoder.free)
    <*> .optional "nullable" Decoder.bool
    <*> .optional "minLength" Decoder.uint64
    <*> .optional "maxLength" Decoder.uint64
    <*> .optional "minimum" Decoder.number
    <*> .optional "maximum" Decoder.number
    <*> .optional "exclusiveMinimum" Decoder.number
    <*> .optional "exclusiveMaximum" Decoder.number
    <*> .optional "multipleOf" Decoder.number
    <*> .optional "properties" (.dict inner)
    <*> .optional "required" (.array Decoder.string)
    <*> .optional "items" inner
    <*> .optional "allOf" (.array inner)
    <*> .optional "oneOf" (.array inner)
    <*> .optional "examples" (.array Decoder.free)

/-- Decodes a schema in which schemas are nested at most `depth` deep. -/
def decoderWithin : Nat → Decoder Schema
  | 0, _ => .error .mismatch
  | depth + 1, draft => (fieldsWith (decoderWithin depth)).decode draft

def decoder : Decoder Schema := fun draft => decoderWithin (draft.height + 1) draft

/-- The written members around the ones that hold schemas. -/
def encodeWith (k : Keywords) (properties items allOf oneOf : Option Json) : Json :=
  .record [
    ("$id", k.id.map .string),
    ("$ref", k.reference.map .string),
    ("title", k.title.map .string),
    ("description", k.description.map .string),
    ("type", k.type.map .string),
    ("format", k.format.map .string),
    ("pattern", k.pattern.map .string),
    ("enum", k.enumeration.map .array),
    ("nullable", k.nullable.map .bool),
    ("minLength", k.minLength.map (.ofNat ·.toNat)),
    ("maxLength", k.maxLength.map (.ofNat ·.toNat)),
    ("minimum", k.minimum.map .number),
    ("maximum", k.maximum.map .number),
    ("exclusiveMinimum", k.exclusiveMinimum.map .number),
    ("exclusiveMaximum", k.exclusiveMaximum.map .number),
    ("multipleOf", k.multipleOf.map .number),
    ("properties", properties),
    ("required", k.required.map .strings),
    ("items", items),
    ("allOf", allOf),
    ("oneOf", oneOf),
    ("examples", k.examples.map .array)]

mutual

def encode : Schema → Json
  | ⟨k, properties, items, allOf, oneOf⟩ =>
    encodeWith k (encodeProperties properties) (encodeItem items) (encodeLists allOf)
      (encodeLists oneOf)

def encodeProperties : Option (List (String × Schema)) → Option Json
  | none => none
  | some entries => some (.object (encodeEntries entries))

def encodeEntries : List (String × Schema) → List (String × Json)
  | [] => []
  | (name, property) :: rest => (name, encode property) :: encodeEntries rest

def encodeItem : Option Schema → Option Json
  | none => none
  | some item => some (encode item)

def encodeLists : Option (List Schema) → Option Json
  | none => none
  | some schemas => some (.array (encodeList schemas))

def encodeList : List Schema → List Json
  | [] => []
  | s :: rest => encode s :: encodeList rest

end

end Schema

namespace SchemaMap

def decoder : Json.Decoder SchemaMap := .dict Schema.decoder

def encode (schemas : SchemaMap) : Json := Dict.encode Schema.encode schemas

end SchemaMap
end ObjectRole

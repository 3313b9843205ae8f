import ObjectRole.Json.Record
import ObjectRole.Model.Basic

/-! The JSON form of the facets of a value noun; absent facets are not written. -/
namespace ObjectRole.Facets

open Json (Decoder Record)

def fields : Record Facets :=
  Facets.mk <$> .optional "pattern" Decoder.string
    <*> .optional "enum" Decoder.string
    <*> .optional "format" Decoder.string
    <*> .optional "minLength" Decoder.uint64
    <*> .optional "maxLength" Decoder.uint64
    <*> .optional "minimum" Decoder.number
    <*> .optional "maximum" Decoder.number
    <*> .optional "exclusiveMinimum" Decoder.number
    <*> .optional "exclusiveMaximum" Decoder.number
    <*> .optional "multipleOf" Decoder.number

def encodeFields (f : Facets) : List (String × Option Json) := [
  ("pattern", f.pattern.map .string),
  ("enum", f.enumeration.map .string),
  ("format", f.format.map .string),
  ("minLength", f.minLength.map (.ofNat ·.toNat)),
  ("maxLength", f.maxLength.map (.ofNat ·.toNat)),
  ("minimum", f.minimum.map .number),
  ("maximum", f.maximum.map .number),
  ("exclusiveMinimum", f.exclusiveMinimum.map .number),
  ("exclusiveMaximum", f.exclusiveMaximum.map .number),
  ("multipleOf", f.multipleOf.map .number)]

end ObjectRole.Facets

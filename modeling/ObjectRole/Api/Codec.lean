import ObjectRole.Api.Document
import ObjectRole.Schema.Codec

/-! The JSON form of an OpenAPI document; absent parts are not written. -/
namespace ObjectRole

open Json (Decoder Record)

instance : Spelled ParameterLocation where
  spellings := [("query", .query), ("path", .path)]
  spell
    | .query => "query"
    | .path => "path"

namespace Parameter

def decoder : Decoder Parameter :=
  Record.decode <| Parameter.mk
    <$> .required "name" Decoder.string
    <*> .required "in" Spelled.decoder
    <*> .optional "required" Decoder.bool
    <*> .optional "description" Decoder.string
    <*> .required "schema" Schema.decoder

def encode (p : Parameter) : Json :=
  .record [
    ("name", some (.string p.name)),
    ("in", some (Spelled.encode p.location)),
    ("required", p.required.map .bool),
    ("description", p.description.map .string),
    ("schema", some p.schema.encode)]

def listDecoder : Decoder (List Parameter) := .array decoder

def encodeList (parameters : List Parameter) : Json := .array (parameters.map encode)

end Parameter

namespace Content

def decoder : Decoder Content :=
  .dict (Record.decode (MediaType.mk <$> .required "schema" Schema.decoder))

def encode (c : Content) : Json :=
  Dict.encode (fun media => .object [("schema", media.schema.encode)]) c

end Content

namespace Response

def decoder : Decoder Response :=
  Record.decode <| Response.mk
    <$> .required "description" Decoder.string
    <*> .optional "content" Content.decoder

def encode (r : Response) : Json :=
  .record [("description", some (.string r.description)), ("content", r.content.map Content.encode)]

end Response

namespace RequestBody

def decoder : Decoder RequestBody :=
  Record.decode (RequestBody.mk <$> .required "content" Content.decoder)

def encode (b : RequestBody) : Json := .object [("content", Content.encode b.content)]

end RequestBody

namespace Operation

def decoder : Decoder Operation :=
  Record.decode <| Operation.mk
    <$> .required "summary" Decoder.string
    <*> .required "operationId" Decoder.string
    <*> .optional "parameters" Parameter.listDecoder
    <*> .optional "requestBody" RequestBody.decoder
    <*> .required "responses" (.dict Response.decoder)

def encode (o : Operation) : Json :=
  .record [
    ("summary", some (.string o.summary)),
    ("operationId", some (.string o.operationId)),
    ("parameters", o.parameters.map Parameter.encodeList),
    ("requestBody", o.requestBody.map (·.encode)),
    ("responses", some (Dict.encode Response.encode o.responses))]

end Operation

namespace PathItem

def decoder : Decoder PathItem :=
  Record.decode <| PathItem.mk
    <$> .optional "parameters" Parameter.listDecoder
    <*> .optional "get" Operation.decoder
    <*> .optional "post" Operation.decoder
    <*> .optional "patch" Operation.decoder
    <*> .optional "delete" Operation.decoder

def encode (p : PathItem) : Json :=
  .record [
    ("parameters", p.parameters.map Parameter.encodeList),
    ("get", p.get.map (·.encode)),
    ("post", p.post.map (·.encode)),
    ("patch", p.patch.map (·.encode)),
    ("delete", p.delete.map (·.encode))]

end PathItem

namespace Info

def decoder : Decoder Info :=
  Record.decode <| Info.mk
    <$> .optional "title" Decoder.string
    <*> .optional "version" Decoder.string
    <*> .optional "contact" Contact.decoder
    <*> .optional "description" Decoder.string

def encode (i : Info) : Json :=
  .record [
    ("title", i.title.map .string),
    ("version", i.version.map .string),
    ("contact", i.contact.map (·.encode)),
    ("description", i.description.map .string)]

end Info

namespace ApiDocument

def decoder : Decoder ApiDocument :=
  Record.decode <| ApiDocument.mk
    <$> .required "openapi" Decoder.string
    <*> .required "info" Info.decoder
    <*> .optional "servers" Decoder.free
    <*> .required "paths" (.dict PathItem.decoder)
    <*> .required "components" (Record.decode (id <$> .required "schemas" SchemaMap.decoder))

def encode (d : ApiDocument) : Json :=
  .record [
    ("openapi", some (.string d.version)),
    ("info", some d.info.encode),
    ("servers", d.servers),
    ("paths", some (Dict.encode PathItem.encode d.paths)),
    ("components", some (.object [("schemas", SchemaMap.encode d.schemas)]))]

end ApiDocument
end ObjectRole

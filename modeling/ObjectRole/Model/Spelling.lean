import ObjectRole.Json.Decoder
import ObjectRole.Model.Document

/-! How the fixed choices of a model are spelled in JSON. -/
namespace ObjectRole

/-- A type whose values have one spelling each. -/
class Spelled (α : Type) where
  spellings : List (String × α)
  spell : α → String

instance : Spelled ObjectType where
  spellings := [("entity", .entity), ("value", .value)]
  spell
    | .entity => "entity"
    | .value => "value"

instance : Spelled ValueType where
  spellings := [("string", .string), ("number", .number), ("integer", .integer),
    ("boolean", .boolean), ("object", .object), ("array", .array)]
  spell
    | .string => "string"
    | .number => "number"
    | .integer => "integer"
    | .boolean => "boolean"
    | .object => "object"
    | .array => "array"

instance : Spelled Permission where
  spellings := [("create", .create), ("read", .read), ("update", .update), ("delete", .delete),
    ("list", .list), ("versioned", .versioned), ("login", .login), ("rateLimit", .rateLimit)]
  spell
    | .create => "create"
    | .read => "read"
    | .update => "update"
    | .delete => "delete"
    | .list => "list"
    | .versioned => "versioned"
    | .login => "login"
    | .rateLimit => "rateLimit"

instance : Spelled HttpVerb where
  spellings := [("GET", .get), ("POST", .post), ("PUT", .put), ("PATCH", .patch),
    ("DELETE", .delete)]
  spell
    | .get => "GET"
    | .post => "POST"
    | .put => "PUT"
    | .patch => "PATCH"
    | .delete => "DELETE"

instance : Spelled ConstraintKind where
  spellings := [("UC", .uniqueness), ("MR", .mandatory), ("SS", .subset), ("XC", .exclusion),
    ("EQ", .equality), ("OR", .inclusiveOr), ("XO", .exclusiveOr)]
  spell
    | .uniqueness => "UC"
    | .mandatory => "MR"
    | .subset => "SS"
    | .exclusion => "XC"
    | .equality => "EQ"
    | .inclusiveOr => "OR"
    | .exclusiveOr => "XO"

instance : Spelled Modality where
  spellings := [("Alethic", .alethic), ("Deontic", .deontic)]
  spell
    | .alethic => "Alethic"
    | .deontic => "Deontic"

instance : Spelled Relationship where
  spellings := [("many-to-one", .manyToOne), ("one-to-many", .oneToMany),
    ("many-to-many", .manyToMany), ("one-to-one", .oneToOne)]
  spell
    | .manyToOne => "many-to-one"
    | .oneToMany => "one-to-many"
    | .manyToMany => "many-to-many"
    | .oneToOne => "one-to-one"

namespace Spelled

variable {α : Type} [Spelled α]

def decoder : Json.Decoder α := .choice spellings

def encode (value : α) : Json := .string (spell value)

end Spelled
end ObjectRole

import ObjectRole.Json.Record
import ObjectRole.Model.Spelling

/-! Settings of the generated document. All of them may be left out. -/
namespace ObjectRole

open Json (Decoder Record)

structure Contact where
  email : Option String := none
  name : Option String := none
  url : Option String := none
deriving DecidableEq, Repr, Inhabited

namespace Contact

def isEmpty (c : Contact) : Bool := c.email.isNone && c.name.isNone && c.url.isNone

def decoder : Decoder Contact :=
  Record.decode <| Contact.mk
    <$> .optional "email" Decoder.string
    <*> .optional "name" Decoder.string
    <*> .optional "url" Decoder.string

def encode (c : Contact) : Json :=
  .record [("email", c.email.map .string), ("name", c.name.map .string), ("url", c.url.map .string)]

end Contact

structure Settings where
  title : Option String := none
  version : Option String := some "1.0"
  contact : Contact := {}
  description : Option String := none
  /-- Copied into the document as it is. -/
  servers : Option Json := none
  /-- Granted on every resource besides its own permissions. -/
  globalPermissions : List Permission := [.login, .rateLimit]
  /-- The place of the payload in the wrapper, as field names with dots between. -/
  replacementFieldPath : String := "data"
  globalWrapperTemplate : Option Json := none
  errorTemplate : Option Json := none
  errorMessagePath : String := "error.message"
  errorCodePath : String := "error.code"
deriving Inhabited

namespace Settings

def isBlank : Json → Bool
  | .null => true
  | .object fields => fields.isEmpty
  | _ => false

/-- The template that payloads are wrapped in; a blank one counts as none. -/
def wrapper (s : Settings) : Option Json := s.globalWrapperTemplate.filter (!isBlank ·)

/-- The template of error responses; a blank one counts as none. -/
def errorShape (s : Settings) : Option Json := s.errorTemplate.filter (!isBlank ·)

def decoder : Decoder Settings :=
  let standard : Settings := {}
  Record.decode <| Settings.mk
    <$> .withDefault "title" (.nullable Decoder.string) standard.title
    <*> .withDefault "version" (.nullable Decoder.string) standard.version
    <*> .withDefault "contact" Contact.decoder standard.contact
    <*> .withDefault "description" (.nullable Decoder.string) standard.description
    <*> .withDefault "servers" (.nullable Decoder.free) standard.servers
    <*> .withDefault "globalPermissions" (.array Spelled.decoder) standard.globalPermissions
    <*> .withDefault "replacementFieldPath" Decoder.string standard.replacementFieldPath
    <*> .withDefault "globalWrapperTemplate" (.nullable Decoder.free) standard.globalWrapperTemplate
    <*> .withDefault "errorTemplate" (.nullable Decoder.free) standard.errorTemplate
    <*> .withDefault "errorMessagePath" Decoder.string standard.errorMessagePath
    <*> .withDefault "errorCodePath" Decoder.string standard.errorCodePath

/-- All settings; absent ones are written as `null`. -/
def encode (s : Settings) : Json :=
  .object [
    ("title", .nullable .string s.title),
    ("version", .nullable .string s.version),
    ("contact", s.contact.encode),
    ("description", .nullable .string s.description),
    ("servers", s.servers.getD .null),
    ("globalPermissions", .array (s.globalPermissions.map Spelled.encode)),
    ("replacementFieldPath", .string s.replacementFieldPath),
    ("globalWrapperTemplate", s.globalWrapperTemplate.getD .null),
    ("errorTemplate", s.errorTemplate.getD .null),
    ("errorMessagePath", .string s.errorMessagePath),
    ("errorCodePath", .string s.errorCodePath)]

/-- Reads the text of settings. -/
def ofText (text : String) : Except Json.Problem Settings := Json.decodeText decoder text

end Settings
end ObjectRole

import ObjectRole.Api.Tiers
import ObjectRole.Model.Snapshot
import ObjectRole.Naming
import ObjectRole.Tables.Sample

/-! Tables under construction. A table is the three tiers of schemas of a subject: what an update
may change, what is needed to create one, and what is read. -/
namespace ObjectRole

structure Tables where
  schemas : SchemaMap := .empty
  subjects : Dict Player := .empty
  /-- Names of the identifying properties by key, in order. -/
  identifying : Dict (List String) := .empty
deriving Inhabited

/-- A property to be put on a table. -/
structure Property where
  name : String
  description : String
  required : Bool
  schema : Schema
  sample : Option Json := none
deriving Inhabited

namespace Snapshot

variable (s : Snapshot)

def keyOf (player : Player) : String := Naming.schemaKey (s.nameOf player)

/-- A binding hyphen with the blank behind it turns into a blank, the first one only. -/
def unbind : List Char → List Char
  | '-' :: ' ' :: rest => ' ' :: rest
  | c :: rest => c :: unbind rest
  | [] => []

/-- What describes a table: its subject's description, or else the first reading. -/
def tableDescription : Player → Option String
  | .noun id => (s.noun id).description
  | .factType id =>
    let f := s.factType id
    f.description.or (f.primaryReading.map fun r => .ofList (unbind r.text.toList))

def tableExamples (subject : Player) : Option (List Json) := (s.jsonExampleOf subject).map ([·])

def updateTier (subject : Player) : Schema :=
  let tier : Schema :=
    { id := some (updateKey (s.keyOf subject))
      title := some (s.nameOf subject)
      description := s.tableDescription subject
      examples := s.tableExamples subject }
  match s.superTypeOf subject with
  | some parent => { tier with allOf := some [.component (updateKey (s.keyOf parent))] }
  | none => { tier with type := some "object" }

def newTier (subject : Player) : Schema :=
  let parents := (s.superTypeOf subject).toList.map fun p => Schema.component (newKey (s.keyOf p))
  { id := some (newKey (s.keyOf subject))
    allOf := some (.component (updateKey (s.keyOf subject)) :: parents)
    examples := s.tableExamples subject }

def readTier (subject : Player) : Schema :=
  let parents := (s.superTypeOf subject).toList.map fun p => Schema.component (s.keyOf p)
  { id := some (s.keyOf subject)
    allOf := some (.component (newKey (s.keyOf subject)) :: parents)
    examples := s.tableExamples subject }

end Snapshot

namespace Tables

/-- Changes a schema, or an empty one where there is none. -/
def change (t : Tables) (key : String) (f : Schema → Schema) : Tables :=
  { t with schemas := t.schemas.insert key (f ((t.schemas.get? key).getD .empty)) }

/-- Opens the table of a subject: its key is taken and its tiers are there. -/
def openTable (t : Tables) (s : Snapshot) (subject : Player) : Tables :=
  let key := s.keyOf subject
  { t with
    subjects := t.subjects.insert key subject
    schemas := ((t.schemas.insert (updateKey key) (s.updateTier subject)).insert (newKey key)
      (s.newTier subject)).insert key (s.readTier subject) }

/-- A sample of a property goes into the first example of the table, if that is an object. -/
def withSample (s : Schema) (name : String) (sample : Json) : Schema :=
  match s.examples.getD [] with
  | [] => { s with examples := some [.object [(name, sample)]] }
  | .object fields :: rest =>
    { s with examples := some (.object (Entries.insert name sample fields) :: rest) }
  | _ => s

/-- The tier that requires a property: `id` is required where it is read, all others on creation. -/
def requiringKey (key name : String) : String := if name = "id" then key else newKey key

/-- Puts a property on the table of a key; a name that begins with the subject's loses that. The
result is the property's final name. -/
def setProperty (t : Tables) (key subject : String) (p : Property) : String × Tables :=
  let name := Naming.stripSubject p.name subject
  let property := p.schema.describedAs p.description
  let t := t.change (updateKey key) (·.withProperty name property)
  let t := if p.required then t.change (requiringKey key name) (·.require name) else t
  let t :=
    match p.sample with
    | some sample => t.change (updateKey key) (withSample · name (sample.asType property.type))
    | none => t
  (name, t)

/-- Adds a name to the identifying properties of a key. -/
def identify (t : Tables) (key name : String) : Tables :=
  { t with identifying := t.identifying.insert key ((t.identifying.get? key).getD [] ++ [name]) }

end Tables
end ObjectRole

import ObjectRole.Api.Document
import ObjectRole.Naming

/-! The path parameters that address one item. Identifying properties are unpacked down to plain
values, and a name that occurs more than once is qualified by the property it comes from. -/
namespace ObjectRole

/-- A plain part of an identifier. -/
structure IdMember where
  name : String
  /-- The property of the composite that the part is a member of. -/
  owner : Option String
  type : Option String
  description : Option String
deriving DecidableEq, Repr, Inhabited

namespace Schema

mutual

/-- The plain parts of an identifying property. A choice stands for its first option: an object
contributes its members, anything else itself. A part without a description takes the one of the
property around it. -/
def idMembers (name : String) (owner inherited : Option String) : Schema → List IdMember
  | ⟨k, _, _, _, oneOf⟩ =>
    let description := k.description.or inherited
    match oneOf with
    | some (⟨_, some members, _, _, _⟩ :: _) => idMembersOfEntries name description members
    | some (inline :: _) => idMembers name owner description inline
    | some [] | none => [⟨name, owner, k.type, description⟩]

def idMembersOfEntries (owner : String) (inherited : Option String) :
    List (String × Schema) → List IdMember
  | [] => []
  | (name, member) :: rest =>
    idMembers name (some owner) inherited member ++ idMembersOfEntries owner inherited rest

end
end Schema

namespace IdMember

/-- The part that stands in where nothing identifies an item. -/
def standard : IdMember := ⟨"id", none, some "string", none⟩

/-- The plain parts of the identifying properties of a resource. -/
def ofProperties (update : Schema) (identifying : List String) : List IdMember :=
  let members := identifying.flatMap fun name =>
    match update.property? name with
    | some property => property.idMembers name none none
    | none => []
  if members.isEmpty then [standard] else members

/-- The name of a part among all parts. -/
def qualifiedName (m : IdMember) (all : List IdMember) : String :=
  match m.owner with
  | some owner =>
    if 1 < all.countP (·.name == m.name) then owner ++ Naming.capitalize m.name else m.name
  | none => m.name

def parameter (m : IdMember) (all : List IdMember) : Parameter :=
  { name := m.qualifiedName all
    location := .path
    required := some true
    description := m.description
    schema := .typed (m.type.getD "string") }

end IdMember

def idParameters (update : Schema) (identifying : List String) : List Parameter :=
  let members := IdMember.ofProperties update identifying
  members.map (·.parameter members)

end ObjectRole

import ObjectRole.Api.Filter
import ObjectRole.Api.Identifier
import ObjectRole.Api.Operations
import ObjectRole.Api.Permissions
import ObjectRole.Tables.Build

/-! The paths of all resources. As the operations of a resource become known, its filter is added
and its tiers are folded together. -/
namespace ObjectRole

/-- Paths while they are being made, with the schemas as they stand. -/
structure Synthesis where
  paths : Dict PathItem := .empty
  /-- The key that took each collection path. -/
  owners : Dict String := .empty
  tiers : Tiers
deriving Inhabited

namespace BuiltTables

/-- What the operations of a resource speak of, given its update tier. -/
def viewOf (b : BuiltTables) (s : Snapshot) (settings : Settings) (key : String) (r : Resource)
    (update : Schema) : ResourceView :=
  let title := update.title.getD key
  { key
    title
    plural := Naming.resourcePlural (s.pluralOf r.subject) title
    permissions := Permission.effective (s.permissionsOf r.subject) settings.globalPermissions
    isId := b.identifyingProperties key == ["id"] }

end BuiltTables

namespace Synthesis

def withPath (y : Synthesis) (path : String) (item? : Option PathItem) : Synthesis :=
  match item? with
  | some item => { y with paths := y.paths.insert path item }
  | none => y

def withFilter (y : Synthesis) (view : ResourceView) (update : Schema) : Synthesis :=
  if view.allows .list then
    { y with tiers := { y.tiers with
        schemas := y.tiers.schemas.insert (whereKey view.key) (Schema.filter view.key update) } }
  else y

/-- Adds the paths of a resource, given its update tier and identifying properties. -/
def addResource (settings : Settings) (view : ResourceView) (update : Schema)
    (identifying : List String) (y : Synthesis) : Except CompileError Synthesis :=
  match y.owners.get? view.collectionPath with
  | some owner => .error (.pathCollision view.collectionPath owner view.key)
  | none =>
    let identifier := idParameters update identifying
    let y := y.withFilter view update
    let y := { y with owners := y.owners.insert view.collectionPath view.key }
    let y := y.withPath view.collectionPath (view.collectionItem? settings)
    let y := y.withPath (view.itemPath identifier) (view.item? settings identifier)
    .ok { y with
      tiers := y.tiers.collapse view.key (view.allows .update) (view.allows .create) }

/-- A resource whose update tier is missing has no paths. -/
def addKey (s : Snapshot) (settings : Settings) (b : BuiltTables) (y : Synthesis)
    (entry : String × Resource) : Except CompileError Synthesis :=
  let (key, resource) := entry
  match y.tiers.schemas.get? (updateKey key) with
  | none => .ok y
  | some update =>
    y.addResource settings (b.viewOf s settings key resource update) update
      (b.identifyingProperties key)

/-- The paths of all resources over flattened tables, key after key. -/
def ofTables (s : Snapshot) (settings : Settings) (b : BuiltTables) :
    Except CompileError Synthesis :=
  b.resources.entries.foldlM (addKey s settings b) { tiers := ⟨b.schemas, .empty⟩ }

end Synthesis
end ObjectRole

import ObjectRole.Api.Renames
import ObjectRole.Schema.Equality

/-! Folding tiers of a resource together. A finer tier goes into the next coarser one when nothing
uses it, or when both have equally many properties and equally many required ones. -/
namespace ObjectRole

def updateKey (key : String) : String := "Update" ++ key
def newKey (key : String) : String := "New" ++ key
def whereKey (key : String) : String := "Where" ++ key

namespace Schema

def sameShape (a b : Schema) : Bool :=
  a.requiredCount == b.requiredCount && a.propertyCount == b.propertyCount

def appendNew (parents : List Schema) (entry : Schema) : List Schema :=
  if parents.any (same · entry) then parents else parents ++ [entry]

def withFields (s : Schema) : Option (List (String × Schema)) → Schema
  | none => s
  | some entries =>
    entries.foldl (fun s entry => s.withNewProperty entry.1 entry.2)
      { s with properties := some s.fields }

def withParents (s : Schema) : Option (List Schema) → Schema
  | none => s
  | some entries => { s with allOf := some (entries.foldl appendNew s.parents) }

/-- The coarser tier with all properties, required names and parents of the finer one. The words
of the coarser tier win. -/
def overlay (coarser finer : Schema) : Schema :=
  let fielded := withFields coarser finer.properties
  let merged := withParents (finer.requiredNames.foldl require fielded) finer.allOf
  { merged with
    title := merged.title.or finer.title
    description := merged.description.or finer.description
    type := merged.type.or finer.type
    examples := merged.examples.or finer.examples }

end Schema

/-- Schemas whose tiers are being folded, and where references have to lead afterwards. -/
structure Tiers where
  schemas : SchemaMap
  renames : Renames
deriving Inhabited

namespace Tiers

/-- Folds a tier into a coarser one, if both are there and it is unused or they have one shape. -/
def fold (t : Tiers) (finer coarser : String) (used : Bool) : Tiers :=
  match t.schemas.get? finer, t.schemas.get? coarser with
  | some fine, some coarse =>
    if !used || fine.sameShape coarse then
      { schemas := ((t.schemas.erase finer).erase coarser).insert coarser (coarse.overlay fine)
        renames := t.renames.record finer coarser }
    else t
  | _, _ => t

/-- Folds the tiers of a resource: what changes it into what creates it, and that into what is
read. -/
def collapse (t : Tiers) (key : String) (patchUsed postUsed : Bool) : Tiers :=
  (t.fold (updateKey key) (newKey key) patchUsed).fold (newKey key) key postUsed

end Tiers
end ObjectRole

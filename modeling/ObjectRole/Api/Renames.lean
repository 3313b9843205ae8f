import ObjectRole.Schema.Basic

/-! Which schema key took the place of another. Renames chain: a key that was renamed to is
followed on. -/
namespace ObjectRole

structure Renames where
  byKey : Dict String
deriving Inhabited

namespace Renames

def empty : Renames := ⟨.empty⟩

def record (r : Renames) (old new : String) : Renames := ⟨r.byKey.insert old new⟩

def size (r : Renames) : Nat := r.byKey.size

def follow (r : Renames) : Nat → String → String
  | 0, key => key
  | steps + 1, key =>
    match r.byKey.get? key with
    | some next => r.follow steps next
    | none => key

/-- The end of the chain of renames from a key; each rename is followed once at most, and one
step more. -/
def resolve (r : Renames) (key : String) : String := r.follow (r.size + 1) key

end Renames

/-- Leads a reference to a component to the key that took its place. -/
def Keywords.relabel (r : Renames) (k : Keywords) : Keywords :=
  match k.target? with
  | none => k
  | some target =>
    let resolved := r.resolve target
    if resolved = target then k else { k with reference := some (componentReference resolved) }

end ObjectRole

import ObjectRole.Dict.Entries

/-! Maps from names to values, kept in key order. Two maps are equal when every key reads the
same value in both. -/
namespace ObjectRole

structure Dict (α : Type) where
  entries : List (String × α)
  ordered : Entries.Ordered entries

namespace Dict

variable {α β : Type}

def empty : Dict α := ⟨[], .nil⟩

instance : Inhabited (Dict α) := ⟨empty⟩

instance : EmptyCollection (Dict α) := ⟨empty⟩

def get? (d : Dict α) (key : String) : Option α := Entries.get? key d.entries

def contains (d : Dict α) (key : String) : Bool := Entries.contains key d.entries

def insert (d : Dict α) (key : String) (value : α) : Dict α :=
  ⟨Entries.insert key value d.entries, d.ordered.insert key value⟩

def erase (d : Dict α) (key : String) : Dict α := ⟨Entries.erase key d.entries, d.ordered.erase key⟩

def mapValues (f : α → β) (d : Dict α) : Dict β :=
  ⟨Entries.mapValues f d.entries, d.ordered.mapValues f⟩

def ofList (pairs : List (String × α)) : Dict α := ⟨Entries.ofList pairs, .ofList pairs⟩

def keys (d : Dict α) : List String := d.entries.map (·.1)

def values (d : Dict α) : List α := d.entries.map (·.2)

def size (d : Dict α) : Nat := d.entries.length

def isEmpty (d : Dict α) : Bool := d.entries.isEmpty

@[simp] theorem get?_empty (key : String) : (empty : Dict α).get? key = none := rfl

theorem get?_insert (d : Dict α) (key other : String) (value : α) :
    (d.insert key value).get? other = if other = key then some value else d.get? other :=
  Entries.get?_insert key other value d.entries

theorem get?_erase (d : Dict α) (key other : String) :
    (d.erase key).get? other = if other = key then none else d.get? other :=
  Entries.get?_erase key other d.entries

theorem get?_mapValues (f : α → β) (d : Dict α) (key : String) :
    (d.mapValues f).get? key = (d.get? key).map f := Entries.get?_mapValues f key d.entries

@[ext] theorem ext_get? {left right : Dict α} (same : ∀ key, left.get? key = right.get? key) :
    left = right := by
  obtain ⟨entries, ordered⟩ := left
  obtain ⟨entries', ordered'⟩ := right
  have equal : entries = entries' := ordered.ext ordered' same
  subst equal
  rfl

end Dict
end ObjectRole

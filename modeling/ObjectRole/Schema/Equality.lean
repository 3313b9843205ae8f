import ObjectRole.Schema.Basic

/-! Equality of schemas as values: numbers are compared by value, all else literally. -/
namespace ObjectRole

def Keywords.agree (same : α → α → Bool) : Option α → Option α → Bool
  | none, none => true
  | some a, some b => same a b
  | _, _ => false

def Keywords.same (a b : Keywords) : Bool :=
  a.id == b.id && a.reference == b.reference && a.title == b.title &&
    a.description == b.description && a.type == b.type && a.format == b.format &&
    a.pattern == b.pattern && agree Json.sameItems a.enumeration b.enumeration &&
    a.nullable == b.nullable && a.minLength == b.minLength && a.maxLength == b.maxLength &&
    agree Number.same a.minimum b.minimum && agree Number.same a.maximum b.maximum &&
    agree Number.same a.exclusiveMinimum b.exclusiveMinimum &&
    agree Number.same a.exclusiveMaximum b.exclusiveMaximum &&
    agree Number.same a.multipleOf b.multipleOf && a.required == b.required &&
    agree Json.sameItems a.examples b.examples

namespace Schema

mutual

def same : Schema → Schema → Bool
  | ⟨k, properties, items, allOf, oneOf⟩, ⟨k', properties', items', allOf', oneOf'⟩ =>
    k.same k' && sameProperties properties properties' && sameItem items items' &&
      sameLists allOf allOf' && sameLists oneOf oneOf'
termination_by structural s => s

def sameProperties : Option (List (String × Schema)) → Option (List (String × Schema)) → Bool
  | none, none => true
  | some a, some b => sameEntries a b
  | _, _ => false
termination_by structural s => s

def sameEntries : List (String × Schema) → List (String × Schema) → Bool
  | [], [] => true
  | (name, a) :: as, (name', b) :: bs => name == name' && same a b && sameEntries as bs
  | _, _ => false
termination_by structural s => s

def sameItem : Option Schema → Option Schema → Bool
  | none, none => true
  | some a, some b => same a b
  | _, _ => false
termination_by structural s => s

def sameLists : Option (List Schema) → Option (List Schema) → Bool
  | none, none => true
  | some a, some b => sameList a b
  | _, _ => false
termination_by structural s => s

def sameList : List Schema → List Schema → Bool
  | [], [] => true
  | a :: as, b :: bs => same a b && sameList as bs
  | _, _ => false
termination_by structural s => s

end

end Schema
end ObjectRole

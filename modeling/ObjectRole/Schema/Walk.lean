import ObjectRole.Schema.Basic

/-! All schemas nested in a schema, in one order: itself, its properties by name, its items, then
the entries of `allOf` and `oneOf`. Changes reach the same schemas. -/
namespace ObjectRole.Schema

mutual

/-- The schema and every schema nested in it. -/
def nested : Schema → List Schema
  | ⟨k, properties, items, allOf, oneOf⟩ =>
    ⟨k, properties, items, allOf, oneOf⟩ ::
      (nestedProperties properties ++ nestedItem items ++ nestedLists allOf ++ nestedLists oneOf)

def nestedProperties : Option (List (String × Schema)) → List Schema
  | none => []
  | some entries => nestedEntries entries

def nestedEntries : List (String × Schema) → List Schema
  | [] => []
  | (_, property) :: rest => nested property ++ nestedEntries rest

def nestedItem : Option Schema → List Schema
  | none => []
  | some item => nested item

def nestedLists : Option (List Schema) → List Schema
  | none => []
  | some schemas => nestedList schemas

def nestedList : List Schema → List Schema
  | [] => []
  | s :: rest => nested s ++ nestedList rest

end

mutual

/-- Changes the plain keywords of the schema and of every schema nested in it. -/
def mapKeywords (f : Keywords → Keywords) : Schema → Schema
  | ⟨k, properties, items, allOf, oneOf⟩ =>
    ⟨f k, mapProperties f properties, mapItem f items, mapLists f allOf, mapLists f oneOf⟩

def mapProperties (f : Keywords → Keywords) :
    Option (List (String × Schema)) → Option (List (String × Schema))
  | none => none
  | some entries => some (mapEntries f entries)

def mapEntries (f : Keywords → Keywords) : List (String × Schema) → List (String × Schema)
  | [] => []
  | (name, property) :: rest => (name, mapKeywords f property) :: mapEntries f rest

def mapItem (f : Keywords → Keywords) : Option Schema → Option Schema
  | none => none
  | some item => some (mapKeywords f item)

def mapLists (f : Keywords → Keywords) : Option (List Schema) → Option (List Schema)
  | none => none
  | some schemas => some (mapList f schemas)

def mapList (f : Keywords → Keywords) : List Schema → List Schema
  | [] => []
  | s :: rest => mapKeywords f s :: mapList f rest

end

/-- The references in a schema, in order. -/
def references (s : Schema) : List String := s.nested.filterMap (·.reference)

end ObjectRole.Schema

import ObjectRole.Api.References
import ObjectRole.Proofs.Entries
import Mathlib.Data.List.Basic

/-! The keys that a schema refers to, at any depth. Each way to make a schema adds the targets of
its parts and no others, and relabelling replaces every target by the key that took its place. -/
namespace ObjectRole

@[simp] theorem Keywords.target?_reference (k : Keywords) (key : String) :
    { k with reference := some (componentReference key) }.target? = some key := by
  have stripped : componentPath.toList.isPrefixOf? (componentReference key).toList =
      some key.toList := by
    rw [List.isPrefixOf?_eq_some_iff_append_eq, componentReference, String.toList_append]
  simp only [target?, Option.bind_eq_bind, Option.bind_some, stripped, String.ofList_toList,
    Option.pure_def]

theorem Keywords.target?_eq_some_iff {k : Keywords} {key : String} :
    k.target? = some key ↔ k.reference = some (componentReference key) := by
  constructor
  · intro found
    obtain ⟨reference, at_reference, found⟩ := Option.bind_eq_some_iff.mp found
    obtain ⟨rest, stripped, same⟩ := Option.bind_eq_some_iff.mp found
    cases same
    rw [at_reference, Option.some_inj, ← String.toList_inj, componentReference,
      String.toList_append, String.toList_ofList]
    exact (List.isPrefixOf?_eq_some_iff_append_eq.mp stripped).symm
  · intro at_reference
    have own : k = { k with reference := some (componentReference key) } := by
      cases k
      cases at_reference
      rfl
    rw [own, target?_reference]

theorem Keywords.target?_of_reference_eq_none {k : Keywords} (plain : k.reference = none) :
    k.target? = none := by
  simp only [target?, plain, Option.bind_eq_bind, Option.bind_none]

theorem Keywords.target?_relabel (r : Renames) (k : Keywords) :
    (k.relabel r).target? = k.target?.map r.resolve := by
  unfold relabel
  cases found : k.target? with
  | none => exact found
  | some target =>
    dsimp only
    split
    · rename_i same
      rw [found, Option.map_some, same]
    · rw [target?_reference, Option.map_some]

namespace Schema

/-- The keys of the schemas that a schema refers to, in order. -/
def targets (s : Schema) : List String := s.nested.filterMap (·.target?)

theorem nestedEntries_eq (entries : List (String × Schema)) :
    nestedEntries entries = entries.flatMap (·.2.nested) := by
  induction entries with
  | nil => rfl
  | cons entry rest ih => rw [nestedEntries, ih, List.flatMap_cons]

theorem nestedList_eq (schemas : List Schema) : nestedList schemas = schemas.flatMap nested := by
  induction schemas with
  | nil => rfl
  | cons s rest ih => rw [nestedList, ih, List.flatMap_cons]

theorem nestedLists_eq (schemas : Option (List Schema)) :
    nestedLists schemas = (schemas.getD []).flatMap nested := by
  cases schemas with
  | none => rfl
  | some schemas => exact nestedList_eq schemas

theorem nested_eq (s : Schema) :
    s.nested = s :: (s.fields.flatMap (·.2.nested) ++ s.items.toList.flatMap nested ++
      s.parents.flatMap nested ++ (s.oneOf.getD []).flatMap nested) := by
  obtain ⟨k, properties, items, allOf, oneOf⟩ := s
  have fields : nestedProperties properties = (properties.getD []).flatMap (·.2.nested) := by
    cases properties with
    | none => rfl
    | some entries => exact nestedEntries_eq entries
  have item : nestedItem items = items.toList.flatMap nested := by
    cases items <;> simp [nestedItem]
  rw [nested, fields, item, nestedLists_eq, nestedLists_eq]
  rfl

variable {s : Schema} {key : String}

theorem mem_targets_iff_references : key ∈ s.targets ↔ componentReference key ∈ s.references := by
  simp only [targets, references, List.mem_filterMap, Keywords.target?_eq_some_iff]

theorem mem_targets : key ∈ s.targets ↔ s.target? = some key ∨
    (∃ entry ∈ s.fields, key ∈ entry.2.targets) ∨ (∃ item ∈ s.items, key ∈ item.targets) ∨
      (∃ entry ∈ s.parents, key ∈ entry.targets) ∨
        ∃ option ∈ s.oneOf.getD [], key ∈ option.targets := by
  simp only [targets, nested_eq s, List.filterMap_cons, List.filterMap_append,
    List.filterMap_flatMap]
  cases s.target? with
  | none => simp
  | some target => simp [eq_comm]

theorem target?_component (key : String) : (component key).target? = some key :=
  Keywords.target?_reference ({} : Keywords) key

@[simp] theorem targets_component : (component key).targets = [key] :=
  List.filterMap_cons_some (target?_component key)

theorem mem_targets_arrayOf : key ∈ (arrayOf s).targets ↔ key ∈ s.targets := by
  rw [mem_targets]
  simp [arrayOf, fields, parents, Keywords.target?]

theorem mem_targets_describedAs {description : String} :
    key ∈ (s.describedAs description).targets ↔ key ∈ s.targets := by
  rw [mem_targets, mem_targets (s := s)]
  rfl

theorem mem_targets_require {name : String} : key ∈ (s.require name).targets ↔ key ∈ s.targets := by
  rw [mem_targets, mem_targets (s := s)]
  rfl

theorem mem_targets_withProperty {name : String} {property : Schema}
    (member : key ∈ (s.withProperty name property).targets) :
    key ∈ s.targets ∨ key ∈ property.targets := by
  rw [mem_targets] at member ⊢
  rcases member with own | ⟨entry, inside, member⟩ | rest
  · exact .inl (.inl own)
  · rcases Entries.mem_insert inside with rfl | old
    · exact .inr member
    · exact .inl (.inr (.inl ⟨entry, old, member⟩))
  · exact .inl (.inr (.inr rest))

/-- A choice between schemas refers to what they refer to. -/
theorem mem_targets_oneOf {options : List Schema} :
    key ∈ ({ oneOf := some options } : Schema).targets ↔ ∃ o ∈ options, key ∈ o.targets := by
  rw [mem_targets]
  simp [fields, parents, Keywords.target?]

end Schema

namespace Schema

mutual

/-- Changed schemas are nested as the schemas are. -/
theorem nested_mapKeywords (f : Keywords → Keywords) : ∀ s : Schema,
    (mapKeywords f s).nested = s.nested.map (mapKeywords f)
  | ⟨k, properties, items, allOf, oneOf⟩ => by
    simp only [mapKeywords, nested, List.map_cons, List.map_append,
      nestedProperties_mapProperties f properties, nestedItem_mapItem f items,
      nestedLists_mapLists f allOf, nestedLists_mapLists f oneOf]

theorem nestedProperties_mapProperties (f : Keywords → Keywords) :
    ∀ properties : Option (List (String × Schema)),
      nestedProperties (mapProperties f properties) =
        (nestedProperties properties).map (mapKeywords f)
  | none => rfl
  | some entries => nestedEntries_mapEntries f entries

theorem nestedEntries_mapEntries (f : Keywords → Keywords) : ∀ entries : List (String × Schema),
    nestedEntries (mapEntries f entries) = (nestedEntries entries).map (mapKeywords f)
  | [] => rfl
  | (name, property) :: rest => by
    simp only [mapEntries, nestedEntries, List.map_append, nested_mapKeywords f property,
      nestedEntries_mapEntries f rest]

theorem nestedItem_mapItem (f : Keywords → Keywords) : ∀ item : Option Schema,
    nestedItem (mapItem f item) = (nestedItem item).map (mapKeywords f)
  | none => rfl
  | some item => nested_mapKeywords f item

theorem nestedLists_mapLists (f : Keywords → Keywords) : ∀ schemas : Option (List Schema),
    nestedLists (mapLists f schemas) = (nestedLists schemas).map (mapKeywords f)
  | none => rfl
  | some schemas => nestedList_mapList f schemas

theorem nestedList_mapList (f : Keywords → Keywords) : ∀ schemas : List Schema,
    nestedList (mapList f schemas) = (nestedList schemas).map (mapKeywords f)
  | [] => rfl
  | s :: rest => by
    simp only [mapList, nestedList, List.map_append, nested_mapKeywords f s,
      nestedList_mapList f rest]

end

theorem toKeywords_mapKeywords (f : Keywords → Keywords) (s : Schema) :
    (mapKeywords f s).toKeywords = f s.toKeywords := by
  cases s
  rfl

theorem fields_mapKeywords (f : Keywords → Keywords) (s : Schema) :
    (mapKeywords f s).fields = Entries.mapValues (mapKeywords f) s.fields := by
  suffices entries : ∀ entries, mapEntries f entries = Entries.mapValues (mapKeywords f) entries by
    obtain ⟨k, properties, items, allOf, oneOf⟩ := s
    cases properties with
    | none => rfl
    | some list => exact entries list
  intro entries
  induction entries with
  | nil => rfl
  | cons entry rest ih => rw [mapEntries, ih, Entries.mapValues, Entries.mapValues, List.map_cons]

theorem targets_relabel (r : Renames) (s : Schema) :
    (s.mapKeywords (·.relabel r)).targets = s.targets.map r.resolve := by
  rw [targets, nested_mapKeywords, List.filterMap_map, targets, List.map_filterMap]
  refine List.filterMap_congr fun n _ => ?_
  rw [Function.comp_apply, toKeywords_mapKeywords, Keywords.target?_relabel]

end Schema
end ObjectRole

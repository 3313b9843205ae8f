import ObjectRole.Proofs.Schema.Targets
import Mathlib.Data.List.Forall2

/-! Schemas that differ in their references only. Such a schema has as many references as the other
at every place, and the sequence of its references pins it down: of two variants of a schema with
the same references in order, whatever follows these, each is the other. -/
namespace ObjectRole

/-! ### Sequences that pin values down -/

/-- The sequence of a variant of `a` tells which variant it is and where it ends. -/
def Pinned {α ρ : Type} (R : α → α → Prop) (f : α → List ρ) (a : α) : Prop :=
  ∀ ⦃b c : α⦄ ⦃rest rest' : List ρ⦄, R a b → R a c → f b ++ rest = f c ++ rest' →
    b = c ∧ rest = rest'

namespace Pinned

variable {α ρ : Type} {R : α → α → Prop} {f g : α → List ρ} {a : α} {l : List α}

theorem of_eq (pinned : Pinned R g a) (same : ∀ a, f a = g a) : Pinned R f a := by
  rwa [funext same]

theorem none : Pinned (Option.Rel R) (fun o => o.toList.flatMap f) none := by
  rintro _ _ rest rest' ⟨⟩ ⟨⟩ same
  exact ⟨rfl, same⟩

theorem some (pinned : Pinned R f a) :
    Pinned (Option.Rel R) (fun o => o.toList.flatMap f) (some a) := by
  rintro _ _ rest rest' (⟨variant⟩ | _) (⟨other⟩ | _) same
  simp only [Option.toList_some, List.flatMap_singleton] at same
  obtain ⟨rfl, behind⟩ := pinned variant other same
  exact ⟨rfl, behind⟩

theorem nil : Pinned (List.Forall₂ R) (·.flatMap f) [] := by
  rintro _ _ rest rest' ⟨⟩ ⟨⟩ same
  exact ⟨rfl, same⟩

theorem cons (first : Pinned R f a) (others : Pinned (List.Forall₂ R) (·.flatMap f) l) :
    Pinned (List.Forall₂ R) (·.flatMap f) (a :: l) := by
  rintro _ _ rest rest' (_ | ⟨variant, variants⟩) (_ | ⟨other, more⟩) same
  simp only [List.flatMap_cons, List.append_assoc] at same
  obtain ⟨rfl, behind⟩ := first variant other same
  obtain ⟨rfl, end_same⟩ := others variants more behind
  exact ⟨rfl, end_same⟩

theorem option (each : ∀ a, Pinned R f a) :
    ∀ o : Option α, Pinned (Option.Rel R) (fun o => o.toList.flatMap f) o
  | .none => none
  | .some a => (each a).some

theorem list (each : ∀ a, Pinned R f a) :
    ∀ l : List α, Pinned (List.Forall₂ R) (·.flatMap f) l
  | [] => nil
  | a :: rest => (each a).cons (list each rest)

end Pinned

/-! ### Variants of schemas -/

mutual

/-- Two schemas that differ in their references only: at every depth, the second has a reference
where the first has one, and these are related. -/
inductive Schema.Led (R : String → String → Prop) : Schema → Schema → Prop
  | intro {k l : Keywords} {properties properties' : Option (List (String × Schema))}
      {items items' : Option Schema} {allOf allOf' oneOf oneOf' : Option (List Schema)}
      (reference : Option.Rel R k.reference l.reference)
      (others : l = { k with reference := l.reference })
      (each_property : Option.Rel (List.Forall₂ (Schema.LedEntry R)) properties properties')
      (item : Option.Rel (Schema.Led R) items items')
      (each_parent : Option.Rel (List.Forall₂ (Schema.Led R)) allOf allOf')
      (each_option : Option.Rel (List.Forall₂ (Schema.Led R)) oneOf oneOf') :
      Schema.Led R ⟨k, properties, items, allOf, oneOf⟩ ⟨l, properties', items', allOf', oneOf'⟩

/-- Two properties of one name whose schemas differ so. -/
inductive Schema.LedEntry (R : String → String → Prop) : String × Schema → String × Schema → Prop
  | intro (name : String) {s t : Schema} (led : Schema.Led R s t) :
      Schema.LedEntry R (name, s) (name, t)

end

/-- A change of keywords that changes the reference only, to a related one. -/
def Keywords.LeadsOn (R : String → String → Prop) (f : Keywords → Keywords) : Prop :=
  ∀ k, Option.Rel R k.reference (f k).reference ∧ f k = { k with reference := (f k).reference }

namespace Schema

variable {R : String → String → Prop} {f : Keywords → Keywords}

mutual

/-- A change of references alone makes a variant. -/
theorem led_mapKeywords (leads : Keywords.LeadsOn R f) : ∀ s : Schema, Led R s (s.mapKeywords f)
  | ⟨k, properties, items, allOf, oneOf⟩ =>
    .intro (leads k).1 (leads k).2 (led_properties leads properties) (led_item leads items)
      (led_lists leads allOf) (led_lists leads oneOf)

theorem led_properties (leads : Keywords.LeadsOn R f) :
    ∀ properties : Option (List (String × Schema)),
      Option.Rel (List.Forall₂ (LedEntry R)) properties (mapProperties f properties)
  | none => .none
  | some entries => .some (led_entries leads entries)

theorem led_entries (leads : Keywords.LeadsOn R f) :
    ∀ entries : List (String × Schema), List.Forall₂ (LedEntry R) entries (mapEntries f entries)
  | [] => .nil
  | (name, property) :: rest =>
    .cons (.intro name (led_mapKeywords leads property)) (led_entries leads rest)

theorem led_item (leads : Keywords.LeadsOn R f) :
    ∀ item : Option Schema, Option.Rel (Led R) item (mapItem f item)
  | none => .none
  | some item => .some (led_mapKeywords leads item)

theorem led_lists (leads : Keywords.LeadsOn R f) :
    ∀ schemas : Option (List Schema), Option.Rel (List.Forall₂ (Led R)) schemas (mapLists f schemas)
  | none => .none
  | some schemas => .some (led_list leads schemas)

theorem led_list (leads : Keywords.LeadsOn R f) :
    ∀ schemas : List Schema, List.Forall₂ (Led R) schemas (mapList f schemas)
  | [] => .nil
  | s :: rest => .cons (led_mapKeywords leads s) (led_list leads rest)

end

/-- The references of a schema are its own and those of its parts, kind by kind. -/
theorem references_mk (k : Keywords) (properties : Option (List (String × Schema)))
    (items : Option Schema) (allOf oneOf : Option (List Schema)) :
    (⟨k, properties, items, allOf, oneOf⟩ : Schema).references = k.reference.toList ++
      (properties.toList.flatMap (·.flatMap (·.2.references)) ++
        (items.toList.flatMap references ++
          (allOf.toList.flatMap (·.flatMap references) ++
            oneOf.toList.flatMap (·.flatMap references)))) := by
  have lists : ∀ schemas : Option (List Schema), (schemas.getD []).flatMap references =
      schemas.toList.flatMap (·.flatMap references) := by
    intro schemas
    cases schemas <;> simp
  have fields : (properties.getD []).flatMap (·.2.references) =
      properties.toList.flatMap (·.flatMap (·.2.references)) := by
    cases properties <;> simp
  have opened : references = fun s : Schema => s.nested.filterMap (·.reference) := rfl
  rw [← lists, ← lists, ← fields, opened]
  dsimp only
  rw [nested_eq]
  cases own : k.reference <;> simp [Schema.fields, parents, own, List.filterMap_flatMap]

-- The tag adds to a reference what it is listed with, such as its place in a document.
variable {ρ : Type} {tag : String → ρ}

theorem pinned_reference (injective : Function.Injective tag) :
    ∀ reference : Option String, Pinned (Option.Rel R) (·.toList.map tag) reference
  | none => by
    rintro _ _ rest rest' ⟨⟩ ⟨⟩ same
    exact ⟨rfl, same⟩
  | some reference => by
    rintro _ _ rest rest' (⟨_⟩ | _) (⟨_⟩ | _) same
    obtain ⟨first, behind⟩ := List.cons.inj same
    exact ⟨congrArg some (injective first), behind⟩

mutual

/-- The references of a schema pin down which variant of another it is. -/
theorem pinned_references (injective : Function.Injective tag) :
    ∀ s : Schema, Pinned (Led R) (·.references.map tag) s
  | ⟨k, properties, items, allOf, oneOf⟩ => by
    rintro _ _ rest rest' (⟨reference, others, each_property, item, each_parent, each_option⟩)
      (⟨reference', others', each_property', item', each_parent', each_option'⟩) same
    simp only [references_mk, List.map_append, List.map_flatMap, List.append_assoc] at same
    obtain ⟨own, behind⟩ := pinned_reference injective k.reference reference reference' same
    obtain ⟨rfl, after_properties⟩ :=
      pinned_properties injective properties each_property each_property' behind
    obtain ⟨rfl, after_items⟩ := pinned_item injective items item item' after_properties
    obtain ⟨rfl, after_parents⟩ :=
      pinned_lists injective allOf each_parent each_parent' after_items
    obtain ⟨rfl, after_options⟩ :=
      pinned_lists injective oneOf each_option each_option' after_parents
    rw [others, others', own]
    exact ⟨rfl, after_options⟩

theorem pinned_properties (injective : Function.Injective tag) :
    ∀ properties : Option (List (String × Schema)),
      Pinned (Option.Rel (List.Forall₂ (LedEntry R)))
        (·.toList.flatMap (·.flatMap (·.2.references.map tag))) properties
  | none => .none
  | some entries => .some (pinned_entries injective entries)

theorem pinned_entries (injective : Function.Injective tag) :
    ∀ entries : List (String × Schema),
      Pinned (List.Forall₂ (LedEntry R)) (·.flatMap (·.2.references.map tag)) entries
  | [] => .nil
  | (name, property) :: rest => by
    refine .cons ?_ (pinned_entries injective rest)
    rintro _ _ _ _ ⟨_, variant⟩ ⟨_, other⟩ same
    obtain ⟨rfl, behind⟩ := pinned_references injective property variant other same
    exact ⟨rfl, behind⟩

theorem pinned_item (injective : Function.Injective tag) :
    ∀ item : Option Schema,
      Pinned (Option.Rel (Led R)) (·.toList.flatMap (·.references.map tag)) item
  | none => .none
  | some item => .some (pinned_references injective item)

theorem pinned_lists (injective : Function.Injective tag) :
    ∀ schemas : Option (List Schema),
      Pinned (Option.Rel (List.Forall₂ (Led R)))
        (·.toList.flatMap (·.flatMap (·.references.map tag))) schemas
  | none => .none
  | some schemas => .some (pinned_list injective schemas)

theorem pinned_list (injective : Function.Injective tag) :
    ∀ schemas : List Schema,
      Pinned (List.Forall₂ (Led R)) (·.flatMap (·.references.map tag)) schemas
  | [] => .nil
  | s :: rest => .cons (pinned_references injective s) (pinned_list injective rest)

end

end Schema
end ObjectRole

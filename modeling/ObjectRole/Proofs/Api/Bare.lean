import ObjectRole.Proofs.Api.Composed

/-! Schemas that require nothing, inherit nothing and refer to known keys. Those of templates are,
and whatever is composed of bare schemas. -/
namespace ObjectRole

namespace Schema

variable {s : Schema} {key : String} {known : String → Prop} {k : Keywords}

/-- Every reference in the schema leads to a key with the property. -/
def RefersWithin (known : String → Prop) (s : Schema) : Prop := ∀ target ∈ s.targets, known target

/-- Nothing is required in the schema, and references lead to known keys. -/
def Light (known : String → Prop) (s : Schema) : Prop :=
  ∀ inner ∈ s.nested, inner.requiredNames = [] ∧ ∀ target ∈ inner.target?, known target

theorem Light.refers (light : s.Light known) : s.RefersWithin known := by
  intro target member
  obtain ⟨inner, inside, pointed⟩ := List.mem_filterMap.mp member
  exact (light inner inside).2 target pointed

theorem Light.requiresOwn (light : s.Light known) : ∀ inner ∈ s.nested, inner.RequiresOwn :=
  fun inner inside => requiresOwn_of_nil (light inner inside).1

/-- A schema that only combines light ones. -/
theorem light_allOf {parts : List Schema} (each : ∀ part ∈ parts, part.Light known) :
    ({ allOf := some parts } : Schema).Light known :=
  forall_nested_iff.mpr ⟨⟨rfl, nofun⟩, nofun, nofun, each, nofun⟩

/-- Besides, the schema inherits nothing. -/
def Bare (known : String → Prop) (s : Schema) : Prop :=
  ∀ inner ∈ s.nested, inner.allOf = none ∧ inner.requiredNames = [] ∧
    ∀ target ∈ inner.target?, known target

theorem Bare.light (bare : s.Bare known) : s.Light known := fun inner inside =>
  (bare inner inside).2

theorem Bare.standalone (bare : s.Bare known) : s.Standalone := fun inner inside =>
  (bare inner inside).1

/-- A schema is bare when it and its parts are. -/
theorem bare_iff : s.Bare known ↔ s.allOf = none ∧
    (s.requiredNames = [] ∧ ∀ target ∈ s.target?, known target) ∧
      (∀ entry ∈ s.fields, entry.2.Bare known) ∧ (∀ item ∈ s.items, item.Bare known) ∧
        ∀ option ∈ s.oneOf.getD [], option.Bare known :=
  forall_nested_alone_iff

theorem Bare.fields (bare : s.Bare known) : ∀ entry ∈ s.fields, entry.2.Bare known :=
  (bare_iff.mp bare).2.2.1

theorem bare_keywords (none : k.required = none) (leads : ∀ target ∈ k.target?, known target) :
    ({ toKeywords := k } : Schema).Bare known := by
  have requires : ({ toKeywords := k } : Schema).requiredNames = [] := by
    rw [requiredNames, none, Option.getD_none]
  refine bare_iff.mpr ⟨rfl, ⟨requires, leads⟩, List.forall_mem_nil _, ?_, List.forall_mem_nil _⟩
  intro item inside
  contradiction

theorem bare_words (required : k.required = none) (reference : k.reference = none) :
    ({ toKeywords := k } : Schema).Bare known := by
  refine bare_keywords required ?_
  rw [Keywords.target?_of_reference_eq_none reference]
  exact nofun

theorem Bare.component (there : known key) : (component key).Bare known := by
  refine bare_keywords rfl fun target pointed => ?_
  cases (target?_component key).symm.trans pointed
  exact there

theorem Bare.withExamples (bare : s.Bare known) (examples : Option (List Json)) :
    { s with examples }.Bare known := by
  rw [bare_iff] at bare ⊢
  exact bare

theorem bare_object {entries : List (String × Schema)}
    (each : ∀ entry ∈ entries, entry.2.Bare known) :
    ({ typed "object" with properties := some entries } : Schema).Bare known :=
  bare_iff.mpr ⟨rfl, ⟨rfl, nofun⟩, each, nofun, nofun⟩

theorem Bare.arrayOf (bare : s.Bare known) : (arrayOf s).Bare known := by
  refine bare_iff.mpr ⟨rfl, ⟨rfl, nofun⟩, nofun, ?_, nofun⟩
  rintro item ⟨⟩
  exact bare

/-- A bare schema whose properties are replaced by bare ones. -/
theorem Bare.withFields (bare : s.Bare known) {properties : Option (List (String × Schema))}
    (each : ∀ entry ∈ properties.getD [], entry.2.Bare known) :
    { s with properties }.Bare known := by
  rw [bare_iff] at bare ⊢
  obtain ⟨none, light, _, others⟩ := bare
  exact ⟨none, light, each, others⟩

theorem composes_bare : Composes (Bare known) where
  words required reference _ := bare_words required reference
  arrayOf := Bare.arrayOf
  fields := Bare.fields
  withFields bare _ each := bare.withFields each

mutual

theorem bare_ofExample : ∀ value : Json, (ofExample value).Bare known
  | .null | .bool _ | .number _ | .string _ | .array [] | .object [] => bare_words rfl rfl
  | .array (first :: _) => (bare_ofExample first).arrayOf
  | .object (field :: rest) => bare_object (bare_ofExampleFields (field :: rest))

theorem bare_ofExampleFields : ∀ members : List (String × Json),
    ∀ entry ∈ ofExampleFields members, entry.2.Bare known
  | [], entry, member => by contradiction
  | (name, value) :: rest, entry, member => by
    rw [ofExampleFields] at member
    rcases List.mem_cons.mp member with rfl | later
    · exact bare_ofExample value
    · exact bare_ofExampleFields rest entry later

end

end Schema
end ObjectRole

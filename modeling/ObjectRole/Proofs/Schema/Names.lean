import ObjectRole.Api.Tiers
import ObjectRole.Proofs.Schema.Inherited
import Mathlib.Data.List.Perm.Subperm

/-! The names of a schema: its properties and what it requires. A tier that lies within a coarser
one adds nothing to it when it is folded in, and counting names tells whether both have the same. -/
namespace ObjectRole.Schema

open Inheritance

variable {a b c fine coarse : Schema} {name : String}

def propertyNames (s : Schema) : List String := s.fields.map (·.1)

theorem isSome_property?_iff : (a.property? name).isSome ↔ name ∈ a.propertyNames :=
  Entries.get?_isSome_iff

theorem mem_propertyNames_withProperty {other : String} {property : Schema} :
    name ∈ (a.withProperty other property).propertyNames ↔
      name = other ∨ name ∈ a.propertyNames := by
  rw [← isSome_property?_iff, ← isSome_property?_iff]
  change (Entries.get? name (Entries.insert other property a.fields)).isSome ↔ _
  rw [Entries.get?_insert]
  split <;> simp_all [property?]

theorem mem_requiredNames_require {other : String} :
    name ∈ (a.require other).requiredNames ↔ name ∈ a.requiredNames ∨ name = other :=
  mem_requireNew

theorem nodup_require (nodup : a.requiredNames.Nodup) (name : String) :
    (a.require name).requiredNames.Nodup := by
  change (if a.requiredNames.contains name then _ else _ : List String).Nodup
  exact nodup_requireNew nodup name

/-- What the schema requires are properties of its own, each required once. -/
structure RequiresOwn (s : Schema) : Prop where
  nodup : s.requiredNames.Nodup
  own : s.requiredNames ⊆ s.propertyNames

theorem requiresOwn_of_nil (none : a.requiredNames = []) : a.RequiresOwn := by
  refine ⟨?_, ?_⟩
  · rw [none]
    exact .nil
  · rw [none]
    exact List.nil_subset _

/-- Two schemas have the same properties and require the same of them. -/
structure SameNames (a b : Schema) : Prop where
  properties : ∀ name, name ∈ a.propertyNames ↔ name ∈ b.propertyNames
  required : ∀ name, name ∈ a.requiredNames ↔ name ∈ b.requiredNames

theorem SameNames.refl (a : Schema) : SameNames a a := ⟨fun _ => .rfl, fun _ => .rfl⟩

theorem SameNames.symm (same : SameNames a b) : SameNames b a :=
  ⟨fun name => (same.properties name).symm, fun name => (same.required name).symm⟩

theorem SameNames.trans (first : SameNames a b) (second : SameNames b c) : SameNames a c :=
  ⟨fun name => (first.properties name).trans (second.properties name),
    fun name => (first.required name).trans (second.required name)⟩

theorem SameNames.requires_nothing (same : SameNames a b) (none : b.requiredNames = []) :
    a.requiredNames = [] := by
  apply List.eq_nil_iff_forall_not_mem.mpr
  intro name listed
  have requires := (same.required name).mp listed
  rw [none] at requires
  contradiction

theorem SameNames.requires_nothing_iff (same : SameNames a b) :
    a.requiredNames = [] ↔ b.requiredNames = [] :=
  ⟨same.symm.requires_nothing, same.requires_nothing⟩

theorem accumulates_propertyNames (name : String) :
    Accumulates fun s => name ∈ s.propertyNames := by
  intro m s
  simpa only [isSome_property?_iff] using (firstWins_property name).accumulates m s

/-- The finer schema has the properties of the coarser one and requires nothing that it does not. -/
structure Within (fine coarse : Schema) : Prop where
  properties : ∀ name, name ∈ fine.propertyNames ↔ name ∈ coarse.propertyNames
  required : fine.requiredNames ⊆ coarse.requiredNames

theorem Within.trans (first : Within a b) (second : Within b c) : Within a c :=
  ⟨fun name => (first.properties name).trans (second.properties name),
    fun _ listed => second.required (first.required listed)⟩

theorem SameNames.within (same : SameNames a b) : Within a b :=
  ⟨same.properties, fun name => (same.required name).mp⟩

/-- Where the coarser schema requires properties of its own, so does the finer one. -/
theorem Within.own (within : Within fine coarse)
    (own : coarse.requiredNames ⊆ coarse.propertyNames) :
    fine.requiredNames ⊆ fine.propertyNames :=
  fun name listed => (within.properties name).mpr (own (within.required listed))

theorem length_eq_iff_of_subset {left right : List String} (nodup : left.Nodup)
    (right_nodup : right.Nodup) (subset : left ⊆ right) :
    left.length = right.length ↔ ∀ name, name ∈ left ↔ name ∈ right := by
  constructor
  · intro same name
    exact ((List.subperm_of_subset nodup subset).perm_of_length_le (Nat.le_of_eq same.symm)).mem_iff
  · intro same
    exact ((List.perm_ext_iff_of_nodup nodup right_nodup).mpr same).length_eq

/-- Of two tiers, one within the other, equal counts tell equal names. -/
theorem Within.sameShape_iff (within : Within fine coarse) (fine_tidy : fine.Tidy)
    (coarse_tidy : coarse.Tidy) : fine.sameShape coarse = true ↔ SameNames fine coarse := by
  have properties : fine.propertyCount = coarse.propertyCount := by
    have same := (length_eq_iff_of_subset fine_tidy.fields.nodup_keys coarse_tidy.fields.nodup_keys
      fun name => (within.properties name).mp).mpr within.properties
    simpa only [propertyCount, List.length_map] using same
  have required : fine.requiredCount = coarse.requiredCount ↔
      ∀ name, name ∈ fine.requiredNames ↔ name ∈ coarse.requiredNames :=
    length_eq_iff_of_subset fine_tidy.required coarse_tidy.required within.required
  rw [sameShape, properties, beq_self_eq_true, Bool.and_true, beq_iff_eq, required]
  exact ⟨fun same => ⟨within.properties, same⟩, fun same => same.required⟩

theorem foldl_withNewProperty {entries : List (String × Schema)}
    (inside : ∀ entry ∈ entries, entry.1 ∈ a.propertyNames) :
    entries.foldl (fun s entry => s.withNewProperty entry.1 entry.2) a = a := by
  induction entries with
  | nil => rfl
  | cons entry rest ih =>
    have there : Entries.contains entry.1 a.fields = true :=
      Entries.contains_iff.mpr (inside entry (.head _))
    rw [List.foldl_cons, withNewProperty, if_pos there]
    exact ih fun other later => inside other (.tail _ later)

theorem foldl_require {names : List String} (inside : names ⊆ a.requiredNames) :
    ∃ required, required.getD [] = a.requiredNames ∧
      names.foldl require a = { a with required } := by
  induction names generalizing a with
  | nil =>
    refine ⟨a.required, rfl, ?_⟩
    cases a
    rfl
  | cons name rest ih =>
    obtain ⟨listed, inside⟩ := List.cons_subset.mp inside
    have first : a.require name = { a with required := some a.requiredNames } := by
      simp only [require, if_pos (List.contains_iff_mem.mpr listed)]
    rw [List.foldl_cons, first]
    obtain ⟨required, same, folded⟩ := ih (a := { a with required := some a.requiredNames }) inside
    exact ⟨required, same, folded⟩

/-- What a tier within a coarser one adds to it: words where it has none. -/
theorem Within.overlay_eq (within : Within fine coarse) (none : fine.allOf = none) :
    ∃ properties required, properties.getD [] = coarse.fields ∧
      required.getD [] = coarse.requiredNames ∧
        coarse.overlay fine = { coarse with
          title := coarse.title.or fine.title
          description := coarse.description.or fine.description
          type := coarse.type.or fine.type
          examples := coarse.examples.or fine.examples
          properties, required } := by
  have fielded : ∃ properties, properties.getD [] = coarse.fields ∧
      coarse.withFields fine.properties = { coarse with properties } := by
    cases found : fine.properties with
    | none =>
      refine ⟨coarse.properties, rfl, ?_⟩
      cases coarse
      rfl
    | some entries =>
      have same : fine.fields = entries := by rw [fields, found, Option.getD_some]
      refine ⟨some coarse.fields, rfl, ?_⟩
      exact foldl_withNewProperty (a := { coarse with properties := some coarse.fields })
        fun entry listed => (within.properties entry.1).mp (List.mem_map_of_mem (same ▸ listed))
  obtain ⟨properties, same_fields, fielded⟩ := fielded
  obtain ⟨required, same_required, requires⟩ :=
    foldl_require (a := { coarse with properties }) within.required
  refine ⟨properties, required, same_fields, same_required, ?_⟩
  rw [overlay, fielded, requires, none, withParents]

theorem Within.overlay_sameNames (within : Within fine coarse) (none : fine.allOf = none) :
    SameNames (coarse.overlay fine) coarse := by
  obtain ⟨properties, required, same_fields, same_required, same⟩ := within.overlay_eq none
  have names : (coarse.overlay fine).propertyNames = coarse.propertyNames := by
    rw [same]
    exact congrArg (List.map (·.1)) same_fields
  have requires : (coarse.overlay fine).requiredNames = coarse.requiredNames := by
    rw [same]
    exact same_required
  exact ⟨fun name => by rw [names], fun name => by rw [requires]⟩

end ObjectRole.Schema

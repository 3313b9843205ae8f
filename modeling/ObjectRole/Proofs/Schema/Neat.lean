import ObjectRole.Proofs.Schema.Names
import ObjectRole.Proofs.Schema.Targets

/-! Schemas that inherit nothing at any depth and keep their properties in key order. Those of
properties are coherent besides: at any depth they require what they have. The ways in which they
are made lead from coherent schemas to coherent ones. -/
namespace ObjectRole.Schema

variable {s : Schema} {name : String}

theorem forall_nested_iff {Q : Schema → Prop} : (∀ inner ∈ s.nested, Q inner) ↔ Q s ∧
    (∀ entry ∈ s.fields, ∀ inner ∈ entry.2.nested, Q inner) ∧
    (∀ item ∈ s.items, ∀ inner ∈ item.nested, Q inner) ∧
    (∀ parent ∈ s.parents, ∀ inner ∈ parent.nested, Q inner) ∧
    ∀ option ∈ s.oneOf.getD [], ∀ inner ∈ option.nested, Q inner := by
  rw [nested_eq s, List.forall_mem_cons]
  simp only [List.forall_mem_append, List.forall_mem_flatMap, Option.mem_toList, Option.mem_def,
    and_assoc]

theorem parents_eq_nil (none : s.allOf = none) : s.parents = [] := by
  rw [parents, none, Option.getD_none]

/-- Where no schema inherits anything, parts are found in properties, items and options. -/
theorem forall_nested_alone_iff {Q : Schema → Prop} :
    (∀ inner ∈ s.nested, inner.allOf = none ∧ Q inner) ↔ s.allOf = none ∧ Q s ∧
      (∀ entry ∈ s.fields, ∀ inner ∈ entry.2.nested, inner.allOf = none ∧ Q inner) ∧
      (∀ item ∈ s.items, ∀ inner ∈ item.nested, inner.allOf = none ∧ Q inner) ∧
      ∀ option ∈ s.oneOf.getD [], ∀ inner ∈ option.nested, inner.allOf = none ∧ Q inner := by
  refine forall_nested_iff.trans ?_
  rw [and_assoc]
  refine and_congr_right fun none => ?_
  simp only [parents_eq_nil none, List.not_mem_nil, false_implies, implies_true, true_and]

/-- No schema in it inherits anything. -/
def Standalone (s : Schema) : Prop := ∀ inner ∈ s.nested, inner.allOf = none

/-- No schema in it inherits anything, and none has a property twice. -/
def Neat (s : Schema) : Prop :=
  ∀ inner ∈ s.nested, inner.allOf = none ∧ Entries.Ordered inner.fields

theorem Neat.standalone (neat : s.Neat) : s.Standalone := fun inner inside => (neat inner inside).1

/-- A schema is neat when it and its parts are. -/
theorem neat_iff : s.Neat ↔ s.allOf = none ∧ Entries.Ordered s.fields ∧
    (∀ entry ∈ s.fields, entry.2.Neat) ∧ (∀ item ∈ s.items, item.Neat) ∧
      ∀ option ∈ s.oneOf.getD [], option.Neat :=
  forall_nested_alone_iff

theorem Neat.ordered (neat : s.Neat) : Entries.Ordered s.fields := (neat_iff.mp neat).2.1

theorem Neat.property (neat : s.Neat) : ∀ entry ∈ s.fields, entry.2.Neat :=
  (neat_iff.mp neat).2.2.1

theorem Neat.option (neat : s.Neat) : ∀ option ∈ s.oneOf.getD [], option.Neat :=
  (neat_iff.mp neat).2.2.2.2

theorem allOf_eq_none (inherits : s.allOf ≠ some []) (alone : s.parents = []) :
    s.allOf = none := by
  cases entries : s.allOf with
  | none => rfl
  | some list =>
    rw [parents, entries, Option.getD_some] at alone
    exact absurd (alone ▸ entries) inherits

theorem allOf_ne_of_parents {first : Schema} {rest : List Schema}
    (some : s.parents = first :: rest) : s.allOf ≠ .some [] := by
  intro none
  rw [parents, none] at some
  contradiction

/-- Of a plain schema only the properties count. -/
theorem Plain.neat (plain : s.Plain) (none : s.allOf = none) (ordered : Entries.Ordered s.fields)
    (fields : ∀ entry ∈ s.fields, entry.2.Neat) : s.Neat := by
  rw [neat_iff, plain.items, plain.oneOf]
  exact ⟨none, ordered, fields, nofun, nofun⟩

/-- Every schema in it is neat and requires properties of its own. -/
def Coherent (s : Schema) : Prop :=
  ∀ inner ∈ s.nested, inner.allOf = none ∧ Entries.Ordered inner.fields ∧ inner.RequiresOwn

theorem Coherent.neat (coherent : s.Coherent) : s.Neat := fun inner inside =>
  ⟨(coherent inner inside).1, (coherent inner inside).2.1⟩

/-- A schema is coherent when it and its parts are. -/
theorem coherent_iff : s.Coherent ↔ s.allOf = none ∧
    (Entries.Ordered s.fields ∧ s.RequiresOwn) ∧ (∀ entry ∈ s.fields, entry.2.Coherent) ∧
      (∀ item ∈ s.items, item.Coherent) ∧ ∀ option ∈ s.oneOf.getD [], option.Coherent :=
  forall_nested_alone_iff

/-- Keywords that hold no schemas have a say in it only by what they require. -/
theorem coherent_keywords {k : Keywords} (none : k.required = none) :
    ({ toKeywords := k } : Schema).Coherent := by
  have requires : ({ toKeywords := k } : Schema).RequiresOwn :=
    requiresOwn_of_nil (by rw [requiredNames, none, Option.getD_none])
  rw [coherent_iff]
  simpa [fields, Entries.Ordered] using requires

theorem Coherent.describedAs (coherent : s.Coherent) (description : String) :
    (s.describedAs description).Coherent := by
  rw [coherent_iff] at coherent ⊢
  obtain ⟨none, ⟨ordered, requires⟩, parts⟩ := coherent
  exact ⟨none, ⟨ordered, requires.nodup, requires.own⟩, parts⟩

theorem Coherent.arrayOf (coherent : s.Coherent) : (Schema.arrayOf s).Coherent := by
  have requires : (Schema.arrayOf s).RequiresOwn := requiresOwn_of_nil rfl
  rw [coherent_iff]
  refine ⟨rfl, ⟨.nil, requires⟩, nofun, ?_, nofun⟩
  rintro item ⟨⟩
  exact coherent

/-- A property comes together with the demand for it. -/
theorem Coherent.requireProperty {property : Schema} (coherent : s.Coherent)
    (own : property.Coherent) (name : String) :
    ((s.withProperty name property).require name).Coherent := by
  rw [coherent_iff] at coherent ⊢
  obtain ⟨none, ⟨ordered, requires⟩, fields, items, options⟩ := coherent
  refine ⟨none, ⟨ordered.insert name property, ?_, ?_⟩, ?_, items, options⟩
  · exact nodup_require (a := s.withProperty name property) requires.nodup name
  · intro other listed
    refine mem_propertyNames_withProperty.mpr ?_
    rcases mem_requiredNames_require.mp listed with old | same
    · exact .inr (requires.own old)
    · exact .inl same
  · intro entry listed
    rcases Entries.mem_insert listed with rfl | old
    · exact own
    · exact fields entry old

theorem coherent_choice {options : List Schema} (each : ∀ option ∈ options, option.Coherent) :
    ({ oneOf := some options } : Schema).Coherent :=
  coherent_iff.mpr ⟨rfl, ⟨.nil, requiresOwn_of_nil rfl⟩, nofun, nofun, each⟩

end ObjectRole.Schema

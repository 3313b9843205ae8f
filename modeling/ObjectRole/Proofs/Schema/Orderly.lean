import ObjectRole.Proofs.Json.Rearranged
import ObjectRole.Proofs.Schema.Neat

/-! Schemas that list their properties, and the members of values of free form, in key order at any
depth. They may be put together and changed in all the ways that tables are built and folded in. -/
namespace ObjectRole

/-- Values of free form list the members of their objects in key order. -/
structure Keywords.Orderly (k : Keywords) : Prop where
  enumeration : ∀ v ∈ k.enumeration.getD [], v.Orderly
  examples : ∀ v ∈ k.examples.getD [], v.Orderly

namespace Schema

variable {s parent : Schema} {k : Keywords} {entries : List (String × Schema)}

/-- At any depth, properties and the members of values of free form are in key order. -/
def Orderly (s : Schema) : Prop :=
  ∀ inner ∈ s.nested, Entries.Ordered inner.fields ∧ inner.toKeywords.Orderly

/-- Orderly schemas by name, in key order. -/
structure OrderlyEntries (entries : List (String × Schema)) : Prop where
  ordered : Entries.Ordered entries
  each : ∀ entry ∈ entries, entry.2.Orderly

/-- A schema is orderly when it and its parts are. -/
theorem orderly_iff : s.Orderly ↔ s.toKeywords.Orderly ∧ OrderlyEntries s.fields ∧
    (∀ item ∈ s.items, item.Orderly) ∧ (∀ parent ∈ s.parents, parent.Orderly) ∧
      ∀ option ∈ s.oneOf.getD [], option.Orderly := by
  refine forall_nested_iff.trans ?_
  constructor
  · rintro ⟨⟨ordered, own⟩, fields, others⟩
    exact ⟨own, ⟨ordered, fields⟩, others⟩
  · rintro ⟨own, ⟨ordered, fields⟩, others⟩
    exact ⟨⟨ordered, own⟩, fields, others⟩

theorem Orderly.keywords (orderly : s.Orderly) : s.toKeywords.Orderly := (orderly_iff.mp orderly).1

theorem Orderly.fields (orderly : s.Orderly) : OrderlyEntries s.fields :=
  (orderly_iff.mp orderly).2.1

theorem Orderly.parents (orderly : s.Orderly) : ∀ parent ∈ s.parents, parent.Orderly :=
  (orderly_iff.mp orderly).2.2.2.1

theorem OrderlyEntries.nil : OrderlyEntries [] := ⟨.nil, nofun⟩

theorem OrderlyEntries.insert (orderly : OrderlyEntries entries) (own : s.Orderly) (name : String) :
    OrderlyEntries (Entries.insert name s entries) := by
  refine ⟨orderly.ordered.insert name s, fun entry listed => ?_⟩
  rcases Entries.mem_insert listed with rfl | old
  · exact own
  · exact orderly.each entry old

theorem OrderlyEntries.insertNew (orderly : OrderlyEntries entries) {entry : String × Schema}
    (own : entry.2.Orderly) : OrderlyEntries (Inheritance.insertNew entries entry) := by
  unfold Inheritance.insertNew
  split
  · exact orderly
  · exact orderly.insert own entry.1

section Words

theorem orderly_keywords (own : k.Orderly) : ({ toKeywords := k } : Schema).Orderly :=
  orderly_iff.mpr ⟨own, .nil, nofun, nofun, nofun⟩

/-- Where no values of free form are listed, there is nothing to order. -/
theorem orderly_words (enumeration : k.enumeration = none) (examples : k.examples = none) :
    ({ toKeywords := k } : Schema).Orderly := by
  refine orderly_keywords ⟨?_, ?_⟩
  · rw [enumeration]
    nofun
  · rw [examples]
    nofun

theorem Orderly.withKeywords (orderly : s.Orderly) (own : k.Orderly) :
    { s with toKeywords := k }.Orderly :=
  orderly_iff.mpr ⟨own, (orderly_iff.mp orderly).2⟩

theorem Orderly.withExamples (orderly : s.Orderly) {examples : Option (List Json)}
    (each : ∀ v ∈ examples.getD [], v.Orderly) : { s with examples }.Orderly :=
  orderly.withKeywords ⟨orderly.keywords.enumeration, each⟩

theorem Orderly.describedAs (orderly : s.Orderly) (description : String) :
    (s.describedAs description).Orderly :=
  orderly.withKeywords ⟨orderly.keywords.enumeration, orderly.keywords.examples⟩

theorem Orderly.withRequired (orderly : s.Orderly) (required : Option (List String)) :
    { s with required }.Orderly :=
  orderly.withKeywords ⟨orderly.keywords.enumeration, orderly.keywords.examples⟩

end Words

section Parts

theorem Orderly.withFields (orderly : s.Orderly) {properties : Option (List (String × Schema))}
    (fields : OrderlyEntries (properties.getD [])) : { s with properties }.Orderly := by
  obtain ⟨own, _, others⟩ := orderly_iff.mp orderly
  exact orderly_iff.mpr ⟨own, fields, others⟩

theorem Orderly.withProperty (orderly : s.Orderly) {property : Schema} (own : property.Orderly)
    (name : String) : (s.withProperty name property).Orderly :=
  orderly.withFields (orderly.fields.insert own name)

theorem Orderly.withAllOf (orderly : s.Orderly) {allOf : Option (List Schema)}
    (each : ∀ parent ∈ allOf.getD [], parent.Orderly) : { s with allOf }.Orderly := by
  obtain ⟨own, fields, items, _, options⟩ := orderly_iff.mp orderly
  exact orderly_iff.mpr ⟨own, fields, items, each, options⟩

theorem orderly_object (fields : OrderlyEntries entries) :
    ({ typed "object" with properties := some entries } : Schema).Orderly :=
  (orderly_words rfl rfl).withFields fields

theorem Orderly.arrayOf (orderly : s.Orderly) : (arrayOf s).Orderly := by
  refine orderly_iff.mpr ⟨⟨nofun, nofun⟩, .nil, ?_, nofun, nofun⟩
  rintro item ⟨⟩
  exact orderly

theorem orderly_choice {options : List Schema} (each : ∀ option ∈ options, option.Orderly) :
    ({ oneOf := some options } : Schema).Orderly :=
  orderly_iff.mpr ⟨⟨nofun, nofun⟩, .nil, nofun, nofun, each⟩

end Parts

section Folding

theorem getD_or_cases {α : Type} {first second : Option (List α)} {a : α}
    (listed : a ∈ (first.or second).getD []) : a ∈ first.getD [] ∨ a ∈ second.getD [] := by
  cases first with
  | none => exact .inr listed
  | some values => exact .inl listed

/-- Examples are inherited, if there are any. -/
theorem Orderly.inheritWords (orderly : s.Orderly) (above : parent.Orderly) :
    (Inheritance.inheritWords s parent).Orderly := by
  refine orderly.withKeywords ⟨orderly.keywords.enumeration, fun v listed => ?_⟩
  rcases getD_or_cases listed with own | inherited
  · exact orderly.keywords.examples v own
  · cases found : parent.examples.filter (!·.isEmpty) with
    | none =>
      rw [found] at inherited
      contradiction
    | some values =>
      rw [found] at inherited
      refine above.keywords.examples v ?_
      rwa [(Option.filter_eq_some_iff.mp found).1]

/-- A round of folding inherited schemas in keeps everything in order. -/
theorem hereditary_orderly : SchemaMap.Hereditary Orderly := by
  intro m s orderly sources
  have words : ((s.sources m).foldl (fun s source => Inheritance.inheritWords s source.2)
      { s with required := none, properties := none, allOf := none }).Orderly := by
    refine List.foldlRecOn _ _ ?_
      fun s words source listed => words.inheritWords (sources source listed)
    have alone : { s with required := none, properties := none }.Orderly :=
      (orderly.withRequired none).withFields .nil
    exact alone.withAllOf nofun
  have fields : OrderlyEntries (s.folded m).fields := by
    rw [fields_folded]
    refine List.foldlRecOn _ _ orderly.fields ?_
    intro fields own source listed
    refine List.foldlRecOn _ _ own ?_
    intro fields own entry inside
    exact own.insertNew ((sources source listed).fields.each entry inside)
  have parents : ∀ parent ∈ (s.folded m).parents, parent.Orderly := by
    rw [parents_folded]
    refine List.forall_mem_flatMap.mpr fun entry listed => ?_
    unfold heirs
    split
    · exact List.forall_mem_singleton.mpr (orderly.parents entry listed)
    · rename_i key parent led
      exact (sources (key, parent) (List.mem_filterMap.mpr ⟨entry, listed, led⟩)).parents
  exact ((words.withRequired _).withFields fields).withAllOf parents

theorem Orderly.withNewFields (orderly : s.Orderly) {properties : Option (List (String × Schema))}
    (each : ∀ entry ∈ properties.getD [], entry.2.Orderly) :
    (Schema.withFields s properties).Orderly := by
  cases properties with
  | none => exact orderly
  | some entries =>
    refine List.foldlRecOn _ _ (orderly.withFields orderly.fields) fun s orderly entry listed => ?_
    unfold withNewProperty
    split
    · exact orderly
    · exact orderly.withProperty (each entry listed) entry.1

theorem Orderly.withParents (orderly : s.Orderly) {allOf : Option (List Schema)}
    (each : ∀ parent ∈ allOf.getD [], parent.Orderly) : (Schema.withParents s allOf).Orderly := by
  cases allOf with
  | none => exact orderly
  | some entries =>
    refine orderly.withAllOf ?_
    refine List.foldlRecOn (motive := fun parents : List Schema => ∀ p ∈ parents, p.Orderly) _ _
      orderly.parents fun parents own entry listed => ?_
    unfold appendNew
    split
    · exact own
    · exact List.forall_mem_append.mpr ⟨own, List.forall_mem_singleton.mpr (each entry listed)⟩

/-- A tier that is folded into a coarser one brings what is in order. -/
theorem Orderly.overlay {coarse fine : Schema} (orderly : coarse.Orderly) (finer : fine.Orderly) :
    (coarse.overlay fine).Orderly := by
  have fielded := orderly.withNewFields finer.fields.each
  have requiring : (fine.requiredNames.foldl Schema.require
      (Schema.withFields coarse fine.properties)).Orderly :=
    List.foldlRecOn _ _ fielded fun _ orderly _ _ => orderly.withRequired _
  have merged := requiring.withParents finer.parents
  refine merged.withKeywords ⟨merged.keywords.enumeration, fun v listed => ?_⟩
  rcases getD_or_cases listed with own | inherited
  · exact merged.keywords.examples v own
  · exact finer.keywords.examples v inherited

end Folding

end Schema

theorem Keywords.Orderly.relabel {k : Keywords} (own : k.Orderly) (r : Renames) :
    (k.relabel r).Orderly := by
  unfold Keywords.relabel
  split
  · exact own
  · dsimp only
    split
    · exact own
    · exact ⟨own.enumeration, own.examples⟩

theorem Schema.Orderly.relabel {s : Schema} (orderly : s.Orderly) (r : Renames) :
    (s.mapKeywords (·.relabel r)).Orderly := by
  intro inner inside
  rw [nested_mapKeywords] at inside
  obtain ⟨old, old_inside, rfl⟩ := List.mem_map.mp inside
  obtain ⟨ordered, own⟩ := orderly old old_inside
  rw [fields_mapKeywords, toKeywords_mapKeywords]
  exact ⟨ordered.mapValues _, own.relabel r⟩

end ObjectRole

import ObjectRole.Proofs.Api.Trails

/-! Properties that may identify an item. Unpacked they come down to at least one plain part, and
each of their parts is described. -/
namespace ObjectRole.Schema

variable {s : Schema} {name : String}

mutual

/-- Parts of a described property are described. -/
theorem described_idMembers (name : String) (owner inherited : Option String) : ∀ s : Schema,
    (s.description.or inherited).isSome → ∀ m ∈ s.idMembers name owner inherited,
      m.description.isSome
  | ⟨k, _, _, _, oneOf⟩, described => by
    match oneOf with
    | some (⟨_, some members, _, _, _⟩ :: _) =>
      exact described_idMembersOfEntries name _ described members
    | some (⟨first, none, items, allOf, choice⟩ :: _) =>
      refine described_idMembers name owner _ ⟨first, none, items, allOf, choice⟩ ?_
      rw [Option.isSome_or, described, Bool.or_true]
    | some [] | none =>
      intro m listed
      exact List.mem_singleton.mp listed ▸ described

theorem described_idMembersOfEntries (name : String) (inherited : Option String)
    (described : inherited.isSome) : ∀ members : List (String × Schema),
      ∀ m ∈ idMembersOfEntries name inherited members, m.description.isSome
  | [], _, listed => by contradiction
  | (own, member) :: rest, m, listed => by
    rcases List.mem_append.mp listed with here | later
    · refine described_idMembers own (some name) inherited member ?_ m here
      rw [Option.isSome_or, described, Bool.or_true]
    · exact described_idMembersOfEntries name inherited described rest m later

end

/-- Unpacking a property leaves something of it. -/
def Unpacks (s : Schema) : Prop := ∀ name above, s.trails name above ≠ []

theorem unpacks_of_plain (plain : s.oneOf = none) : s.Unpacks := by
  intro name above
  cases s
  cases plain
  exact List.cons_ne_nil _ _

theorem Unpacks.describedAs (unpacks : s.Unpacks) (description : String) :
    (s.describedAs description).Unpacks := by
  intro name above
  have own := unpacks name above
  cases s
  rw [trails.eq_def] at own ⊢
  exact own

/-- A choice is unpacked to its first option. -/
theorem unpacks_choice {inline : Schema} {others : List Schema}
    (none_inside : inline.properties = none) (unpacks : inline.Unpacks) :
    ({ oneOf := some (inline :: others) } : Schema).Unpacks := by
  cases inline
  cases none_inside
  exact unpacks

/-- The first option may be an object, that is unpacked to what its members are. -/
theorem unpacks_choice_of_fields {inline : Schema} {others : List Schema} {entry : String × Schema}
    (listed : entry ∈ inline.fields) (unpacks : entry.2.Unpacks) :
    ({ oneOf := some (inline :: others) } : Schema).Unpacks := by
  intro name above
  obtain ⟨k, properties, items, allOf, choice⟩ := inline
  cases properties with
  | none => contradiction
  | some members =>
    change trailsOfEntries (name :: above) members ≠ []
    rw [trailsOfEntries_eq, Ne, List.flatMap_eq_nil_iff]
    exact fun all => unpacks _ _ (all entry listed)

/-- By its description and its parts a property can identify an item. -/
structure Identifying (s : Schema) : Prop where
  described : s.description.isSome
  unpacks : s.Unpacks

theorem Unpacks.identifying (unpacks : s.Unpacks) (description : String) :
    (s.describedAs description).Identifying :=
  ⟨rfl, unpacks.describedAs description⟩

theorem Identifying.idMembers_ne_nil (identifying : s.Identifying) (name : String) :
    s.idMembers name none none ≠ [] := by
  intro nothing
  have endings := s.endings_idMembers name [] none
  rw [List.head?_nil, nothing] at endings
  exact identifying.unpacks name [] (List.map_eq_nil_iff.mp endings.symm)

end ObjectRole.Schema

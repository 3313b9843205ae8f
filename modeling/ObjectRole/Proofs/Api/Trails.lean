import Mathlib.Data.List.Forall2
import Mathlib.Data.List.Nodup
import Mathlib.Data.List.Perm.Subperm
import ObjectRole.Api.Identifier
import ObjectRole.Proofs.Entries
import ObjectRole.Proofs.Schema.Neat

/-! The plain parts of an identifier. Each is found along a trail of property names, and no two
parts have the same trail. The name of a parameter depends on the end of its part's trail only, so
that parts may have to share a name. -/
namespace ObjectRole

/-- Two different elements count as more than one. -/
theorem one_lt_countP {α : Type} {list : List α} {p : α → Bool} {a b : α} (a_there : a ∈ list)
    (b_there : b ∈ list) (pa : p a) (pb : p b) (distinct : a ≠ b) : 1 < list.countP p := by
  have both : [a, b].Subperm list :=
    List.subperm_of_subset (by simpa using distinct) (by simp [a_there, b_there])
  calc 1 < [a, b].countP p := by simp [pa, pb]
    _ ≤ list.countP p := both.countP_le p

/-- Where a plain part of an identifier is: its name, and the properties around it, the nearest
first. -/
structure Trail where
  name : String
  above : List String
deriving DecidableEq

namespace Trail

variable {all : List Trail} {t u : Trail}

def owner (t : Trail) : Option String := t.above.head?

/-- All that the name of a parameter depends on. -/
def ending (t : Trail) : String × Option String := (t.name, t.owner)

/-- What a path calls a part among all parts. -/
def spelling (all : List Trail) (t : Trail) : String :=
  match t.owner with
  | some owner =>
    if 1 < all.countP (·.name == t.name) then owner ++ Naming.capitalize t.name else t.name
  | none => t.name

theorem spelling_eq_of_ending (same : t.ending = u.ending) : t.spelling all = u.spelling all := by
  obtain ⟨name, owner⟩ := Prod.mk.inj same
  rw [spelling, spelling, name, owner]

/-- Parts of one name in different properties are spelled differently. -/
theorem owner_eq_of_spelling {first second : String} (t_there : t ∈ all) (u_there : u ∈ all)
    (distinct : t ≠ u) (name : t.name = u.name) (t_owned : t.owner = some first)
    (u_owned : u.owner = some second) (same : t.spelling all = u.spelling all) :
    first = second := by
  have shared : 1 < all.countP (·.name == u.name) :=
    one_lt_countP t_there u_there (beq_iff_eq.mpr name) (beq_self_eq_true _) distinct
  rw [spelling, spelling, t_owned, u_owned, name] at same
  dsimp only at same
  rw [if_pos shared, if_pos shared] at same
  exact String.append_left_inj _ |>.mp same

end Trail

/-- A spelling shows the name of a part and whether the part is in a property. -/
def Trail.Legible (all : List Trail) : Prop := ∀ t ∈ all, ∀ u ∈ all,
  t.spelling all = u.spelling all → t.name = u.name ∧ t.owner.isSome = u.owner.isSome

/-- The parts of an identifier can be told by what a path calls them. A part is qualified by the
property around it only, so that the endings of the trails have to differ. -/
structure ToldApart (all : List Trail) : Prop where
  nodup : all.Nodup
  endings : ∀ t ∈ all, ∀ u ∈ all, t.ending = u.ending → t = u
  legible : Trail.Legible all

instance (all : List Trail) : Decidable (Trail.Legible all) :=
  inferInstanceAs (Decidable (∀ t ∈ all, ∀ u ∈ all, t.spelling all = u.spelling all →
    t.name = u.name ∧ t.owner.isSome = u.owner.isSome))

instance (all : List Trail) : Decidable (ToldApart all) :=
  decidable_of_iff (all.Nodup ∧ (∀ t ∈ all, ∀ u ∈ all, t.ending = u.ending → t = u) ∧
      Trail.Legible all)
    ⟨fun ⟨nodup, endings, legible⟩ => ⟨nodup, endings, legible⟩,
      fun apart => ⟨apart.nodup, apart.endings, apart.legible⟩⟩

namespace ToldApart

open Trail

variable {all : List Trail}

theorem spelling_injective (apart : ToldApart all) :
    ∀ t ∈ all, ∀ u ∈ all, t.spelling all = u.spelling all → t = u := by
  intro t t_there u u_there same
  obtain ⟨name, both⟩ := apart.legible t t_there u u_there same
  by_contra distinct
  refine distinct (apart.endings t t_there u u_there (Prod.ext name ?_))
  change t.owner = u.owner
  cases t_owned : t.owner with
  | none =>
    rw [t_owned] at both
    exact (Option.not_isSome_iff_eq_none.mp (Bool.eq_false_iff.mp both.symm)).symm
  | some first =>
    rw [t_owned] at both
    obtain ⟨second, u_owned⟩ := Option.isSome_iff_exists.mp both.symm
    rw [u_owned, owner_eq_of_spelling t_there u_there distinct name t_owned u_owned same]

/-- The spellings of parts are distinct just in case the parts are told apart. -/
theorem nodup_spelling_iff : (all.map (·.spelling all)).Nodup ↔ ToldApart all := by
  constructor
  · intro spellings
    have nodup : all.Nodup := spellings.of_map
    have injective := (List.nodup_map_iff_inj_on nodup).mp spellings
    refine ⟨nodup, ?_, ?_⟩
    · intro t t_there u u_there same
      exact injective t t_there u u_there (spelling_eq_of_ending same)
    · intro t t_there u u_there same
      obtain rfl := injective t t_there u u_there same
      exact ⟨rfl, rfl⟩
  · intro apart
    exact (List.nodup_map_iff_inj_on apart.nodup).mpr apart.spelling_injective

/-- Parts that are in one property at most are known by their endings. -/
theorem of_shallow (nodup : all.Nodup) (shallow : ∀ t ∈ all, t.above.length ≤ 1)
    (legible : Legible all) : ToldApart all := by
  refine ⟨nodup, ?_, legible⟩
  rintro ⟨name, above⟩ t_there ⟨other, upper⟩ u_there same
  obtain ⟨rfl, owner⟩ : name = other ∧ above.head? = upper.head? := Prod.mk.inj same
  congr 1
  match above, upper, shallow _ t_there, shallow _ u_there with
  | [], [], _, _ => rfl
  | [_], [_], _, _ => rw [Option.some.inj owner]
  | [], [_], _, _ | [_], [], _, _ => contradiction

end ToldApart

namespace Schema

mutual

/-- The trails of the plain parts of an identifying property. -/
def trails (name : String) (above : List String) : Schema → List Trail
  | ⟨_, _, _, _, oneOf⟩ =>
    match oneOf with
    | some (⟨_, some members, _, _, _⟩ :: _) => trailsOfEntries (name :: above) members
    | some (inline :: _) => trails name above inline
    | some [] | none => [⟨name, above⟩]

def trailsOfEntries (above : List String) : List (String × Schema) → List Trail
  | [] => []
  | (name, member) :: rest => trails name above member ++ trailsOfEntries above rest

end

mutual

/-- A part has the name and the owner that its trail ends with. -/
theorem endings_idMembers (name : String) (above : List String) (inherited : Option String) :
    ∀ s : Schema, (s.idMembers name above.head? inherited).map (fun m => (m.name, m.owner)) =
      (s.trails name above).map Trail.ending
  | ⟨_, _, _, _, oneOf⟩ => by
    match oneOf with
    | some (⟨_, some members, _, _, _⟩ :: _) =>
      exact endings_idMembersOfEntries name above _ members
    | some (⟨k, none, items, allOf, choice⟩ :: _) =>
      exact endings_idMembers name above _ ⟨k, none, items, allOf, choice⟩
    | some [] | none => rfl

theorem endings_idMembersOfEntries (name : String) (above : List String)
    (inherited : Option String) : ∀ members : List (String × Schema),
      (idMembersOfEntries name inherited members).map (fun m => (m.name, m.owner)) =
        (trailsOfEntries (name :: above) members).map Trail.ending
  | [] => rfl
  | (own, member) :: rest => by
    rw [idMembersOfEntries, trailsOfEntries, List.map_append, List.map_append]
    exact congrArg₂ _ (endings_idMembers own (name :: above) inherited member)
      (endings_idMembersOfEntries name above inherited rest)

end

theorem trailsOfEntries_eq (above : List String) (members : List (String × Schema)) :
    trailsOfEntries above members = members.flatMap fun entry => entry.2.trails entry.1 above := by
  induction members with
  | nil => rfl
  | cons entry rest ih => rw [trailsOfEntries, ih, List.flatMap_cons]

/-- A trail starts in the property. -/
def StartsIn (name : String) (above : List String) (t : Trail) : Prop :=
  name :: above <:+ t.name :: t.above

theorem StartsIn.name_eq {name other : String} {above : List String} {t : Trail}
    (first : StartsIn name above t) (second : StartsIn other above t) : name = other := by
  have within := List.suffix_of_suffix_length_le first second (Nat.le_refl _)
  exact (List.cons.inj (within.eq_of_length rfl)).1

mutual

theorem startsIn_trails (name : String) (above : List String) :
    ∀ s : Schema, ∀ t ∈ s.trails name above, StartsIn name above t
  | ⟨_, _, _, _, oneOf⟩ => by
    match oneOf with
    | some (⟨_, some members, _, _, _⟩ :: _) =>
      exact startsIn_trailsOfEntries name above members
    | some (⟨k, none, items, allOf, choice⟩ :: _) =>
      exact startsIn_trails name above ⟨k, none, items, allOf, choice⟩
    | some [] | none =>
      intro t listed
      obtain rfl := List.mem_singleton.mp listed
      exact List.suffix_rfl

theorem startsIn_trailsOfEntries (name : String) (above : List String) :
    ∀ members : List (String × Schema),
      ∀ t ∈ trailsOfEntries (name :: above) members, StartsIn name above t
  | [], _, listed => by contradiction
  | (own, member) :: rest, t, listed => by
    rcases List.mem_append.mp listed with here | later
    · exact (List.suffix_cons own _).trans (startsIn_trails own (name :: above) member t here)
    · exact startsIn_trailsOfEntries name above rest t later

end

/-- Trails in properties of different names are different. -/
theorem disjoint_trails {name other : String} {above : List String} {s u : Schema}
    (distinct : name ≠ other) : List.Disjoint (s.trails name above) (u.trails other above) :=
  fun t first second => distinct
    ((startsIn_trails name above s t first).name_eq (startsIn_trails other above u t second))

theorem nodup_trailsOfEntries {above : List String} {members : List (String × Schema)}
    (ordered : Entries.Ordered members)
    (each : ∀ entry ∈ members, (entry.2.trails entry.1 above).Nodup) :
    (trailsOfEntries above members).Nodup := by
  rw [trailsOfEntries_eq, List.nodup_flatMap]
  exact ⟨each, (List.pairwise_map.mp ordered.nodup_keys).imp disjoint_trails⟩

mutual

-- Members of an object have names of their own, since its properties are in key order, and where
-- the names differ the trails do.
theorem nodup_trails (name : String) (above : List String) :
    ∀ s : Schema, s.Neat → (s.trails name above).Nodup
  | ⟨_, _, _, _, oneOf⟩, neat => by
    match oneOf with
    | some (⟨k, some members, items, allOf, choice⟩ :: _) =>
      have first : Neat ⟨k, some members, items, allOf, choice⟩ := neat.option _ (.head _)
      exact nodup_trailsOfEntries first.ordered
        (nodup_trailsOf (name :: above) members first.property)
    | some (⟨k, none, items, allOf, choice⟩ :: _) =>
      exact nodup_trails name above ⟨k, none, items, allOf, choice⟩ (neat.option _ (.head _))
    | some [] | none => exact List.nodup_singleton _

theorem nodup_trailsOf (above : List String) : ∀ members : List (String × Schema),
    (∀ entry ∈ members, entry.2.Neat) →
      ∀ entry ∈ members, (entry.2.trails entry.1 above).Nodup
  | [], _, _, listed => by contradiction
  | (own, member) :: rest, neat, entry, listed => by
    rcases List.mem_cons.mp listed with rfl | later
    · exact nodup_trails own above member (neat _ (.head _))
    · exact nodup_trailsOf above rest (fun other inside => neat other (.tail _ inside)) entry later

end
end Schema

/-- Lists that agree do so with one standing in for nothing, too. -/
theorem map_unlessEmpty {α β γ : Type} {f : α → γ} {g : β → γ} {first : List α} {second : List β}
    {a : α} {b : β} (same : first.map f = second.map g) (standard : f a = g b) :
    (if first.isEmpty then [a] else first).map f =
      (if second.isEmpty then [b] else second).map g := by
  have empty := congrArg List.isEmpty same
  rw [List.isEmpty_map, List.isEmpty_map] at empty
  rw [empty]
  split
  · exact congrArg ([·]) standard
  · exact same

section Identifier

variable (update : Schema) (identifying : List String)

/-- The trails of the plain parts of the identifying properties of a resource. -/
def Trail.ofProperties : List Trail :=
  let trails := identifying.flatMap fun name =>
    match update.property? name with
    | some property => property.trails name []
    | none => []
  if trails.isEmpty then [⟨"id", []⟩] else trails

theorem endings_ofProperties :
    (IdMember.ofProperties update identifying).map (fun m => (m.name, m.owner)) =
      (Trail.ofProperties update identifying).map Trail.ending := by
  rw [IdMember.ofProperties, Trail.ofProperties]
  refine map_unlessEmpty ?_ rfl
  rw [List.map_flatMap, List.map_flatMap]
  refine List.flatMap_congr fun name _ => ?_
  cases update.property? name with
  | none => rfl
  | some property => exact property.endings_idMembers name [] none

theorem IdMember.qualifiedName_eq {members : List IdMember} {all : List Trail} {m : IdMember}
    {t : Trail} (endings : members.map (fun m => (m.name, m.owner)) = all.map Trail.ending)
    (ending : (m.name, m.owner) = t.ending) : m.qualifiedName members = t.spelling all := by
  obtain ⟨name, owner⟩ : m.name = t.name ∧ m.owner = t.owner := Prod.mk.inj ending
  have shared : members.countP (·.name == t.name) = all.countP (·.name == t.name) := by
    have counts := congrArg (List.countP fun ending => ending.1 == t.name) endings
    rwa [List.countP_map, List.countP_map] at counts
  rw [qualifiedName, Trail.spelling, owner]
  cases t.owner with
  | none => exact name
  | some own =>
    dsimp only
    rw [name, shared]

/-- Parameters are called what the trails of their parts are spelled. -/
theorem idParameters_names : (idParameters update identifying).map (·.name) =
    (Trail.ofProperties update identifying).map
      (·.spelling (Trail.ofProperties update identifying)) := by
  have endings := endings_ofProperties update identifying
  have pairs := endings
  rw [← List.forall₂_eq_eq_eq, List.forall₂_map_left_iff, List.forall₂_map_right_iff] at pairs
  rw [idParameters, List.map_map, ← List.forall₂_eq_eq_eq, List.forall₂_map_left_iff,
    List.forall₂_map_right_iff]
  exact pairs.imp fun m t ending => IdMember.qualifiedName_eq endings ending

variable {update identifying}

theorem nodup_ofProperties (neat : update.Neat) (nodup : identifying.Nodup) :
    (Trail.ofProperties update identifying).Nodup := by
  rw [Trail.ofProperties]
  split
  · exact List.nodup_singleton _
  rw [List.nodup_flatMap]
  constructor
  · intro name _
    split
    · rename_i property found
      have listed := (Entries.get?_eq_some_iff neat.ordered).mp found
      exact property.nodup_trails name [] (neat.property _ listed)
    · exact .nil
  · refine nodup.imp ?_
    intro name other distinct
    dsimp only [Function.onFun]
    split
    · split
      · exact Schema.disjoint_trails distinct
      · exact List.disjoint_nil_right _
    · exact List.disjoint_nil_left _

end Identifier

end ObjectRole

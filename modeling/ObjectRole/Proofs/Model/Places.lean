import ObjectRole.Proofs.Model.Declared
import ObjectRole.Proofs.Model.Renumbering
import ObjectRole.Proofs.Model.Reordering
import Mathlib.Data.List.Sort

/-! Numbers of declarations that come in another order. What a document says under a number, the
reordered one says under the number of the declaration's new place. -/
namespace ObjectRole

theorem RoleId.ofNat_place (id : RoleId) : RoleId.ofNat id.place = id :=
  place_inj (place_ofNat id.number.toNat_lt)

section Places

variable {α : Type} [DecidableEq α] {list other : List α}

/-- The place in the other list of what stands at a place. Places behind the end stay. -/
def placeIn (list other : List α) (place : Nat) : Nat := (list[place]?).elim place other.idxOf

theorem getElem?_placeIn (perm : other.Perm list) (place : Nat) :
    other[placeIn list other place]? = list[place]? := by
  rw [placeIn]
  cases found : list[place]? with
  | none =>
    rw [Option.elim_none, List.getElem?_eq_none_iff, perm.length_eq]
    exact List.getElem?_eq_none_iff.mp found
  | some a => exact List.getElem?_idxOf (perm.mem_iff.mpr (List.mem_of_getElem? found))

theorem placeIn_of_le {place : Nat} (behind : list.length ≤ place) :
    placeIn list other place = place := by
  rw [placeIn, List.getElem?_eq_none_iff.mpr behind, Option.elim_none]

theorem placeIn_lt (perm : other.Perm list) {place bound : Nat} (fits : list.length ≤ bound)
    (inside : place < bound) : placeIn list other place < bound := by
  by_cases listed : place < list.length
  · have found := getElem?_placeIn perm place
    rw [List.getElem?_eq_getElem listed] at found
    exact Nat.lt_of_lt_of_le (List.getElem?_eq_some_iff.mp found).1 (perm.length_eq ▸ fits)
  · rwa [placeIn_of_le (Nat.le_of_not_lt listed)]

theorem placeIn_injective (perm : other.Perm list) (nodup : list.Nodup) :
    Function.Injective (placeIn list other) := by
  intro a b same
  have found : list[a]? = list[b]? := by
    rw [← getElem?_placeIn perm, same, getElem?_placeIn perm]
  by_cases inside : a < list.length
  · exact (List.getElem?_inj inside nodup).mp found
  · have behind := Nat.le_of_not_lt inside
    have also := List.getElem?_eq_none_iff.mp (found ▸ List.getElem?_eq_none_iff.mpr behind)
    rwa [placeIn_of_le behind, placeIn_of_le also] at same

/-- The same for numbers. -/
def numberIn (list other : List α) (number : UInt32) : UInt32 :=
  .ofNat (placeIn list other number.toNat)

theorem toNat_numberIn (perm : other.Perm list) (fits : list.length ≤ UInt32.size)
    (number : UInt32) : (numberIn list other number).toNat = placeIn list other number.toNat :=
  UInt32.toNat_ofNat_of_lt (placeIn_lt perm fits number.toNat_lt)

theorem numberIn_injective (perm : other.Perm list) (nodup : list.Nodup)
    (fits : list.length ≤ UInt32.size) : Function.Injective (numberIn list other) := by
  intro a b same
  refine UInt32.toNat_inj.mp (placeIn_injective perm nodup ?_)
  rw [← toNat_numberIn perm fits, ← toNat_numberIn perm fits, same]

end Places

namespace Document

variable {d other : Document} {s t : Snapshot} {name : String} {σ : Renumbering}

/-- The roles of a document, each by the title of its fact type and its place there. -/
def slots (d : Document) : List (String × Nat) :=
  d.factTypes.flatMap fun f => (List.range (d.roleNames f).length).map (f.title, ·)

theorem length_slots (d : Document) : d.slots.length = d.roleCount d.factTypes := by
  simp only [slots, List.length_flatMap, List.length_map, List.length_range, roleCount]

theorem nodup_slots (titles : (d.factTypes.map (·.title)).Nodup) : d.slots.Nodup := by
  refine List.nodup_flatMap.mpr ⟨fun f _ => ?_, ?_⟩
  · exact List.nodup_range.map fun a b same => congrArg Prod.snd same
  · refine (List.pairwise_map.mp titles).imp fun {f g} distinct => List.disjoint_left.mpr ?_
    rintro _ own others
    obtain ⟨_, _, rfl⟩ := List.mem_map.mp own
    obtain ⟨_, _, same⟩ := List.mem_map.mp others
    exact distinct (congrArg Prod.fst same).symm

theorem Reorders.slots (reorders : d.Reorders other) : other.slots.Perm d.slots := by
  rw [Document.slots, Document.slots, funext reorders.roleNames]
  exact reorders.factTypes.flatMap_right _

/-- The numbers of the other document lead to the same nouns, fact types and roles. -/
structure Places (d other : Document) (σ : Renumbering) : Prop where
  nouns : ∀ id, other.nouns[(σ.noun id).place]? = d.nouns[id.place]?
  factTypes : ∀ id, other.factTypes[(σ.factType id).place]? = d.factTypes[id.place]?
  slots : ∀ id, other.slots[(σ.role id).place]? = d.slots[id.place]?

/-- Declarations in another order have numbers of their own. -/
theorem Reorders.exists_places (reorders : d.Reorders other) (numberable : d.Numberable)
    (names : (d.nouns.map (·.name)).Nodup) (titles : (d.factTypes.map (·.title)).Nodup) :
    ∃ σ, d.Places other σ := by
  have roles : d.slots.length ≤ UInt32.size := d.length_slots ▸ numberable.roles
  let σ : Renumbering := {
    noun := ⟨fun id => ⟨numberIn d.nouns other.nouns id.number⟩, fun a b same =>
      congrArg NounId.mk (numberIn_injective reorders.nouns names.of_map numberable.nouns
        (congrArg NounId.number same))⟩
    factType := ⟨fun id => ⟨numberIn d.factTypes other.factTypes id.number⟩, fun a b same =>
      congrArg FactTypeId.mk (numberIn_injective reorders.factTypes titles.of_map
        numberable.factTypes (congrArg FactTypeId.number same))⟩
    role := ⟨fun id => ⟨numberIn d.slots other.slots id.number⟩, fun a b same =>
      congrArg RoleId.mk (numberIn_injective reorders.slots (nodup_slots titles) roles
        (congrArg RoleId.number same))⟩ }
  refine ⟨σ, ?_, ?_, ?_⟩
  · intro id
    exact (congrArg (other.nouns[·]?) (toNat_numberIn reorders.nouns numberable.nouns _)).trans
      (getElem?_placeIn reorders.nouns _)
  · intro id
    exact (congrArg (other.factTypes[·]?)
      (toNat_numberIn reorders.factTypes numberable.factTypes _)).trans
        (getElem?_placeIn reorders.factTypes _)
  · intro id
    exact (congrArg (other.slots[·]?) (toNat_numberIn reorders.slots roles _)).trans
      (getElem?_placeIn reorders.slots _)

/-! ## Names -/

section Numbers

variable (reorders : d.Reorders other) (places : d.Places other σ) (numberable : d.Numberable)
  (names : (d.nouns.map (·.name)).Nodup) (titles : (d.factTypes.map (·.title)).Nodup)
include reorders places numberable

include names in
theorem Places.nounId? (name : String) : other.nounId? name = (d.nounId? name).map σ.noun := by
  cases named : d.nounId? name with
  | none =>
    refine Option.eq_none_iff_forall_ne_some.mpr fun id other_named => ?_
    obtain ⟨found, also⟩ :=
      exists_nounId?_iff.mpr (reorders.mem_names.mp (exists_nounId?_iff.mp ⟨id, other_named⟩))
    rw [named] at also
    contradiction
  | some id =>
    obtain ⟨n, there, rfl⟩ := numberable.nounId?_some named
    exact (reorders.numberable numberable).nounId?_of_getElem?
      ((reorders.nouns.map _).nodup_iff.mpr names) ((places.nouns id).trans there)

include titles in
theorem Places.factTypeId? (name : String) :
    other.factTypeId? name = (d.factTypeId? name).map σ.factType := by
  cases named : d.factTypeId? name with
  | none =>
    refine Option.eq_none_iff_forall_ne_some.mpr fun id other_named => ?_
    obtain ⟨found, also⟩ := exists_factTypeId?_iff.mpr
      (reorders.mem_titles.mp (exists_factTypeId?_iff.mp ⟨id, other_named⟩))
    rw [named] at also
    contradiction
  | some id =>
    obtain ⟨f, there, rfl⟩ := numberable.factTypeId?_some named
    exact (reorders.numberable numberable).factTypeId?_of_getElem?
      ((reorders.factTypes.map _).nodup_iff.mpr titles) ((places.factTypes id).trans there)

include names titles in
theorem Places.player? (name : String) : other.player? name = (d.player? name).map σ.player := by
  rw [Document.player?, Document.player?, places.nounId? reorders numberable names,
    places.factTypeId? reorders numberable titles, Option.map_or]
  simp only [Option.map_map]
  rfl

end Numbers

end Document
end ObjectRole

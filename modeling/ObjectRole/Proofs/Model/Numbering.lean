import ObjectRole.Proofs.Model.Readings
import Mathlib.Algebra.GroupWithZero.Nat

/-! Numbers in a resolved model. Nouns, fact types and roles are numbered by their places, as long
as there are no more of them than there are numbers, so that a name leads to the declaration that
bears it and a role to its player. -/
namespace ObjectRole

theorem NounId.place_ofNat {n : Nat} (bound : n < UInt32.size) : (NounId.ofNat n).place = n :=
  UInt32.toNat_ofNat_of_lt bound

theorem FactTypeId.place_ofNat {n : Nat} (bound : n < UInt32.size) :
    (FactTypeId.ofNat n).place = n :=
  UInt32.toNat_ofNat_of_lt bound

theorem RoleId.place_ofNat {n : Nat} (bound : n < UInt32.size) : (RoleId.ofNat n).place = n :=
  UInt32.toNat_ofNat_of_lt bound

theorem NounId.place_inj {a b : NounId} (same : a.place = b.place) : a = b :=
  congrArg NounId.mk (UInt32.toNat_inj.mp same)

theorem FactTypeId.place_inj {a b : FactTypeId} (same : a.place = b.place) : a = b :=
  congrArg FactTypeId.mk (UInt32.toNat_inj.mp same)

theorem RoleId.place_inj {a b : RoleId} (same : a.place = b.place) : a = b :=
  congrArg RoleId.mk (UInt32.toNat_inj.mp same)

theorem ConstraintId.place_ofNat {n : Nat} (bound : n < UInt32.size) :
    (ConstraintId.ofNat n).place = n :=
  UInt32.toNat_ofNat_of_lt bound

namespace Document

variable {d : Document} {s parts : Snapshot} {name : String}

/-- What the declaration of a fact type resolves to: each of its roles is numbered by its place
among all roles, names the fact type and has the player that is declared for it. -/
structure DenotesFactType (d : Document) (roles : List Role) (declared : FactTypeDeclaration × Nat)
    (f : FactType) : Prop extends declared.1.Declares f where
  id : f.id = .ofNat declared.2
  roles : List.Forall₂ (fun name id => ∃ player, d.player? name = some player ∧
    roles[id.place]? = some ⟨id, f.id, player⟩) (d.roleNames declared.1) f.roles

/-- How many roles the fact types of a list have. -/
def roleCount (d : Document) (list : List FactTypeDeclaration) : Nat :=
  (list.map fun f => (d.roleNames f).length).sum

@[simp]
theorem roleCount_cons (f : FactTypeDeclaration) (rest : List FactTypeDeclaration) :
    d.roleCount (f :: rest) = (d.roleNames f).length + d.roleCount rest := by
  rw [roleCount, List.map_cons, List.sum_cons, roleCount]

section Players

variable {list : List FactTypeDeclaration} {players : List (List Player)}
  (named : List.Forall₂ (fun f => List.Forall₂ (fun name player => d.player? name = some player)
    (d.roleNames f)) list players)
include named

/-- Roles are numbered in the order in which fact types list them. -/
theorem number_ids (factType role : Nat) :
    (number factType role (list.zip players)).1.flatMap (·.roles) =
        (number factType role (list.zip players)).2.map (·.id) ∧
      (number factType role (list.zip players)).2.map (·.id) =
        (List.range' role (d.roleCount list)).map .ofNat := by
  induction named generalizing factType role with
  | nil => exact ⟨rfl, rfl⟩
  | @cons f own rest others own_named _ ih =>
    obtain ⟨listed, ordered⟩ := ih (factType + 1) (role + own.length)
    rw [List.zip_cons_cons, number]
    constructor
    · rw [List.flatMap_cons, List.map_append, listed]
    · rw [List.map_append, ordered, roleCount_cons, own_named.length_eq, ← List.range'_append_1,
        List.map_append]
      congr 1
      apply List.ext_getElem <;> simp

theorem number_denotes (factType role : Nat) (before : List Role) (start : before.length = role)
    (bound : role + d.roleCount list ≤ UInt32.size) :
    List.Forall₂ (d.DenotesFactType (before ++ (number factType role (list.zip players)).2))
      (list.zipIdx factType) (number factType role (list.zip players)).1 := by
  induction named generalizing factType role before with
  | nil => exact .nil
  | @cons f own rest others own_named _ ih =>
    rw [roleCount_cons, own_named.length_eq] at bound
    rw [List.zip_cons_cons, number, List.zipIdx_cons]
    refine .cons { name := rfl, readings := rfl, id := rfl, roles := ?_ } ?_
    · rw [List.forall₂_iff_get]
      refine ⟨by simpa using own_named.length_eq, fun place inside _ => ?_⟩
      have inside_own : place < own.length := own_named.length_eq ▸ inside
      have small : role + place < UInt32.size := by omega
      refine ⟨own[place], own_named.get inside inside_own, ?_⟩
      subst start
      simp [RoleId.place_ofNat small, List.getElem?_append_right, List.getElem?_append_left,
        inside_own]
    · rw [← List.append_assoc]
      exact ih (factType + 1) (role + own.length) _ (by simp [start]) (by omega)

end Players

/-- No more nouns, fact types and roles than there are numbers. -/
structure Numberable (d : Document) : Prop where
  nouns : d.nouns.length ≤ UInt32.size
  factTypes : d.factTypes.length ≤ UInt32.size
  roles : d.roleCount d.factTypes ≤ UInt32.size

/-- What resolving makes of the nouns and the fact types of a document. -/
structure Numbers (d : Document) (s : Snapshot) : Prop where
  nouns : List.Forall₂ d.DenotesNoun d.nouns.zipIdx s.nouns
  factTypes : List.Forall₂ (d.DenotesFactType s.roles) d.factTypes.zipIdx s.factTypes
  listed : s.factTypes.flatMap (·.roles) = s.roles.map (·.id)
  ordered : s.roles.map (·.id) = (List.range (d.roleCount d.factTypes)).map .ofNat

theorem numbers_of_resolveParts (numberable : d.Numberable)
    (resolved : d.resolveParts = .ok parts) : d.Numbers parts := by
  have nouns_denote := nouns_of_resolveParts resolved
  rw [resolveParts] at resolved
  obtain ⟨nouns, _, resolved⟩ := bind_eq_ok_iff.mp resolved
  obtain ⟨players, players_resolved, resolved⟩ := bind_eq_ok_iff.mp resolved
  cases resolved
  have named := (mapM_eq_ok_iff.mp players_resolved).imp fun _ _ own =>
    (resolvePlayers_eq_ok_iff.mp own).1
  obtain ⟨listed, ordered⟩ := number_ids named 0 0
  constructor
  case nouns => exact nouns_denote
  case factTypes => exact number_denotes named 0 0 [] rfl (by simpa using numberable.roles)
  case listed => exact listed
  case ordered => rw [ordered, List.range_eq_range']

/-- A name leads to the number of a declaration that bears it. -/
theorem Numberable.nounId?_some (numberable : d.Numberable) {id : NounId}
    (named : d.nounId? name = some id) :
    ∃ declared, d.nouns[id.place]? = some declared ∧ declared.name = name := by
  obtain ⟨place, index, rfl⟩ := Option.map_eq_some_iff.mp named
  obtain ⟨declared, found, same⟩ := key_of_findIdx? index
  have small : place < UInt32.size :=
    Nat.lt_of_lt_of_le (List.getElem?_eq_some_iff.mp found).1 numberable.nouns
  exact ⟨declared, by rw [NounId.place_ofNat small, found], same⟩

theorem Numberable.factTypeId?_some (numberable : d.Numberable) {id : FactTypeId}
    (named : d.factTypeId? name = some id) :
    ∃ declared, d.factTypes[id.place]? = some declared ∧ declared.title = name := by
  obtain ⟨place, index, rfl⟩ := Option.map_eq_some_iff.mp named
  obtain ⟨declared, found, same⟩ := key_of_findIdx? index
  have small : place < UInt32.size :=
    Nat.lt_of_lt_of_le (List.getElem?_eq_some_iff.mp found).1 numberable.factTypes
  exact ⟨declared, by rw [FactTypeId.place_ofNat small, found], same⟩

namespace Numbers

variable (numbers : d.Numbers s)
include numbers

theorem noun_declared {place : Nat} {noun : Noun} (found : s.nouns[place]? = some noun) :
    ∃ declared, d.nouns[place]? = some declared ∧ d.DenotesNoun (declared, place) noun :=
  exists_getElem?_zipIdx numbers.nouns found

theorem noun_at {place : Nat} {declared : NounDeclaration}
    (there : d.nouns[place]? = some declared) :
    ∃ noun, s.nouns[place]? = some noun ∧ d.DenotesNoun (declared, place) noun :=
  exists_getElem?_of_zipIdx numbers.nouns there

theorem factType_declared {place : Nat} {f : FactType} (found : s.factTypes[place]? = some f) :
    ∃ declared, d.factTypes[place]? = some declared ∧
      d.DenotesFactType s.roles (declared, place) f :=
  exists_getElem?_zipIdx numbers.factTypes found

theorem factType_at {place : Nat} {declared : FactTypeDeclaration}
    (there : d.factTypes[place]? = some declared) :
    ∃ f, s.factTypes[place]? = some f ∧ d.DenotesFactType s.roles (declared, place) f :=
  exists_getElem?_of_zipIdx numbers.factTypes there

theorem nouns_length : s.nouns.length = d.nouns.length := by
  rw [← numbers.nouns.length_eq, List.length_zipIdx]

theorem names : s.nouns.map (·.name) = d.nouns.map (·.name) :=
  map_eq_map_of_zipIdx numbers.nouns fun denotes => denotes.name

theorem titles : s.factTypes.map (·.title) = d.factTypes.map (·.title) :=
  map_eq_map_of_zipIdx numbers.factTypes fun denotes => denotes.title

theorem roles_length : s.roles.length = d.roleCount d.factTypes := by
  simpa using congrArg List.length numbers.ordered

end Numbers

end Document
end ObjectRole

import ObjectRole.Proofs.Model.Acyclic
import ObjectRole.Proofs.Model.Resolution
import Mathlib.Logic.Relation
import Mathlib.Order.RelClasses

/-! Supertypes of a resolved model are subjects of it and lead nowhere back, so that the lineage of
a subject is the subject and the lineage of its supertype. -/
namespace ObjectRole

namespace Snapshot

variable {s : Snapshot} {player parent : Player}

/-- A climb from a subject comes to its supertypes only. -/
theorem reaches_of_mem_climb {steps : Nat} {subject : Player}
    (listed : player ∈ lineage.climb s steps subject) :
    Relation.ReflTransGen (fun parent child => s.superTypeOf child = some parent) player
      subject := by
  induction steps generalizing subject with
  | zero => exact List.mem_singleton.mp listed ▸ .refl
  | succ steps ih =>
    rw [lineage.climb] at listed
    split at listed
    · rename_i parent above
      rcases List.mem_cons.mp listed with rfl | later
      · exact .refl
      · exact (ih later).tail above
    · exact List.mem_singleton.mp listed ▸ .refl

/-- Supertypes are between nouns of the model and lead nowhere back. -/
structure Rooted (s : Snapshot) : Prop where
  nouns : ∀ {player parent}, s.superTypeOf player = some parent →
    player ∈ s.nouns.map (.noun ·.id) ∧ parent ∈ s.nouns.map (.noun ·.id)
  wellFounded : WellFounded fun parent child => s.superTypeOf child = some parent

/-- Every noun is numbered by its place, and its supertype is one of the nouns. -/
def Numbered (nouns : List Noun) : Prop :=
  ∀ place (noun : Noun), nouns[place]? = some noun → noun.id = .ofNat place ∧
    ∀ id, noun.superType = some id → ∃ other < nouns.length, id = .ofNat other

theorem Numbered.mem {nouns : List Noun} (numbered : Numbered nouns) {place : Nat}
    (bound : place < nouns.length) : Player.noun (.ofNat place) ∈ nouns.map (.noun ·.id) := by
  have own := (numbered place _ (List.getElem?_eq_getElem bound)).1
  exact List.mem_map.mpr ⟨nouns[place], List.getElem_mem bound, congrArg Player.noun own⟩

theorem Numbered.between (numbered : Numbered s.nouns)
    (edge : s.superTypeOf player = some parent) :
    player ∈ s.nouns.map (.noun ·.id) ∧ parent ∈ s.nouns.map (.noun ·.id) := by
  cases player with
  | factType => cases edge
  | noun id =>
    obtain ⟨superId, above, rfl⟩ := Option.map_eq_some_iff.mp edge
    rw [noun, noun?] at above
    cases found : s.nouns[id.place]? with
    | none => rw [found] at above; cases above
    | some noun =>
      rw [found] at above
      obtain ⟨other, bound, rfl⟩ := (numbered id.place noun found).2 superId above
      obtain ⟨id_bound, _⟩ := List.getElem?_eq_some_iff.mp found
      have own : id = .ofNat id.place := by simp [NounId.ofNat, NounId.place]
      exact ⟨own ▸ numbered.mem id_bound, numbered.mem bound⟩

end Snapshot

namespace Document

variable {d : Document} {s : Snapshot}

/-- The number of a noun that a document names is the place of a declaration. -/
theorem place_of_nounId? {name : String} {id : NounId} (named : d.nounId? name = some id) :
    ∃ place < d.nouns.length, id = .ofNat place := by
  obtain ⟨place, index, rfl⟩ := Option.map_eq_some_iff.mp named
  obtain ⟨bound, _⟩ := List.findIdx?_eq_some_iff_getElem.mp index
  exact ⟨place, bound, rfl⟩

theorem resolveParts_numbered {parts : Snapshot} (resolved : d.resolveParts = .ok parts) :
    Snapshot.Numbered parts.nouns := by
  have each := nouns_of_resolveParts resolved
  have length : parts.nouns.length = d.nouns.length := by
    rw [← each.length_eq, List.length_zipIdx]
  intro place noun found
  obtain ⟨declared, _, denotes⟩ := exists_getElem?_zipIdx each found
  refine ⟨denotes.id, fun id same => ?_⟩
  obtain ⟨name, _, named⟩ := exists_of_rel_some (same ▸ denotes.superType)
  exact length ▸ place_of_nounId? named

/-- A resolved model has the parts that its declarations resolve to, and passed the check of its
supertypes. -/
theorem exists_parts_of_resolve (resolved : d.resolve = .ok s) : ∃ parts,
    d.resolveParts = .ok parts ∧ s.nouns = parts.nouns ∧ s.factTypes = parts.factTypes ∧
      s.roles = parts.roles ∧ s.checkAcyclic = .ok () := by
  obtain ⟨_, parts, made, _, _, _, _, _, _, _, rfl, checked⟩ := resolve_eq_ok_iff.mp resolved
  exact ⟨parts, made, rfl, rfl, rfl, checked⟩

/-- A resolved model has nouns that are numbered by their places, and no supertype cycle. -/
theorem resolve_numbered (resolved : d.resolve = .ok s) :
    Snapshot.Numbered s.nouns ∧ s.cycleAlong s.superTypeEdges = none := by
  obtain ⟨parts, parts_resolved, nouns, _, _, checked⟩ := exists_parts_of_resolve resolved
  refine ⟨nouns ▸ resolveParts_numbered parts_resolved, ?_⟩
  rw [Snapshot.checkAcyclic] at checked
  split at checked
  · cases checked
  · rename_i free
    exact Option.eq_none_iff_forall_ne_some.mpr fun names found => free names found

theorem rooted_of_resolve (resolved : d.resolve = .ok s) : s.Rooted := by
  obtain ⟨numbered, free⟩ := resolve_numbered resolved
  refine ⟨numbered.between, ⟨?_⟩⟩
  intro player
  have closed : ∀ player ∈ s.subjects, s.superTypeEdges player ⊆ s.subjects := by
    intro player _ parent edge
    exact List.mem_append_left _ (numbered.between (Option.mem_toList.mp edge)).2
  have grounded := Snapshot.grounded_of_cycleAlong closed free
  have same : (fun parent child => s.superTypeOf child = some parent) =
      fun next player => next ∈ s.superTypeEdges player := by
    funext parent child
    exact propext Option.mem_toList.symm
  rw [same]
  apply Acc.intro
  intro parent edge
  apply grounded parent
  exact List.mem_append_left _ (numbered.between (Option.mem_toList.mp edge)).2

end Document

namespace Snapshot

variable {s : Snapshot} {player parent : Player}

theorem Rooted.irrefl (rooted : s.Rooted) :
    ¬Relation.TransGen (fun parent child => s.superTypeOf child = some parent) player player :=
  fun loop => rooted.wellFounded.transGen.asymmetric _ _ loop loop

/-- More steps than there are nouns besides those climbed already change nothing. -/
theorem Rooted.climb_succ (rooted : s.Rooted) {steps : Nat} {path : List Player}
    (nodup : path.Nodup) (inside : path ⊆ s.nouns.map (.noun ·.id))
    (below : ∀ child ∈ path,
      Relation.TransGen (fun parent child => s.superTypeOf child = some parent) player child)
    (enough : s.nouns.length ≤ path.length + steps) :
    lineage.climb s (steps + 1) player = lineage.climb s steps player := by
  have next_nodup : (player :: path).Nodup :=
    List.nodup_cons.mpr ⟨fun member => rooted.irrefl (below player member), nodup⟩
  induction steps generalizing path player with
  | zero =>
    rw [lineage.climb, lineage.climb]
    cases above : s.superTypeOf player with
    | none => rfl
    | some parent =>
      have known := (rooted.nouns above).1
      have bound := next_nodup.length_le_of_subset (List.cons_subset.mpr ⟨known, inside⟩)
      rw [List.length_cons, List.length_map] at bound
      omega
  | succ steps ih =>
    rw [lineage.climb, lineage.climb]
    cases above : s.superTypeOf player with
    | none => rfl
    | some parent =>
      have parent_below : ∀ child ∈ player :: path, Relation.TransGen
          (fun parent child => s.superTypeOf child = some parent) parent child := by
        intro child member
        rcases List.mem_cons.mp member with rfl | lower
        · exact .single above
        · exact .head above (below child lower)
      have known := (rooted.nouns above).1
      have fresh : parent ∉ player :: path := fun member =>
        rooted.irrefl (parent_below parent member)
      have enough : s.nouns.length ≤ (player :: path).length + steps := by
        rw [List.length_cons]
        omega
      exact congrArg (player :: ·) (ih next_nodup (List.cons_subset.mpr ⟨known, inside⟩)
        parent_below enough (List.nodup_cons.mpr ⟨fresh, next_nodup⟩))

/-- The lineage of a subject is the subject and the lineage of its supertype. -/
theorem Rooted.lineage_eq (rooted : s.Rooted) (player : Player) :
    s.lineage player = player :: (s.superTypeOf player).elim [] s.lineage := by
  have last : lineage.climb s (s.nouns.length + 1) player = lineage.climb s s.nouns.length player :=
    rooted.climb_succ List.nodup_nil (List.nil_subset _) (fun _ member => by contradiction)
      (by simp)
  rw [lineage, ← last, lineage.climb]
  cases s.superTypeOf player <;> rfl

end Snapshot
end ObjectRole

import ObjectRole.Api.Tiers
import Mathlib.Data.List.Perm.Basic

/-! The order in which a flat read tier asks the update tiers of its supertypes. It asks the nearest
first unless a supertype's read tier was flattened before its own and its own new tier was not. -/
namespace ObjectRole

/-- The order in which a read tier before its own new tier meets the update tiers of supertypes. It
comes to the last one in the round after that in which it meets the parent: one with a key before
the read tier's is flat and overtakes the last one with all that it has met itself. -/
def overtaken (key last : String) : List String → List String
  | [] => [last]
  | parent :: rest =>
    if key < parent then last :: overtaken key parent rest
    else (if newKey parent < parent then parent :: rest else overtaken parent parent rest) ++ [last]

/-- The order in which the flat read tier of the first key asks the update tiers of a chain. -/
def readOrder : List String → List String
  | [] => []
  | key :: rest => if newKey key < key then key :: rest else overtaken key key rest

variable {key last parent : String} {rest chain : List String}

theorem overtaken_cons (key last parent : String) (rest : List String) :
    overtaken key last (parent :: rest) =
      if key < parent then last :: overtaken key parent rest
      else readOrder (parent :: rest) ++ [last] := rfl

theorem overtaken_perm (key last : String) (rest : List String) :
    (overtaken key last rest).Perm (last :: rest) := by
  induction rest generalizing key last with
  | nil => exact .refl _
  | cons parent rest ih =>
    rw [overtaken]
    split
    · exact .cons last (ih key parent)
    · refine List.perm_append_comm.trans (.cons last ?_)
      split
      · exact .refl _
      · exact ih parent parent

theorem readOrder_perm (chain : List String) : (readOrder chain).Perm chain := by
  cases chain with
  | nil => exact .refl _
  | cons key rest =>
    rw [readOrder]
    split
    · exact .refl _
    · exact overtaken_perm key key rest

/-- A chain is asked behind a key that it overtook. -/
theorem head?_readOrder_append (absent : last ∉ parent :: rest) :
    (readOrder (parent :: rest) ++ [last]).head? ≠ some last := by
  intro head
  have perm := readOrder_perm (parent :: rest)
  cases order : readOrder (parent :: rest) with
  | nil =>
    rw [order] at perm
    exact List.cons_ne_nil _ _ perm.nil_eq.symm
  | cons first others =>
    rw [order, List.cons_append, List.head?_cons] at head
    refine absent (perm.mem_iff.mp ?_)
    rw [order, Option.some.inj head]
    exact .head _

/-- The first one asked is the key itself unless its parent overtakes it. -/
theorem head?_readOrder_iff (nodup : (key :: rest).Nodup) :
    (readOrder (key :: rest)).head? = some key ↔
      newKey key < key ∨ ∀ parent ∈ rest.head?, key < parent := by
  rw [readOrder]
  split
  · rename_i late
    exact iff_of_true rfl (.inl late)
  · rename_i early
    cases rest with
    | nil => simp [overtaken]
    | cons parent rest =>
      rw [overtaken_cons]
      split
      · rename_i above
        exact iff_of_true rfl (.inr fun other is_head => Option.some.inj is_head ▸ above)
      · rename_i below
        refine iff_of_false (head?_readOrder_append (List.nodup_cons.mp nodup).1) ?_
        rintro (late | all)
        · exact early late
        · exact below (all parent rfl)

theorem overtaken_eq_iff (nodup : (last :: rest).Nodup) :
    overtaken key last rest = last :: rest ↔ ∀ other ∈ rest, key < other := by
  induction rest generalizing last with
  | nil => simp [overtaken]
  | cons parent rest ih =>
    obtain ⟨absent, nodup⟩ := List.nodup_cons.mp nodup
    rw [overtaken_cons, List.forall_mem_cons]
    split
    · rename_i above
      rw [List.cons_inj_right, ih nodup]
      exact (and_iff_right above).symm
    · rename_i below
      refine iff_of_false ?_ fun both => below both.1
      intro same
      exact head?_readOrder_append absent (congrArg List.head? same)

/-- The nearest is asked first all along the chain if and only if the new tier comes first or no
supertype comes before the key. -/
theorem readOrder_eq_iff (nodup : (key :: rest).Nodup) :
    readOrder (key :: rest) = key :: rest ↔ newKey key < key ∨ ∀ other ∈ rest, key < other := by
  rw [readOrder]
  split
  · rename_i late
    exact iff_of_true rfl (.inl late)
  · rename_i early
    rw [overtaken_eq_iff nodup]
    exact (or_iff_right early).symm

end ObjectRole

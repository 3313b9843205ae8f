import ObjectRole.Api.Operations
import ObjectRole.Proofs.Naming.Letters

/-! What separates the parts of paths and of operation ids: keys have no hyphens, and no slashes
but those of their names. -/
namespace ObjectRole

namespace Text

variable {sign : Char}

/-- Where a text is cut at the first of some signs, the parts are determined. -/
theorem cut_inj {head head' tail tail' : List Char} (before : sign ∉ head)
    (before' : sign ∉ head') (same : head ++ sign :: tail = head' ++ sign :: tail') :
    head = head' ∧ tail = tail' := by
  induction head generalizing head' with
  | nil =>
    cases head' with
    | nil => exact ⟨rfl, (List.cons.inj same).2⟩
    | cons c rest => exact absurd ((List.cons.inj same).1 ▸ List.mem_cons_self) before'
  | cons c rest ih =>
    cases head' with
    | nil => exact absurd ((List.cons.inj same).1 ▸ List.mem_cons_self) before
    | cons c' rest' =>
      obtain ⟨first, rests⟩ := List.cons.inj same
      obtain ⟨heads, tails⟩ := ih (fun inside => before (.tail _ inside))
        (fun inside => before' (.tail _ inside)) rests
      exact ⟨congrArg₂ _ first heads, tails⟩

end Text

namespace Naming

variable {c : Char} {name : List Char}

/-- A key is made of its name's other characters and of spelled-out ampersands. -/
theorem mem_key_cases (inside : c ∈ key name) :
    c ∈ ['A', 'n', 'd'] ∨ c ∈ name ∧ c ∉ [' ', '-', '&'] := by
  obtain ⟨source, listed, from_letter⟩ := List.mem_flatMap.mp inside
  rw [keyLetters.eq_def] at from_letter
  split at from_letter
  · contradiction
  · contradiction
  · exact .inl from_letter
  · rename_i not_space not_hyphen not_ampersand
    cases List.mem_singleton.mp from_letter
    refine .inr ⟨listed, ?_⟩
    simp only [List.mem_cons, List.not_mem_nil, or_false, not_or]
    exact ⟨not_space, not_hyphen, not_ampersand⟩

theorem not_mem_key (dropped : c ∈ [' ', '-', '&']) : c ∉ key name := by
  intro inside
  rcases mem_key_cases inside with spelled | ⟨_, other⟩
  · have apart : List.Disjoint ['A', 'n', 'd'] [' ', '-', '&'] := by simp
    exact apart spelled dropped
  · exact other dropped

/-- A slash in a key is one of the name. -/
theorem slash_mem_of_mem_key (inside : '/' ∈ key name) : '/' ∈ name := by
  rcases mem_key_cases inside with spelled | ⟨listed, _⟩
  · exact absurd spelled (by decide)
  · exact listed

end Naming
end ObjectRole

import ObjectRole.Proofs.Model.Acyclic
import ObjectRole.Proofs.Model.WellFormed

/-! What a check for cycles answers. It tells a cycle of supertypes from one of identifying players,
and both from one that takes the two kinds of edges together; the names it gives are those along
such a cycle. -/
namespace ObjectRole

/-- Edges that lead from some player back to it. -/
def Player.Loops (edges : Player → List Player) : Prop :=
  ∃ player, LeadsTo edges player player

namespace Snapshot

open Player

variable {s : Snapshot} {edges : Player → List Player} {names : List String}

/-- Names along a walk that ends where it begins. -/
def NamesLoop (s : Snapshot) (edges : Player → List Player) (names : List String) : Prop :=
  ∃ cycle, ClosedWalk edges cycle ∧ names = cycle.map s.nameOf

theorem namesLoop_of_cycleAlong (found : s.cycleAlong edges = some names) :
    s.NamesLoop edges names := by
  obtain ⟨cycle, same, walk⟩ := closedWalk_of_cycleAlong found
  exact ⟨cycle, walk, same⟩

theorem loops_of_cycleAlong (found : s.cycleAlong edges = some names) : Loops edges := by
  obtain ⟨_, _, walk⟩ := closedWalk_of_cycleAlong found
  exact walk.loop

theorem InPlace.not_loops (placed : s.InPlace)
    (part : ∀ player, edges player ⊆ s.inheritedEdges player)
    (free : s.cycleAlong edges = none) : ¬Loops edges := by
  have closed (player : Player) := List.Subset.trans (part player) (placed.edges_subset player)
  rintro ⟨player, loop⟩
  exact (cycleAlong_eq_none_iff closed).mp free player loop

/-- The check complains of supertypes just if they lead back, of identifying players just if these
do and supertypes do not, of both together just if neither does alone, and else of nothing. With a
complaint come the names along a closed walk. -/
theorem checkAcyclic_complains (placed : s.InPlace) :
    ((∃ names, s.checkAcyclic = .error (.superTypeCycle names)) ↔ Loops s.superTypeEdges) ∧
    ((∃ names, s.checkAcyclic = .error (.identificationCycle names)) ↔
      ¬Loops s.superTypeEdges ∧ Loops s.identifyingPlayers) ∧
    ((∃ names, s.checkAcyclic = .error (.inheritedIdentificationCycle names)) ↔
      ¬Loops s.superTypeEdges ∧ ¬Loops s.identifyingPlayers ∧ Loops s.inheritedEdges) ∧
    (s.checkAcyclic = .ok () ↔
      ¬Loops s.superTypeEdges ∧ ¬Loops s.identifyingPlayers ∧ ¬Loops s.inheritedEdges) ∧
    (∀ names, s.checkAcyclic = .error (.superTypeCycle names) →
      s.NamesLoop s.superTypeEdges names) ∧
    (∀ names, s.checkAcyclic = .error (.identificationCycle names) →
      s.NamesLoop s.identifyingPlayers names) ∧
    ∀ names, s.checkAcyclic = .error (.inheritedIdentificationCycle names) →
      s.NamesLoop s.inheritedEdges names := by
  have no_super : s.cycleAlong s.superTypeEdges = none → ¬Loops s.superTypeEdges :=
    placed.not_loops fun _ => List.subset_append_right _ _
  have no_own : s.cycleAlong s.identifyingPlayers = none → ¬Loops s.identifyingPlayers :=
    placed.not_loops fun _ => List.subset_append_left _ _
  have no_both : s.cycleAlong s.inheritedEdges = none → ¬Loops s.inheritedEdges :=
    placed.not_loops fun _ => List.Subset.refl _
  rcases s.checkAcyclic_cases with ⟨names, super, checked⟩ | ⟨names, super, own, checked⟩ |
    ⟨names, super, own, both, checked⟩ | ⟨super, own, both, checked⟩
  · have loops := loops_of_cycleAlong super
    have walk := namesLoop_of_cycleAlong super
    simp [checked, loops, walk]
  · have loops := loops_of_cycleAlong own
    have walk := namesLoop_of_cycleAlong own
    simp [checked, no_super super, loops, walk]
  · have loops := loops_of_cycleAlong both
    have walk := namesLoop_of_cycleAlong both
    simp [checked, no_super super, no_own own, loops, walk]
  · simp [checked, no_super super, no_own own, no_both both]

end Snapshot

namespace Document

open Player

/-- A person is identified by an employee, who is a person; persons lead departments. -/
def headships : Document where
  nouns := [
    { name := "Employee", superType := some "Person" },
    { name := "Person", referenceScheme := ["Employee"] },
    { name := "Department" }]
  factTypes := [{ name := some "Headship", readings := [.text "Person leads Department"] }]

/-- Neither supertypes nor identifying players lead back, but both together do. -/
theorem checkAcyclic_complains_of_headships : ∃ s, headships.resolveParts = .ok s ∧ s.InPlace ∧
    s.checkAcyclic = .error (.inheritedIdentificationCycle ["Employee", "Person", "Employee"]) ∧
    ¬Loops s.superTypeEdges ∧ ¬Loops s.identifyingPlayers ∧
    s.NamesLoop s.inheritedEdges ["Employee", "Person", "Employee"] := by
  have numberable : headships.Numberable := ⟨by decide, by decide, by decide +kernel⟩
  have distinct : headships.checkNames = .ok () := by decide
  have passed : headships.resolveParts.toOption.any fun s => decide <|
      s.checkAcyclic =
        .error (.inheritedIdentificationCycle ["Employee", "Person", "Employee"]) := by
    decide +kernel
  obtain ⟨s, made, refused⟩ := (Option.any_eq_true ..).mp passed
  have made := eq_ok_of_toOption made
  have refused := of_decide_eq_true refused
  have placed := (wellFormed_of_resolveParts numberable distinct made).inPlace
  obtain ⟨_, _, inherited, _, _, _, walks⟩ := Snapshot.checkAcyclic_complains placed
  obtain ⟨no_super, no_own, _⟩ := inherited.mp ⟨_, refused⟩
  exact ⟨s, made, placed, refused, no_super, no_own, walks _ refused⟩

end Document
end ObjectRole

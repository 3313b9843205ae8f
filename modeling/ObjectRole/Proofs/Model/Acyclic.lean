import ObjectRole.Model.Acyclic
import ObjectRole.Proofs.Except
import Mathlib.Data.List.Chain
import Mathlib.Logic.Relation

/-! The search for cycles is complete: where it finds none, no walk along the edges goes on for
ever. A search in depth keeps its path free of repeated players, so its steps never run out, and it
leaves a player only when all that can be reached from it is done. The search is sound, too: its
path is a walk, and what it answers is the end of the path from where it closes. -/
namespace ObjectRole

namespace Player

variable {edges : Player → List Player} {subjects path done found nexts : List Player}
  {player : Player} {steps : Nat}

/-- The edges lead from one player to another. -/
abbrev LeadsTo (edges : Player → List Player) : Player → Player → Prop :=
  Relation.TransGen fun player next => next ∈ edges player

/-- No walk that begins at one of the players goes on for ever. -/
def Grounded (edges : Player → List Player) (done : List Player) : Prop :=
  ∀ player ∈ done, Acc (fun next player => next ∈ edges player) player

/-- What a search leaves behind: players that were done still are, and the new one is, too. -/
structure Explores (edges : Player → List Player) (done found : List Player) (player : Player) :
    Prop where
  grounded : Grounded edges found
  keeps : done ⊆ found
  reached : player ∈ found

theorem follow_explores {visit : List Player → List Player → Player → Except Cycle (List Player)}
    {next : Player} (grounded : Grounded edges done)
    (visits : next ∉ path → visit path done next = .ok found → Explores edges done found next)
    (followed : follow visit path done next = .ok found) : Explores edges done found next := by
  rw [follow] at followed
  split at followed
  · cases followed
  · rename_i off_path
    split at followed
    · rename_i known
      cases followed
      exact ⟨grounded, List.Subset.refl _, List.contains_iff_mem.mp known⟩
    · exact visits (fun member => off_path (List.contains_iff_mem.mpr member)) followed

theorem foldlM_follow {visit : List Player → List Player → Player → Except Cycle (List Player)}
    (visits : ∀ {done found next}, next ∈ nexts → next ∉ path → Grounded edges done →
      visit path done next = .ok found → Explores edges done found next)
    (grounded : Grounded edges done) (run : nexts.foldlM (follow visit path) done = .ok found) :
    Grounded edges found ∧ done ⊆ found ∧ nexts ⊆ found := by
  induction nexts generalizing done with
  | nil =>
    cases run
    exact ⟨grounded, List.Subset.refl _, List.nil_subset _⟩
  | cons next rest ih =>
    rw [List.foldlM_cons] at run
    cases followed : follow visit path done next with
    | error => rw [followed] at run; cases run
    | ok middle =>
      rw [followed] at run
      have first := follow_explores grounded
        (fun off_path => visits List.mem_cons_self off_path grounded) followed
      obtain ⟨grounded, keeps, reached⟩ :=
        ih (fun later => visits (List.mem_cons_of_mem _ later)) first.grounded run
      exact ⟨grounded, List.Subset.trans first.keeps keeps,
        List.cons_subset.mpr ⟨keeps first.reached, reached⟩⟩

variable (closed : ∀ player ∈ subjects, edges player ⊆ subjects)
include closed

theorem explore_explores (nodup : path.Nodup) (inside : path ⊆ subjects) (known : player ∈ subjects)
    (off_path : player ∉ path) (enough : subjects.length < path.length + steps)
    (grounded : Grounded edges done) (run : explore edges steps path done player = .ok found) :
    Explores edges done found player := by
  have longer_nodup : (player :: path).Nodup := List.nodup_cons.mpr ⟨off_path, nodup⟩
  have longer_inside : player :: path ⊆ subjects := List.cons_subset.mpr ⟨known, inside⟩
  induction steps generalizing path done found player with
  | zero =>
    have bound := longer_nodup.length_le_of_subset longer_inside
    rw [List.length_cons] at bound
    omega
  | succ steps ih =>
    rw [explore] at run
    cases result : (edges player).foldlM (follow (explore edges steps) (player :: path)) done with
    | error => rw [result] at run; cases run
    | ok middle =>
      rw [result] at run
      cases run
      obtain ⟨grounded, keeps, reached⟩ := foldlM_follow
        (fun {_ _ next} listed next_off grounded run =>
          have next_known := closed player known listed
          ih longer_nodup longer_inside next_known next_off (by rw [List.length_cons]; omega)
            grounded run (List.nodup_cons.mpr ⟨next_off, longer_nodup⟩)
            (List.cons_subset.mpr ⟨next_known, longer_inside⟩)) grounded result
      refine ⟨?_, fun other old => .tail _ (keeps old), .head _⟩
      intro other member
      rcases List.mem_cons.mp member with rfl | earlier
      · exact .intro _ fun next listed => grounded next (reached listed)
      · exact grounded other earlier

end Player

section Walks

variable {α : Type} {R : α → α → Prop}

theorem takeWhile_append_prefix [BEq α] [LawfulBEq α] {list : List α} {a : α} (listed : a ∈ list) :
    list.takeWhile (· != a) ++ [a] <+: list := by
  induction list with
  | nil => contradiction
  | cons b rest ih =>
    by_cases same : b = a
    · simp [same]
    · have later := (List.mem_cons.mp listed).resolve_left (Ne.symm same)
      simpa [same] using ih later

theorem transGen_of_isChain {a b : α} {between : List α}
    (chain : (a :: between ++ [b]).IsChain R) : Relation.TransGen R a b := by
  induction between generalizing a with
  | nil => exact .single (List.isChain_cons_cons.mp chain).1
  | cons c rest ih =>
    obtain ⟨first, chain⟩ := List.isChain_cons_cons.mp chain
    exact .head first (ih chain)

end Walks

namespace Player

variable {edges : Player → List Player} {path done : List Player} {player next : Player}
  {cycle : Cycle}

/-- A walk along the edges that ends where it begins. -/
structure ClosedWalk (edges : Player → List Player) (cycle : Cycle) : Prop where
  steps : cycle.IsChain fun player next => next ∈ edges player
  returns : ∃ player between, cycle = player :: between ++ [player]

theorem follow_closedWalk {visit : List Player → List Player → Player → Except Cycle (List Player)}
    (walk : (next :: path).IsChain fun next player => next ∈ edges player)
    (visits : visit path done next = .error cycle → ClosedWalk edges cycle)
    (failed : follow visit path done next = .error cycle) : ClosedWalk edges cycle := by
  rw [follow] at failed
  split at failed
  · rename_i closes
    cases failed
    have ends := takeWhile_append_prefix (List.contains_iff_mem.mp closes)
    constructor
    · rw [List.isChain_reverse]
      exact walk.prefix ((List.prefix_cons_inj next).mpr ends)
    · exact ⟨next, (path.takeWhile (· != next)).reverse, by simp⟩
  · split at failed
    · cases failed
    · exact visits failed

theorem explore_closedWalk {steps : Nat}
    (walk : (player :: path).IsChain fun next player => next ∈ edges player)
    (failed : explore edges steps path done player = .error cycle) : ClosedWalk edges cycle := by
  induction steps generalizing path done player with
  | zero => cases failed
  | succ steps ih =>
    rw [explore] at failed
    cases result : (edges player).foldlM (follow (explore edges steps) (player :: path)) done with
    | ok => rw [result] at failed; cases failed
    | error =>
      rw [result] at failed
      cases failed
      obtain ⟨done, next, edge, failed⟩ := exists_of_foldlM_eq_error result
      have longer := List.isChain_cons_cons.mpr ⟨edge, walk⟩
      exact follow_closedWalk longer (ih longer) failed

/-- A closed walk leads from a player back to it. -/
theorem ClosedWalk.loop (walk : ClosedWalk edges cycle) :
    ∃ player, LeadsTo edges player player := by
  obtain ⟨steps, player, between, rfl⟩ := walk
  exact ⟨player, transGen_of_isChain steps⟩

/-- Where no walk goes on for ever, none leads back. -/
theorem no_loop_of_acc (grounded : Acc (fun next player => next ∈ edges player) player) :
    ¬LeadsTo edges player player := by
  have closed := grounded.transGen
  clear grounded
  induction closed with
  | intro player _ ih =>
    intro loop
    exact ih player (Relation.transGen_swap.mp loop) loop

end Player

namespace Snapshot

variable {s : Snapshot} {edges : Player → List Player}

/-- Where the search finds no cycle, no walk that begins at a subject goes on for ever. -/
theorem grounded_of_cycleAlong (closed : ∀ player ∈ s.subjects, edges player ⊆ s.subjects)
    (free : s.cycleAlong edges = none) : Player.Grounded edges s.subjects := by
  rw [cycleAlong] at free
  split at free
  · rename_i found run
    obtain ⟨grounded, _, reached⟩ := Player.foldlM_follow
      (fun listed off_path grounded run => Player.explore_explores closed List.nodup_nil
        (List.nil_subset _) listed off_path (by simp) grounded run)
      (fun _ member => by contradiction) run
    exact fun player member => grounded player (reached member)
  · cases free

/-- What the search answers are the names along a closed walk. -/
theorem closedWalk_of_cycleAlong {names : List String} (found : s.cycleAlong edges = some names) :
    ∃ cycle, names = cycle.map s.nameOf ∧ Player.ClosedWalk edges cycle := by
  rw [cycleAlong] at found
  split at found
  · cases found
  · rename_i cycle failed
    cases found
    obtain ⟨done, player, _, failed⟩ := exists_of_foldlM_eq_error failed
    exact ⟨cycle, rfl, Player.follow_closedWalk (.singleton _)
      (Player.explore_closedWalk (.singleton _)) failed⟩

/-- The search finds nothing just where no walk leads back to where it begins. -/
theorem cycleAlong_eq_none_iff (closed : ∀ player, edges player ⊆ s.subjects) :
    s.cycleAlong edges = none ↔ ∀ player, ¬Player.LeadsTo edges player player := by
  constructor
  · intro free player loop
    obtain ⟨before, _, edge⟩ := Relation.TransGen.tail'_iff.mp loop
    exact Player.no_loop_of_acc
      (grounded_of_cycleAlong (fun player _ => closed player) free player (closed before edge)) loop
  · intro acyclic
    refine Option.eq_none_iff_forall_ne_some.mpr fun names found => ?_
    obtain ⟨_, _, walk⟩ := closedWalk_of_cycleAlong found
    obtain ⟨player, loop⟩ := walk.loop
    exact acyclic player loop

/-- The first of the three searches that finds a cycle decides. -/
theorem checkAcyclic_cases (s : Snapshot) :
    (∃ names, s.cycleAlong s.superTypeEdges = some names ∧
      s.checkAcyclic = .error (.superTypeCycle names)) ∨
    (∃ names, s.cycleAlong s.superTypeEdges = none ∧
      s.cycleAlong s.identifyingPlayers = some names ∧
      s.checkAcyclic = .error (.identificationCycle names)) ∨
    (∃ names, s.cycleAlong s.superTypeEdges = none ∧ s.cycleAlong s.identifyingPlayers = none ∧
      s.cycleAlong s.inheritedEdges = some names ∧
      s.checkAcyclic = .error (.inheritedIdentificationCycle names)) ∨
    s.cycleAlong s.superTypeEdges = none ∧ s.cycleAlong s.identifyingPlayers = none ∧
      s.cycleAlong s.inheritedEdges = none ∧ s.checkAcyclic = .ok () := by
  rw [checkAcyclic]
  cases s.cycleAlong s.superTypeEdges with
  | some names => exact .inl ⟨names, rfl, rfl⟩
  | none =>
    cases s.cycleAlong s.identifyingPlayers with
    | some names => exact .inr (.inl ⟨names, rfl, rfl, rfl⟩)
    | none =>
      cases s.cycleAlong s.inheritedEdges with
      | some names => exact .inr (.inr (.inl ⟨names, rfl, rfl, rfl, rfl⟩))
      | none => exact .inr (.inr (.inr ⟨rfl, rfl, rfl, rfl⟩))

/-- Supertypes, identifying players and both together lead nowhere back if both together do not. -/
theorem checkAcyclic_eq_ok_iff (closed : ∀ player, s.inheritedEdges player ⊆ s.subjects) :
    s.checkAcyclic = .ok () ↔ ∀ player, ¬Player.LeadsTo s.inheritedEdges player player := by
  have fewer {edges : Player → List Player}
      (part : ∀ player, edges player ⊆ s.inheritedEdges player)
      (acyclic : ∀ player, ¬Player.LeadsTo s.inheritedEdges player player) :
      s.cycleAlong edges = none :=
    (cycleAlong_eq_none_iff fun player => List.Subset.trans (part player) (closed player)).mpr
      fun player loop =>
        acyclic player (Relation.TransGen.mono (fun _ _ edge => part _ edge) _ _ loop)
  have all_three : s.checkAcyclic = .ok () ↔ s.cycleAlong s.superTypeEdges = none ∧
      s.cycleAlong s.identifyingPlayers = none ∧ s.cycleAlong s.inheritedEdges = none := by
    rcases s.checkAcyclic_cases with ⟨_, super, checked⟩ | ⟨_, super, own, checked⟩ |
      ⟨_, super, own, both, checked⟩ | ⟨super, own, both, checked⟩ <;> simp [*]
  rw [all_three]
  constructor
  · exact fun free => (cycleAlong_eq_none_iff closed).mp free.2.2
  · intro acyclic
    exact ⟨fewer (fun _ => List.subset_append_right _ _) acyclic,
      fewer (fun _ => List.subset_append_left _ _) acyclic,
      (cycleAlong_eq_none_iff closed).mpr acyclic⟩

end Snapshot
end ObjectRole

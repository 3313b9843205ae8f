import ObjectRole.Model.Error
import ObjectRole.Model.Snapshot

/-! Cycles among subjects. Tables can only be built where supertypes, identifying players and both
together lead nowhere back. -/
namespace ObjectRole

namespace Player

/-- A closed walk: the players along it, the first repeated at the end. -/
abbrev Cycle := List Player

/-- One step of a search along `path`, the players that lead here, nearest first. `done` holds the
players that are known to reach no cycle. -/
def follow (visit : List Player → List Player → Player → Except Cycle (List Player))
    (path done : List Player) (next : Player) : Except Cycle (List Player) :=
  if path.contains next then
    .error ((next :: path.takeWhile (· != next) ++ [next]).reverse)
  else if done.contains next then .ok done
  else visit path done next

/-- Searches everything that can be reached from a player for a way back into the path. Without a
cycle the players found on the way are done. -/
def explore (edges : Player → List Player) :
    Nat → List Player → List Player → Player → Except Cycle (List Player)
  | 0, _, done, _ => .ok done
  | steps + 1, path, done, player =>
    (player :: ·) <$>
      (edges player).foldlM (follow (explore edges steps) (player :: path)) done

end Player

namespace Snapshot

/-- The names along the first cycle that a search from every subject meets. A path repeats no
subject, so it takes no more steps than there are subjects. -/
def cycleAlong (s : Snapshot) (edges : Player → List Player) : Option (List String) :=
  let steps := s.subjects.length + 1
  match s.subjects.foldlM (Player.follow (Player.explore edges steps) []) [] with
  | .ok _ => none
  | .error cycle => some (cycle.map s.nameOf)

def superTypeEdges (s : Snapshot) (player : Player) : List Player := (s.superTypeOf player).toList

def inheritedEdges (s : Snapshot) (player : Player) : List Player :=
  s.identifyingPlayers player ++ s.superTypeEdges player

/-- Refuses a snapshot with a cycle. -/
def checkAcyclic (s : Snapshot) : Except ModelError Unit := do
  if let some names := s.cycleAlong s.superTypeEdges then .error (.superTypeCycle names)
  if let some names := s.cycleAlong s.identifyingPlayers then .error (.identificationCycle names)
  if let some names := s.cycleAlong s.inheritedEdges then
    .error (.inheritedIdentificationCycle names)

end Snapshot
end ObjectRole

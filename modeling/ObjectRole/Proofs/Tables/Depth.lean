import ObjectRole.Proofs.Model.Supertypes
import ObjectRole.Proofs.Model.WellFormed
import ObjectRole.Tables.Builder
import Mathlib.Data.Finset.Card

/-! How deeply the calls that build tables nest. Where nothing leads back, a subject ranks by how
many subjects can be reached from it. A call goes on to a subject of lower rank, or from a property
to the table of its own object, so that two steps for each subject are enough, whatever tables are
open already. -/
namespace ObjectRole

namespace Player

variable {edges : Player → List Player} {subjects : List Player} {player next goal : Player}

open Classical in
/-- The subjects that can be reached from a player. -/
noncomputable def reachable (edges : Player → List Player) (subjects : List Player)
    (player : Player) : Finset Player :=
  {goal ∈ subjects.toFinset | LeadsTo edges player goal}

theorem mem_reachable : goal ∈ reachable edges subjects player ↔
    goal ∈ subjects ∧ LeadsTo edges player goal := by
  simp [reachable]

/-- How many subjects can be reached from a player. -/
noncomputable def rank (edges : Player → List Player) (subjects : List Player)
    (player : Player) : Nat :=
  (reachable edges subjects player).card

theorem rank_le (edges : Player → List Player) (subjects : List Player) (player : Player) :
    rank edges subjects player ≤ subjects.length := by
  have inside : reachable edges subjects player ⊆ subjects.toFinset :=
    fun _ listed => List.mem_toFinset.mpr (mem_reachable.mp listed).1
  exact (Finset.card_le_card inside).trans subjects.toFinset_card_le

/-- What can be reached from a player ranks below it, unless it leads back to itself. -/
theorem rank_lt (closed : ∀ player, edges player ⊆ subjects)
    (acyclic : ∀ player, ¬LeadsTo edges player player) (path : LeadsTo edges player next) :
    rank edges subjects next < rank edges subjects player := by
  obtain ⟨before, _, edge⟩ := Relation.TransGen.tail'_iff.mp path
  have fewer : reachable edges subjects next ⊆ reachable edges subjects player := by
    intro goal onward
    obtain ⟨known, onward⟩ := mem_reachable.mp onward
    exact mem_reachable.mpr ⟨known, path.trans onward⟩
  refine Finset.card_lt_card ((Finset.ssubset_iff_of_subset fewer).mpr ⟨next, ?_, ?_⟩)
  · exact mem_reachable.mpr ⟨closed before edge, path⟩
  · exact fun back => acyclic next (mem_reachable.mp back).2

end Player

namespace Build

variable {α β γ : Type} {x y : Build α}

/-- Steps that never run out, whatever tables they begin with. -/
def Ends (x : Build α) : Prop :=
  ∀ (t : Tables) (name : String), (Id.run (x.run.run t)).1 ≠ .error (.endlessIdentification name)

/-- Steps that are the same and never run out. -/
structure Agree (x y : Build α) : Prop where
  same : x = y
  ends : Ends x

theorem agree_pure (a : α) : Agree (pure a) (pure a) := ⟨rfl, fun _ _ => nofun⟩

theorem agree_modify (f : Tables → Tables) : Agree (modify f) (modify f) :=
  ⟨rfl, fun _ _ => nofun⟩

theorem agree_get : Agree get get := ⟨rfl, fun _ _ => nofun⟩

theorem agree_throw {e : CompileError} (other : ∀ name, e ≠ .endlessIdentification name) :
    Agree (throw e : Build α) (throw e) := by
  refine ⟨rfl, fun t name endless => other name ?_⟩
  exact Except.error.inj endless

theorem Agree.bind {f g : α → Build β} (first : Agree x y) (rest : ∀ a, Agree (f a) (g a)) :
    Agree (x >>= f) (y >>= g) := by
  obtain ⟨rfl, ends⟩ := first
  refine ⟨congrArg (x >>= ·) (funext fun a => (rest a).same), fun t name => ?_⟩
  change (Id.run ((ExceptT.bindCont f (Id.run (x.run.run t)).1).run (Id.run (x.run.run t)).2)).1 ≠ _
  have own := ends t name
  generalize Id.run (x.run.run t) = ran at own ⊢
  rcases ran with ⟨e | a, u⟩
  · exact fun endless => own (congrArg Except.error (Except.error.inj endless))
  · exact (rest a).ends u name

theorem agree_forM {f g : α → Build Unit} {list : List α}
    (each : ∀ a ∈ list, Agree (f a) (g a)) : Agree (list.forM f) (list.forM g) := by
  induction list with
  | nil => exact agree_pure ()
  | cons a rest ih =>
    exact (each a (.head _)).bind fun _ => ih fun other later => each other (.tail _ later)

theorem agree_foldlM {f g : γ → α → Build γ} {list : List α}
    (each : ∀ a ∈ list, ∀ c, Agree (f c a) (g c a)) (init : γ) :
    Agree (list.foldlM f init) (list.foldlM g init) := by
  induction list generalizing init with
  | nil => exact agree_pure init
  | cons a rest ih =>
    rw [List.foldlM_cons, List.foldlM_cons]
    exact (each a (.head _) init).bind (ih fun other later => each other (.tail _ later))

end Build

namespace Snapshot

open Build

variable {s : Snapshot} {subject object player : Player} {players : List Player} {steps more : Nat}

theorem mem_identifyingPlayers_of_identifiers {required : Bool}
    (listed : (object, required) ∈ s.identifiers subject) :
    object ∈ s.identifyingPlayers subject := by
  cases subject with
  | noun id =>
    obtain ⟨part, inside, same⟩ := List.mem_map.mp listed
    cases same
    exact List.mem_map_of_mem inside
  | factType id =>
    obtain ⟨role, inside, same⟩ := List.mem_map.mp listed
    cases same
    exact List.mem_map_of_mem inside

/-- What identifies an object, be it by a supertype, can be reached from it. -/
theorem leadsTo_of_identification (identified : s.identification object = .players players)
    (listed : player ∈ players) : Player.LeadsTo s.inheritedEdges object player := by
  rw [identification] at identified
  split at identified
  · rename_i owner nearest
    have climbed := reaches_of_mem_climb (List.mem_of_find?_eq_some nearest)
    have reached : Relation.ReflTransGen (fun player next => next ∈ s.inheritedEdges player)
        object owner := by
      refine (Relation.reflTransGen_swap.mpr climbed).mono ?_ _ _
      exact fun _ _ above => List.mem_append_right _ (Option.mem_toList.mpr above)
    split at identified
    · cases identified
    · cases identified
      exact .tail' reached (List.mem_append_left _ listed)
  · split at identified
    · cases identified
    · cases identified
      contradiction

section Descent

variable {rank : Player → Nat}
  (descends : ∀ {player next}, Player.LeadsTo s.inheritedEdges player next →
    rank next < rank player)
include descends

theorem agree_ensureTable_succ
    (ensures : ∀ parent, rank parent < rank subject →
      Agree (s.ensureTable steps parent) (s.ensureTable more parent))
    (creates : ∀ object, rank object < rank subject →
      Agree (s.createProperty steps object) (s.createProperty more object)) :
    Agree (s.ensureTable (steps + 1) subject) (s.ensureTable (more + 1) subject) := by
  rw [ensureTable, ensureTable]
  refine agree_get.bind fun t => ?_
  cases t.subjects.get? (s.keyOf subject) with
  | some owner =>
    dsimp only
    split
    · exact agree_pure _
    · exact agree_throw nofun
  | none =>
    refine (agree_modify _).bind fun _ => ?_
    refine (agree_forM fun entry listed => ?_).bind fun _ => ?_
    · have edge := List.mem_append_left (s.superTypeEdges subject)
        (mem_identifyingPlayers_of_identifiers listed)
      exact (creates entry.1 (descends (.single edge))).bind fun _ => agree_modify _
    · refine (agree_forM fun parent above => ?_).bind fun _ => agree_pure _
      have edge := List.mem_append_right (s.identifyingPlayers subject) above
      exact (ensures parent (descends (.single edge))).bind fun _ => agree_pure ()

theorem agree_createProperty_succ
    (ensures : Agree (s.ensureTable steps object) (s.ensureTable more object))
    (creates : ∀ player, rank player < rank object →
      Agree (s.createProperty steps player) (s.createProperty more player)) :
    Agree (s.createProperty (steps + 1) object) (s.createProperty (more + 1) object) := by
  rw [createProperty, createProperty]
  cases identified : s.identification object with
  | value type => exact agree_pure _
  | players players =>
    have below (player : Player) (listed : player ∈ players) : rank player < rank object :=
      descends (leadsTo_of_identification identified listed)
    have ends (inline : Schema) := ensures.bind fun key =>
      agree_pure ({ oneOf := some [inline, .component key] } : Schema)
    rcases players with _ | ⟨single, _ | ⟨second, rest⟩⟩
    · exact ends Schema.empty
    · exact (creates single (below single (.head _))).bind ends
    · refine (agree_foldlM (fun player listed composite => ?_) _).bind ends
      exact (creates player (below player listed)).bind fun _ => agree_pure _

/-- Twice the rank of a subject, and one step more, are enough for its table; a property takes
another one. -/
theorem agree_of_rank (steps more : Nat) :
    (∀ subject, 2 * rank subject < steps → 2 * rank subject < more →
      Agree (s.ensureTable steps subject) (s.ensureTable more subject)) ∧
    ∀ object, 2 * rank object + 1 < steps → 2 * rank object + 1 < more →
      Agree (s.createProperty steps object) (s.createProperty more object) := by
  -- Each of the two calls makes the other with fewer steps, so one induction carries both.
  induction steps generalizing more with
  | zero => exact ⟨fun _ none => by omega, fun _ none => by omega⟩
  | succ steps ih =>
    cases more with
    | zero => exact ⟨fun _ _ none => by omega, fun _ _ none => by omega⟩
    | succ more =>
      obtain ⟨ensures, creates⟩ := ih more
      constructor
      · intro subject enough enough'
        exact agree_ensureTable_succ descends
          (fun parent lower => ensures parent (by omega) (by omega))
          (fun object lower => creates object (by omega) (by omega))
      · intro object enough enough'
        exact agree_createProperty_succ descends (ensures object (by omega) (by omega))
          (fun player lower => creates player (by omega) (by omega))

end Descent

theorem length_subjects (s : Snapshot) :
    s.subjects.length = s.nouns.length + s.factTypes.length := by
  rw [subjects, List.length_append, List.length_map, List.length_map]

/-- Calls that build tables end within two steps for each noun and each fact type, and two more,
from whatever tables they begin with: they never run out of steps, and more steps make no
difference. -/
theorem building_ends (placed : s.InPlace) (acyclic : s.checkAcyclic = .ok ())
    (enough : 2 * (s.nouns.length + s.factTypes.length) + 2 ≤ steps) (player : Player) :
    (Ends (s.ensureTable steps player) ∧ s.ensureTable steps player = s.tableOf player) ∧
      Ends (s.createProperty steps player) ∧
        s.createProperty steps player = s.propertyOf player := by
  have free := (checkAcyclic_eq_ok_iff placed.edges_subset).mp acyclic
  have bound := Player.rank_le s.inheritedEdges s.subjects player
  have inside : 2 * Player.rank s.inheritedEdges s.subjects player + 1 < s.buildSteps := by
    rw [buildSteps]
    omega
  rw [length_subjects] at bound
  obtain ⟨ensures, creates⟩ := agree_of_rank (Player.rank_lt placed.edges_subset free) steps
    s.buildSteps
  have table := ensures player (by omega) (by omega)
  have property := creates player (by omega) (by omega)
  exact ⟨⟨table.ends, table.same⟩, property.ends, property.same⟩

end Snapshot

namespace Document

open Build

/-- Employees are persons and identified by them, persons are identified as parties; employees and
persons lead to one another by what is known of them. -/
def tenures : Document where
  nouns := [
    { name := "PartyId", objectType := .value },
    { name := "Party", referenceScheme := ["PartyId"] },
    { name := "Person", superType := some "Party" },
    { name := "Employee", superType := some "Person", referenceScheme := ["Person"] },
    { name := "Post" },
    { name := "Year", objectType := .value }]
  factTypes := [
    { name := some "Tenure", readings := [.text "Employee holds Post"] },
    { readings := [.text "Tenure began in Year"], relationship := some .manyToOne },
    { readings := [.text "Employee assists Person"], relationship := some .manyToOne },
    { readings := [.text "Person employs Employee"], relationship := some .manyToOne }]

/-- The property of a tenure, whose employee is identified as a person and so as a party. -/
theorem building_ends_of_tenures : ∃ s, tenures.resolve = .ok s ∧ s.InPlace ∧
    s.checkAcyclic = .ok () ∧ 2 * (s.nouns.length + s.factTypes.length) + 2 ≤ 22 ∧
    s.nameOf (.factType (.ofNat 0)) = "Tenure" ∧
    (Ends (s.ensureTable 22 (.factType (.ofNat 0))) ∧
      s.ensureTable 22 (.factType (.ofNat 0)) = s.tableOf (.factType (.ofNat 0))) ∧
    Ends (s.createProperty 22 (.factType (.ofNat 0))) ∧
      s.createProperty 22 (.factType (.ofNat 0)) = s.propertyOf (.factType (.ofNat 0)) := by
  have numberable : tenures.Numberable := ⟨by decide, by decide, by decide +kernel⟩
  have passed : tenures.resolvesAnd fun s => decide <|
      2 * (s.nouns.length + s.factTypes.length) + 2 ≤ 22 ∧
        s.nameOf (.factType (.ofNat 0)) = "Tenure" := by decide +kernel
  obtain ⟨s, resolved, checked⟩ := exists_of_resolvesAnd passed
  obtain ⟨enough, named⟩ := of_decide_eq_true checked
  have placed := inPlace_of_resolve numberable resolved
  obtain ⟨_, _, _, _, _, acyclic⟩ := exists_parts_of_resolve resolved
  exact ⟨s, resolved, placed, acyclic, enough, named,
    Snapshot.building_ends placed acyclic enough (.factType (.ofNat 0))⟩

end Document
end ObjectRole

import ObjectRole.Proofs.Model.Reordered
import ObjectRole.Proofs.Tables.Mirrors
import ObjectRole.Proofs.Tables.Nested

/-! The order of declarations does not show in a compiled document. It decides about numbers only,
which lead from one part of a model to another and stand in no table and no path. -/
namespace ObjectRole

variable {σ : Renumbering}

def Resource.renumber (σ : Renumbering) (r : Resource) : Resource :=
  { r with subject := σ.player r.subject }

def BuiltTables.renumber (σ : Renumbering) (b : BuiltTables) : BuiltTables :=
  { b with resources := b.resources.mapValues (·.renumber σ) }

theorem BuiltTables.identifyingFrom_renumber (b : BuiltTables) (steps : Nat) (key : String) :
    (b.renumber σ).identifyingFrom steps key = b.identifyingFrom steps key := by
  induction steps generalizing key with
  | zero => rfl
  | succ steps ih =>
    have read : (b.renumber σ).resources.get? key =
        (b.resources.get? key).map (·.renumber σ) := Dict.get?_mapValues ..
    rw [identifyingFrom, identifyingFrom, read]
    cases b.resources.get? key with
    | none => rfl
    | some r =>
      simp only [Option.map_some, Resource.renumber]
      split
      · rfl
      · cases r.superKey with
        | none => rfl
        | some parent => exact ih parent

theorem BuiltTables.identifyingProperties_renumber (b : BuiltTables) (key : String) :
    (b.renumber σ).identifyingProperties key = b.identifyingProperties key := by
  have size : (b.renumber σ).resources.size = b.resources.size := List.length_map _
  rw [identifyingProperties, identifyingProperties, size, identifyingFrom_renumber]

namespace Snapshot

/-- What the table of a subject is made into. -/
def resourceOf (s : Snapshot) (t : Tables) (key : String) (subject : Player) : Resource :=
  { subject
    identifying := (t.identifying.get? key).getD []
    superKey := (s.superTypeOf subject).map s.keyOf }

theorem finishTables_eq (s : Snapshot) (t : Tables) : s.finishTables t = (do
    t.subjects.entries.forM fun (key, subject) => s.checkKey t key subject
    return ⟨t.schemas, .ofList (t.subjects.entries.map fun entry =>
      (entry.1, s.resourceOf t entry.1 entry.2))⟩) := rfl

/-- Tables are finished if adding all facts to them went through. -/
def closeTables (s : Snapshot) (ran : Except CompileError Unit × Tables) :
    Except CompileError BuiltTables := do
  ran.1
  s.finishTables ran.2

theorem buildTables_eq (s : Snapshot) : s.buildTables = (do
    let shapes ← s.orderedFactTypes.mapM fun id => (id, ·) <$> s.shapeOf id
    s.closeTables (Id.run ((s.addFacts shapes).run.run {}))) := rfl

end Snapshot

namespace Snapshot.Renumbered

variable {s other : Snapshot} (renumbered : Renumbered σ s other)
include renumbered

theorem shapes : other.orderedFactTypes.mapM (fun id => (id, ·) <$> other.shapeOf id) =
    (List.map fun entry => (σ.factType entry.1, σ.shape entry.2)) <$>
      s.orderedFactTypes.mapM fun id => (id, ·) <$> s.shapeOf id := by
  rw [renumbered.ordered]
  induction s.orderedFactTypes with
  | nil => rfl
  | cons id rest ih =>
    rw [List.map_cons, List.mapM_cons, List.mapM_cons, ih, renumbered.shapeOf]
    cases s.shapeOf id with
    | error e => rfl
    | ok shape => cases rest.mapM fun id => (id, ·) <$> s.shapeOf id <;> rfl

theorem checkKey (t : Tables) (key : String) (subject : Player) :
    other.checkKey (t.renumber σ) key (σ.player subject) = s.checkKey t key subject := by
  rw [Snapshot.checkKey, Snapshot.checkKey, renumbered.nameOf]
  split
  · rfl
  · refine congrArg (List.forM _) (funext fun tier => ?_)
    rw [Tables.get?_renumber]
    cases t.subjects.get? tier with
    | none => rfl
    | some owner => simp only [Option.map_some, renumbered.nameOf]

theorem resourceOf (t : Tables) (key : String) (subject : Player) :
    other.resourceOf (t.renumber σ) key (σ.player subject) =
      (s.resourceOf t key subject).renumber σ := by
  have above : (other.superTypeOf (σ.player subject)).map other.keyOf =
      (s.superTypeOf subject).map s.keyOf := by
    rw [renumbered.superTypeOf, Option.map_map]
    exact congrArg (Option.map · _) (funext renumbered.keyOf)
  rw [Snapshot.resourceOf, Snapshot.resourceOf, above]
  rfl

theorem finishTables (t : Tables) :
    other.finishTables (t.renumber σ) = BuiltTables.renumber σ <$> s.finishTables t := by
  have checks : (t.renumber σ).subjects.entries.forM (fun (key, subject) =>
      other.checkKey (t.renumber σ) key subject) =
        t.subjects.entries.forM fun (key, subject) => s.checkKey t key subject :=
    List.forM_map.trans (congrArg (List.forM _) (funext fun entry : String × Player =>
      renumbered.checkKey t entry.1 entry.2))
  have resources : Dict.ofList ((t.renumber σ).subjects.entries.map fun entry =>
      (entry.1, other.resourceOf (t.renumber σ) entry.1 entry.2)) =
      (Dict.ofList (t.subjects.entries.map fun entry =>
        (entry.1, s.resourceOf t entry.1 entry.2))).mapValues (·.renumber σ) := by
    ext key : 1
    rw [Dict.get?_ofList_map, Dict.get?_mapValues, Dict.get?_ofList_map, Tables.get?_renumber,
      Option.map_map, Option.map_map]
    exact congrArg (Option.map · _) (funext (renumbered.resourceOf t key))
  rw [finishTables_eq, finishTables_eq, checks, resources]
  cases t.subjects.entries.forM fun (key, subject) => s.checkKey t key subject <;> rfl

theorem closeTables (ran : Except CompileError Unit × Tables) :
    other.closeTables (ran.1, ran.2.renumber σ) = BuiltTables.renumber σ <$> s.closeTables ran := by
  rcases ran with ⟨e | _, t⟩
  · rfl
  · exact renumbered.finishTables t

theorem buildTables : other.buildTables = BuiltTables.renumber σ <$> s.buildTables := by
  rw [buildTables_eq, buildTables_eq, renumbered.shapes]
  cases shaped : s.orderedFactTypes.mapM fun id => (id, ·) <$> s.shapeOf id with
  | error e => rfl
  | ok shapes =>
    have each : ∀ entry ∈ shapes, s.shapeOf entry.1 = .ok entry.2 := by
      intro entry listed
      obtain ⟨id, _, own⟩ := exists_of_forall₂ (mapM_eq_ok_iff.mp shaped).flip listed
      obtain ⟨shape, shaped_so, rfl⟩ := map_eq_ok_iff.mp own
      exact shaped_so
    have ran := renumbered.addFacts each {}
    exact (congrArg other.closeTables ran).trans (renumbered.closeTables _)

theorem flatTables : other.flatTables = BuiltTables.renumber σ <$> s.flatTables := by
  rw [Snapshot.flatTables, Snapshot.flatTables, renumbered.buildTables]
  cases s.buildTables with
  | error e => rfl
  | ok built =>
    change (SchemaMap.flatten built.schemas >>= _) =
      BuiltTables.renumber σ <$> (SchemaMap.flatten built.schemas >>= _)
    cases SchemaMap.flatten built.schemas <;> rfl

theorem ofTables (settings : Settings) (b : BuiltTables) :
    Synthesis.ofTables other settings (b.renumber σ) = Synthesis.ofTables s settings b := by
  have each (y : Synthesis) (entry : String × Resource) :
      Synthesis.addKey other settings (b.renumber σ) y (entry.1, entry.2.renumber σ) =
        Synthesis.addKey s settings b y entry := by
    simp only [Synthesis.addKey, BuiltTables.viewOf, Resource.renumber, renumbered.pluralOf,
      renumbered.permissionsOf, BuiltTables.identifyingProperties_renumber]
  have entries : (b.renumber σ).resources.entries =
      b.resources.entries.map fun entry => (entry.1, entry.2.renumber σ) := rfl
  rw [Synthesis.ofTables, Synthesis.ofTables, entries, List.foldlM_map, funext₂ each]
  rfl

/-- The same document, or the same error. -/
theorem compile (settings : Settings) : other.compile settings = s.compile settings := by
  rw [Snapshot.compile, Snapshot.compile, renumbered.flatTables, bind_map_left]
  exact bind_congr fun b => by rw [renumbered.ofTables]

end Snapshot.Renumbered

namespace Document

/-- With its nouns in any order, and its fact types, too, if each of them has an order of its own, a
document resolves again, and with any settings it compiles to the same as before. -/
theorem compile_of_reorders {d other : Document} {s : Snapshot} (numberable : d.Numberable)
    (rules_bound : d.ruleCount ≤ UInt32.size) (reorders : d.Reorders other)
    (resolved : d.resolve = .ok s) : ∃ t, other.resolve = .ok t ∧
      ∀ settings, t.compile settings = s.compile settings := by
  obtain ⟨t, also⟩ := reorders.exists_resolve numberable resolved
  have here := resolved_of_resolve numberable resolved
  have there := resolved_of_resolve (reorders.numberable numberable) also
  obtain ⟨σ, places⟩ := reorders.exists_places numberable here.names here.titles
  have twins : Twins d other σ s t := ⟨reorders, places, numberable, rules_bound, here, there⟩
  exact ⟨t, also, twins.renumbered.compile⟩

/-- Orchards, where trees of a species stand, are tended by gardeners. -/
def orchards : Document where
  nouns := [
    { name := "Orchard", referenceScheme := ["Parcel"] },
    { name := "Parcel", objectType := .value, valueType := some .integer },
    { name := "Gardener", superType := some "Person" },
    { name := "Person" }]
  factTypes := [
    { readings := [.text "Gardener tends Orchard"], relationship := some .manyToOne,
      order := some 2 },
    { name := some "Harvest", readings := [.text "Orchard fed Person"],
      relationship := some .manyToMany, order := some 1 },
    { readings := [.text "Harvest is ripe"], order := some 0 }]

/-- The same from the last declaration to the first. -/
def orchardsReversed : Document :=
  { orchards with
    nouns := orchards.nouns.reverse
    factTypes := orchards.factTypes.reverse }

theorem compile_of_reorders_of_orchards : ∃ s t document, orchards.Numberable ∧
    orchards.ruleCount ≤ UInt32.size ∧ orchards.Reorders orchardsReversed ∧
      orchards.resolve = .ok s ∧ orchardsReversed.resolve = .ok t ∧
        s.compile {} = .ok document ∧ t.compile {} = .ok document := by
  have numberable : orchards.Numberable := ⟨by decide, by decide, by decide +kernel⟩
  have rules_bound : orchards.ruleCount ≤ UInt32.size := by decide
  have reorders : orchards.Reorders orchardsReversed :=
    ⟨List.reverse_perm _, List.reverse_perm _, .inr ⟨by decide, by decide⟩, rfl, rfl, rfl⟩
  have passed : orchards.passes {} fun _ _ _ => true := by decide +kernel
  obtain ⟨s, _, document, resolved, _, compiled, _⟩ := exists_of_passes passed
  obtain ⟨t, also, same⟩ := compile_of_reorders numberable rules_bound reorders resolved
  exact ⟨s, t, document, numberable, rules_bound, reorders, resolved, also, compiled,
    (same {}).trans compiled⟩

end Document
end ObjectRole

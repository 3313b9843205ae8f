import ObjectRole.Proofs.Schema.Flatten

/-! What flat schemas say, in terms of the built ones: they have what the schema and all that it
inherits from have, and nothing else. -/
namespace ObjectRole

open Schema Inheritance

namespace SchemaMap

variable {m n flat seen : SchemaMap} {key child parent : String} {s f : Schema}
  {P : Schema → Prop}

/-- A round keeps the condition, if the schema and its sources meet it. -/
def Hereditary (P : Schema → Prop) : Prop :=
  ∀ m s, P s → (∀ source ∈ s.sources m, P source.2) → P (s.folded m)

/-- What all schemas of a map meet, and rounds keep, flat schemas meet. -/
theorem flatten_forall (hereditary : Hereditary P) (all : ∀ key s, m.get? key = some s → P s)
    (done : m.flatten = .ok flat) : ∀ key f, flat.get? key = some f → P f := by
  suffices keys : ∀ (keys : List String) (m : SchemaMap),
      (∀ key s, m.get? key = some s → P s) → m.flattenKeys keys = (flat, .ok ()) →
        ∀ key f, flat.get? key = some f → P f by
    rw [flatten] at done
    split at done
    rename_i schemas result run
    cases result with
    | error => cases done
    | ok =>
      cases done
      exact keys m.keys m all run
  intro keys
  induction keys with
  | nil =>
    intro m all done
    cases done
    exact all
  | cons first rest ih =>
    intro m all done
    rw [flattenKeys] at done
    split at done
    case h_2 => cases done
    rename_i n changed
    refine ih n ?_ done
    rcases settleKey_cases changed with ⟨_, rfl⟩ | ⟨s, f, found, settled, rfl⟩
    · exact all
    · have sources : ∀ s : Schema, ∀ source ∈ s.sources m, P source.2 := by
        intro s source listed
        obtain ⟨_, _, _, found⟩ := mem_sources.mp listed
        exact all source.1 source.2 found
      have flat : P f :=
        settled.keeps (fun s inside => hereditary m s inside (sources s)) (all first s found)
      intro key g found
      rw [Dict.get?_insert] at found
      split at found
      · cases found
        exact flat
      · exact all key g found

theorem hereditary_tidy : Hereditary Tidy := fun _ _ tidy _ => tidy.folded

theorem hereditary_plain : Hereditary Plain := fun _ _ plain _ => plain.folded

theorem mem_insertNew {fields : List (String × Schema)} {entry other : String × Schema}
    (member : other ∈ insertNew fields entry) : other ∈ fields ∨ other = entry := by
  unfold insertNew at member
  split at member
  · exact .inl member
  · exact (Entries.mem_insert member).symm

theorem foldl_insertNew_forall {Q : Schema → Prop} {fields inherited : List (String × Schema)}
    (own : ∀ entry ∈ fields, Q entry.2) (parent : ∀ entry ∈ inherited, Q entry.2) :
    ∀ entry ∈ inherited.foldl insertNew fields, Q entry.2 := by
  induction inherited generalizing fields with
  | nil => exact own
  | cons entry rest ih =>
    refine ih ?_ fun other later => parent other (.tail _ later)
    intro other member
    rcases mem_insertNew member with old | rfl
    · exact own other old
    · exact parent other (.head _)

/-- A condition on properties that the fields of all schemas meet. -/
theorem hereditary_fields (Q : Schema → Prop) :
    Hereditary fun s => ∀ entry ∈ s.fields, Q entry.2 := by
  intro m s own sources
  rw [fields_folded]
  generalize s.fields = fields at own
  generalize s.sources m = list at sources
  induction list generalizing fields with
  | nil => exact own
  | cons source rest ih =>
    exact ih _ (foldl_insertNew_forall own (sources source (.head _)))
      fun other later => sources other (.tail _ later)

/-- Schemas that inherit from nothing say nothing of it. -/
theorem hereditary_inherits : Hereditary (·.allOf ≠ some []) := by
  intro m s _ _
  change unlessEmpty (s.parents.flatMap (heirs m)) ≠ some []
  cases s.parents.flatMap (heirs m) <;> nofun

/-- Every entry of `allOf` leads to a schema of the map. -/
def Inner (m : SchemaMap) (s : Schema) : Prop :=
  ∀ entry ∈ s.parents, ∃ target, entry.target? = some target ∧ m.contains target

theorem hereditary_inner (m : SchemaMap) : Hereditary m.Inner := by
  intro n s own sources entry listed
  rw [parents_folded, List.mem_flatMap] at listed
  obtain ⟨old, old_listed, left⟩ := listed
  unfold heirs at left
  split at left
  · obtain rfl := List.mem_singleton.mp left
    exact own entry old_listed
  · rename_i target parent led
    exact sources (target, parent) (List.mem_filterMap.mpr ⟨old, old_listed, led⟩) entry left

/-- Where every entry leads to a schema, none is left once nothing is inherited any more. -/
theorem Inner.parents_eq_nil (inner : m.Inner s) (none : s.parentKeys m = []) : s.parents = [] := by
  apply List.eq_nil_iff_forall_not_mem.mpr
  intro entry listed
  obtain ⟨target, pointed, there⟩ := inner entry listed
  have member : target ∈ s.parentKeys m :=
    mem_parentKeys.mpr ⟨entry, listed, pointed, Dict.contains_iff.mp there⟩
  rw [none] at member
  contradiction

/-- The schema of a key is there and meets a condition. -/
def Says (m : SchemaMap) (P : Schema → Prop) (key : String) : Prop :=
  ∃ s, m.get? key = some s ∧ P s

theorem says_iff (found : m.get? key = some s) : m.Says P key ↔ P s := by
  refine ⟨?_, fun holds => ⟨s, found, holds⟩⟩
  rintro ⟨other, other_found, holds⟩
  cases Option.some.inj (found.symm.trans other_found)
  exact holds

/-- A condition on schemas that a round over any map of these keys meets when the schema or one of
its sources does. -/
def AccumulatesIn (m : SchemaMap) (P : Schema → Prop) : Prop :=
  ∀ n : SchemaMap, (∀ key, n.contains key = m.contains key) →
    ∀ s, P (s.folded n) ↔ P s ∨ ∃ source ∈ s.sources n, P source.2

theorem accumulatesIn (collected : Accumulates P) (m : SchemaMap) : m.AccumulatesIn P :=
  fun n _ => collected n

namespace Flattens

theorem contains_eq (flattens : Flattens m flat) (key : String) :
    flat.contains key = m.contains key := by
  rw [Dict.contains_eq_isSome, Dict.contains_eq_isSome]
  cases found : m.get? key with
  | none => rw [flattens.missing found]
  | some s =>
    obtain ⟨_, _, _, _, flattened⟩ := flattens.settles found
    rw [flattened]
    rfl

theorem exists_built (flattens : Flattens m flat) (found : flat.get? key = some f) :
    ∃ s, m.get? key = some s := by
  refine Dict.contains_iff.mp ?_
  rw [← flattens.contains_eq]
  exact Dict.contains_iff.mpr ⟨f, found⟩

theorem contains_seen (flattens : Flattens m flat)
    (sees : ∀ other, seen.get? other = if other < key then flat.get? other else m.get? other)
    (other : String) : seen.contains other = m.contains other := by
  rw [Dict.contains_eq_isSome, sees]
  split
  · exact flattens.contains_eq other
  · rfl

/-- Flat schemas inherit from nothing any more. -/
theorem parentKeys_eq_nil (flattens : Flattens m flat) (found : flat.get? key = some f) :
    f.parentKeys m = [] := by
  obtain ⟨s, built⟩ := flattens.exists_built found
  obtain ⟨seen, g, sees, settled, flattened⟩ := flattens.settles built
  cases Option.some.inj (found.symm.trans flattened)
  rw [← parentKeys_congr (flattens.contains_seen sees)]
  exact parentKeys_eq_nil_iff.mpr settled.sources_eq_nil

/-- Sources of a schema that is being settled are flat or built. -/
theorem source_found (flattens : Flattens m flat)
    (sees : ∀ other, seen.get? other = if other < key then flat.get? other else m.get? other)
    {source : String × Schema} (listed : source ∈ s.sources seen) :
    (flat.get? source.1 = some source.2 ∧ source.2.parentKeys m = []) ∨
      m.get? source.1 = some source.2 := by
  obtain ⟨_, _, _, found⟩ := mem_sources.mp listed
  rw [sees] at found
  split at found
  · exact .inl ⟨found, flattens.parentKeys_eq_nil found⟩
  · exact .inr found

/-- What can be collected from sources holds of a flat schema exactly when the built one says so, or
one of the flat schemas that it inherits from. -/
theorem accumulates (flattens : Flattens m flat) (acyclic : m.Acyclic)
    (collected : m.AccumulatesIn P) (built : m.get? key = some s) (found : flat.get? key = some f) :
    P f ↔ P s ∨ ∃ parent ∈ s.parentKeys m, flat.Says P parent := by
  -- Rounds reach what parents inherit from, so the hypothesis is about all that lies above a key.
  induction key using acyclic.transGen.induction generalizing s f with
  | _ key ih =>
    obtain ⟨seen, g, sees, settled, flattened⟩ := flattens.settles built
    cases Option.some.inj (found.symm.trans flattened)
    have same := parentKeys_congr (flattens.contains_seen sees)
    have above : ∀ parent ∈ s.parentKeys m,
        Relation.TransGen (fun parent child => m.Inherits child parent) parent key :=
      fun parent listed => .single ⟨s, built, listed⟩
    clear built found flattened
    induction settled with
    | done none =>
      rw [← same, parentKeys_eq_nil_iff.mpr none]
      simp
    | @fold s f _ _ rest =>
      have source_above : ∀ source ∈ s.sources seen,
          Relation.TransGen (fun parent child => m.Inherits child parent) source.1 key :=
        fun source listed => above source.1 (same s ▸ List.mem_map_of_mem listed)
      have source_holds : ∀ source ∈ s.sources seen, flat.Says P source.1 ↔
          P source.2 ∨ ∃ parent ∈ source.2.parentKeys m, flat.Says P parent := by
        intro source listed
        rcases flattens.source_found sees listed with ⟨flattened, none⟩ | built
        · simp [says_iff flattened, none]
        · obtain ⟨_, g, _, _, flattened⟩ := flattens.settles built
          rw [says_iff flattened]
          exact ih source.1 (source_above source listed) built flattened
      have folded_above : ∀ parent ∈ (s.folded seen).parentKeys m,
          Relation.TransGen (fun parent child => m.Inherits child parent) parent key := by
        intro parent inside
        rw [← same, mem_parentKeys_folded] at inside
        obtain ⟨source, listed, inside⟩ := inside
        rw [same] at inside
        rcases flattens.source_found sees listed with ⟨_, none⟩ | built
        · rw [none] at inside
          contradiction
        · exact .head ⟨source.2, built, inside⟩ (source_above source listed)
      calc P f
        _ ↔ P (s.folded seen) ∨ ∃ parent ∈ (s.folded seen).parentKeys m, flat.Says P parent :=
          rest folded_above
        _ ↔ (P s ∨ ∃ source ∈ s.sources seen, P source.2) ∨ ∃ source ∈ s.sources seen,
            ∃ parent ∈ source.2.parentKeys m, flat.Says P parent := by
          rw [collected seen (flattens.contains_seen sees), ← same, exists_parentKeys_folded_iff]
          simp only [same]
        _ ↔ P s ∨ ∃ source ∈ s.sources seen, flat.Says P source.1 := by
          rw [or_assoc, ← exists_or]
          apply or_congr_right
          apply exists_congr
          intro source
          rw [← and_or_left]
          exact and_congr_right fun listed => (source_holds source listed).symm
        _ ↔ P s ∨ ∃ parent ∈ s.parentKeys m, flat.Says P parent := by
          rw [← same, exists_parentKeys_iff]

end Flattens

/-- The recursion along which flat schemas collect what the built ones say. -/
theorem Flattens.says_iff (flattens : Flattens m flat) (acyclic : m.Acyclic)
    (collected : Accumulates P) (built : m.get? key = some s) :
    flat.Says P key ↔ P s ∨ ∃ parent ∈ s.parentKeys m, flat.Says P parent := by
  obtain ⟨_, f, _, _, found⟩ := flattens.settles built
  exact (SchemaMap.says_iff found).trans
    (flattens.accumulates acyclic (accumulatesIn collected m) built found)

end SchemaMap
end ObjectRole

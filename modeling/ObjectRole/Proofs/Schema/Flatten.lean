import ObjectRole.Proofs.Schema.Rounds
import Mathlib.Data.List.Nodup
import Mathlib.Logic.Relation
import Mathlib.Order.RelClasses

/-! Flattening goes through on every map whose inheritance leads nowhere back, and leaves in each
schema what it and all that it inherits from say. Schemas are flattened in place and in key order,
so that each sees flat schemas before its key and built ones from its key on. -/
namespace ObjectRole

open Schema Inheritance

namespace SchemaMap

variable {m n flat seen : SchemaMap} {key child parent : String} {s f : Schema}

theorem parentKeys_eq (m : SchemaMap) (s : Schema) :
    s.parentKeys m = s.parents.filterMap fun entry => entry.target?.filter m.contains := by
  rw [parentKeys, sources, List.map_filterMap]
  refine List.filterMap_congr ?_
  intro entry _
  unfold parentIn?
  cases entry.target? with
  | none => rfl
  | some target =>
    cases found : m.get? target <;>
      simp [Dict.contains_eq_isSome, found, Option.filter]

/-- What a schema inherits from depends on which keys are there only. -/
theorem parentKeys_congr (same : ∀ key, m.contains key = n.contains key) (s : Schema) :
    s.parentKeys m = s.parentKeys n := by
  rw [parentKeys_eq, parentKeys_eq, funext same]

/-- The schema of the child names the parent among those it inherits from. -/
def Inherits (m : SchemaMap) (child parent : String) : Prop :=
  ∃ s, m.get? child = some s ∧ parent ∈ s.parentKeys m

/-- Inheritance leads nowhere back. -/
def Acyclic (m : SchemaMap) : Prop := WellFounded fun parent child => m.Inherits child parent

/-- No way along inheritance leads from a key on and on. -/
def Grounded (m : SchemaMap) (key : String) : Prop :=
  Acc (fun parent child => m.Inherits child parent) key

theorem grounded_of_parents (found : m.get? key = some s)
    (parents : ∀ parent ∈ s.parentKeys m, m.Grounded parent) : m.Grounded key := by
  apply Acc.intro key
  rintro parent ⟨other, other_found, listed⟩
  cases Option.some.inj (found.symm.trans other_found)
  exact parents parent listed

theorem Acyclic.irrefl (acyclic : m.Acyclic) : ¬Relation.TransGen m.Inherits key key := fun loop =>
  have back := Relation.transGen_swap.mpr loop
  acyclic.transGen.asymmetric _ _ back back

/-- So many steps of inheritance lead from a key to another. -/
inductive Climbs (m : SchemaMap) (key : String) : Nat → String → Prop
  | here : Climbs m key 0 key
  | up {steps : Nat} {child parent : String} (climb : Climbs m key steps child)
      (inherits : m.Inherits child parent) : Climbs m key (steps + 1) parent

theorem Climbs.reaches {steps : Nat} (climbs : m.Climbs key steps parent) :
    Relation.ReflTransGen m.Inherits key parent := by
  induction climbs with
  | here => exact .refl
  | up _ inherits ih => exact ih.tail inherits

theorem contains_of_mem_parentKeys (member : parent ∈ s.parentKeys m) : m.contains parent := by
  obtain ⟨_, _, _, found⟩ := mem_parentKeys.mp member
  exact Dict.contains_iff.mpr found

/-- A climb passes no key twice. -/
theorem Climbs.nodes {steps : Nat} (climbs : m.Climbs key steps parent) (acyclic : m.Acyclic)
    (there : m.contains key) : ∃ nodes : List String, nodes.length = steps + 1 ∧ nodes.Nodup ∧
      ∀ node ∈ nodes, m.contains node ∧ Relation.ReflTransGen m.Inherits node parent := by
  induction climbs with
  | here =>
    refine ⟨[key], rfl, List.nodup_singleton key, ?_⟩
    intro node member
    obtain rfl := List.mem_singleton.mp member
    exact ⟨there, .refl⟩
  | @up steps child parent _ inherits ih =>
    obtain ⟨nodes, length, nodup, below⟩ := ih
    have fresh : parent ∉ nodes := fun member =>
      acyclic.irrefl (Relation.TransGen.tail' (below parent member).2 inherits)
    refine ⟨parent :: nodes, congrArg (· + 1) length, nodup.cons fresh, ?_⟩
    intro node member
    rcases List.mem_cons.mp member with rfl | earlier
    · obtain ⟨_, _, listed⟩ := inherits
      exact ⟨contains_of_mem_parentKeys listed, .refl⟩
    · exact ⟨(below node earlier).1, (below node earlier).2.tail inherits⟩

theorem Climbs.lt_size {steps : Nat} (climbs : m.Climbs key steps parent) (acyclic : m.Acyclic)
    (there : m.contains key) : steps < m.size := by
  obtain ⟨nodes, length, nodup, below⟩ := climbs.nodes acyclic there
  have inside : nodes ⊆ m.keys := fun node member =>
    Dict.mem_keys_iff.mpr (Dict.contains_iff.mp (below node member).1)
  have bound := nodup.length_le_of_subset inside
  rw [length, Dict.length_keys] at bound
  exact bound

/-- The keys that the schema of a key inherits from. -/
def above (m : SchemaMap) (key : String) : List String :=
  ((m.get? key).map (·.parentKeys m)).getD []

theorem above_of_mem_sources {source : String × Schema} (listed : source ∈ s.sources m) :
    m.above source.1 = source.2.parentKeys m := by
  obtain ⟨_, _, _, found⟩ := mem_sources.mp listed
  rw [above, found, Option.map_some, Option.getD_some]

/-- A round leads to what the sources inherit from. -/
theorem parentKeys_folded (m : SchemaMap) (s : Schema) :
    (s.folded m).parentKeys m = (s.parentKeys m).flatMap m.above := by
  simp only [parentKeys, sources, parents_folded]
  induction s.parents with
  | nil => rfl
  | cons entry rest ih =>
    rw [List.flatMap_cons, List.filterMap_append, List.map_append, ih, List.filterMap_cons]
    cases led : parentIn? m entry with
    | none => simp [heirs, led]
    | some source =>
      obtain ⟨target, parent⟩ := source
      have found := (parentIn?_eq_some_iff.mp led).2
      simp [heirs, led, above, found, parentKeys, sources]

theorem mem_parentKeys_folded : parent ∈ (s.folded m).parentKeys m ↔
    ∃ source ∈ s.sources m, parent ∈ source.2.parentKeys m := by
  rw [parentKeys_folded, List.mem_flatMap]
  constructor
  · rintro ⟨key, listed, led⟩
    obtain ⟨source, inside, rfl⟩ := List.mem_map.mp listed
    exact ⟨source, inside, above_of_mem_sources inside ▸ led⟩
  · rintro ⟨source, inside, led⟩
    exact ⟨source.1, List.mem_map_of_mem inside, above_of_mem_sources inside ▸ led⟩

theorem exists_parentKeys_iff {Q : String → Prop} :
    (∃ parent ∈ s.parentKeys m, Q parent) ↔ ∃ source ∈ s.sources m, Q source.1 := by
  constructor
  · rintro ⟨parent, inside, holds⟩
    obtain ⟨source, listed, rfl⟩ := List.mem_map.mp inside
    exact ⟨source, listed, holds⟩
  · rintro ⟨source, listed, holds⟩
    exact ⟨source.1, List.mem_map_of_mem listed, holds⟩

theorem exists_parentKeys_folded_iff {Q : String → Prop} :
    (∃ parent ∈ (s.folded m).parentKeys m, Q parent) ↔
      ∃ source ∈ s.sources m, ∃ parent ∈ source.2.parentKeys m, Q parent := by
  simp only [mem_parentKeys_folded]
  constructor
  · rintro ⟨parent, ⟨source, listed, inside⟩, holds⟩
    exact ⟨source, listed, parent, inside, holds⟩
  · rintro ⟨source, listed, parent, inside, holds⟩
    exact ⟨parent, ⟨source, listed, inside⟩, holds⟩

/-- Every round takes the sources one step up, and no climb is as long as there are keys. -/
theorem settle_ok {rounds steps : Nat} (acyclic : m.Acyclic) (there : m.contains key)
    (climbs : ∀ parent ∈ s.parentKeys m, m.Climbs key (steps + 1) parent)
    (enough : m.size ≤ rounds + steps) : ∃ f, settle m key rounds s = .ok f := by
  induction rounds generalizing s steps with
  | zero =>
    refine ⟨s, if_neg ?_⟩
    intro bound
    obtain ⟨source, listed⟩ := List.exists_mem_of_ne_nil _ (inherits_iff.mp bound)
    have climb := climbs source.1 (List.mem_map_of_mem listed)
    have := climb.lt_size acyclic there
    omega
  | succ rounds ih =>
    rw [settle]
    split
    · have other : key ∉ s.parentKeys m := fun own => by
        cases climbs key own with
        | up climb inherits => exact acyclic.irrefl (.tail' climb.reaches inherits)
      rw [round_eq, if_neg other]
      have fewer : m.size ≤ rounds + (steps + 1) := by omega
      refine ih ?_ fewer
      intro parent member
      obtain ⟨source, listed, above⟩ := mem_parentKeys_folded.mp member
      obtain ⟨_, _, _, found⟩ := mem_sources.mp listed
      exact (climbs source.1 (List.mem_map_of_mem listed)).up ⟨source.2, found, above⟩
    · exact ⟨s, rfl⟩

theorem contains_insert (there : m.contains key) (s : Schema) (other : String) :
    Dict.contains (m.insert key s) other = m.contains other := by
  rw [Dict.contains_eq_isSome, Dict.get?_insert]
  split
  · rename_i same
    rw [same, there]
    rfl
  · rfl

theorem Acyclic.insert (acyclic : m.Acyclic) (there : m.contains key)
    (closed : f.parentKeys m = []) : (SchemaMap.Acyclic (m.insert key f)) := by
  have same := contains_insert there f
  apply Subrelation.wf ?_ acyclic
  intro parent child inherits
  obtain ⟨s, found, listed⟩ := inherits
  rw [parentKeys_congr same] at listed
  rw [Dict.get?_insert] at found
  split at found
  · cases found
    rw [closed] at listed
    contradiction
  · exact ⟨s, found, listed⟩

theorem settleKey_ok (acyclic : m.Acyclic) (key : String) :
    ∃ n, m.settleKey key = .ok n ∧ SchemaMap.Acyclic n := by
  rw [settleKey]
  cases found : m.get? key with
  | none => exact ⟨m, rfl, acyclic⟩
  | some s =>
    have there : m.contains key := Dict.contains_iff.mpr ⟨s, found⟩
    have enough : m.size ≤ m.size + 1 + 0 := by omega
    obtain ⟨f, settled⟩ := settle_ok acyclic there
      (fun parent listed => .up .here ⟨s, found, listed⟩) enough
    have closed := parentKeys_eq_nil_iff.mpr (settles_of_settle settled).sources_eq_nil
    exact ⟨m.insert key f, by simp only [settled]; rfl, acyclic.insert there closed⟩

/-- Flattening goes through where inheritance leads nowhere back. -/
theorem flatten_ok (acyclic : m.Acyclic) : ∃ flat, m.flatten = .ok flat := by
  suffices keys : ∀ (keys : List String) (m : SchemaMap), m.Acyclic →
      ∃ flat, m.flattenKeys keys = (flat, .ok ()) by
    obtain ⟨flat, done⟩ := keys m.keys m acyclic
    exact ⟨flat, by rw [flatten, done]; rfl⟩
  intro keys
  induction keys with
  | nil => exact fun m _ => ⟨m, rfl⟩
  | cons key rest ih =>
    intro m acyclic
    obtain ⟨n, settled, acyclic⟩ := settleKey_ok acyclic key
    obtain ⟨flat, done⟩ := ih n acyclic
    exact ⟨flat, by rw [flattenKeys, settled]; exact done⟩

/-- A map and its flat schemas: each schema is settled over the flat schemas before its key and the
built ones from its key on. -/
structure Flattens (m flat : SchemaMap) : Prop where
  settles : ∀ {key s}, m.get? key = some s → ∃ seen f,
    (∀ other, seen.get? other = if other < key then flat.get? other else m.get? other) ∧
      Settles seen s f ∧ flat.get? key = some f
  missing : ∀ {key}, m.get? key = none → flat.get? key = none

theorem settleKey_cases (settled : m.settleKey key = .ok n) : m.get? key = none ∧ n = m ∨
    ∃ s f, m.get? key = some s ∧ Settles m s f ∧ n = m.insert key f := by
  rw [settleKey] at settled
  split at settled
  · rename_i missing
    cases settled
    exact .inl ⟨missing, rfl⟩
  · rename_i s found
    cases result : settle m key (m.size + 1) s with
    | error => rw [result] at settled; cases settled
    | ok f =>
      rw [result] at settled
      cases settled
      exact .inr ⟨s, f, found, settles_of_settle result, rfl⟩

theorem settleKey_frame (settled : m.settleKey key = .ok n)
    (apart : child ≠ key ∨ m.get? child = none) : n.get? child = m.get? child := by
  rcases settleKey_cases settled with ⟨_, rfl⟩ | ⟨s, f, found, _, rfl⟩
  · rfl
  · have distinct : child ≠ key := by
      rcases apart with distinct | missing
      · exact distinct
      · rintro rfl
        rw [found] at missing
        contradiction
    rw [Dict.get?_insert, if_neg distinct]

theorem settleKey_settles (settled : m.settleKey key = .ok n) (found : m.get? key = some s) :
    ∃ f, Settles m s f ∧ n.get? key = some f := by
  rcases settleKey_cases settled with ⟨missing, _⟩ | ⟨own, f, own_found, settles, rfl⟩
  · rw [missing] at found
    contradiction
  · cases Option.some.inj (found.symm.trans own_found)
    exact ⟨f, settles, by rw [Dict.get?_insert, if_pos rfl]⟩

theorem flattenKeys_frame {keys : List String} (done : m.flattenKeys keys = (flat, .ok ()))
    (apart : key ∉ keys ∨ m.get? key = none) : flat.get? key = m.get? key := by
  induction keys generalizing m with
  | nil =>
    cases done
    rfl
  | cons first rest ih =>
    rw [flattenKeys] at done
    split at done
    case h_2 => cases done
    rename_i n settled
    rw [List.mem_cons, not_or] at apart
    have settled_frame := settleKey_frame settled (apart.imp_left And.left)
    rw [← settled_frame]
    apply ih done
    rw [settled_frame]
    exact apart.imp_left And.right

/-- Each key of an ordered list is settled over what the keys before it were flattened to. -/
theorem flattenKeys_settles {keys : List String} (ordered : keys.Pairwise (· < ·))
    (done : m.flattenKeys keys = (flat, .ok ())) (listed : key ∈ keys)
    (found : m.get? key = some s) : ∃ seen f,
      (∀ other, seen.get? other =
        if other ∈ keys ∧ other < key then flat.get? other else m.get? other) ∧
          Settles seen s f ∧ flat.get? key = some f := by
  induction keys generalizing m with
  | nil => contradiction
  | cons first rest ih =>
    obtain ⟨above, rest_ordered⟩ := List.pairwise_cons.mp ordered
    have fresh : first ∉ rest := fun member => String.lt_irrefl _ (above first member)
    rw [flattenKeys] at done
    split at done
    case h_2 => cases done
    rename_i n settled
    rcases List.mem_cons.mp listed with rfl | later
    · obtain ⟨f, settles, flattened⟩ := settleKey_settles settled found
      have alone : ∀ other, ¬(other ∈ key :: rest ∧ other < key) := by
        rintro other ⟨inside, below⟩
        rcases List.mem_cons.mp inside with rfl | later
        · exact String.lt_irrefl _ below
        · exact String.lt_asymm below (above other later)
      refine ⟨m, f, ?_, settles, (flattenKeys_frame done (.inl fresh)).trans flattened⟩
      intro other
      exact (if_neg (alone other)).symm
    · have behind := above key later
      have distinct : key ≠ first := fun same => fresh (same ▸ later)
      obtain ⟨seen, f, sees, settles, flattened⟩ :=
        ih rest_ordered done later ((settleKey_frame settled (.inl distinct)).trans found)
      refine ⟨seen, f, ?_, settles, flattened⟩
      intro other
      rw [sees other]
      by_cases at_first : other = first
      · subst at_first
        rw [if_neg fun both => fresh both.1, if_pos ⟨List.mem_cons_self, behind⟩,
          flattenKeys_frame done (.inl fresh)]
      · simp only [List.mem_cons, at_first, false_or, settleKey_frame settled (.inl at_first)]

theorem flattens_of_flatten (done : m.flatten = .ok flat) : Flattens m flat := by
  rw [flatten] at done
  split at done
  rename_i schemas result run
  cases result with
  | error => cases done
  | ok =>
    cases done
    constructor
    · intro key s found
      have listed : key ∈ m.keys := Dict.mem_keys_iff.mpr ⟨s, found⟩
      obtain ⟨seen, f, sees, settles, flattened⟩ :=
        flattenKeys_settles m.keys_ordered run listed found
      refine ⟨seen, f, ?_, settles, flattened⟩
      intro other
      rw [sees other]
      by_cases listed : other ∈ m.keys
      · simp only [listed, true_and]
      · have missing : m.get? other = none := by
          rw [Dict.mem_keys_iff, ← Option.isSome_iff_exists,
            Option.not_isSome_iff_eq_none] at listed
          exact listed
        rw [if_neg fun both => listed both.1, flattenKeys_frame run (.inr missing), missing,
          ite_self]
    · intro key missing
      exact (flattenKeys_frame run (.inr missing)).trans missing

end SchemaMap
end ObjectRole

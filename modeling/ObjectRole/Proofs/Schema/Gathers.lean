import ObjectRole.Proofs.Schema.Inherited

/-! Where a reading of a flat schema comes from. The schema itself is asked first, and then, round
by round, the keys that are inherited from in their order. Keys before the schema's own are flat and
lead nowhere any more. -/
namespace ObjectRole

open Schema

/-- What is found by asking keys, and after them the keys above them, until none is left. -/
inductive Gathers {β : Type} (tell : String → Option β) (above : String → List String) :
    Option β → List String → Option β → Prop
  | done {value : Option β} : Gathers tell above value [] value
  | round {value found : Option β} {keys : List String} (some : keys ≠ [])
      (rest : Gathers tell above (value.or (keys.findSome? tell)) (keys.flatMap above) found) :
      Gathers tell above value keys found

namespace Gathers

variable {β : Type} {tell : String → Option β} {above : String → List String}
  {value found : Option β} {keys : List String}

theorem next (gathers : Gathers tell above value keys found) :
    Gathers tell above (value.or (keys.findSome? tell)) (keys.flatMap above) found := by
  cases gathers with
  | done => simpa using .done
  | round _ rest => exact rest

theorem eq_of_nil (gathers : Gathers tell above value [] found) : found = value := by
  cases gathers with
  | done => rfl
  | round some _ => contradiction

/-- What was found once stays. -/
theorem eq_of_isSome (gathers : Gathers tell above value keys found) (there : value.isSome) :
    found = value := by
  induction gathers with
  | done => rfl
  | round _ _ ih =>
    rw [Option.or_of_isSome there] at ih
    exact ih there

/-- Keys that have nothing to tell, and lead to such keys only, change nothing. -/
theorem eq_of_quiet (Quiet : String → Prop) (gathers : Gathers tell above value keys found)
    (quiet : ∀ key, Quiet key → tell key = none ∧ ∀ next ∈ above key, Quiet next)
    (inside : ∀ key ∈ keys, Quiet key) : found = value := by
  induction gathers with
  | done => rfl
  | @round value found keys _ _ ih =>
    have nothing : keys.findSome? tell = none :=
      List.findSome?_eq_none_iff.mpr fun key listed => (quiet key (inside key listed)).1
    rw [nothing, Option.or_none] at ih
    refine ih ?_
    intro next listed
    obtain ⟨key, key_listed, led⟩ := List.mem_flatMap.mp listed
    exact (quiet key (inside key key_listed)).2 next led

end Gathers

namespace SchemaMap

variable {m flat : SchemaMap} {β : Type} {φ : Schema → Option β} {s f : Schema} {key : String}

/-- A reading of the schema of a key. -/
def tell (m : SchemaMap) (φ : Schema → Option β) (key : String) : Option β := (m.get? key).bind φ

/-- What a key tells while another is flattened: keys before that one are flat. -/
def told (m flat : SchemaMap) (φ : Schema → Option β) (key other : String) : Option β :=
  if other < key then flat.tell φ other else m.tell φ other

/-- Where a key leads while another is flattened. -/
def led (m : SchemaMap) (key other : String) : List String :=
  if other < key then [] else m.above other

theorem sources_findSome? (m : SchemaMap) (φ : Schema → Option β) (s : Schema) :
    (s.sources m).findSome? (fun source => φ source.2) = (s.parentKeys m).findSome? (m.tell φ) := by
  have found : ∀ source ∈ s.sources m, m.tell φ source.1 = φ source.2 := by
    intro source listed
    obtain ⟨_, _, _, found⟩ := mem_sources.mp listed
    rw [tell, found, Option.bind_some]
  rw [parentKeys, List.findSome?_map]
  generalize s.sources m = list at found
  induction list with
  | nil => rfl
  | cons source rest ih =>
    have first := found source (.head _)
    rw [List.findSome?_cons, List.findSome?_cons, Function.comp_apply, first,
      ih fun other later => found other (.tail _ later)]

theorem gathers_of_settles (first : FirstWins φ) (settles : Settles m s f) :
    Gathers (m.tell φ) m.above (φ s) (s.parentKeys m) (φ f) := by
  induction settles with
  | done none =>
    rw [parentKeys_eq_nil_iff.mpr none]
    exact .done
  | @fold s f some _ ih =>
    rw [first, sources_findSome?, parentKeys_folded] at ih
    exact .round (fun none => some (parentKeys_eq_nil_iff.mp none)) ih

/-- Flat schemas tell what is gathered over the flat schemas before them and the built ones. -/
theorem Flattens.gathers (flattens : Flattens m flat) (first : FirstWins φ)
    (there : m.contains key) : Gathers (m.told flat φ key) (m.led key) (m.tell φ key) (m.above key)
      (flat.tell φ key) := by
  obtain ⟨s, found⟩ := Dict.contains_iff.mp there
  obtain ⟨seen, f, sees, settles, flattened⟩ := flattens.settles found
  have same := parentKeys_congr (flattens.contains_seen sees)
  have tells : seen.tell φ = m.told flat φ key := by
    funext other
    rw [tell, sees, told]
    split <;> rfl
  have leads : seen.above = m.led key := by
    funext other
    rw [above, sees, led]
    split
    · cases other_found : flat.get? other with
      | none => rfl
      | some g =>
        rw [Option.map_some, Option.getD_some, same]
        exact flattens.parentKeys_eq_nil other_found
    · rw [above, funext same]
  have gathers := gathers_of_settles first settles
  rw [tells, leads, same] at gathers
  simpa only [tell, above, found, flattened, Option.bind_some, Option.map_some,
    Option.getD_some] using gathers

end SchemaMap
end ObjectRole

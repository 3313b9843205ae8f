import ObjectRole.Proofs.Except
import ObjectRole.Proofs.Schema.Names
import Mathlib.Order.WellFoundedSet

/-! Flattening as a whole, on any map. It goes through exactly where inheritance leads nowhere back.
Then a flat schema keeps its own words, has the names and the entries that lead nowhere of all that
it inherits from at any distance, and flattening it again changes nothing. -/
namespace ObjectRole

open Schema Inheritance

namespace SchemaMap

variable {m n flat : SchemaMap} {key other child parent : String} {s f : Schema}
  {P : Schema → Prop} {e : CompileError}

/-! ## Where flattening fails -/

/-- Inheritance leads from some key back to it. -/
def Loops (m : SchemaMap) : Prop := ∃ key, Relation.TransGen m.Inherits key key

theorem Inherits.contains (inherits : m.Inherits child parent) :
    m.contains child ∧ m.contains parent := by
  obtain ⟨s, found, listed⟩ := inherits
  exact ⟨Dict.contains_iff.mpr ⟨s, found⟩, contains_of_mem_parentKeys listed⟩

/-- There are only so many keys, so that a way that goes on for ever comes back to one of them. -/
theorem acyclic_of_not_loops (free : ¬m.Loops) : m.Acyclic := by
  have strict : IsStrictOrder String
      (Relation.TransGen fun parent child => m.Inherits child parent) :=
    { irrefl := fun key loop => free ⟨key, Relation.transGen_swap.mp loop⟩
      trans := fun _ _ _ => .trans }
  have finite := m.keys.finite_toSet.wellFoundedOn
    (r := Relation.TransGen fun parent child => m.Inherits child parent)
  rw [Set.wellFoundedOn_iff] at finite
  refine Subrelation.wf ?_ finite
  intro parent child inherits
  have listed {key : String} (there : m.contains key) : key ∈ m.keys :=
    Dict.mem_keys_iff.mpr (Dict.contains_iff.mp there)
  exact ⟨.single inherits, listed inherits.contains.2, listed inherits.contains.1⟩

theorem Acyclic.not_loops (acyclic : m.Acyclic) : ¬m.Loops := fun ⟨_, loop⟩ => acyclic.irrefl loop

/-- Rounds come to an end only where all ways from the schema do. -/
theorem grounded_of_settles (settles : Settles m s f) : ∀ parent ∈ s.parentKeys m,
    m.Grounded parent := by
  induction settles with
  | done none =>
    rw [parentKeys_eq_nil_iff.mpr none]
    nofun
  | @fold s f _ _ ih =>
    intro parent listed
    obtain ⟨source, inside, rfl⟩ := List.mem_map.mp listed
    obtain ⟨_, _, _, found⟩ := mem_sources.mp inside
    refine grounded_of_parents found fun above led => ih above ?_
    exact mem_parentKeys_folded.mpr ⟨source, inside, led⟩

/-- A key that is settled leads nowhere back. -/
theorem grounded_of_settleKey (settled : m.settleKey key = .ok n) : m.Grounded key := by
  rcases settleKey_cases settled with ⟨missing, _⟩ | ⟨s, f, found, settles, _⟩
  · refine .intro key fun parent ⟨_, found, _⟩ => ?_
    rw [missing] at found
    contradiction
  · exact grounded_of_parents found (grounded_of_settles settles)

/-- What leads nowhere back once a key is settled did not before. -/
theorem Grounded.before (grounded : n.Grounded other) (settled : m.settleKey key = .ok n) :
    m.Grounded other := by
  have own := grounded_of_settleKey settled
  rcases settleKey_cases settled with ⟨_, rfl⟩ | ⟨s, f, found, _, rfl⟩
  · exact grounded
  have same := contains_insert (Dict.contains_iff.mpr ⟨s, found⟩) f
  induction grounded with
  | intro other _ ih =>
    by_cases settled_one : other = key
    · exact settled_one ▸ own
    · refine .intro other fun parent ⟨schema, there, listed⟩ => ih parent ⟨schema, ?_, ?_⟩
      · rw [Dict.get?_insert, if_neg settled_one, there]
      · rwa [parentKeys_congr same]

theorem grounded_of_flattenKeys {keys : List String} (done : m.flattenKeys keys = (flat, .ok ())) :
    ∀ key ∈ keys, m.Grounded key := by
  induction keys generalizing m with
  | nil => nofun
  | cons first rest ih =>
    rw [flattenKeys] at done
    split at done
    case h_2 => cases done
    rename_i n settled
    intro key listed
    rcases List.mem_cons.mp listed with rfl | later
    · exact grounded_of_settleKey settled
    · exact (ih done key later).before settled

/-- Flattening catches every way that leads back, wherever it begins. -/
theorem acyclic_of_flatten (done : m.flatten = .ok flat) : m.Acyclic := by
  rw [flatten] at done
  split at done
  rename_i schemas result run
  cases result with
  | error => cases done
  | ok =>
    refine ⟨fun key => .intro key fun parent inherits => ?_⟩
    obtain ⟨value, found⟩ := Dict.contains_iff.mp inherits.contains.2
    exact grounded_of_flattenKeys run parent (Dict.mem_keys_iff.mpr ⟨value, found⟩)

theorem settle_error {rounds : Nat} (failed : settle m key rounds s = .error e) :
    e = .inheritanceCycle key := by
  induction rounds generalizing s with
  | zero =>
    rw [settle] at failed
    split at failed
    · cases failed
      rfl
    · cases failed
  | succ rounds ih =>
    rw [settle, round_eq] at failed
    split at failed
    · split at failed
      · cases failed
        rfl
      · exact ih failed
    · cases failed

theorem settleKey_error (failed : m.settleKey key = .error e) : e = .inheritanceCycle key := by
  rw [settleKey] at failed
  split at failed
  · cases failed
  · rename_i s _
    cases result : settle m key (m.size + 1) s with
    | error other =>
      rw [result] at failed
      cases failed
      exact settle_error result
    | ok => rw [result] at failed; cases failed

theorem flattenKeys_error {keys : List String} (failed : (m.flattenKeys keys).2 = .error e) :
    ∃ key, e = .inheritanceCycle key := by
  induction keys generalizing m with
  | nil => cases failed
  | cons key rest ih =>
    rw [flattenKeys] at failed
    split at failed
    · exact ih failed
    · rename_i stopped
      cases failed
      exact ⟨key, settleKey_error stopped⟩

/-- Flattening fails for one reason only. -/
theorem flatten_error (failed : m.flatten = .error e) : ∃ key, e = .inheritanceCycle key := by
  rw [flatten] at failed
  split at failed
  rename_i schemas result run
  cases result with
  | ok => cases failed
  | error =>
    cases failed
    exact flattenKeys_error (congrArg Prod.snd run)

theorem flatten_fails_iff : (∃ key, m.flatten = .error (.inheritanceCycle key)) ↔ m.Loops := by
  constructor
  · rintro ⟨key, failed⟩
    by_contra free
    obtain ⟨flat, done⟩ := flatten_ok (acyclic_of_not_loops free)
    rw [failed] at done
    contradiction
  · intro loops
    cases ran : m.flatten with
    | ok flat => exact absurd loops (acyclic_of_flatten ran).not_loops
    | error e =>
      obtain ⟨key, rfl⟩ := flatten_error ran
      exact ⟨key, rfl⟩

/-! ## What flat schemas keep -/

end SchemaMap

namespace Schema

/-- All that a schema says besides what is inherited. -/
def uninherited (s : Schema) : Schema :=
  { s with
    title := none, description := none, type := none, examples := none
    properties := none, required := none, allOf := none }

/-- Nothing that a schema says itself is lost or replaced. -/
structure Keeps (s f : Schema) : Prop where
  property : ∀ name p, s.property? name = some p → f.property? name = some p
  title : ∀ text, s.title = some text → f.title = some text
  description : ∀ text, s.description = some text → f.description = some text
  type : ∀ name, s.type = some name → f.type = some name
  examples : ∀ values, s.examples = some values → f.examples = some values
  others : f.uninherited = s.uninherited

variable {m : SchemaMap} {s g f : Schema}

theorem Keeps.refl (s : Schema) : Keeps s s :=
  ⟨fun _ _ => id, fun _ => id, fun _ => id, fun _ => id, fun _ => id, rfl⟩

theorem FirstWins.keeps {β : Type} {φ : Schema → Option β} (first : FirstWins φ) {value : β}
    (own : φ g = some value) : φ (g.folded m) = some value := by
  rw [first m g, own, Option.some_or]

theorem firstWins_type : FirstWins (·.type) := fun m s =>
  foldl_inheritWords (·.type) (fun _ _ => rfl) (s.sources m) _

theorem examples_folded {values : List Json} (own : g.examples = some values) :
    (g.folded m).examples = some values := by
  refine foldl_keeps (P := fun c : Schema => c.examples = some values) ?_ (g.sources m) own
  intro c kept source
  change c.examples.or _ = some values
  rw [kept, Option.some_or]

theorem uninherited_folded (m : SchemaMap) (g : Schema) :
    (g.folded m).uninherited = g.uninherited := by
  have words : ∀ c : Schema, c.uninherited = g.uninherited → ∀ source : String × Schema,
      (Inheritance.inheritWords c source.2).uninherited = g.uninherited := fun _ same _ => same
  exact foldl_keeps words (g.sources m)
    (c := { g with required := none, properties := none, allOf := none }) rfl

theorem Keeps.folded (keeps : Keeps s g) (m : SchemaMap) : Keeps s (g.folded m) where
  property name p own := (firstWins_property name).keeps (keeps.property name p own)
  title text own := firstWins_title.keeps (keeps.title text own)
  description text own := firstWins_description.keeps (keeps.description text own)
  type name own := firstWins_type.keeps (keeps.type name own)
  examples values own := examples_folded (keeps.examples values own)
  others := (uninherited_folded m g).trans keeps.others

theorem Settles.keeps_own (settles : Settles m s f) : Keeps s f :=
  settles.keeps (fun _ kept => kept.folded m) (.refl s)

/-! ## What flat schemas collect -/

/-- An entry that leads to none of the schemas of a map. -/
def Stray (m : SchemaMap) (entry : Schema) : Prop :=
  ∀ target, entry.target? = some target → m.contains target = false

theorem parentIn?_eq_none_iff {entry : Schema} : parentIn? m entry = none ↔ Stray m entry := by
  simp only [parentIn?, Option.bind_eq_bind, Option.pure_def, Option.bind_eq_none_iff, Stray,
    reduceCtorEq]
  refine forall₂_congr fun target _ => ?_
  rw [← Option.eq_none_iff_forall_ne_some, Dict.contains_eq_isSome, Option.isSome_eq_false_iff,
    Option.isNone_iff_eq_none]

end Schema

namespace SchemaMap

variable {m flat : SchemaMap} {key : String} {s f : Schema} {P : Schema → Prop}

/-- Entries that lead nowhere are left as they are and collected from the sources. -/
theorem accumulatesIn_stray (m : SchemaMap) (entry : Schema) :
    m.AccumulatesIn fun s => entry ∈ s.parents ∧ Stray m entry := by
  intro n same s
  have nowhere : Stray m entry ↔ parentIn? n entry = none := by
    simp only [parentIn?_eq_none_iff, Stray, same]
  beta_reduce
  rw [parents_folded, List.mem_flatMap, nowhere]
  constructor
  · rintro ⟨⟨old, listed, left⟩, stray⟩
    unfold heirs at left
    split at left
    · obtain rfl := List.mem_singleton.mp left
      exact .inl ⟨listed, stray⟩
    · rename_i target parent led
      exact .inr ⟨(target, parent), List.mem_filterMap.mpr ⟨old, listed, led⟩, left, stray⟩
  · rintro (⟨listed, stray⟩ | ⟨source, inside, listed, stray⟩)
    · exact ⟨⟨entry, listed, by simp [heirs, stray]⟩, stray⟩
    · obtain ⟨old, old_listed, led⟩ := List.mem_filterMap.mp inside
      exact ⟨⟨old, old_listed, by simp only [heirs, led, listed]⟩, stray⟩

/-- The key, or one of those that it inherits from at any distance, has a schema that meets the
condition. -/
def SaysAbove (m : SchemaMap) (P : Schema → Prop) (key : String) : Prop :=
  ∃ above, Relation.ReflTransGen m.Inherits key above ∧ m.Says P above

theorem saysAbove_iff (found : m.get? key = some s) :
    m.SaysAbove P key ↔ P s ∨ ∃ parent ∈ s.parentKeys m, m.SaysAbove P parent := by
  constructor
  · rintro ⟨above, reaches, holds⟩
    rcases reaches.cases_head with rfl | ⟨parent, ⟨own, own_found, listed⟩, rest⟩
    · exact .inl ((says_iff found).mp holds)
    · cases Option.some.inj (found.symm.trans own_found)
      exact .inr ⟨parent, listed, above, rest, holds⟩
  · rintro (own | ⟨parent, listed, above, rest, holds⟩)
    · exact ⟨key, .refl, s, found, own⟩
    · exact ⟨above, .head ⟨s, found, listed⟩ rest, holds⟩

/-- A flat schema has what is collected along inheritance, at any distance. -/
theorem Flattens.says_iff_above (flattens : Flattens m flat) (acyclic : m.Acyclic)
    (collected : m.AccumulatesIn P) (built : m.get? key = some s)
    (found : flat.get? key = some f) : P f ↔ m.SaysAbove P key := by
  induction key using acyclic.induction generalizing s f with
  | _ key ih =>
    rw [flattens.accumulates acyclic collected built found, saysAbove_iff built]
    refine or_congr_right (exists_congr fun parent => and_congr_right fun listed => ?_)
    obtain ⟨_, parent_built⟩ := Dict.contains_iff.mp (contains_of_mem_parentKeys listed)
    obtain ⟨_, g, _, _, parent_found⟩ := flattens.settles parent_built
    rw [SchemaMap.says_iff parent_found]
    exact ih parent ⟨s, built, listed⟩ parent_built parent_found

/-! ## The result -/

theorem Flattens.keys_eq (flattens : Flattens m flat) : flat.keys = m.keys :=
  Dict.keys_eq_of_contains flattens.contains_eq

/-- Where no schema inherits from another, there is nothing to do. -/
theorem flatten_of_closed (closed : ∀ key f, m.get? key = some f → f.parentKeys m = []) :
    m.flatten = .ok m := by
  have settles (key : String) : m.settleKey key = .ok m := by
    rw [settleKey]
    cases found : m.get? key with
    | none => rfl
    | some f =>
      have free : ¬f.inherits m = true := fun bound =>
        inherits_iff.mp bound (parentKeys_eq_nil_iff.mp (closed key f found))
      change (m.insert key ·) <$> settle m key (m.size + 1) f = .ok m
      rw [settle, if_neg free]
      exact congrArg Except.ok (Dict.insert_of_get? found)
  have keys (keys : List String) : m.flattenKeys keys = (m, .ok ()) := by
    induction keys with
    | nil => rfl
    | cons key rest ih =>
      rw [flattenKeys, settles key]
      exact ih
  rw [flatten, keys]
  rfl

/-- Flattening again changes nothing. -/
theorem Flattens.flatten_eq (flattens : Flattens m flat) : flat.flatten = .ok flat := by
  refine flatten_of_closed fun key f found => ?_
  rw [parentKeys_congr flattens.contains_eq]
  exact flattens.parentKeys_eq_nil found

/-- What flattening makes of a schema: it keeps its own words, leads to no schema any more, and has
the names and the stray entries of all that it inherits from. -/
structure Collapses (m : SchemaMap) (key : String) (s f : Schema) : Prop where
  keeps : Keeps s f
  stray : ∀ entry ∈ f.parents, Stray m entry
  properties : ∀ name, name ∈ f.propertyNames ↔ m.SaysAbove (name ∈ ·.propertyNames) key
  required : ∀ name, name ∈ f.requiredNames ↔ m.SaysAbove (name ∈ ·.requiredNames) key
  parents : ∀ entry, entry ∈ f.parents ↔
    m.SaysAbove (fun s => entry ∈ s.parents ∧ Stray m entry) key

theorem Flattens.collapses (flattens : Flattens m flat) (acyclic : m.Acyclic)
    (built : m.get? key = some s) (found : flat.get? key = some f) : Collapses m key s f := by
  have closed := flattens.parentKeys_eq_nil found
  have stray : ∀ entry ∈ f.parents, Stray m entry := by
    intro entry listed target pointed
    by_contra there
    rw [Bool.not_eq_false, Dict.contains_iff] at there
    have member := mem_parentKeys.mpr ⟨entry, listed, pointed, there⟩
    rw [closed] at member
    contradiction
  refine ⟨?_, stray, ?_, ?_, ?_⟩
  · obtain ⟨_, g, _, settles, flattened⟩ := flattens.settles built
    cases Option.some.inj (found.symm.trans flattened)
    exact settles.keeps_own
  · exact fun name => flattens.says_iff_above acyclic
      (accumulatesIn (accumulates_propertyNames name) m) built found
  · exact fun name => flattens.says_iff_above acyclic
      (accumulatesIn (accumulates_required name) m) built found
  · intro entry
    rw [← flattens.says_iff_above acyclic (accumulatesIn_stray m entry) built found]
    exact ⟨fun listed => ⟨listed, stray entry listed⟩, And.left⟩

/-- Flattening fails exactly where inheritance leads from a key back to it. Otherwise it collapses
every schema, and that once and for all. -/
theorem flatten_collapses (m : SchemaMap) :
    ((∃ key, m.flatten = .error (.inheritanceCycle key)) ↔ m.Loops) ∧
    (¬m.Loops → ∃ flat, m.flatten = .ok flat ∧ flat.keys = m.keys ∧ flat.flatten = .ok flat ∧
      ∀ key s, m.get? key = some s → ∃ f, flat.get? key = some f ∧ Collapses m key s f) := by
  refine ⟨flatten_fails_iff, fun free => ?_⟩
  have acyclic := acyclic_of_not_loops free
  obtain ⟨flat, done⟩ := flatten_ok acyclic
  have flattens := flattens_of_flatten done
  refine ⟨flat, done, flattens.keys_eq, flattens.flatten_eq, fun key s built => ?_⟩
  obtain ⟨_, f, _, _, found⟩ := flattens.settles built
  exact ⟨f, found, flattens.collapses acyclic built found⟩

/-- A car that swims is a road vehicle and a boat, and inherits from vehicles on both ways. -/
def amphibians : SchemaMap := .ofList [
  ("Amphibian",
    { title := some "Amphibian", allOf := some [.component "Road", .component "Boat"] }),
  ("Boat", { allOf := some [.component "Vehicle"], required := some ["draft"] }),
  ("Road", { allOf := some [.component "Vehicle", { reference := some "urn:road" }] }),
  ("Vehicle", { title := some "Vehicle", properties := some [("owner", .typed "string")] })]

theorem amphibians_collapse : ¬amphibians.Loops ∧ ∃ flat s f, amphibians.flatten = .ok flat ∧
    flat.flatten = .ok flat ∧ amphibians.get? "Amphibian" = some s ∧
      flat.get? "Amphibian" = some f ∧ Collapses amphibians "Amphibian" s f ∧
        "owner" ∈ f.propertyNames ∧ f.requiredNames = ["draft"] ∧ f.title = some "Amphibian" := by
  have passed : (amphibians.flatten.toOption.bind (·.get? "Amphibian")).any fun f =>
      "owner" ∈ f.propertyNames ∧ f.requiredNames = ["draft"] ∧ f.title = some "Amphibian" := by
    decide +kernel
  obtain ⟨f, reached, said⟩ := (Option.any_eq_true _ _).mp passed
  obtain ⟨flat, ran, found⟩ := Option.bind_eq_some_iff.mp reached
  have done := eq_ok_of_toOption ran
  have free : ¬amphibians.Loops := by
    intro loops
    obtain ⟨key, failed⟩ := (flatten_collapses amphibians).1.mpr loops
    rw [done] at failed
    contradiction
  obtain ⟨other, also, _, again, each⟩ := (flatten_collapses amphibians).2 free
  cases Except.ok.inj (done.symm.trans also)
  obtain ⟨s, built⟩ := (flattens_of_flatten done).exists_built found
  obtain ⟨g, also_found, collapses⟩ := each "Amphibian" s built
  cases Option.some.inj (found.symm.trans also_found)
  exact ⟨free, flat, s, f, done, again, built, found, collapses, of_decide_eq_true said⟩

end SchemaMap
end ObjectRole

import ObjectRole.Proofs.Entries
import ObjectRole.Schema.Inheritance

/-! One round of folding inherited schemas in, and the rounds until none is left. A round asks the
schema itself first and then its sources in order; required names and properties are collected from
all of them. -/
namespace ObjectRole

namespace Schema

variable {m : SchemaMap} {s f : Schema} {key : String}

/-- The schemas of a map that a schema inherits from, with their keys. -/
def sources (m : SchemaMap) (s : Schema) : List (String × Schema) :=
  s.parents.filterMap (parentIn? m)

def parentKeys (m : SchemaMap) (s : Schema) : List String := (s.sources m).map (·.1)

/-- What is left of an entry after a round. -/
def heirs (m : SchemaMap) (entry : Schema) : List Schema :=
  match parentIn? m entry with
  | none => [entry]
  | some (_, parent) => parent.parents

theorem parentIn?_eq_some_iff {entry parent : Schema} {target : String} :
    parentIn? m entry = some (target, parent) ↔
      entry.target? = some target ∧ m.get? target = some parent := by
  simp only [parentIn?, Option.bind_eq_bind, Option.bind_eq_some_iff, Option.pure_def,
    Option.some.injEq, Prod.mk.injEq]
  constructor
  · rintro ⟨_, pointed, _, found, rfl, rfl⟩
    exact ⟨pointed, found⟩
  · rintro ⟨pointed, found⟩
    exact ⟨target, pointed, parent, found, rfl, rfl⟩

theorem mem_sources {target : String} {parent : Schema} : (target, parent) ∈ s.sources m ↔
    ∃ entry ∈ s.parents, entry.target? = some target ∧ m.get? target = some parent := by
  simp only [sources, List.mem_filterMap, parentIn?_eq_some_iff]

theorem mem_parentKeys {target : String} : target ∈ s.parentKeys m ↔
    ∃ entry ∈ s.parents, entry.target? = some target ∧ ∃ parent, m.get? target = some parent := by
  simp only [parentKeys, List.mem_map, Prod.exists, mem_sources]
  constructor
  · rintro ⟨_, parent, ⟨entry, listed, pointed, found⟩, rfl⟩
    exact ⟨entry, listed, pointed, parent, found⟩
  · rintro ⟨entry, listed, pointed, parent, found⟩
    exact ⟨target, parent, ⟨entry, listed, pointed, found⟩, rfl⟩

theorem parentKeys_eq_nil_iff : s.parentKeys m = [] ↔ s.sources m = [] := List.map_eq_nil_iff

theorem inherits_iff : s.inherits m = true ↔ s.sources m ≠ [] := by
  rw [inherits, sources, Ne, List.filterMap_eq_nil_iff, List.any_eq_true]
  simp only [not_forall, Option.isSome_iff_ne_none, exists_prop]

/-- The schema after one round. -/
def folded (m : SchemaMap) (s : Schema) : Schema :=
  { (s.sources m).foldl (fun s source => Inheritance.inheritWords s source.2)
      { s with required := none, properties := none, allOf := none } with
    properties := Inheritance.unlessEmpty <| (s.sources m).foldl
      (fun fields source => source.2.fields.foldl Inheritance.insertNew fields) s.fields
    required := Inheritance.unlessEmpty <| (s.sources m).foldl
      (fun names source => source.2.requiredNames.foldl Inheritance.requireNew names)
      s.requiredNames
    allOf := Inheritance.unlessEmpty (s.parents.flatMap (heirs m)) }

end Schema

namespace Inheritance

open Schema

variable {m : SchemaMap} {s f : Schema} {key : String}

@[simp] theorem getD_unlessEmpty {α : Type} (values : List α) :
    (unlessEmpty values).getD [] = values := by
  cases values <;> rfl

/-- A round goes through unless a schema is its own source. -/
theorem foldlM_step (i : Inheritance) (entries : List Schema) :
    entries.foldlM (step m key) i =
      if key ∈ (entries.filterMap (parentIn? m)).map (·.1) then .error (.inheritanceCycle key)
      else .ok
        { schema := (entries.filterMap (parentIn? m)).foldl
            (fun s source => inheritWords s source.2) i.schema
          required := (entries.filterMap (parentIn? m)).foldl
            (fun names source => source.2.requiredNames.foldl requireNew names) i.required
          properties := (entries.filterMap (parentIn? m)).foldl
            (fun fields source => source.2.fields.foldl insertNew fields) i.properties
          pending := i.pending ++ entries.flatMap (heirs m) } := by
  induction entries generalizing i with
  | nil => simp [pure, Except.pure]
  | cons entry rest ih =>
    rw [List.foldlM_cons]
    cases found : parentIn? m entry with
    | none =>
      have left : heirs m entry = [entry] := by simp only [heirs, found]
      simp only [step, found, bind, Except.bind, ih, List.filterMap_cons, List.flatMap_cons, left,
        List.append_assoc]
    | some source =>
      obtain ⟨target, parent⟩ := source
      have left : heirs m entry = parent.parents := by simp only [heirs, found]
      by_cases own : target = key
      · simp [step, found, own, bind, Except.bind]
      · have other : ¬key = target := fun same => own same.symm
        simp only [step, found, if_neg own, bind, Except.bind, ih, List.filterMap_cons,
          List.flatMap_cons, left, List.map_cons, List.mem_cons, other, false_or, absorb,
          List.foldl_cons, List.append_assoc]

theorem round_eq (m : SchemaMap) (key : String) (s : Schema) :
    round m key s =
      if key ∈ s.parentKeys m then .error (.inheritanceCycle key) else .ok (s.folded m) := by
  rw [round, foldlM_step]
  change (finish <$> if key ∈ s.parentKeys m then _ else _) = _
  split
  · rfl
  · rfl

end Inheritance

namespace Schema

open Inheritance

variable {m : SchemaMap} {s f : Schema} {key : String} {β : Type}

@[simp] theorem parents_folded : (s.folded m).parents = s.parents.flatMap (heirs m) :=
  getD_unlessEmpty _

theorem fields_folded : (s.folded m).fields = (s.sources m).foldl
    (fun fields source => source.2.fields.foldl insertNew fields) s.fields := getD_unlessEmpty _

theorem requiredNames_folded : (s.folded m).requiredNames = (s.sources m).foldl
    (fun names source => source.2.requiredNames.foldl requireNew names) s.requiredNames :=
  getD_unlessEmpty _

/-- A reading of schemas in which a round finds what the schema itself says, or else the first
source that says anything. -/
def FirstWins (φ : Schema → Option β) : Prop :=
  ∀ m s, φ (s.folded m) = (φ s).or ((s.sources m).findSome? fun source => φ source.2)

/-- A condition on schemas that a round meets when the schema or one of its sources does. -/
def Accumulates (P : Schema → Prop) : Prop :=
  ∀ m s, P (s.folded m) ↔ P s ∨ ∃ source ∈ s.sources m, P source.2

theorem FirstWins.accumulates {φ : Schema → Option β} (first : FirstWins φ) :
    Accumulates fun s => (φ s).isSome := by
  intro m s
  beta_reduce
  rw [first m s, Option.isSome_or, Bool.or_eq_true, List.isSome_findSome?, List.any_eq_true]

/-- Words that are inherited one source after the other are found first in the first. -/
theorem foldl_inheritWords (φ : Schema → Option β) (words : ∀ s parent : Schema,
    φ (inheritWords s parent) = (φ s).or (φ parent)) (list : List (String × Schema)) (s : Schema) :
    φ (list.foldl (fun s source => inheritWords s source.2) s) =
      (φ s).or (list.findSome? fun source => φ source.2) := by
  induction list generalizing s with
  | nil => simp
  | cons source rest ih =>
    rw [List.foldl_cons, ih, words, Option.or_assoc, List.findSome?_cons]
    congr 1
    cases φ source.2 <;> rfl

theorem firstWins_title : FirstWins (·.title) := fun m s =>
  foldl_inheritWords (·.title) (fun _ _ => rfl) (s.sources m) _

theorem firstWins_description : FirstWins (·.description) := fun m s =>
  foldl_inheritWords (·.description) (fun _ _ => rfl) (s.sources m) _

theorem get?_insertNew (fields : List (String × Schema)) (entry : String × Schema) (name : String) :
    Entries.get? name (insertNew fields entry) =
      (Entries.get? name fields).or (Entries.get? name [entry]) := by
  unfold insertNew
  split
  · rename_i present
    rw [Entries.get?_cons]
    split
    · rename_i same
      obtain ⟨value, found⟩ := Option.isSome_iff_exists.mp (same ▸ present)
      rw [found, Option.some_or]
    · rw [Entries.get?_nil, Option.or_none]
  · rename_i absent
    rw [Entries.get?_insert, Entries.get?_cons]
    split
    · rename_i same
      have missing : Entries.get? name fields = none := by
        rw [same]
        simpa only [Entries.contains, Option.not_isSome_iff_eq_none] using absent
      rw [missing, Option.none_or]
    · rw [Entries.get?_nil, Option.or_none]

theorem get?_foldl_insertNew (fields parent : List (String × Schema)) (name : String) :
    Entries.get? name (parent.foldl insertNew fields) =
      (Entries.get? name fields).or (Entries.get? name parent) := by
  induction parent generalizing fields with
  | nil => simp
  | cons entry rest ih =>
    rw [List.foldl_cons, ih, get?_insertNew, Option.or_assoc, Entries.get?_cons, Entries.get?_cons]
    congr 1
    split <;> simp

theorem firstWins_property (name : String) : FirstWins (·.property? name) := by
  intro m s
  change Entries.get? name (s.folded m).fields = (Entries.get? name s.fields).or _
  rw [fields_folded]
  generalize s.fields = fields
  induction s.sources m generalizing fields with
  | nil => simp
  | cons source rest ih =>
    rw [List.foldl_cons, ih, get?_foldl_insertNew, Option.or_assoc, List.findSome?_cons]
    congr 1
    cases found : Entries.get? name source.2.fields <;> simp [property?, found]

theorem mem_requireNew {names : List String} {name other : String} :
    other ∈ requireNew names name ↔ other ∈ names ∨ other = name := by
  unfold requireNew
  split
  · rename_i present
    refine ⟨.inl, ?_⟩
    intro h
    rcases h with member | rfl
    · exact member
    · exact List.contains_iff_mem.mp present
  · rw [List.mem_append, List.mem_singleton]

theorem mem_foldl_requireNew {names parent : List String} {other : String} :
    other ∈ parent.foldl requireNew names ↔ other ∈ names ∨ other ∈ parent := by
  induction parent generalizing names with
  | nil => simp
  | cons name rest ih => rw [List.foldl_cons, ih, mem_requireNew, List.mem_cons, or_assoc]

theorem accumulates_required (name : String) : Accumulates fun s => name ∈ s.requiredNames := by
  intro m s
  beta_reduce
  rw [requiredNames_folded]
  generalize s.requiredNames = names
  induction s.sources m generalizing names with
  | nil => simp
  | cons source rest ih =>
    rw [List.foldl_cons, ih, mem_foldl_requireNew, or_assoc, List.exists_mem_cons_iff]

/-- Fields without repeated names, and no name required twice. -/
structure Tidy (s : Schema) : Prop where
  fields : Entries.Ordered s.fields
  required : s.requiredNames.Nodup

theorem ordered_insertNew {fields : List (String × Schema)} (ordered : Entries.Ordered fields)
    (entry : String × Schema) : Entries.Ordered (insertNew fields entry) := by
  unfold insertNew
  split
  · exact ordered
  · exact ordered.insert _ _

theorem nodup_requireNew {names : List String} (nodup : names.Nodup) (name : String) :
    (requireNew names name).Nodup := by
  unfold requireNew
  split
  · exact nodup
  · rename_i absent
    refine List.nodup_append.mpr ⟨nodup, List.pairwise_singleton _ _, ?_⟩
    intro other member _ single
    obtain rfl := List.mem_singleton.mp single
    rintro rfl
    exact absent (List.contains_iff_mem.mpr member)

theorem foldl_keeps {α γ : Type} {P : γ → Prop} {step : γ → α → γ}
    (keeps : ∀ c, P c → ∀ a, P (step c a)) (list : List α) {c : γ} (init : P c) :
    P (list.foldl step c) := by
  induction list generalizing c with
  | nil => exact init
  | cons a rest ih => exact ih (keeps c init a)

theorem Tidy.folded (tidy : s.Tidy) : (s.folded m).Tidy where
  fields := by
    rw [fields_folded]
    exact foldl_keeps (P := Entries.Ordered) (fun _ ordered source =>
      foldl_keeps (P := Entries.Ordered) (fun _ ordered => ordered_insertNew ordered)
        source.2.fields ordered) _ tidy.fields
  required := by
    rw [requiredNames_folded]
    exact foldl_keeps (P := List.Nodup) (fun _ nodup source =>
      foldl_keeps (P := List.Nodup) (fun _ nodup => nodup_requireNew nodup)
        source.2.requiredNames nodup) _ tidy.required

/-- No reference of its own, no items and no options: all that a tier says about properties is in
its fields. -/
structure Plain (s : Schema) : Prop where
  reference : s.reference = none
  items : s.items = none
  oneOf : s.oneOf = none

theorem Plain.folded (plain : s.Plain) : (s.folded m).Plain := by
  suffices words : ∀ (list : List (String × Schema)) (s : Schema), s.Plain →
      (list.foldl (fun s source => inheritWords s source.2) s).Plain by
    have start := words (s.sources m) { s with required := none, properties := none, allOf := none }
      ⟨plain.reference, plain.items, plain.oneOf⟩
    exact ⟨start.reference, start.items, start.oneOf⟩
  intro list s plain
  have step : ∀ s : Schema, s.Plain → ∀ source : String × Schema,
      (inheritWords s source.2).Plain := fun _ plain _ =>
    ⟨plain.reference, plain.items, plain.oneOf⟩
  exact foldl_keeps step list plain

/-- A schema and what is left of it when no source is left to be folded in. -/
inductive Settles (m : SchemaMap) : Schema → Schema → Prop
  | done {s : Schema} (none : s.sources m = []) : Settles m s s
  | fold {s f : Schema} (some : s.sources m ≠ []) (rest : Settles m (s.folded m) f) : Settles m s f

theorem settles_of_settle {rounds : Nat} (settled : settle m key rounds s = .ok f) :
    Settles m s f := by
  induction rounds generalizing s with
  | zero =>
    rw [settle] at settled
    split at settled
    · contradiction
    · rename_i free
      cases settled
      exact .done (Classical.not_not.mp fun some => free (inherits_iff.mpr some))
  | succ rounds ih =>
    rw [settle] at settled
    split at settled
    · rename_i bound
      rw [round_eq] at settled
      split at settled
      · contradiction
      · exact .fold (inherits_iff.mp bound) (ih settled)
    · rename_i free
      cases settled
      exact .done (Classical.not_not.mp fun some => free (inherits_iff.mpr some))

namespace Settles

theorem sources_eq_nil (settles : Settles m s f) : f.sources m = [] := by
  induction settles with
  | done none => exact none
  | fold _ _ ih => exact ih

theorem keeps {P : Schema → Prop} (settles : Settles m s f)
    (round : ∀ s, P s → P (s.folded m)) (init : P s) : P f := by
  induction settles with
  | done => exact init
  | fold _ _ ih => exact ih (round _ init)

end Settles
end Schema
end ObjectRole

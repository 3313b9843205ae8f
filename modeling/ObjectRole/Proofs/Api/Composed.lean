import ObjectRole.Api.Compile
import ObjectRole.Proofs.Schema.Orderly

/-! How the schemas of operations are composed: payloads are put into the shapes of templates, and
filters and the model of lists are objects of plain words. A condition that is kept by these ways
of composing is met by the results. -/
namespace ObjectRole.Schema

variable {s payload : Schema} {key name : String} {P : Schema → Prop}

/-- Plain words meet the condition, and arrays and objects do as far as their parts do. -/
structure Composes (P : Schema → Prop) : Prop where
  words : ∀ {k : Keywords}, k.required = none → k.reference = none → k.Orderly →
    P { toKeywords := k }
  arrayOf : ∀ {s : Schema}, P s → P (arrayOf s)
  fields : ∀ {s : Schema}, P s → ∀ entry ∈ s.fields, P entry.2
  withFields : ∀ {s : Schema} {properties : Option (List (String × Schema))}, P s →
    (Entries.Ordered s.fields → Entries.Ordered (properties.getD [])) →
      (∀ entry ∈ properties.getD [], P entry.2) → P { s with properties }

namespace Composes

variable (composes : Composes P)
include composes

theorem plain {k : Keywords} (required : k.required = none) (reference : k.reference = none)
    (enumeration : k.enumeration = none) (examples : k.examples = none) :
    P { toKeywords := k } := by
  refine composes.words required reference ⟨?_, ?_⟩
  · rw [enumeration]
    nofun
  · rw [examples]
    nofun

theorem object {entries : List (String × Schema)} (each : ∀ entry ∈ entries, P entry.2) :
    P { typed "object" with properties := some (Entries.ofList entries) } :=
  composes.withFields (composes.plain rfl rfl rfl rfl) (fun _ => .ofList entries)
    fun entry listed => each entry (Entries.mem_ofList listed)

theorem withProperty (own : P s) {property : Schema} (inner : P property) (name : String) :
    P (s.withProperty name property) := by
  refine composes.withFields own (·.insert name property) fun entry listed => ?_
  rcases Entries.mem_insert listed with rfl | old
  · exact inner
  · exact composes.fields own entry old

theorem property (own : P s) {property : Schema} (found : s.property? name = some property) :
    P property :=
  composes.fields own _ (Entries.mem_of_get? found)

theorem updateAt (own : P s) (inner : P payload) (path : List String) :
    P (updateAt (fun _ => payload) path s) := by
  induction path generalizing s with
  | nil => exact own
  | cons name rest ih =>
    rw [Schema.updateAt]
    split
    · exact own
    · rename_i property found
      refine composes.withProperty own ?_ name
      split
      · exact inner
      · exact ih (composes.property own found)

theorem removeAt (own : P s) (path : List String) : P (removeAt path s) := by
  induction path generalizing s with
  | nil => exact own
  | cons name rest ih =>
    cases rest with
    | nil =>
      have kept :
          (s.properties.map (Entries.erase name)).getD [] = Entries.erase name s.fields := by
        rw [Schema.fields]
        cases s.properties <;> rfl
      refine composes.withFields own ?_ ?_
      · rw [kept]
        exact fun ordered => ordered.erase name
      · rw [kept]
        exact fun entry listed => composes.fields own entry (List.mem_of_mem_filter listed)
    | cons next rest =>
      rw [Schema.removeAt]
      · split
        · exact own
        · rename_i property found
          exact composes.withProperty own (ih (composes.property own found)) name
      · exact List.cons_ne_nil _ _

/-- A payload in a wrapper, or alone. -/
theorem wrap {wrapper : Option Json} {path : String} {payload : Option Schema}
    (shape : ∀ w ∈ wrapper, P (ofExample w)) (inner : ∀ p ∈ payload, P p)
    (wrapped : wrap wrapper path payload = some s) : P s := by
  cases wrapper with
  | none => exact inner s wrapped
  | some wrapper =>
    cases payload with
    | none =>
      cases wrapped
      exact composes.removeAt (shape wrapper rfl) _
    | some payload =>
      cases wrapped
      exact composes.updateAt (shape wrapper rfl) (inner payload rfl) _

theorem filterOperators (name : String) (property : Schema) :
    P (filterOperators name property) := by
  refine composes.object fun entry inside => ?_
  rcases List.mem_append.mp inside with fixed | range
  · simp only [List.mem_cons, List.not_mem_nil, or_false] at fixed
    rcases fixed with rfl | rfl | rfl | rfl | rfl | rfl | rfl | rfl <;>
      exact composes.plain rfl rfl rfl rfl
  · split at range
    · obtain ⟨_, _, rfl⟩ := List.mem_map.mp range
      exact composes.plain rfl rfl rfl rfl
    · contradiction

/-- A filter refers to itself, for its combinations. -/
theorem filter (itself : P (component (whereKey key))) (update : Schema) :
    P (filter key update) := by
  have combination := composes.arrayOf itself
  refine composes.object fun entry inside => ?_
  rcases List.mem_cons.mp inside with rfl | later
  · exact combination
  rcases List.mem_cons.mp later with rfl | operators
  · exact combination
  · obtain ⟨_, _, rfl⟩ := List.mem_map.mp operators
    exact composes.filterOperators _ _

theorem listModel : P listModel := by
  refine composes.object fun entry listed => ?_
  simp only [List.mem_cons, List.not_mem_nil, or_false] at listed
  rcases listed with rfl | rfl | rfl | rfl | rfl | rfl | rfl | rfl | rfl <;>
    exact composes.words rfl rfl ⟨nofun, List.forall_mem_singleton.mpr trivial⟩

end Composes

theorem composes_orderly : Composes Orderly where
  words _ _ own := orderly_keywords own
  arrayOf := Orderly.arrayOf
  fields orderly := orderly.fields.each
  withFields orderly ordered each := orderly.withFields ⟨ordered orderly.fields.ordered, each⟩

end ObjectRole.Schema

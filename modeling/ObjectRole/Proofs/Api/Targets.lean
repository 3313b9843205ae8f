import ObjectRole.Proofs.Api.Bare

/-! What the operations of a resource are made of. A condition that the few kinds of schemas meet
which they use is met by every schema that they place. So they refer to the tiers and the filter of
the resource and to the models that every document has, and require nothing themselves. -/
namespace ObjectRole

open Schema

namespace ResourceView

variable {r : ResourceView} {settings : Settings} {known : String → Prop} {schema : Schema}
  {P : Schema → Prop}

/-- The schemas that the operations of a resource use meet a condition. -/
structure Meets (settings : Settings) (P : Schema → Prop) (r : ResourceView) : Prop where
  typed : ∀ type, P (.typed type)
  new : P (.component (newKey r.key))
  update : P (.component (updateKey r.key))
  filter : r.allows .list → P (.component (whereKey r.key))
  page : r.allows .list → P { allOf := some [
    (envelope settings (some (.arrayOf (.component r.key)))).getD .empty, .component listModelKey] }
  body : ∀ s ∈ r.itemBody settings, P s
  gone : ∀ s ∈ envelope settings none, P s
  errors : ∀ template ∈ settings.errorShape, ∀ message code, P { Schema.component errorModelKey with
    examples := some [
      template.fillError settings.errorMessagePath settings.errorCodePath message code] }

section Meets

variable (meets : r.Meets settings P)
include meets

theorem Meets.responses {success : String} {body : Option Schema} {failures : List (Nat × String)}
    (inner : ∀ p ∈ body, P p) :
    ∀ schema ∈ (r.responses settings success body failures).values.flatMap Response.schemas,
      P schema := by
  intro schema member
  obtain ⟨response, listed, member⟩ := List.mem_flatMap.mp member
  obtain ⟨entry, inside, rfl⟩ := List.mem_map.mp listed
  rcases List.mem_append.mp (Entries.mem_ofList inside) with failure | ok
  · split at failure
    · contradiction
    · rename_i template shaped
      obtain ⟨⟨code, message⟩, _, rfl⟩ := List.mem_map.mp failure
      obtain rfl := List.mem_singleton.mp member
      exact meets.errors template shaped message code
  · obtain rfl := List.mem_singleton.mp ok
    cases body with
    | none => contradiction
    | some p =>
      obtain rfl := List.mem_singleton.mp member
      exact inner schema rfl

theorem Meets.operation {o : Operation} (parameters : ∀ p ∈ o.parameters.getD [], P p.schema)
    (request : ∀ media ∈ o.requestBody, ∀ schema ∈ Content.schemas media.content, P schema)
    {success : String} {body : Option Schema} {failures : List (Nat × String)}
    (responses : o.responses = r.responses settings success body failures)
    (inner : ∀ p ∈ body, P p) : ∀ schema ∈ o.schemas, P schema := by
  intro schema member
  rw [Operation.schemas, List.append_assoc, List.mem_append, List.mem_append] at member
  rcases member with parameter | requested | responded
  · obtain ⟨p, listed, rfl⟩ := List.mem_map.mp parameter
    exact parameters p listed
  · obtain ⟨media, listed, member⟩ := List.mem_flatMap.mp requested
    exact request media (Option.mem_toList.mp listed) schema member
  · exact meets.responses inner schema (responses ▸ responded)

theorem Meets.list (listed : r.allows .list) : ∀ schema ∈ (r.list settings).schemas, P schema := by
  apply meets.operation ?_ (fun _ none => by cases none) rfl
  · rintro body ⟨⟩
    exact meets.page listed
  · intro p member
    simp only [ResourceView.list, listParameters, Option.getD_some, List.mem_cons,
      List.not_mem_nil, or_false] at member
    rcases member with rfl | rfl | rfl
    · exact meets.typed "string"
    · exact meets.typed "number"
    · exact meets.filter listed

theorem Meets.create : ∀ schema ∈ (r.create settings).schemas, P schema :=
  meets.operation (fun _ none => by contradiction)
    (fun media found schema member => by
      cases found
      obtain rfl := List.mem_singleton.mp member
      exact meets.new) rfl meets.body

theorem Meets.read : ∀ schema ∈ (r.read settings).schemas, P schema :=
  meets.operation (fun _ none => by contradiction) (fun _ none => by cases none) rfl meets.body

theorem Meets.change : ∀ schema ∈ (r.update settings).schemas, P schema :=
  meets.operation (fun _ none => by contradiction)
    (fun media found schema member => by
      cases found
      obtain rfl := List.mem_singleton.mp member
      exact meets.update) rfl meets.body

theorem Meets.delete : ∀ schema ∈ (r.delete settings).schemas, P schema :=
  meets.operation (fun _ none => by contradiction) (fun _ none => by cases none) rfl meets.gone

omit meets in
/-- What a path places comes from its parameters and its operations. -/
theorem forall_placedSchemas {item : PathItem} {parameters : List Parameter}
    (plain : ∀ p ∈ parameters, P p.schema) (has : item.parameters = some parameters)
    (operations : ∀ o ∈ item.operations, ∀ schema ∈ o.schemas, P schema) (path : String) :
    ∀ placed ∈ item.placedSchemas path, P placed.2 := by
  intro placed member
  rcases List.mem_append.mp member with parameter | operation
  · obtain ⟨schema, listed, rfl⟩ := List.mem_map.mp parameter
    rw [has] at listed
    obtain ⟨p, own, rfl⟩ := List.mem_map.mp listed
    exact plain p own
  · obtain ⟨o, listed, member⟩ := List.mem_flatMap.mp operation
    obtain ⟨schema, inside, rfl⟩ := List.mem_map.mp member
    exact operations o listed schema inside

omit meets in
theorem whenAllowed_eq_some {p : Permission} {operation o : Operation}
    (found : r.whenAllowed p operation = some o) : r.allows p ∧ operation = o := by
  rw [whenAllowed] at found
  split at found
  · rename_i allowed
    exact ⟨allowed, Option.some.inj found⟩
  · contradiction

theorem Meets.collectionItem {item : PathItem} (offered : r.collectionItem? settings = some item)
    (path : String) : ∀ placed ∈ item.placedSchemas path, P placed.2 := by
  rw [collectionItem?] at offered
  split at offered
  · cases offered
    refine forall_placedSchemas ?_ rfl ?_ path
    · intro p listed
      obtain rfl := List.mem_singleton.mp listed
      exact meets.typed "integer"
    · intro o listed
      simp only [PathItem.operations, List.mem_filterMap, List.mem_cons, List.not_mem_nil, or_false,
        id] at listed
      obtain ⟨_, rfl | rfl | rfl | rfl, found⟩ := listed
      · obtain ⟨allowed, rfl⟩ := whenAllowed_eq_some found
        exact meets.list allowed
      · obtain ⟨_, rfl⟩ := whenAllowed_eq_some found
        exact meets.create
      · contradiction
      · contradiction
  · contradiction

theorem Meets.item {item : PathItem} {identifier : List Parameter}
    (plain : ∀ p ∈ identifier, ∃ type, p.schema = .typed type)
    (offered : r.item? settings identifier = some item) (path : String) :
    ∀ placed ∈ item.placedSchemas path, P placed.2 := by
  rw [item?] at offered
  split at offered
  · cases offered
    refine forall_placedSchemas ?_ rfl ?_ path
    · intro p listed
      rcases List.mem_append.mp listed with own | depth
      · obtain ⟨type, same⟩ := plain p own
        exact same ▸ meets.typed type
      · obtain rfl := List.mem_singleton.mp depth
        exact meets.typed "integer"
    · intro o listed
      simp only [PathItem.operations, List.mem_filterMap, List.mem_cons, List.not_mem_nil, or_false,
        id] at listed
      obtain ⟨_, rfl | rfl | rfl | rfl, found⟩ := listed
      · obtain ⟨_, rfl⟩ := whenAllowed_eq_some found
        exact meets.read
      · contradiction
      · obtain ⟨_, rfl⟩ := whenAllowed_eq_some found
        exact meets.change
      · obtain ⟨_, rfl⟩ := whenAllowed_eq_some found
        exact meets.delete
  · contradiction

end Meets

/-- What the schemas of operations are composed of meets a condition: the shape of the wrapper and
references to the tiers, the filter and the model of lists. -/
structure Parts (settings : Settings) (P : Schema → Prop) (r : ResourceView) : Prop where
  shape : ∀ w ∈ settings.wrapper, P (ofExample w)
  read : P (.component r.key)
  new : P (.component (newKey r.key))
  update : P (.component (updateKey r.key))
  filter : r.allows .list → P (.component (whereKey r.key))
  listModel : P (.component listModelKey)

/-- The schemas that are composed of them, as pages combine two and errors have examples, meet a
condition that follows. -/
theorem Parts.meets {Q : Schema → Prop} (parts : r.Parts settings P) (composes : Composes P)
    (weaker : ∀ {s}, P s → Q s)
    (combined : ∀ {list}, (∀ part ∈ list, P part) → Q { allOf := some list })
    (errors : ∀ template ∈ settings.errorShape, ∀ message code, Q { Schema.component errorModelKey
      with examples := some [
        template.fillError settings.errorMessagePath settings.errorCodePath message code] }) :
    r.Meets settings Q where
  typed _ := weaker (composes.plain rfl rfl rfl rfl)
  new := weaker parts.new
  update := weaker parts.update
  filter listed := weaker (parts.filter listed)
  page _ := by
    have items : P ((envelope settings (some (.arrayOf (.component r.key)))).getD .empty) := by
      cases wrapped : envelope settings (some (.arrayOf (.component r.key))) with
      | none => exact composes.plain rfl rfl rfl rfl
      | some w =>
        refine composes.wrap parts.shape ?_ wrapped
        rintro payload ⟨⟩
        exact composes.arrayOf parts.read
    refine combined fun part inside => ?_
    rcases List.mem_pair.mp inside with rfl | rfl
    · exact items
    · exact parts.listModel
  body := by
    intro body wrapped
    refine weaker (composes.wrap parts.shape ?_ wrapped)
    rintro payload ⟨⟩
    exact parts.read
  gone := fun _ wrapped =>
    weaker (composes.wrap parts.shape (fun _ none => by cases none) wrapped)
  errors := errors

/-- The keys that the operations of a resource refer to are known. -/
structure Known (settings : Settings) (known : String → Prop) (r : ResourceView) : Prop where
  read : known r.key
  new : known (newKey r.key)
  update : known (updateKey r.key)
  filter : r.allows .list → known (whereKey r.key)
  listModel : known listModelKey
  errorModel : settings.errorShape.isSome → known errorModelKey

/-- Then every schema that they use is light. -/
theorem Known.meets (known_all : Known settings known r) :
    r.Meets settings (·.Light known) := by
  have parts : r.Parts settings (·.Bare known) :=
    ⟨fun w _ => bare_ofExample w, .component known_all.read, .component known_all.new,
      .component known_all.update, fun listed => .component (known_all.filter listed),
      .component known_all.listModel⟩
  refine parts.meets composes_bare Bare.light ?_ ?_
  · exact fun each => light_allOf fun part inside => (each part inside).light
  · intro template shaped message code
    have there := known_all.errorModel (Option.isSome_of_eq_some shaped)
    exact ((Bare.component there).withExamples _).light

end ResourceView

theorem idParameters_typed (update : Schema) (identifying : List String) :
    ∀ p ∈ idParameters update identifying, ∃ type, p.schema = .typed type := by
  intro p listed
  obtain ⟨member, _, rfl⟩ := List.mem_map.mp listed
  exact ⟨_, rfl⟩

end ObjectRole

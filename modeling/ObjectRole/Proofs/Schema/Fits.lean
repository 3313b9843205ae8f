import ObjectRole.Api.Envelope
import ObjectRole.Proofs.Entries

/-! Values that fit a schema, and what writing into a template does to them. A value fits the shape
of a template if it is of its type and so are the parts that both have. What is written at a path
keeps a value fitting exactly if the template has room for it: there are only objects on the way,
and what stands at the end, if anything, is of the type that is written. -/
namespace ObjectRole

namespace Json

/-- The name of a value's type. -/
def typeName : Json → String
  | null => "null"
  | bool _ => "boolean"
  | number _ => "number"
  | string _ => "string"
  | array _ => "array"
  | object _ => "object"

/-- The items of an array; other values have none. -/
def itemsOf : Json → List Json
  | array items => items
  | _ => []

theorem fieldsOf_of_typeName {v : Json} (other : v.typeName ≠ "object") : v.fieldsOf = [] := by
  cases v with
  | object => exact absurd rfl other
  | null | bool | number | string | array => rfl

theorem itemsOf_of_typeName {v : Json} (other : v.typeName ≠ "array") : v.itemsOf = [] := by
  cases v with
  | array => exact absurd rfl other
  | null | bool | number | string | object => rfl

end Json

open Json

/-- A value fits a schema if it is of its type, the fields that the schema declares fit their
properties, and all items fit. -/
inductive Fits : Json → Schema → Prop
  | intro {value : Json} {s : Schema} (type : ∀ name ∈ s.type, value.typeName = name)
      (fields : ∀ name member property, Entries.get? name value.fieldsOf = some member →
        s.property? name = some property → Fits member property)
      (items : ∀ item ∈ value.itemsOf, ∀ each ∈ s.items, Fits item each) : Fits value s

namespace Schema

theorem ofExampleFields_eq (members : List (String × Json)) :
    ofExampleFields members = Entries.mapValues ofExample members := by
  induction members with
  | nil => rfl
  | cons member rest ih =>
    rw [ofExampleFields, ih, Entries.mapValues, Entries.mapValues, List.map_cons]

theorem type_ofExample (t : Json) : (ofExample t).type = some t.typeName := by
  cases t with
  | null | bool | number | string => rfl
  | array items => cases items <;> rfl
  | object fields => cases fields <;> rfl

theorem property?_ofExample (t : Json) (name : String) :
    (ofExample t).property? name = (Entries.get? name t.fieldsOf).map ofExample := by
  cases t with
  | null | bool | number | string => rfl
  | array items => cases items <;> rfl
  | object fields =>
    have own : (ofExample (object fields)).fields = Entries.mapValues ofExample fields := by
      cases fields with
      | nil => rfl
      | cons field rest => exact ofExampleFields_eq (field :: rest)
    rw [property?, own, Entries.get?_mapValues, fieldsOf]

theorem items_ofExample (t : Json) : (ofExample t).items = t.itemsOf.head?.map ofExample := by
  cases t with
  | null | bool | number | string => rfl
  | array items => cases items <;> rfl
  | object fields => cases fields <;> rfl

end Schema

open Schema

variable {v w t : Json} {name type : String} {steps p q : List String}

/-- A value fits the shape of a template if both are of one type and so are their common parts. -/
theorem fits_ofExample_iff : Fits v (ofExample t) ↔ v.typeName = t.typeName ∧
    (∀ name member other, Entries.get? name v.fieldsOf = some member →
      Entries.get? name t.fieldsOf = some other → Fits member (ofExample other)) ∧
    ∀ item ∈ v.itemsOf, ∀ first ∈ t.itemsOf.head?, Fits item (ofExample first) := by
  constructor
  · rintro ⟨type, fields, items⟩
    refine ⟨type _ (type_ofExample t), fun name member other found at_template => ?_,
      fun item listed first is_first => ?_⟩
    · refine fields name member _ found ?_
      rw [property?_ofExample, at_template, Option.map_some]
    · refine items item listed _ ?_
      rw [items_ofExample, is_first]
      rfl
  · rintro ⟨type, fields, items⟩
    refine .intro ?_ ?_ ?_
    · rw [type_ofExample]
      rintro _ ⟨⟩
      exact type
    · intro name member property found declared
      rw [property?_ofExample] at declared
      obtain ⟨other, at_template, rfl⟩ := Option.map_eq_some_iff.mp declared
      exact fields name member other found at_template
    · intro item listed each is_each
      rw [items_ofExample] at is_each
      obtain ⟨first, is_first, rfl⟩ := Option.map_eq_some_iff.mp is_each
      exact items item listed first is_first

/-! ### Writing at a path -/

namespace Json

/-- Puts a value at a path as `setAt` does, but in place of the whole where the path is empty. -/
def putAt (value : Json) : List String → Json → Json
  | [], _ => value
  | name :: rest, target =>
    object (Entries.insert name
      (putAt value rest ((Entries.get? name target.fieldsOf).getD (object []))) target.fieldsOf)

theorem setAt_eq_putAt (value : Json) (filled : steps ≠ []) (target : Json) :
    setAt value steps target = putAt value steps target := by
  induction steps generalizing target with
  | nil => exact absurd rfl filled
  | cons name rest ih =>
    cases rest with
    | nil => rfl
    | cons next rest => rw [setAt, putAt, ih (List.cons_ne_nil _ _)]; nofun

/-- What is at a field of an object, or comes there when something is put below it. -/
def inside (name : String) (target : Json) : Json :=
  (Entries.get? name target.fieldsOf).getD (object [])

theorem get?_putAt (other : String) :
    Entries.get? other (putAt v (name :: rest) t).fieldsOf =
      if other = name then some (putAt v rest (t.inside name))
      else Entries.get? other t.fieldsOf := Entries.get?_insert ..

/-- A template has room for values of a type at a path: it has objects only on the way, and a value
of that type at the end, as far as it has any. -/
def HasRoom (type : String) : List String → Json → Prop
  | [], old => old.typeName = type
  | name :: rest, target => target.typeName = "object" ∧
      ∀ inner ∈ Entries.get? name target.fieldsOf, HasRoom type rest inner

theorem hasRoom_empty (filled : steps ≠ []) : HasRoom type steps (object []) := by
  cases steps with
  | nil => exact absurd rfl filled
  | cons name rest => exact ⟨rfl, nofun⟩

/-- What has room keeps it below a field. -/
theorem HasRoom.inside (room : HasRoom type (name :: steps) t) (filled : steps ≠ []) :
    HasRoom type steps (t.inside name) := by
  rw [Json.inside]
  cases found : Entries.get? name t.fieldsOf with
  | none => exact hasRoom_empty filled
  | some inner => exact room.2 inner found

end Json

/-- Writing one value keeps the room at paths that neither go below it nor end above it. -/
theorem hasRoom_putAt (room : HasRoom type q t) (not_above : ¬q <+: p) (not_below : ¬p <+: q) :
    HasRoom type q (putAt v p t) := by
  induction q generalizing p t with
  | nil => exact absurd List.nil_prefix not_above
  | cons name rest ih =>
    cases p with
    | nil => exact absurd List.nil_prefix not_below
    | cons other more =>
      refine ⟨rfl, fun inner found => ?_⟩
      rw [get?_putAt, Option.mem_def] at found
      split at found
      · rename_i same
        subst same
        obtain rfl := Option.some.inj found
        rw [List.cons_prefix_cons, not_and] at not_above not_below
        refine ih (room.inside ?_) (not_above rfl) (not_below rfl)
        rintro rfl
        exact not_above rfl List.nil_prefix
      · exact room.2 inner found

/-- There is room below an object that was put at a path. -/
theorem hasRoom_putAt_empty (p : List String) (filled : q ≠ []) (t : Json) :
    HasRoom type (p ++ q) (putAt (object []) p t) := by
  induction p generalizing t with
  | nil => exact hasRoom_empty filled
  | cons name rest ih =>
    refine ⟨rfl, fun inner found => ?_⟩
    rw [get?_putAt, if_pos rfl] at found
    exact Option.some.inj found ▸ ih _

/-- What is written over leaves no trace. -/
theorem putAt_putAt_append (q rest : List String) (t : Json) :
    putAt v q (putAt w (q ++ rest) t) = putAt v q t := by
  induction q generalizing t with
  | nil => rfl
  | cons name more ih =>
    rw [putAt, List.cons_append, putAt, fieldsOf, Entries.get?_insert, if_pos rfl,
      Entries.insert_insert, Option.getD_some, ih, putAt]

/-- What is written below a plain value takes its place. -/
theorem putAt_append_putAt (plain : w.fieldsOf = []) (p : List String) (filled : q ≠ [])
    (t : Json) : putAt v (p ++ q) (putAt w p t) = putAt v (p ++ q) (putAt (object []) p t) := by
  induction p generalizing t with
  | nil =>
    obtain ⟨name, rest, rfl⟩ := List.exists_cons_of_ne_nil filled
    rw [List.nil_append, putAt, putAt, putAt, putAt, plain]
    rfl
  | cons name rest ih =>
    rw [List.cons_append, putAt, putAt, fieldsOf, Entries.get?_insert, if_pos rfl,
      Entries.insert_insert, Option.getD_some, ih, putAt, putAt, fieldsOf, Entries.get?_insert,
      if_pos rfl, Entries.insert_insert, Option.getD_some]

/-! ### Room and fitting -/

/-- A value without parts fits all shapes of its type. -/
theorem fits_ofExample_of_bare (no_fields : v.fieldsOf = []) (no_items : v.itemsOf = [])
    (same : v.typeName = t.typeName) : Fits v (ofExample t) := by
  refine fits_ofExample_iff.mpr ⟨same, fun name member other found => ?_, fun item listed => ?_⟩
  · rw [no_fields] at found
    contradiction
  · rw [no_items] at listed
    contradiction

/-- An object fits its own shape if its members do. -/
theorem fits_own_shape {fields : List (String × Json)}
    (each : ∀ field ∈ fields, Fits field.2 (ofExample field.2)) :
    Fits (object fields) (ofExample (object fields)) := by
  refine fits_ofExample_iff.mpr ⟨rfl, fun name member other found again => ?_, nofun⟩
  cases found.symm.trans again
  exact each _ (Entries.mem_of_get? found)

theorem hasRoom_of_fits (fits : Fits (putAt v steps w) (ofExample t)) :
    HasRoom v.typeName steps t := by
  induction steps generalizing w t with
  | nil => exact (fits_ofExample_iff.mp fits).1.symm
  | cons name rest ih =>
    obtain ⟨type, fields, _⟩ := fits_ofExample_iff.mp fits
    refine ⟨type.symm, fun inner found => ?_⟩
    exact ih (fields name _ inner (by rw [get?_putAt, if_pos rfl]) found)

theorem fits_putAt (fits : steps ≠ [] → Fits w (ofExample t)) (room : HasRoom v.typeName steps t)
    (no_fields : v.fieldsOf = []) (no_items : v.itemsOf = []) :
    Fits (putAt v steps w) (ofExample t) := by
  induction steps generalizing w t with
  | nil => exact fits_ofExample_of_bare no_fields no_items room.symm
  | cons name rest ih =>
    obtain ⟨type, fields, _⟩ := fits_ofExample_iff.mp (fits (List.cons_ne_nil _ _))
    refine fits_ofExample_iff.mpr
      ⟨room.1.symm, fun other member at_template found here => ?_, nofun⟩
    rw [get?_putAt] at found
    split at found
    · rename_i same
      subst same
      cases found
      refine ih (fun filled => ?_) (room.2 at_template here)
      rw [inside]
      cases at_field : Entries.get? other w.fieldsOf with
      | some inner => exact fields other inner at_template at_field here
      | none =>
        obtain ⟨next, more, rfl⟩ := List.exists_cons_of_ne_nil filled
        exact fits_ofExample_of_bare rfl rfl (room.2 at_template here).1.symm
    · exact fields other member at_template found here

/-- A value without parts that was put where one of its type stood had no say in fitting. -/
theorem fits_of_fits_putAt (fits : Fits (putAt v steps w) (ofExample t))
    (room : HasRoom v.typeName steps w) (no_object : v.typeName ≠ "object")
    (no_array : v.typeName ≠ "array") : Fits w (ofExample t) := by
  induction steps generalizing w t with
  | nil =>
    have same : w.typeName = v.typeName := room
    exact fits_ofExample_of_bare (fieldsOf_of_typeName (same ▸ no_object))
      (itemsOf_of_typeName (same ▸ no_array)) (same.trans (fits_ofExample_iff.mp fits).1)
  | cons name rest ih =>
    obtain ⟨type, fields, _⟩ := fits_ofExample_iff.mp fits
    refine fits_ofExample_iff.mpr ⟨room.1.trans type, fun other member at_template found here => ?_,
      fun item listed => ?_⟩
    · by_cases same : other = name
      · subst same
        have written := fields other _ at_template (by rw [get?_putAt, if_pos rfl]) here
        rw [inside, found] at written
        exact ih written (room.2 member found)
      · exact fields other member at_template (by rw [get?_putAt, if_neg same, found]) here
    · rw [itemsOf_of_typeName (by rw [room.1]; decide)] at listed
      contradiction

/-- What a value that is neither an object nor an array is put into fits as before exactly where
the template has room for the value. -/
theorem fits_setAt_iff (no_object : v.typeName ≠ "object") (no_array : v.typeName ≠ "array")
    (room : steps ≠ [] → HasRoom v.typeName steps t → HasRoom v.typeName steps w) :
    Fits (setAt v steps w) (ofExample t) ↔
      (steps ≠ [] → HasRoom v.typeName steps t) ∧ Fits w (ofExample t) := by
  by_cases filled : steps = []
  · subst filled
    exact (and_iff_right fun some_step => absurd rfl some_step).symm
  rw [setAt_eq_putAt v filled]
  constructor
  · intro fits
    have has_room := hasRoom_of_fits fits
    exact ⟨fun _ => has_room, fits_of_fits_putAt fits (room filled has_room) no_object no_array⟩
  · rintro ⟨has_room, fits⟩
    exact fits_putAt (fun _ => fits) (has_room filled) (fieldsOf_of_typeName no_object)
      (itemsOf_of_typeName no_array)

/-! ### Filled error templates -/

/-- What is written over at a path, or above it, leaves no trace. -/
theorem setAt_setAt_of_over (filled : q ≠ []) (above : q <+: p) :
    setAt v q (setAt w p t) = setAt v q t := by
  obtain ⟨rest, rfl⟩ := above
  rw [setAt_eq_putAt _ filled, setAt_eq_putAt _ (List.append_ne_nil_of_left_ne_nil filled rest),
    setAt_eq_putAt _ filled, putAt_putAt_append]

/-- Below a plain value is written as below an object without fields. -/
theorem setAt_setAt_of_under (plain : w.fieldsOf = []) (under : p <+: q) (distinct : p ≠ q) :
    setAt v q (setAt w p t) = setAt v q (setAt (object []) p t) := by
  obtain ⟨rest, rfl⟩ := under
  have some_rest : rest ≠ [] := fun none => distinct (by rw [none, List.append_nil])
  by_cases nowhere : p = []
  · rw [nowhere]
    rfl
  · have filled : p ++ rest ≠ [] := List.append_ne_nil_of_right_ne_nil p some_rest
    rw [setAt_eq_putAt _ filled, setAt_eq_putAt _ nowhere, setAt_eq_putAt _ filled,
      setAt_eq_putAt _ nowhere, putAt_append_putAt plain p some_rest]

theorem hasRoom_setAt_of_under (under : p <+: q) (distinct : p ≠ q) (room : HasRoom type q t) :
    HasRoom type q (setAt (object []) p t) := by
  obtain ⟨rest, rfl⟩ := under
  have some_rest : rest ≠ [] := fun none => distinct (by rw [none, List.append_nil])
  by_cases nowhere : p = []
  · subst nowhere
    exact room
  · rw [setAt_eq_putAt _ nowhere]
    exact hasRoom_putAt_empty p some_rest t

theorem hasRoom_setAt_of_apart (not_over : ¬q <+: p) (not_under : ¬p <+: q)
    (room : HasRoom type q t) : HasRoom type q (setAt v p t) := by
  have filled : p ≠ [] := by
    rintro rfl
    exact not_under List.nil_prefix
  rw [setAt_eq_putAt _ filled]
  exact hasRoom_putAt room not_over not_under

namespace Json

/-- The message shows in a filled template: the code is written neither over it nor below it. -/
def MessageShows (message code : List String) : Prop :=
  message ≠ [] ∧ (code = [] ∨ ¬code <+: message ∧ ¬message <+: code)

/-- What filling leaves of a template: where the code goes below the message's place, nothing that
stood there. -/
def kept (message code : List String) (template : Json) : Json :=
  if message <+: code ∧ message ≠ code then setAt (object []) message template else template

/-- A template that is filled in fits its own shape: it has room for the code and, if it shows, for
the message, and what is kept of it fits. -/
structure TakesErrors (messagePath codePath : List String) (template : Json) : Prop where
  code : codePath ≠ [] → HasRoom "number" codePath template
  message : MessageShows messagePath codePath → HasRoom "string" messagePath template
  kept : Fits (kept messagePath codePath template) (ofExample template)

end Json

theorem Json.takesErrors_iff : t.TakesErrors p q ↔
    (q ≠ [] → HasRoom "number" q t) ∧ (MessageShows p q → HasRoom "string" p t) ∧
      Fits (kept p q t) (ofExample t) :=
  ⟨fun takes => ⟨takes.code, takes.message, takes.kept⟩,
    fun ⟨code, message, kept⟩ => ⟨code, message, kept⟩⟩

variable {message : String} {code : Nat}

theorem fits_code_iff (room : q ≠ [] → HasRoom "number" q t → HasRoom "number" q w) :
    Fits (setAt (ofNat code) q w) (ofExample t) ↔
      (q ≠ [] → HasRoom "number" q t) ∧ Fits w (ofExample t) :=
  fits_setAt_iff (v := ofNat code) (show "number" ≠ "object" by decide)
    (show "number" ≠ "array" by decide) room

theorem fits_message_iff : Fits (setAt (string message) p t) (ofExample t) ↔
    (p ≠ [] → HasRoom "string" p t) ∧ Fits t (ofExample t) :=
  fits_setAt_iff (v := string message) (show "string" ≠ "object" by decide)
    (show "string" ≠ "array" by decide) fun _ => id

/-- A code that is written over the message hides it. -/
theorem fits_filled_iff_of_above (somewhere : q ≠ []) (above : q <+: p) :
    Fits (setAt (ofNat code) q (setAt (string message) p t)) (ofExample t) ↔
      t.TakesErrors p q := by
  have hidden : ¬MessageShows p q := fun shows =>
    shows.2.elim somewhere fun apart => apart.1 above
  have keeps : kept p q t = t := if_neg fun below =>
    below.2 (below.1.eq_of_length_le above.length_le)
  rw [setAt_setAt_of_over somewhere above, fits_code_iff fun _ => id, takesErrors_iff, keeps]
  simp only [hidden, false_implies, true_and]

/-- A code that is written below the message takes the place of an object without fields. -/
theorem fits_filled_iff_of_below (below : p <+: q) (distinct : p ≠ q) :
    Fits (setAt (ofNat code) q (setAt (string message) p t)) (ofExample t) ↔
      t.TakesErrors p q := by
  have hidden : ¬MessageShows p q := by
    rintro ⟨somewhere, nowhere | apart⟩
    · exact somewhere (List.prefix_nil.mp (nowhere ▸ below))
    · exact apart.2 below
  have keeps : kept p q t = setAt (object []) p t := if_pos ⟨below, distinct⟩
  rw [setAt_setAt_of_under rfl below distinct,
    fits_code_iff fun _ => hasRoom_setAt_of_under below distinct, takesErrors_iff, keeps]
  simp only [hidden, false_implies, true_and]

/-- At places apart from each other both show. -/
theorem fits_filled_iff_of_apart (not_below : ¬(p <+: q ∧ p ≠ q))
    (apart : q ≠ [] → ¬q <+: p ∧ ¬p <+: q) :
    Fits (setAt (ofNat code) q (setAt (string message) p t)) (ofExample t) ↔
      t.TakesErrors p q := by
  have keeps : kept p q t = t := if_neg not_below
  have shows_iff : MessageShows p q ↔ p ≠ [] := and_iff_left (or_iff_not_imp_left.mpr apart)
  rw [fits_code_iff fun somewhere =>
    hasRoom_setAt_of_apart (apart somewhere).1 (apart somewhere).2, fits_message_iff,
    takesErrors_iff, keeps, shows_iff]

/-- A filled template fits the shape of the template exactly if the template takes errors. -/
theorem fits_fillError_iff (t : Json) (messagePath codePath message : String) (code : Nat) :
    Fits (t.fillError messagePath codePath message code) (ofExample t) ↔
      t.TakesErrors (pathSteps messagePath) (pathSteps codePath) := by
  rw [fillError, setPath, setPath]
  generalize pathSteps messagePath = p
  generalize pathSteps codePath = q
  by_cases above : q ≠ [] ∧ q <+: p
  · exact fits_filled_iff_of_above above.1 above.2
  by_cases below : p <+: q ∧ p ≠ q
  · exact fits_filled_iff_of_below below.1 below.2
  refine fits_filled_iff_of_apart below fun somewhere => ?_
  refine ⟨fun ends => above ⟨somewhere, ends⟩, fun starts => ?_⟩
  have same : p = q := not_not.mp fun distinct => below ⟨starts, distinct⟩
  exact above ⟨somewhere, same ▸ List.prefix_rfl⟩

end ObjectRole

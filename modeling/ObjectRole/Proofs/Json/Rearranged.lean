import ObjectRole.Json.Draft
import ObjectRole.Proofs.Entries
import ObjectRole.Proofs.Except
import Mathlib.Data.List.Perm.Basic

/-! JSON whose objects list their members in any order. Values of free form have theirs in key
order, and however they are rearranged they are read in that order again. -/
namespace ObjectRole.Json

mutual

/-- Objects list their members in strict key order, at every depth. -/
def Orderly : Json → Prop
  | .array items => OrderlyItems items
  | .object fields => Entries.Ordered fields ∧ OrderlyFields fields
  | _ => True

def OrderlyItems : List Json → Prop
  | [] => True
  | item :: rest => Orderly item ∧ OrderlyItems rest

def OrderlyFields : List (String × Json) → Prop
  | [] => True
  | (_, value) :: rest => Orderly value ∧ OrderlyFields rest

end

mutual

/-- The same value, with the members of its objects in any order. -/
inductive Rearranged : Json → Json → Prop
  | null : Rearranged .null .null
  | bool (value : Bool) : Rearranged (.bool value) (.bool value)
  | number (value : Number) : Rearranged (.number value) (.number value)
  | string (value : String) : Rearranged (.string value) (.string value)
  | array {items others : List Json} (each : RearrangedItems items others) :
    Rearranged (.array items) (.array others)
  | object {fields others members : List (String × Json)} (each : RearrangedFields fields others)
    (perm : others.Perm members) : Rearranged (.object fields) (.object members)

inductive RearrangedItems : List Json → List Json → Prop
  | nil : RearrangedItems [] []
  | cons {item other : Json} {rest others : List Json} (first : Rearranged item other)
    (later : RearrangedItems rest others) : RearrangedItems (item :: rest) (other :: others)

inductive RearrangedFields : List (String × Json) → List (String × Json) → Prop
  | nil : RearrangedFields [] []
  | cons {value other : Json} {rest others : List (String × Json)} (name : String)
    (first : Rearranged value other) (later : RearrangedFields rest others) :
    RearrangedFields ((name, value) :: rest) ((name, other) :: others)

end

mutual

theorem Rearranged.refl : ∀ j : Json, j.Rearranged j
  | .null => .null
  | .bool value => .bool value
  | .number value => .number value
  | .string value => .string value
  | .array items => .array (rearrangedItems_refl items)
  | .object fields => .object (rearrangedFields_refl fields) (.refl fields)

theorem rearrangedItems_refl : ∀ items : List Json, RearrangedItems items items
  | [] => .nil
  | item :: rest => .cons (.refl item) (rearrangedItems_refl rest)

theorem rearrangedFields_refl : ∀ fields : List (String × Json), RearrangedFields fields fields
  | [] => .nil
  | (name, value) :: rest => .cons name (.refl value) (rearrangedFields_refl rest)

end

theorem RearrangedItems.forall₂ {items others : List Json} (each : RearrangedItems items others) :
    List.Forall₂ Rearranged items others := by
  induction items generalizing others with
  | nil =>
    cases each
    exact .nil
  | cons item rest ih =>
    cases each with
    | cons first later => exact .cons first (ih later)

theorem RearrangedFields.forall₂ {fields others : List (String × Json)}
    (each : RearrangedFields fields others) :
    List.Forall₂ (fun field other => field.1 = other.1 ∧ field.2.Rearranged other.2) fields
      others := by
  induction fields generalizing others with
  | nil =>
    cases each
    exact .nil
  | cons field rest ih =>
    cases each with
    | cons name first later => exact .cons ⟨rfl, first⟩ (ih later)

theorem orderlyFields_iff {fields : List (String × Json)} :
    OrderlyFields fields ↔ ∀ field ∈ fields, field.2.Orderly := by
  induction fields with
  | nil => simp [OrderlyFields]
  | cons field rest ih => rw [OrderlyFields, List.forall_mem_cons, ih]

theorem Orderly.insert {fields : List (String × Json)} {v : Json}
    (orderly : (object fields).Orderly) (own : v.Orderly) (name : String) :
    (object (Entries.insert name v fields)).Orderly := by
  obtain ⟨ordered, each⟩ := orderly
  refine ⟨ordered.insert name v, orderlyFields_iff.mpr fun field listed => ?_⟩
  rcases Entries.mem_insert listed with rfl | old
  · exact own
  · exact orderlyFields_iff.mp each field old

namespace Draft

mutual

/-- Whatever is read in free form has its objects in key order. -/
theorem orderly_of_read : ∀ {draft : Draft} {v : Json}, draft.read = .ok v → v.Orderly
  | .null, _, found | .bool _, _, found => by
    cases found
    trivial
  | .number (.ok _) _, _, found | .string (.ok _) _, _, found => by
    cases found
    trivial
  | .array false items _, _, found => by
    rw [read] at found
    obtain ⟨values, each, found⟩ := bind_eq_ok_iff.mp found
    obtain ⟨_, _, found⟩ := bind_eq_ok_iff.mp found
    cases found
    exact orderly_of_readItems each
  | .object false members _, _, found => by
    rw [read] at found
    obtain ⟨fields, each, found⟩ := bind_eq_ok_iff.mp found
    obtain ⟨_, _, found⟩ := bind_eq_ok_iff.mp found
    cases found
    refine ⟨.ofList fields, orderlyFields_iff.mpr fun field listed => ?_⟩
    exact orderlyFields_iff.mp (orderly_of_readMembers each) field (Entries.mem_ofList listed)

theorem orderly_of_readItems : ∀ {items : List Draft} {values : List Json},
    readItems items = .ok values → OrderlyItems values
  | [], _, found => by
    cases found
    trivial
  | item :: rest, _, found => by
    rw [readItems] at found
    obtain ⟨value, first, found⟩ := bind_eq_ok_iff.mp found
    obtain ⟨values, later, found⟩ := bind_eq_ok_iff.mp found
    cases found
    exact ⟨orderly_of_read first, orderly_of_readItems later⟩

theorem orderly_of_readMembers : ∀ {members : List (Draft × Draft)} {fields : List (String × Json)},
    readMembers members = .ok fields → OrderlyFields fields
  | [], _, found => by
    cases found
    trivial
  | (key, value) :: rest, _, found => by
    rw [readMembers] at found
    obtain ⟨name, _, found⟩ := bind_eq_ok_iff.mp found
    obtain ⟨own, first, found⟩ := bind_eq_ok_iff.mp found
    obtain ⟨fields, later, found⟩ := bind_eq_ok_iff.mp found
    cases found
    exact ⟨orderly_of_read first, orderly_of_readMembers later⟩

end

theorem eq_null_of_read {draft : Draft} (found : draft.read = .ok .null) : draft = .null := by
  match draft with
  | .null => rfl
  | .broken _ | .cutWord _ _ | .bool _ | .array true _ _ | .object true _ _ => cases found
  | .number (.ok _) _ | .number (.error _) _ | .string (.ok _) _ | .string (.error _) _ =>
    cases found
  | .array false items _ =>
    rw [read] at found
    obtain ⟨_, _, found⟩ := bind_eq_ok_iff.mp found
    obtain ⟨_, _, found⟩ := bind_eq_ok_iff.mp found
    cases found
  | .object false members _ =>
    rw [read] at found
    obtain ⟨_, _, found⟩ := bind_eq_ok_iff.mp found
    obtain ⟨_, _, found⟩ := bind_eq_ok_iff.mp found
    cases found

theorem ofItems_eq_map (items : List Json) : ofItems items = items.map ofJson := by
  induction items with
  | nil => rfl
  | cons item rest ih => rw [ofItems, List.map_cons, ih]

theorem ofFields_eq_map (fields : List (String × Json)) :
    ofFields fields = fields.map fun field => (string (.ok field.1) none, ofJson field.2) := by
  induction fields with
  | nil => rfl
  | cons field rest ih => rw [ofFields, List.map_cons, ih]

theorem readItems_eq_ok_iff {items values : List Json} : readItems (ofItems items) = .ok values ↔
    List.Forall₂ (fun item value => (ofJson item).read = .ok value) items values := by
  induction items generalizing values with
  | nil => simp [ofItems, readItems, eq_comm]
  | cons item rest ih =>
    rw [List.forall₂_cons_left_iff]
    simp only [ofItems, readItems, bind_eq_ok_iff, pure_eq_ok_iff, ih]
    constructor
    · rintro ⟨value, first, more, later, rfl⟩
      exact ⟨value, more, first, later, rfl⟩
    · rintro ⟨value, more, first, later, rfl⟩
      exact ⟨value, first, more, later, rfl⟩

theorem readMembers_eq_ok_iff {members pairs : List (String × Json)} :
    readMembers (ofFields members) = .ok pairs ↔
      List.Forall₂ (fun member pair => member.1 = pair.1 ∧ (ofJson member.2).read = .ok pair.2)
        members pairs := by
  induction members generalizing pairs with
  | nil => simp [ofFields, readMembers, eq_comm]
  | cons member rest ih =>
    rw [List.forall₂_cons_left_iff]
    simp only [ofFields, readMembers, key, bind_eq_ok_iff, pure_eq_ok_iff, ih, Except.ok.injEq]
    constructor
    · rintro ⟨_, rfl, value, first, more, later, rfl⟩
      exact ⟨(member.1, value), more, ⟨rfl, first⟩, later, rfl⟩
    · rintro ⟨⟨_, value⟩, more, ⟨rfl, first⟩, later, rfl⟩
      exact ⟨_, rfl, value, first, more, later, rfl⟩

mutual

/-- A value of free form is read as it is, however it is rearranged. -/
theorem read_rearranged : ∀ {v k : Json}, v.Orderly → v.Rearranged k → (ofJson k).read = .ok v
  | .null, _, _, .null => rfl
  | .bool _, _, _, .bool _ => rfl
  | .number _, _, _, .number _ => rfl
  | .string _, _, _, .string _ => rfl
  | .array _, _, orderly, .array each => by
    have values := readItems_eq_ok_iff.mpr (readItems_rearranged orderly each)
    rw [ofJson, read, values]
    rfl
  | .object _, _, ⟨ordered, orderly⟩, .object each perm => by
    obtain ⟨pairs, found, in_order⟩ :=
      List.perm_comp_forall₂ perm.symm (readMembers_rearranged orderly each)
    rw [ofJson, read, readMembers_eq_ok_iff.mpr found]
    exact congrArg (Except.ok ∘ Json.object) (Entries.ofList_of_perm ordered in_order)

theorem readItems_rearranged : ∀ {items others : List Json}, OrderlyItems items →
    RearrangedItems items others →
      List.Forall₂ (fun other item => (ofJson other).read = .ok item) others items
  | [], _, _, .nil => .nil
  | _ :: _, _, ⟨head, tail⟩, .cons first later =>
    .cons (read_rearranged head first) (readItems_rearranged tail later)

theorem readMembers_rearranged : ∀ {fields others : List (String × Json)}, OrderlyFields fields →
    RearrangedFields fields others →
      List.Forall₂ (fun other field => other.1 = field.1 ∧ (ofJson other.2).read = .ok field.2)
        others fields
  | [], _, _, .nil => .nil
  | _ :: _, _, ⟨head, tail⟩, .cons _ first later =>
    .cons ⟨rfl, read_rearranged head first⟩ (readMembers_rearranged tail later)

end

mutual

/-- A value that is already there can be read. -/
theorem exists_read : ∀ j : Json, ∃ v, (ofJson j).read = .ok v
  | .null => ⟨.null, rfl⟩
  | .bool value => ⟨.bool value, rfl⟩
  | .number value => ⟨.number value, rfl⟩
  | .string value => ⟨.string value, rfl⟩
  | .array items => by
    obtain ⟨values, found⟩ := exists_readItems items
    exact ⟨.array values, by rw [ofJson, read, found]; rfl⟩
  | .object fields => by
    obtain ⟨pairs, found⟩ := exists_readMembers fields
    exact ⟨.object (Entries.ofList pairs), by rw [ofJson, read, found]; rfl⟩

theorem exists_readItems : ∀ items : List Json, ∃ values, readItems (ofItems items) = .ok values
  | [] => ⟨[], rfl⟩
  | item :: rest => by
    obtain ⟨value, first⟩ := exists_read item
    obtain ⟨values, later⟩ := exists_readItems rest
    exact ⟨value :: values, by rw [ofItems, readItems, first, later]; rfl⟩

theorem exists_readMembers : ∀ fields : List (String × Json),
    ∃ pairs, readMembers (ofFields fields) = .ok pairs
  | [] => ⟨[], rfl⟩
  | (name, value) :: rest => by
    obtain ⟨result, first⟩ := exists_read value
    obtain ⟨pairs, later⟩ := exists_readMembers rest
    exact ⟨(name, result) :: pairs, by rw [ofFields, readMembers, first, later]; rfl⟩

end

mutual

/-- Nothing stops a reader who skips a value that is already there. -/
theorem skip_ofJson : ∀ j : Json, (ofJson j).skip = none
  | .null | .bool _ | .number _ | .string _ => rfl
  | .array items => by rw [ofJson, skip, skipItems_ofItems items, Option.none_or]
  | .object fields => by rw [ofJson, skip, skipMembers_ofFields fields, Option.none_or]

theorem skipItems_ofItems : ∀ items : List Json, skipItems (ofItems items) = none
  | [] => rfl
  | item :: rest => by
    rw [ofItems, skipItems, skip_ofJson item, skipItems_ofItems rest, Option.none_or]

theorem skipMembers_ofFields : ∀ fields : List (String × Json), skipMembers (ofFields fields) = none
  | [] => rfl
  | (_, value) :: rest => by
    rw [ofFields, skipMembers, skipKey, skip_ofJson value, skipMembers_ofFields rest,
      Option.none_or, Option.none_or]

end
end Draft
end ObjectRole.Json

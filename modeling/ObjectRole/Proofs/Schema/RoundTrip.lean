import ObjectRole.Proofs.Json.Fields
import ObjectRole.Proofs.Schema.Orderly
import ObjectRole.Schema.Codec

/-! What is written of a schema is read as the same schema again, however deep schemas are nested.
Absent keywords stay apart from empty ones. -/
namespace ObjectRole

open Json (Decoder Draft Holds)
open Json.Decoder Json.Record

namespace Json.Draft

theorem heightItems_le_iff {items : List Json} {bound : Nat} :
    heightItems (ofItems items) ≤ bound ↔ ∀ item ∈ items, (ofJson item).height ≤ bound := by
  induction items with
  | nil => simp [ofItems, heightItems]
  | cons item rest ih => rw [ofItems, heightItems, Nat.max_le, List.forall_mem_cons, ih]

theorem heightMembers_le_iff {members : List (String × Json)} {bound : Nat} :
    heightMembers (ofFields members) ≤ bound ↔
      ∀ member ∈ members, (ofJson member.2).height ≤ bound := by
  induction members with
  | nil => simp [ofFields, heightMembers]
  | cons member rest ih => rw [ofFields, heightMembers, Nat.max_le, List.forall_mem_cons, ih]

theorem height_lt_of_item {items : List Json} {item : Json} (listed : item ∈ items) :
    (ofJson item).height < (ofJson (.array items)).height :=
  Nat.lt_succ_of_le (heightItems_le_iff.mp (Nat.le_refl _) item listed)

theorem height_lt_of_member {members : List (String × Json)} {member : String × Json}
    (listed : member ∈ members) :
    (ofJson member.2).height < (ofJson (.object members)).height :=
  Nat.lt_succ_of_le (heightMembers_le_iff.mp (Nat.le_refl _) member listed)

theorem height_lt_of_field {fields : List (String × Option Json)} (name : String) {j : Json}
    (listed : (name, some j) ∈ fields) :
    (ofJson j).height < (ofJson (Json.record fields)).height :=
  height_lt_of_member ((mem_written.mpr listed : (name, j) ∈ written fields))

mutual

/-- Rearranged values are no less deep. -/
theorem height_le : ∀ {j k : Json}, j.Rearranged k → (ofJson j).height ≤ (ofJson k).height
  | .null, _, .null | .bool _, _, .bool _ | .number _, _, .number _ | .string _, _, .string _ =>
    Nat.le_refl _
  | .array _, _, .array each => Nat.succ_le_succ (heightItems_le each)
  | .object _, _, .object each perm => by
    refine Nat.succ_le_succ (Nat.le_trans (heightMembers_le each) ?_)
    rw [heightMembers_le_iff]
    intro member listed
    exact heightMembers_le_iff.mp (Nat.le_refl _) member (perm.mem_iff.mp listed)

theorem heightItems_le : ∀ {items others : List Json}, RearrangedItems items others →
    heightItems (ofItems items) ≤ heightItems (ofItems others)
  | [], _, .nil => Nat.le_refl _
  | _ :: _, _, .cons first later => by
    have head := height_le first
    have tail := heightItems_le later
    simp only [ofItems, heightItems]
    omega

theorem heightMembers_le : ∀ {fields others : List (String × Json)},
    RearrangedFields fields others →
      heightMembers (ofFields fields) ≤ heightMembers (ofFields others)
  | [], _, .nil => Nat.le_refl _
  | _ :: _, _, .cons _ first later => by
    have head := height_le first
    have tail := heightMembers_le later
    simp only [ofFields, heightMembers]
    omega

end
end Json.Draft

namespace Schema

variable {s : Schema}

theorem encodeEntries_eq (entries : List (String × Schema)) :
    encodeEntries entries = Entries.mapValues encode entries := by
  induction entries with
  | nil => rfl
  | cons entry rest ih =>
    rw [encodeEntries, ih, Entries.mapValues, Entries.mapValues, List.map_cons]

theorem encodeList_eq (schemas : List Schema) : encodeList schemas = schemas.map encode := by
  induction schemas with
  | nil => rfl
  | cons first rest ih => rw [encodeList, ih, List.map_cons]

/-- Parts are written as they are on their own. -/
theorem encode_eq (s : Schema) : s.encode = encodeWith s.toKeywords
    (s.properties.map fun entries => .object (Entries.mapValues encode entries))
    (s.items.map encode) (s.allOf.map fun schemas => .array (schemas.map encode))
    (s.oneOf.map fun schemas => .array (schemas.map encode)) := by
  obtain ⟨k, properties, items, allOf, oneOf⟩ := s
  cases properties <;> cases items <;> cases allOf <;> cases oneOf <;>
    simp only [encode, encodeProperties, encodeItem, encodeLists, encodeEntries_eq, encodeList_eq,
      Option.map_some, Option.map_none]

theorem encode_ne_null (s : Schema) : s.encode ≠ .null := by
  rw [encode_eq]
  nofun

/-- A schema is recovered when the schemas in it are. -/
theorem recovers_fieldsWith {inner : Decoder Schema} (orderly : s.Orderly)
    (properties : ∀ entry ∈ s.fields, inner.Recovers entry.2.encode entry.2)
    (items : ∀ item ∈ s.items, inner.Recovers item.encode item)
    (parents : ∀ parent ∈ s.parents, inner.Recovers parent.encode parent)
    (options : ∀ option ∈ s.oneOf.getD [], inner.Recovers option.encode option) :
    Decoder.Recovers (fieldsWith inner).decode s.encode s := by
  have ordered := orderly.fields.ordered
  have tidy := orderly.keywords
  obtain ⟨k, properties?, item?, allOf, oneOf⟩ := s
  obtain ⟨dict?, rfl⟩ : ∃ d : Option (Dict Schema), d.map (·.entries) = properties? := by
    cases properties? with
    | none => exact ⟨none, rfl⟩
    | some entries => exact ⟨some ⟨entries, ordered⟩, rfl⟩
  rw [encode_eq]
  refine recovers_decode (by simp) fun members holds => ?_
  obtain ⟨id, reference, title, description, type, format, pattern, enumeration, nullable,
    min_length, max_length, minimum, maximum, exclusive_minimum, exclusive_maximum, multiple_of,
    held_properties, required, held_items, held_parents, held_options, examples, _⟩ := holds
  rw [Option.map_map] at held_properties
  have list {schemas : Option (List Schema)}
      (each : ∀ s ∈ schemas.getD [], inner.Recovers s.encode s) : ∀ list ∈ schemas,
        (Decoder.array inner).Recovers (.array (list.map encode)) list := by
    rintro list rfl
    exact recovers_array_map each
  have values {o : Option (List Json)} (each : ∀ v ∈ o.getD [], v.Orderly) : ∀ list ∈ o,
      (Decoder.array free).Recovers (.array list) list := by
    rintro list rfl
    exact recovers_array_free each
  have dict : ∀ d ∈ dict?, (Decoder.dict inner).Recovers
      (.object (Entries.mapValues encode d.entries)) d := by
    rintro d rfl
    exact recovers_encode properties
  exact ((inverts_string.optional id).map _)
    |>.seq (inverts_string.optional reference)
    |>.seq (inverts_string.optional title)
    |>.seq (inverts_string.optional description)
    |>.seq (inverts_string.optional type)
    |>.seq (inverts_string.optional format)
    |>.seq (inverts_string.optional pattern)
    |>.seq (reads_optional enumeration (fun _ => nofun) (values tidy.enumeration))
    |>.seq (inverts_bool.optional nullable)
    |>.seq (inverts_uint64.optional min_length)
    |>.seq (inverts_uint64.optional max_length)
    |>.seq (inverts_number.optional minimum)
    |>.seq (inverts_number.optional maximum)
    |>.seq (inverts_number.optional exclusive_minimum)
    |>.seq (inverts_number.optional exclusive_maximum)
    |>.seq (inverts_number.optional multiple_of)
    |>.seq (reads_optional held_properties (fun _ => nofun) dict)
    |>.seq (inverts_string.array.optional required)
    |>.seq (reads_optional held_items encode_ne_null items)
    |>.seq (reads_optional held_parents (fun _ => nofun) (list parents))
    |>.seq (reads_optional held_options (fun _ => nofun) (list options))
    |>.seq (reads_optional examples (fun _ => nofun) (values tidy.examples))

/-- What is written of the parts of a schema is less deep than what is written of the schema. -/
theorem height_part (s : Schema) :
    (∀ entry ∈ s.fields, (Draft.ofJson entry.2.encode).height < (Draft.ofJson s.encode).height) ∧
    (∀ item ∈ s.items, (Draft.ofJson item.encode).height < (Draft.ofJson s.encode).height) ∧
    (∀ parent ∈ s.parents,
      (Draft.ofJson parent.encode).height < (Draft.ofJson s.encode).height) ∧
    ∀ option ∈ s.oneOf.getD [],
      (Draft.ofJson option.encode).height < (Draft.ofJson s.encode).height := by
  rw [encode_eq s, encodeWith]
  have inside {schemas : List Schema} {part : Schema} (listed : part ∈ schemas) :
      (Draft.ofJson part.encode).height <
        (Draft.ofJson (.array (schemas.map encode))).height :=
    Draft.height_lt_of_item (List.mem_map_of_mem listed)
  refine ⟨fun entry listed => ?_, fun item listed => ?_, fun parent listed => ?_,
    fun option listed => ?_⟩
  · rw [fields] at listed
    cases held : s.properties with
    | none => simp [held] at listed
    | some entries =>
      rw [held] at listed
      have member : (entry.1, entry.2.encode) ∈ Entries.mapValues encode entries :=
        List.mem_map.mpr ⟨entry, listed, rfl⟩
      exact Nat.lt_trans (Draft.height_lt_of_member member)
        (Draft.height_lt_of_field "properties" (by simp))
  · have held : s.items = some item := listed
    exact Draft.height_lt_of_field "items" (by simp [held])
  · rw [parents] at listed
    cases held : s.allOf with
    | none => simp [held] at listed
    | some schemas =>
      rw [held] at listed
      exact Nat.lt_trans (inside listed) (Draft.height_lt_of_field "allOf" (by simp))
  · cases held : s.oneOf with
    | none => simp [held] at listed
    | some schemas =>
      rw [held] at listed
      exact Nat.lt_trans (inside listed) (Draft.height_lt_of_field "oneOf" (by simp))

theorem recovers_decoderWithin {depth : Nat} (orderly : s.Orderly)
    (shallow : (Draft.ofJson s.encode).height < depth) :
    (decoderWithin depth).Recovers s.encode s := by
  induction depth generalizing s with
  | zero => contradiction
  | succ depth ih =>
    obtain ⟨_, fields, items, parents, options⟩ := orderly_iff.mp orderly
    obtain ⟨low_properties, low_items, low_parents, low_options⟩ := s.height_part
    have enough {part : Schema}
        (low : (Draft.ofJson part.encode).height < (Draft.ofJson s.encode).height) :
        (Draft.ofJson part.encode).height < depth := by
      omega
    exact recovers_fieldsWith orderly
      (fun entry listed => ih (fields.each entry listed) (enough (low_properties entry listed)))
      (fun item listed => ih (items item listed) (enough (low_items item listed)))
      (fun parent listed => ih (parents parent listed) (enough (low_parents parent listed)))
      fun option listed => ih (options option listed) (enough (low_options option listed))

/-- A schema is recovered, as its text tells how deep it is. -/
theorem recovers (orderly : s.Orderly) : decoder.Recovers s.encode s := by
  intro k rearranged
  exact recovers_decoderWithin orderly (Nat.lt_succ_of_le (Draft.height_le rearranged)) k rearranged

theorem forall_mem_getD {α : Type} {o : Option (List α)} {P : α → Prop}
    (each : ∀ list ∈ o, ∀ a ∈ list, P a) : ∀ a ∈ o.getD [], P a := by
  cases o with
  | none => nofun
  | some list => exact each list rfl

/-- A schema that is read is orderly when the schemas in it are. -/
theorem yields_fieldsWith {inner : Decoder Schema} (yields : inner.Yields Orderly) :
    (fieldsWith inner).Yields Orderly := by
  -- The fields are peeled off from the last one to the first.
  refine .seq ?_ (yields_optional yields_free.array "examples")
  refine .seq ?_ (yields_optional yields.array "oneOf")
  refine .seq ?_ (yields_optional yields.array "allOf")
  refine .seq ?_ (yields_optional yields "items")
  refine .seq ?_ (yields_any _)
  refine .seq ?_ (yields_optional yields.dict "properties")
  iterate 8 refine .seq ?_ (yields_any _)
  refine .seq ?_ (yields_optional yields_free.array "enum")
  iterate 6 refine .seq ?_ (yields_any _)
  refine .map (yields_any _) ?_
  intro id _ reference _ title _ description _ type _ format _ pattern _ enumeration listed
    nullable _ minLength _ maxLength _ minimum _ maximum _ exclusiveMinimum _ exclusiveMaximum _
    multipleOf _ properties fields required _ items item allOf parents oneOf options examples values
  have entries : OrderlyEntries ((properties.map (·.entries)).getD []) := by
    cases properties with
    | none => exact .nil
    | some d => exact ⟨d.ordered, fields d rfl⟩
  exact orderly_iff.mpr ⟨⟨forall_mem_getD listed, forall_mem_getD values⟩, entries, item,
    forall_mem_getD parents, forall_mem_getD options⟩

theorem yields_decoderWithin (depth : Nat) : Decoder.Yields (decoderWithin depth) Orderly := by
  induction depth with
  | zero => exact fun _ _ decoded => by cases decoded
  | succ depth ih => exact yields_decode (yields_fieldsWith ih)

/-- Every schema that is read is orderly. -/
theorem yields_orderly : decoder.Yields Orderly := fun draft => yields_decoderWithin _ draft

end Schema
end ObjectRole

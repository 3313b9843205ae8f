import ObjectRole.Json.Decoder
import ObjectRole.Model.Spelling
import ObjectRole.Proofs.Json.Rearranged
import ObjectRole.Schema.Codec

/-! Decoders that recover the value that was written, in whatever order the members of objects
stand: one lemma for each kind of value. -/
namespace ObjectRole

open Json (Decoder Draft Rearranged)

namespace Json

/-- However the JSON is rearranged, the decoder makes this value of it. -/
def Decoder.Recovers (value : Decoder α) (j : Json) (a : α) : Prop :=
  ∀ k, j.Rearranged k → value (.ofJson k) = .ok a

theorem Rearranged.eq_null {j : Json} (rearranged : j.Rearranged .null) : j = .null := by
  cases rearranged
  rfl

end Json

namespace Json.Decoder

variable {α β : Type} {value first second : Decoder α} {encode : α → Json} {j : Json} {a : α}

theorem Recovers.decode (recovers : value.Recovers j a) {k : Json} (rearranged : j.Rearranged k) :
    Json.decode value k = .ok a := by
  rw [Json.decode, recovers k rearranged]

theorem recovers_string (text : String) : string.Recovers (.string text) text := by
  rintro _ ⟨⟩
  rfl

theorem recovers_bool (b : Bool) : bool.Recovers (.bool b) b := by
  rintro _ ⟨⟩
  rfl

theorem recovers_number (n : Number) : number.Recovers (.number n) n := by
  rintro _ ⟨⟩
  rfl

theorem recovers_uint64 (n : UInt64) : Recovers uint64 (.ofNat n.toNat) n := by
  rintro _ ⟨⟩
  have inside : (decide (0 ≤ (n.toNat : Int)) && decide (n.toNat < UInt64.size)) = true := by
    simp [n.toNat_lt_size]
  exact (if_pos inside).trans (congrArg Except.ok UInt64.ofNat_toNat)

theorem recovers_uint32 (n : UInt32) : Recovers uint32 (.ofNat n.toNat) n := by
  rintro _ ⟨⟩
  have inside : (decide (0 ≤ (n.toNat : Int)) && decide (n.toNat < UInt32.size)) = true := by
    simp [n.toNat_lt_size]
  exact (if_pos inside).trans (congrArg Except.ok UInt32.ofNat_toNat)

theorem recovers_int64 (n : Int64) : Recovers int64 (.integer n.toInt) n := by
  rintro _ ⟨⟩
  have inside : (decide (Int64.minValue.toInt ≤ n.toInt) &&
      decide (n.toInt ≤ Int64.maxValue.toInt)) = true := by
    rw [Bool.and_eq_true, decide_eq_true_eq, decide_eq_true_eq]
    exact ⟨n.minValue_le_toInt, n.toInt_le⟩
  exact (if_pos inside).trans (congrArg Except.ok (Int64.ofInt_toInt n))

theorem recovers_free {v : Json} (orderly : v.Orderly) : free.Recovers v v :=
  fun _ rearranged => Draft.read_rearranged orderly rearranged

theorem Recovers.map (recovers : value.Recovers j a) (f : α → β) :
    Recovers (fun draft => f <$> value draft) j (f a) := by
  intro k rearranged
  exact congrArg (f <$> ·) (recovers k rearranged)

/-- A whole value reads as before, as nothing is wrong with the rest of it. -/
theorem Recovers.whole (recovers : value.Recovers j a) : (Decoder.whole value).Recovers j a := by
  intro k rearranged
  obtain ⟨v, read⟩ := Draft.exists_read k
  simp only [Decoder.whole, read, recovers k rearranged, bind, Except.bind]

theorem Recovers.either_first (recovers : first.Recovers j a) :
    (either first second).Recovers j a := by
  intro k rearranged
  rw [either, recovers k rearranged]

theorem Recovers.either_second (recovers : second.Recovers j a)
    (unfit : ∀ k, j.Rearranged k → ∃ problem, first (.ofJson k) = .error problem) :
    (either first second).Recovers j a := by
  intro k rearranged
  obtain ⟨problem, failed⟩ := unfit k rearranged
  rw [either, failed]
  exact recovers k rearranged

theorem recovers_choice {spellings : List (String × α)} {spelling : String}
    (found : spellings.lookup spelling = some a) :
    (choice spellings).Recovers (.string spelling) a := by
  rintro _ ⟨⟩
  simp only [choice, choice.spelled, Draft.ofJson, bind, Except.bind, found]

theorem Recovers.items {items others : List Json} {values : List α}
    (each : List.Forall₂ value.Recovers items values)
    (rearranged : RearrangedItems items others) :
    List.Forall₂ (fun other a => value (.ofJson other) = .ok a) others values := by
  induction each generalizing others with
  | nil =>
    cases rearranged
    exact .nil
  | cons recovers _ ih =>
    cases rearranged with
    | cons first later => exact .cons (recovers _ first) (ih later)

theorem recovers_array {items : List Json} {values : List α}
    (each : List.Forall₂ value.Recovers items values) :
    (array value).Recovers (.array items) values := by
  intro k rearranged
  cases rearranged with
  | @array _ others rearranged =>
    have drafts : (Draft.ofItems others).mapM value = .ok values := by
      rw [Draft.ofItems_eq_map, List.mapM_map]
      exact mapM_eq_ok_iff.mpr (Recovers.items each rearranged)
    rw [Draft.ofJson, array, bind_eq_ok_iff]
    exact ⟨values, drafts, rfl⟩

theorem recovers_array_map {values : List α} (each : ∀ a ∈ values, value.Recovers (encode a) a) :
    (array value).Recovers (.array (values.map encode)) values :=
  recovers_array (List.forall₂_map_left_iff.mpr (List.forall₂_same.mpr each))

theorem recovers_array_free {values : List Json} (orderly : ∀ v ∈ values, v.Orderly) :
    (array free).Recovers (.array values) values :=
  recovers_array (List.forall₂_same.mpr fun v listed => recovers_free (orderly v listed))

theorem Recovers.fields {fields others : List (String × Json)} {entries : List (String × α)}
    (each : List.Forall₂ (fun field entry => field.1 = entry.1 ∧ value.Recovers field.2 entry.2)
      fields entries) (rearranged : RearrangedFields fields others) :
    List.Forall₂ (fun other entry => other.1 = entry.1 ∧ value (.ofJson other.2) = .ok entry.2)
      others entries := by
  induction each generalizing others with
  | nil =>
    cases rearranged
    exact .nil
  | cons recovers _ ih =>
    cases rearranged with
    | cons name first later => exact .cons ⟨recovers.1, recovers.2 _ first⟩ (ih later)

/-- A map is recovered, as its entries are put in order again. -/
theorem recovers_dict {fields : List (String × Json)} {d : Dict α}
    (each : List.Forall₂ (fun field entry => field.1 = entry.1 ∧ value.Recovers field.2 entry.2)
      fields d.entries) : (dict value).Recovers (.object fields) d := by
  intro k rearranged
  cases rearranged with
  | @object _ _ members rearranged perm =>
    obtain ⟨pairs, found, in_order⟩ :=
      List.perm_comp_forall₂ perm.symm (Recovers.fields each rearranged)
    rw [Draft.ofJson, dict, bind_eq_ok_iff]
    refine ⟨pairs, ?_, congrArg Except.ok (Dict.ofList_of_perm in_order)⟩
    rw [Draft.ofFields_eq_map, List.mapM_map, mapM_eq_ok_iff]
    refine found.imp ?_
    rintro member ⟨name, a⟩ ⟨rfl, read⟩
    simp only [Function.comp, Draft.key, read, bind, Except.bind, pure, Except.pure]

/-- A map is recovered from the object of what its values are written as. -/
theorem recovers_encode {d : Dict α} (each : ∀ entry ∈ d.entries,
    value.Recovers (encode entry.2) entry.2) : (dict value).Recovers (d.encode encode) d := by
  refine recovers_dict (List.forall₂_map_left_iff.mpr (List.forall₂_same.mpr ?_))
  intro entry listed
  exact ⟨rfl, each entry listed⟩

/-- What is not written as `null` is not taken for it. -/
theorem Recovers.some (recovers : value.Recovers j a) (solid : j ≠ .null) :
    (nullable value).Recovers j (some a) := by
  intro k rearranged
  have read := recovers k rearranged
  cases k with
  | null => exact absurd rearranged.eq_null solid
  | _ => exact congrArg (Option.some <$> ·) read

/-- What every value is written as is recovered, and is never `null`. -/
structure Inverts (value : Decoder α) (encode : α → Json) : Prop where
  recovers : ∀ a, value.Recovers (encode a) a
  solid : ∀ a, encode a ≠ .null

theorem inverts_string : string.Inverts .string := ⟨recovers_string, fun _ => nofun⟩

theorem inverts_bool : bool.Inverts .bool := ⟨recovers_bool, fun _ => nofun⟩

theorem inverts_number : number.Inverts .number := ⟨recovers_number, fun _ => nofun⟩

theorem inverts_uint64 : Inverts uint64 (.ofNat ·.toNat) := ⟨recovers_uint64, fun _ => nofun⟩

theorem inverts_int64 : Inverts int64 (.integer ·.toInt) := ⟨recovers_int64, fun _ => nofun⟩

theorem Inverts.array (inverts : value.Inverts encode) :
    (array value).Inverts fun values => .array (values.map encode) :=
  ⟨fun _ => recovers_array_map fun a _ => inverts.recovers a, fun _ => nofun⟩

theorem recovers_nullable {o : Option α} (solid : ∀ a, encode a ≠ .null)
    (each : ∀ a ∈ o, value.Recovers (encode a) a) :
    (nullable value).Recovers (.nullable encode o) o := by
  cases o with
  | none =>
    rintro _ ⟨⟩
    rfl
  | some a => exact (each a rfl).some (solid a)

end Json.Decoder

/-- Every value has its own spelling. -/
class Spelled.Faithful (α : Type) [Spelled α] : Prop where
  lookup_spell : ∀ value : α, (spellings : List (String × α)).lookup (spell value) = some value

namespace Spelled

instance : Faithful ObjectType := ⟨fun a => by cases a <;> rfl⟩
instance : Faithful ValueType := ⟨fun a => by cases a <;> rfl⟩
instance : Faithful Permission := ⟨fun a => by cases a <;> rfl⟩
instance : Faithful HttpVerb := ⟨fun a => by cases a <;> rfl⟩
instance : Faithful ConstraintKind := ⟨fun a => by cases a <;> rfl⟩
instance : Faithful Modality := ⟨fun a => by cases a <;> rfl⟩
instance : Faithful Relationship := ⟨fun a => by cases a <;> rfl⟩

theorem inverts {α : Type} [Spelled α] [Faithful α] : (decoder : Decoder α).Inverts encode :=
  ⟨fun a => Decoder.recovers_choice (Faithful.lookup_spell a), fun _ => nofun⟩

end Spelled
end ObjectRole

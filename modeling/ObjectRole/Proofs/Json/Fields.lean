import ObjectRole.Json.Record
import ObjectRole.Proofs.Json.Recovers
import Mathlib.Data.List.Nodup

/-! Values with named fields. A decoder for them recovers what was written if each of its fields
does: it finds them by name wherever they stand, and takes a field that is missing for one that was
not written. -/
namespace ObjectRole.Json

variable {α β : Type} {value : Decoder α} {a : α} {j : Json} {o : Option α} {encode : α → Json}
  {members : List (String × Json)} {fields : List (String × Option Json)} {name : String}

/-- The members of an object hold what is stated of its fields: a value in any arrangement, or
nothing. -/
def Holds (members : List (String × Json)) : List (String × Option Json) → Prop
  | [] => True
  | (name, j?) :: rest =>
    Option.Rel Rearranged j? (Entries.get? name members) ∧ Holds members rest

theorem holds_of_forall
    (each : ∀ field ∈ fields, Option.Rel Rearranged field.2 (Entries.get? field.1 members)) :
    Holds members fields := by
  induction fields with
  | nil => trivial
  | cons field rest ih =>
    rw [List.forall_mem_cons] at each
    exact ⟨each.1, ih each.2⟩

theorem holds_append {more : List (String × Option Json)} :
    Holds members (fields ++ more) ↔ Holds members fields ∧ Holds members more := by
  induction fields with
  | nil => simp [Holds]
  | cons field rest ih => simp only [List.cons_append, Holds, ih, and_assoc]

/-- The fields that are written of those that are stated. -/
def written (fields : List (String × Option Json)) : List (String × Json) :=
  fields.filterMap fun field => field.2.map (field.1, ·)

theorem mem_written {field : String × Json} :
    field ∈ written fields ↔ (field.1, some field.2) ∈ fields := by
  simp only [written, List.mem_filterMap, Option.map_eq_some_iff]
  constructor
  · rintro ⟨⟨name, _⟩, listed, j, rfl, rfl⟩
    exact listed
  · exact fun listed => ⟨_, listed, field.2, rfl, rfl⟩

theorem nodup_written (nodup : (fields.map (·.1)).Nodup) :
    ((written fields).map (·.1)).Nodup := by
  refine List.Sublist.nodup ?_ nodup
  clear nodup
  induction fields with
  | nil => exact .slnil
  | cons field rest ih =>
    obtain ⟨name, _ | j⟩ := field
    · exact ih.cons name
    · exact ih.cons_cons name

theorem get?_written (nodup : (fields.map (·.1)).Nodup) {field : String × Option Json}
    (listed : field ∈ fields) : Entries.get? field.1 (written fields) = field.2 := by
  apply Option.ext
  intro j
  constructor
  · intro found
    have also := mem_written.mp (Entries.mem_of_get? found)
    have same := List.inj_on_of_nodup_map nodup listed also rfl
    rw [same]
  · intro own
    refine Entries.get?_of_nodup (nodup_written nodup) (mem_written.mpr ?_)
    rw [← own]
    exact listed

theorem RearrangedFields.get? {fields others : List (String × Json)}
    (each : RearrangedFields fields others) (name : String) :
    Option.Rel Rearranged (Entries.get? name fields) (Entries.get? name others) := by
  induction fields generalizing others with
  | nil =>
    cases each
    exact .none
  | cons field rest ih =>
    cases each with
    | cons own first later =>
      rw [Entries.get?_cons, Entries.get?_cons]
      split
      · exact .some first
      · exact ih later

/-- Whatever order the members of an object come in, they hold what was written of its fields. -/
theorem exists_holds {k : Json} (nodup : (fields.map (·.1)).Nodup)
    (rearranged : (Json.record fields).Rearranged k) :
    ∃ members, k = .object members ∧ (members.map (·.1)).Nodup ∧ Holds members fields := by
  cases rearranged with
  | @object _ others members each perm =>
    have keys : (written fields).map (·.1) = others.map (·.1) :=
      map_eq_map_of_forall₂ each.forall₂ fun same => same.1
    have others_nodup : (others.map (·.1)).Nodup := keys ▸ nodup_written nodup
    have members_nodup : (members.map (·.1)).Nodup := (perm.map _).nodup_iff.mp others_nodup
    refine ⟨members, rfl, members_nodup, holds_of_forall ?_⟩
    intro field listed
    rw [Entries.get?_of_perm perm.symm others_nodup, ← get?_written nodup listed]
    exact each.get? field.1

namespace Record

theorem member?_ofFields (name : String) (members : List (String × Json)) (place : Nat) :
    (member? name place (Draft.ofFields members)).map (·.2) =
      (Entries.get? name members).map .ofJson := by
  induction members generalizing place with
  | nil => rfl
  | cons member rest ih =>
    rw [Entries.get?_cons]
    simp only [Draft.ofFields, member?, Draft.key]
    by_cases same : member.1 = name
    · rw [if_pos same, if_pos same.symm]
      rfl
    · rw [if_neg same, if_neg (Ne.symm same)]
      exact ih (place + 1)

/-- Where keys do not come twice, an object has no problem besides those of its fields. -/
theorem strayMember_eq_none {names seen : List String} {other : Draft → Option Problem}
    (place : Nat) (nodup : (members.map (·.1)).Nodup)
    (fresh : ∀ name ∈ members.map (·.1), name ∉ seen) (passes : ∀ j, other (.ofJson j) = none) :
    strayMember names other seen place (Draft.ofFields members) = none := by
  induction members generalizing seen place with
  | nil => rfl
  | cons member rest ih =>
    rw [List.map_cons, List.nodup_cons] at nodup
    rw [List.map_cons, List.forall_mem_cons] at fresh
    simp only [Draft.ofFields, strayMember, Draft.key, passes]
    split
    · have unseen : seen.contains member.1 = false := by
        simpa using fresh.1
      rw [unseen]
      refine ih (place + 1) nodup.2 ?_
      intro name later
      rw [List.mem_cons, not_or]
      exact ⟨fun same => nodup.1 (same ▸ later), fresh.2 name later⟩
    · exact ih (place + 1) nodup.2 fresh.2

theorem readProblem_ofJson (j : Json) : readProblem (.ofJson j) = none := by
  obtain ⟨v, read⟩ := Draft.exists_read j
  rw [readProblem, read]

/-- The fields of a record give the value among the members of an object. -/
def Reads (r : Record α) (members : List (String × Json)) (a : α) : Prop :=
  r.run (namedSlot (Draft.ofFields members)) = .ok a

theorem Reads.map {r : Record α} (reads : r.Reads members a) (f : α → β) :
    (f <$> r).Reads members (f a) := by
  change Met.both (.ok f) (r.run _) = _
  rw [reads]
  rfl

theorem Reads.seq {r : Record (α → β)} {x : Record α} {f : α → β} (first : r.Reads members f)
    (next : x.Reads members a) : (r <*> x).Reads members (f a) := by
  change Met.both (r.run _) (x.run _) = _
  rw [first]
  exact congrArg (Met.both (.ok f)) next

/-- A field that is there gives its value. -/
theorem reads_field {absent : Nat → Bool → Met α}
    (held : Option.Rel Rearranged (some j) (Entries.get? name members))
    (recovers : value.Recovers j a) : (field name value absent).Reads members a := by
  obtain ⟨k, found, rearranged⟩ := exists_of_some_rel held
  have there := member?_ofFields name members 0
  rw [found, Option.map_some, Option.map_eq_some_iff] at there
  obtain ⟨⟨place, _⟩, there, rfl⟩ := there
  simp only [Reads, field, namedSlot, there, recovers k rearranged, Met.placed]

/-- A field that is not there is what its absence stands for. -/
theorem reads_absent {absent : Nat → Bool → Met α}
    (held : Option.Rel Rearranged none (Entries.get? name members))
    (stands : ∀ place, absent place false = .ok a) : (field name value absent).Reads members a := by
  have gone := member?_ofFields name members 0
  cases found : Entries.get? name members with
  | some k =>
    rw [found] at held
    cases held
  | none =>
    rw [found, Option.map_none, Option.map_eq_none_iff] at gone
    simp only [Reads, field, namedSlot, gone, stands]

theorem reads_required (held : Option.Rel Rearranged (some j) (Entries.get? name members))
    (recovers : value.Recovers j a) : (required name value).Reads members a :=
  reads_field held recovers

theorem reads_withDefault (held : Option.Rel Rearranged (some j) (Entries.get? name members))
    (recovers : value.Recovers j a) (default : α) :
    (withDefault name value default).Reads members a :=
  reads_field held recovers

theorem reads_default (held : Option.Rel Rearranged none (Entries.get? name members))
    (a : α) : (withDefault name value a).Reads members a :=
  reads_absent held fun _ => rfl

/-- A field that may be absent or `null`, and is written unless it is absent. -/
theorem reads_optional (held : Option.Rel Rearranged (o.map encode) (Entries.get? name members))
    (solid : ∀ a, encode a ≠ .null) (each : ∀ a ∈ o, value.Recovers (encode a) a) :
    (optional name value).Reads members o := by
  cases o with
  | none => exact reads_default held none
  | some a => exact reads_withDefault held ((each a rfl).some (solid a)) none

/-- A field that is written as `null` when it is absent. -/
theorem reads_nullable
    (held : Option.Rel Rearranged (some (.nullable encode o)) (Entries.get? name members))
    (solid : ∀ a, encode a ≠ .null) (each : ∀ a ∈ o, value.Recovers (encode a) a) :
    (nullable name value).Reads members o :=
  reads_field held (Decoder.recovers_nullable solid each)

end Record

namespace Decoder.Inverts

open Record

variable (inverts : value.Inverts encode)
include inverts

theorem required (held : Option.Rel Rearranged (some (encode a)) (Entries.get? name members)) :
    (required name value).Reads members a := reads_required held (inverts.recovers a)

theorem withDefault
    (held : Option.Rel Rearranged (some (encode a)) (Entries.get? name members)) (default : α) :
    (withDefault name value default).Reads members a :=
  reads_withDefault held (inverts.recovers a) default

theorem optional (held : Option.Rel Rearranged (o.map encode) (Entries.get? name members)) :
    (optional name value).Reads members o :=
  reads_optional held inverts.solid fun a _ => inverts.recovers a

theorem nullable
    (held : Option.Rel Rearranged (some (.nullable encode o)) (Entries.get? name members)) :
    (Record.nullable name value).Reads members o :=
  reads_nullable held inverts.solid fun a _ => inverts.recovers a

end Decoder.Inverts

namespace Record

/-- Named fields recover what is written of them, wherever it stands. -/
theorem recovers_named {r : Record α} (nodup : (fields.map (·.1)).Nodup)
    (reads : ∀ members, Holds members fields → r.Reads members a) :
    Decoder.Recovers r.named (.record fields) a := by
  intro k rearranged
  obtain ⟨members, rfl, members_nodup, holds⟩ := exists_holds nodup rearranged
  have stray : strayMember r.names Draft.skip [] 0 (Draft.ofFields members) = none :=
    strayMember_eq_none 0 members_nodup (fun _ _ => List.not_mem_nil) Draft.skip_ofJson
  have own : r.run (namedSlot (Draft.ofFields members)) = .ok a := reads members holds
  rw [Draft.ofJson, named, own, namedProblem, stray]
  rfl

theorem recovers_decode {r : Record α} (nodup : (fields.map (·.1)).Nodup)
    (reads : ∀ members, Holds members fields → r.Reads members a) :
    Decoder.Recovers r.decode (.record fields) a := by
  intro k rearranged
  have recovered := recovers_named nodup reads k rearranged
  obtain ⟨members, rfl, _⟩ := exists_holds nodup rearranged
  exact recovered

/-- The same for an object all of whose fields are written. -/
theorem recovers_object {r : Record α} {entries : List (String × Json)}
    (nodup : (entries.map (·.1)).Nodup)
    (reads : ∀ members, Holds members (entries.map fun entry => (entry.1, some entry.2)) →
      r.Reads members a) : Decoder.Recovers r.decode (.object entries) a := by
  have all : Json.record (entries.map fun entry => (entry.1, some entry.2)) = .object entries := by
    simp [Json.record, List.filterMap_map]
  rw [← all]
  refine recovers_decode ?_ reads
  rwa [List.map_map]

/-- The same where some fields are looked at later than the others. -/
theorem recovers_withLater {now : Record (α → β)} {later : Record α} {b : β}
    (nodup : (fields.map (·.1)).Nodup)
    (reads : ∀ members, Holds members fields →
      ∃ f a, now.Reads members f ∧ later.Reads members a ∧ f a = b) :
    Decoder.Recovers (withLater now later) (.record fields) b := by
  intro k rearranged
  obtain ⟨members, rfl, members_nodup, holds⟩ := exists_holds nodup rearranged
  obtain ⟨f, a, reads_now, reads_later, rfl⟩ := reads members holds
  have stray (names : List String) {other : Draft → Option Problem}
      (passes : ∀ j, other (.ofJson j) = none) :
      strayMember names other [] 0 (Draft.ofFields members) = none :=
    strayMember_eq_none 0 members_nodup (fun _ _ => List.not_mem_nil) passes
  have first : now.run (namedSlot (Draft.ofFields members)) = .ok f := reads_now
  have second : later.run (namedSlot (Draft.ofFields members)) = .ok a := reads_later
  rw [Draft.ofJson, withLater, first, second, namedProblem, stray now.names readProblem_ofJson,
    stray later.names fun _ => rfl]
  rfl

end Record

/-! What is read at all has what its parts are read with. -/

/-- Every value that is decoded has the property. -/
def Decoder.Yields (value : Decoder α) (P : α → Prop) : Prop :=
  ∀ draft a, value draft = .ok a → P a

theorem Decoder.yields_free : free.Yields Orderly := fun _ _ => Draft.orderly_of_read

theorem Decoder.Yields.array {P : α → Prop} (yields : value.Yields P) :
    (array value).Yields fun values => ∀ a ∈ values, P a := by
  intro draft values decoded
  unfold Decoder.array at decoded
  split at decoded
  · cases decoded
  · obtain ⟨results, each, decoded⟩ := bind_eq_ok_iff.mp decoded
    have same : results = values := by
      split at decoded
      · cases decoded
      · exact Except.ok.inj decoded
    intro a listed
    obtain ⟨item, _, own⟩ := exists_of_forall₂ (mapM_eq_ok_iff.mp each).flip (same ▸ listed)
    exact yields item a own
  · cases decoded

theorem Decoder.Yields.dict {P : α → Prop} (yields : value.Yields P) :
    (dict value).Yields fun d => ∀ entry ∈ d.entries, P entry.2 := by
  intro draft d decoded
  unfold Decoder.dict at decoded
  split at decoded
  · cases decoded
  · obtain ⟨pairs, each, decoded⟩ := bind_eq_ok_iff.mp decoded
    have same : Dict.ofList pairs = d := by
      split at decoded
      · cases decoded
      · exact Except.ok.inj decoded
    subst same
    intro entry listed
    obtain ⟨member, _, own⟩ :=
      exists_of_forall₂ (mapM_eq_ok_iff.mp each).flip (Entries.mem_ofList listed)
    obtain ⟨name, _, own⟩ := bind_eq_ok_iff.mp own
    obtain ⟨a, decoded_value, own⟩ := bind_eq_ok_iff.mp own
    cases own
    exact yields member.2 a decoded_value
  · cases decoded

theorem Decoder.Yields.nullable {P : α → Prop} (yields : value.Yields P) :
    (nullable value).Yields fun o => ∀ a ∈ o, P a := by
  intro draft o decoded
  unfold Decoder.nullable at decoded
  split at decoded
  · cases decoded
    nofun
  · cases decoded
  · obtain ⟨a, own, rfl⟩ := map_eq_ok_iff.mp decoded
    rintro b ⟨⟩
    exact yields draft a own

/-- A value of free form that may be `null` is read as none then. -/
theorem Decoder.yields_nullable_free :
    (nullable free).Yields fun o => ∀ v ∈ o, v.Orderly ∧ v ≠ .null := by
  intro draft o decoded
  unfold Decoder.nullable at decoded
  split at decoded
  · cases decoded
    nofun
  · cases decoded
  · rename_i solid _
    obtain ⟨v, own, rfl⟩ := map_eq_ok_iff.mp decoded
    rintro _ ⟨⟩
    refine ⟨Draft.orderly_of_read own, ?_⟩
    rintro rfl
    exact solid (Draft.eq_null_of_read own)

namespace Record

/-- Every value that the fields make has the property. -/
def Yields (r : Record α) (P : α → Prop) : Prop := ∀ slot a, r.run slot = .ok a → P a

theorem yields_any (r : Record α) : r.Yields fun _ => True := fun _ _ _ => trivial

theorem both_eq_ok_iff {f : Met (α → β)} {x : Met α} {b : β} :
    Met.both f x = .ok b ↔ ∃ g a, f = .ok g ∧ x = .ok a ∧ g a = b := by
  cases f <;> cases x <;> simp [Met.both]

theorem Yields.map {r : Record α} {P : α → Prop} {Q : β → Prop} {f : α → β} (yields : r.Yields P)
    (makes : ∀ a, P a → Q (f a)) : (f <$> r).Yields Q := by
  intro slot b ran
  obtain ⟨_, a, made, own, rfl⟩ := both_eq_ok_iff.mp ran
  cases made
  exact makes a (yields slot a own)

theorem Yields.seq {r : Record (α → β)} {x : Record α} {P : α → Prop} {Q : β → Prop}
    (first : r.Yields fun f => ∀ a, P a → Q (f a)) (next : x.Yields P) : (r <*> x).Yields Q := by
  intro slot b ran
  obtain ⟨f, a, made, own, rfl⟩ := both_eq_ok_iff.mp ran
  exact first slot f made a (next _ a own)

theorem yields_field {absent : Nat → Bool → Met α} {P : α → Prop} (yields : value.Yields P)
    (stands : ∀ place positional a, absent place positional = .ok a → P a) :
    (field name value absent).Yields P := by
  intro slot a ran
  simp only [field] at ran
  split at ran
  · rename_i place draft _
    cases own : value draft with
    | error problem =>
      rw [own] at ran
      cases ran
    | ok b =>
      rw [own] at ran
      cases ran
      exact yields draft a own
  · exact stands _ _ a ran

theorem yields_required {P : α → Prop} (yields : value.Yields P) (name : String) :
    (required name value).Yields P :=
  yields_field yields nofun

theorem yields_withDefault {P : α → Prop} (yields : value.Yields P) (name : String) {default : α}
    (standard : P default) : (withDefault name value default).Yields P := by
  refine yields_field yields ?_
  rintro _ _ _ ⟨⟩
  exact standard

theorem yields_optional {P : α → Prop} (yields : value.Yields P) (name : String) :
    (optional name value).Yields fun o => ∀ a ∈ o, P a :=
  yields_withDefault yields.nullable name nofun

theorem yields_decode {r : Record α} {P : α → Prop} (yields : r.Yields P) :
    Decoder.Yields r.decode P := by
  have result {x : Met α} {problem : Option (Nat × Problem)} {a : α}
      (decoded : (Met.barring x problem).result = .ok a) : x = .ok a := by
    cases all : Met.barring x problem with
    | error problem =>
      rw [all] at decoded
      cases decoded
    | ok b =>
      rw [all] at decoded
      cases decoded
      obtain ⟨f, c, barred, own, rfl⟩ := both_eq_ok_iff.mp all
      cases problem <;> cases barred
      exact own
  intro draft a decoded
  unfold Record.decode at decoded
  split at decoded
  · cases decoded
  · exact yields _ a (result decoded)
  · unfold named at decoded
    split at decoded
    · cases decoded
    · exact yields _ a (result decoded)
    · cases decoded

end Record
end ObjectRole.Json

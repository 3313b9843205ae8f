import ObjectRole.Proofs.Schema.Neat
import ObjectRole.Proofs.Schema.Parts
import ObjectRole.Proofs.Schema.Rounds
import ObjectRole.Proofs.Tables.Yields

/-! What the two calls that build tables come to when they go through. Opening a table either finds
it open, or opens it, puts the identifiers of its subject on it and opens the table of the
supertype. The schema of a property depends on its object alone, whatever tables are open. -/
namespace ObjectRole

/-- Puts an identifier of a subject on the subject's table. -/
def Tables.identifyBy (t : Tables) (s : Snapshot) (subject object : Player) (required : Bool)
    (schema : Schema) : Tables :=
  let (name, t) := t.setProperty (s.keyOf subject) (s.nameOf subject)
    (s.identifyingProperty (s.nameOf subject) object required schema)
  t.identify (s.keyOf subject) name

namespace Snapshot

open Build

variable {s : Snapshot} {t u : Tables} {key : String} {subject object : Player} {steps : Nat}
  {schema : Schema}

/-- Identifiers are put on the table of their subject, one after the other. -/
inductive Identifies (s : Snapshot) (steps : Nat) (subject : Player) :
    List (Player × Bool) → Tables → Tables → Prop
  | done {t : Tables} : Identifies s steps subject [] t t
  | next {t u v : Tables} {object : Player} {required : Bool} {rest : List (Player × Bool)}
      {schema : Schema} (created : Yields (s.createProperty steps object) t schema u)
      (later : Identifies s steps subject rest (u.identifyBy s subject object required schema) v) :
      Identifies s steps subject ((object, required) :: rest) t v

theorem identifies_of_forM {list : List (Player × Bool)} {a : Unit}
    (ran : Yields (list.forM fun (object, required) => do
      let schema ← s.createProperty steps object
      modify fun t =>
        let property := s.identifyingProperty (s.nameOf subject) object required schema
        let (name, t) := t.setProperty (s.keyOf subject) (s.nameOf subject) property
        t.identify (s.keyOf subject) name) t a u) : Identifies s steps subject list t u := by
  induction list generalizing t with
  | nil =>
    obtain ⟨_, rfl⟩ := yields_pure.mp ran
    exact .done
  | cons first rest ih =>
    obtain ⟨_, v, put, ran⟩ := yields_bind.mp ran
    obtain ⟨schema, w, created, put⟩ := yields_bind.mp put
    obtain rfl := yields_modify.mp put
    exact .next created (ih ran)

/-- The table of the supertype is opened, if there is one. -/
theorem superTable_cases {a : Unit}
    (ran : Yields ((s.superTypeOf subject).toList.forM fun parent => do
      let _ ← s.ensureTable steps parent) t a u) : s.superTypeOf subject = none ∧ u = t ∨
      ∃ parent key, s.superTypeOf subject = some parent ∧
        Yields (s.ensureTable steps parent) t key u := by
  cases super : s.superTypeOf subject with
  | none =>
    rw [super] at ran
    obtain ⟨_, rfl⟩ := yields_pure.mp ran
    exact .inl ⟨rfl, rfl⟩
  | some parent =>
    rw [super] at ran
    obtain ⟨_, v, ran, last⟩ := yields_bind.mp ran
    obtain ⟨key, w, opened, ran⟩ := yields_bind.mp ran
    obtain ⟨_, rfl⟩ := yields_pure.mp ran
    obtain ⟨_, rfl⟩ := yields_pure.mp last
    exact .inr ⟨parent, key, rfl, opened⟩

/-- The table of a subject is open already, or it is opened with all that it needs. -/
theorem ensureTable_cases (ran : Yields (s.ensureTable (steps + 1) subject) t key u) :
    key = s.keyOf subject ∧ (t.subjects.get? (s.keyOf subject) = some subject ∧ u = t ∨
      t.subjects.get? (s.keyOf subject) = none ∧ ∃ v,
        Identifies s steps subject (s.identifiers subject) (t.openTable s subject) v ∧
        (s.superTypeOf subject = none ∧ u = v ∨
          ∃ parent key, s.superTypeOf subject = some parent ∧
            Yields (s.ensureTable steps parent) v key u)) := by
  rw [ensureTable] at ran
  obtain ⟨_, _, got, ran⟩ := yields_bind.mp ran
  obtain ⟨rfl, rfl⟩ := yields_get.mp got
  split at ran
  · rename_i owner taken
    split at ran
    · rename_i same
      obtain ⟨rfl, rfl⟩ := yields_pure.mp ran
      exact ⟨rfl, .inl ⟨same ▸ taken, rfl⟩⟩
    · exact absurd ran yields_throw
  · rename_i free
    obtain ⟨_, v, changed, ran⟩ := yields_bind.mp ran
    obtain rfl := yields_modify.mp changed
    obtain ⟨_, w, identified, ran⟩ := yields_bind.mp ran
    obtain ⟨_, x, extended, ran⟩ := yields_bind.mp ran
    obtain ⟨rfl, rfl⟩ := yields_pure.mp ran
    exact ⟨rfl, .inr ⟨free, w, identifies_of_forM identified, superTable_cases extended⟩⟩

theorem not_yields_ensureTable_zero : ¬Yields (s.ensureTable 0 subject) t key u := by
  rw [ensureTable]
  exact yields_throw

theorem not_yields_createProperty_zero : ¬Yields (s.createProperty 0 object) t schema u := by
  rw [createProperty]
  exact yields_throw

theorem ensureTable_key (ran : Yields (s.ensureTable steps subject) t key u) :
    key = s.keyOf subject := by
  cases steps with
  | zero => exact absurd ran not_yields_ensureTable_zero
  | succ steps => exact (ensureTable_cases ran).1

/-- An identifier written inline: nothing, the schema of its only part, or an object of all
parts. -/
def inlineSchema (s : Snapshot) (schemaOf : Player → Schema) : List Player → Schema
  | [] => .empty
  | [single] => schemaOf single
  | players => players.foldl (fun composite player =>
      let name := Naming.propertyName (s.nameOf player)
      (composite.withProperty name (schemaOf player)).require name) (.typed "object")

/-- The schema of a property with the given object. -/
def schemaOf (s : Snapshot) : Nat → Player → Schema
  | 0, _ => .empty
  | steps + 1, object =>
    match s.identification object with
    | .value type => s.valueSchema object type
    | .players players =>
      { oneOf := some [s.inlineSchema (s.schemaOf steps) players, .component (s.keyOf object)] }

/-- Parts of an identifier that are written inline. -/
def Inlines (s : Snapshot) (steps : Nat) (players : List Player) (t : Tables) (inline : Schema)
    (u : Tables) : Prop :=
  match players with
  | [] => inline = .empty ∧ u = t
  | [single] => Yields (s.createProperty steps single) t inline u
  | players => Yields (players.foldlM (fun composite player => do
      let name := Naming.propertyName (s.nameOf player)
      let member ← s.createProperty steps player
      return (composite.withProperty name member).require name) (Schema.typed "object")) t inline u

/-- A property is a plain value, or a choice between an identifier, written inline, and the table of
its object, which is open then. -/
theorem createProperty_cases (ran : Yields (s.createProperty (steps + 1) object) t schema u) :
    (∃ type, s.identification object = .value type ∧ schema = s.valueSchema object type ∧ u = t) ∨
      ∃ players inline v, s.identification object = .players players ∧
        Inlines s steps players t inline v ∧
        Yields (s.ensureTable steps object) v (s.keyOf object) u ∧
        schema = { oneOf := some [inline, .component (s.keyOf object)] } := by
  rw [createProperty] at ran
  split at ran
  · rename_i type value
    obtain ⟨rfl, rfl⟩ := yields_pure.mp ran
    exact .inl ⟨type, value, rfl, rfl⟩
  · rename_i players identified
    have chosen : ∀ inline v, Inlines s steps players t inline v → Yields (do
        let key ← s.ensureTable steps object
        return { oneOf := some [inline, .component key] }) v schema u →
        ∃ players inline v, s.identification object = .players players ∧
          Inlines s steps players t inline v ∧
          Yields (s.ensureTable steps object) v (s.keyOf object) u ∧
          schema = { oneOf := some [inline, .component (s.keyOf object)] } := by
      intro inline v inlines ran
      obtain ⟨key, w, opened, ran⟩ := yields_bind.mp ran
      obtain ⟨rfl, rfl⟩ := yields_pure.mp ran
      obtain rfl := ensureTable_key opened
      exact ⟨players, inline, v, identified, inlines, opened, rfl⟩
    right
    dsimp only at ran
    split at ran
    · obtain ⟨inline, v, made, ran⟩ := yields_bind.mp ran
      obtain ⟨rfl, rfl⟩ := yields_pure.mp made
      exact chosen .empty t ⟨rfl, rfl⟩ ran
    · obtain ⟨inline, v, made, ran⟩ := yields_bind.mp ran
      exact chosen inline v made ran
    · rename_i several
      obtain ⟨inline, v, made, ran⟩ := yields_bind.mp ran
      refine chosen inline v ?_ ran
      unfold Inlines
      split
      · contradiction
      · exact (several _ rfl).elim
      · exact made

/-- A loop whose steps compute what they return. -/
theorem yields_foldlM_eq {α β : Type} {f : β → α → Build β} {g : β → α → β} {list : List α}
    {b c : β} (computes : ∀ a b t c u, Yields (f b a) t c u → c = g b a)
    (ran : Yields (list.foldlM f b) t c u) : c = list.foldl g b := by
  induction list generalizing b t with
  | nil => exact (yields_pure.mp ran).1.symm
  | cons a rest ih =>
    rw [List.foldlM_cons] at ran
    obtain ⟨d, v, first, ran⟩ := yields_bind.mp ran
    obtain rfl := computes _ _ _ _ _ first
    exact ih ran

theorem Inlines.eq_inlineSchema {players : List Player} {inline : Schema}
    (inlines : Inlines s steps players t inline u)
    (each : ∀ object t schema u, Yields (s.createProperty steps object) t schema u →
      schema = s.schemaOf steps object) :
    inline = s.inlineSchema (s.schemaOf steps) players := by
  unfold Inlines at inlines
  unfold inlineSchema
  split at inlines
  · exact inlines.1
  · exact each _ _ _ _ inlines
  · refine yields_foldlM_eq ?_ inlines
    intro player composite t next u ran
    obtain ⟨member, v, made, ran⟩ := yields_bind.mp ran
    obtain ⟨rfl, _⟩ := yields_pure.mp ran
    rw [each _ _ _ _ made]

/-- The schema of a property depends on its object only. -/
theorem createProperty_schema (ran : Yields (s.createProperty steps object) t schema u) :
    schema = s.schemaOf steps object := by
  induction steps generalizing object t schema u with
  | zero => exact absurd ran not_yields_createProperty_zero
  | succ steps ih =>
    rw [schemaOf]
    rcases createProperty_cases ran with ⟨type, value, rfl, _⟩ |
      ⟨players, inline, v, identified, inlines, _, rfl⟩
    · rw [value]
    · rw [identified, inlines.eq_inlineSchema fun _ _ _ _ => ih]

theorem coherent_valueSchema (player : Player) (type : ValueType) :
    (s.valueSchema player type).Coherent := by
  cases player <;> exact Schema.coherent_keywords rfl

theorem coherent_inlineSchema {schemaOf : Player → Schema}
    (each : ∀ player, (schemaOf player).Coherent) (players : List Player) :
    (s.inlineSchema schemaOf players).Coherent := by
  unfold inlineSchema
  split
  · exact Schema.coherent_keywords rfl
  · exact each _
  · exact Schema.foldl_keeps (P := Schema.Coherent)
      (fun _ coherent player => coherent.requireProperty (each player) _) _
      (Schema.coherent_keywords rfl)

theorem coherent_schemaOf (s : Snapshot) (steps : Nat) (object : Player) :
    (s.schemaOf steps object).Coherent := by
  induction steps generalizing object with
  | zero => exact Schema.coherent_keywords rfl
  | succ steps ih =>
    rw [schemaOf]
    split
    · exact coherent_valueSchema object _
    · refine Schema.coherent_choice ?_
      intro option listed
      rcases List.mem_pair.mp listed with rfl | rfl
      · exact coherent_inlineSchema ih _
      · exact Schema.coherent_keywords rfl

/-- An object that is written inline has a member. -/
theorem exists_field_of_inlineSchema (schemaOf : Player → Schema) {players : List Player}
    (several : 2 ≤ players.length) : ∃ entry ∈ (s.inlineSchema schemaOf players).fields,
      ∃ player, entry.2 = schemaOf player := by
  unfold inlineSchema
  split
  · simp at several
  · simp at several
  · rcases List.eq_nil_or_concat players with rfl | ⟨init, last, rfl⟩
    · simp at several
    · rw [List.concat_eq_append, List.foldl_concat]
      exact ⟨_, Entries.mem_of_get? ((Entries.get?_insert ..).trans (if_pos rfl)), last, rfl⟩

/-- A property comes down to what its object is identified by, or else stands for itself. -/
theorem unpacks_schemaOf (s : Snapshot) (steps : Nat) (object : Player) :
    (s.schemaOf steps object).properties = none ∧ (s.schemaOf steps object).Unpacks := by
  induction steps generalizing object with
  | zero => exact ⟨rfl, Schema.unpacks_of_plain rfl⟩
  | succ steps ih =>
    rw [schemaOf]
    split
    · unfold valueSchema
      split <;> exact ⟨rfl, Schema.unpacks_of_plain rfl⟩
    · rename_i players _
      refine ⟨rfl, ?_⟩
      match players with
      | [] => exact Schema.unpacks_choice rfl (Schema.unpacks_of_plain rfl)
      | [single] => exact Schema.unpacks_choice (ih single).1 (ih single).2
      | first :: second :: rest =>
        have several : 2 ≤ (first :: second :: rest).length := by simp
        obtain ⟨entry, listed, player, same⟩ :=
          exists_field_of_inlineSchema (s := s) (s.schemaOf steps) several
        exact Schema.unpacks_choice_of_fields listed (same ▸ (ih player).2)

end Snapshot
end ObjectRole

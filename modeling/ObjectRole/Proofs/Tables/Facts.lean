import ObjectRole.Proofs.Tables.Calls
import ObjectRole.Tables.Builder

/-! What adding a fact type comes to when it goes through. Its reading is split, the table of its
owner is opened, the schema of the other player is made, and one property is put on the table. -/
namespace ObjectRole.Snapshot

open Build

variable {s : Snapshot} {pattern : NounPattern} {id : FactTypeId} {owner value item role : RoleId}
  {t u : Tables} {a : Unit}

theorem addFunctional_cases (ran : Yields (s.addFunctional pattern id owner value) t a u) :
    ∃ tokens span schema v w, s.predicateOf pattern id = .ok tokens ∧
      tokens.objectSpan (s.factType id).title (s.nameOf (s.playerOf owner))
        (s.nameOf (s.playerOf value)) none = .ok span ∧
      Yields (s.tableOf (s.playerOf owner)) t (s.keyOf (s.playerOf owner)) v ∧
      Yields (s.propertyOf (s.playerOf value)) v schema w ∧
      u = (w.setProperty (s.keyOf (s.playerOf owner)) (s.nameOf (s.playerOf owner)) {
        name := Naming.propertyNameOf span.capitalized.words
        description := span.capitalized.tokens.render
        required := s.roleHas .mandatory owner || s.roleHas .mandatory value
        schema
        sample := s.exampleValue id value }).2 := by
  rw [addFunctional] at ran
  obtain ⟨key, v, opened, ran⟩ := yields_bind.mp ran
  obtain ⟨tokens, _, lifted, ran⟩ := yields_bind.mp ran
  obtain ⟨read, rfl⟩ := yields_lift.mp lifted
  obtain ⟨span, _, lifted, ran⟩ := yields_bind.mp ran
  obtain ⟨found, rfl⟩ := yields_lift.mp lifted
  obtain ⟨schema, w, made, ran⟩ := yields_bind.mp ran
  obtain rfl := yields_modify.mp ran
  obtain rfl := ensureTable_key opened
  exact ⟨tokens, span, schema, v, w, read, found, opened, made, rfl⟩

theorem addArrayValued_cases (ran : Yields (s.addArrayValued pattern id owner item) t a u) :
    ∃ tokens span items v w, s.predicateOf pattern id = .ok tokens ∧
      tokens.objectSpan (s.factType id).title (s.nameOf (s.playerOf owner))
        (s.nameOf (s.playerOf item)) ((s.pluralOf (s.playerOf item)).filter (!·.isEmpty)) =
          .ok span ∧
      Yields (s.tableOf (s.playerOf owner)) t (s.keyOf (s.playerOf owner)) v ∧
      Yields (s.propertyOf (s.playerOf item)) v items w ∧
      u = w.change (updateKey (s.keyOf (s.playerOf owner))) (·.withProperty
        (if ((s.pluralOf (s.playerOf item)).filter (!·.isEmpty)).isNone then
          Naming.pluralize (Naming.propertyNameOf span.capitalized.words)
        else Naming.propertyNameOf span.capitalized.words)
        ((Schema.arrayOf items).describedAs span.capitalized.tokens.render)) := by
  rw [addArrayValued] at ran
  obtain ⟨tokens, _, lifted, ran⟩ := yields_bind.mp ran
  obtain ⟨read, rfl⟩ := yields_lift.mp lifted
  obtain ⟨span, _, lifted, ran⟩ := yields_bind.mp ran
  obtain ⟨found, rfl⟩ := yields_lift.mp lifted
  obtain ⟨key, v, opened, ran⟩ := yields_bind.mp ran
  obtain ⟨items, w, made, ran⟩ := yields_bind.mp ran
  obtain rfl := yields_modify.mp ran
  obtain rfl := ensureTable_key opened
  exact ⟨tokens, span, items, v, w, read, found, opened, made, rfl⟩

theorem addUnary_cases (ran : Yields (s.addUnary pattern id role) t a u) :
    ∃ tokens span v, s.predicateOf pattern id = .ok tokens ∧
      tokens.restSpan (s.factType id).title (s.nameOf (s.playerOf role)) = .ok span ∧
      Yields (s.tableOf (s.playerOf role)) t (s.keyOf (s.playerOf role)) v ∧
      u = (v.setProperty (s.keyOf (s.playerOf role)) (s.nameOf (s.playerOf role)) {
        name := Naming.propertyNameOf span.words
        description := tokens.render
        required := s.roleHas .mandatory role
        schema := .typed "boolean"
        sample := s.exampleValue id role }).2 := by
  rw [addUnary] at ran
  obtain ⟨tokens, _, lifted, ran⟩ := yields_bind.mp ran
  obtain ⟨read, rfl⟩ := yields_lift.mp lifted
  obtain ⟨span, _, lifted, ran⟩ := yields_bind.mp ran
  obtain ⟨found, rfl⟩ := yields_lift.mp lifted
  dsimp only at ran
  split at ran
  · obtain ⟨_, _, thrown, _⟩ := yields_bind.mp ran
    exact absurd thrown yields_throw
  · obtain ⟨key, v, opened, ran⟩ := yields_bind.mp ran
    obtain rfl := yields_modify.mp ran
    obtain rfl := ensureTable_key opened
    exact ⟨tokens, span, v, read, found, opened, rfl⟩

theorem tableOf_of_discard {subject : Player} (ran : Yields (discard (s.tableOf subject)) t a u) :
    Yields (s.tableOf subject) t (s.keyOf subject) u := by
  obtain ⟨key, opened, _⟩ := yields_map.mp ran
  exact ensureTable_key opened ▸ opened

/-- Of an independent fact type every player but plain values has its table opened. -/
theorem independent_cases {player : Player} (ran : Yields
      (if s.isValueNoun player then pure () else discard (s.tableOf player)) t a u) :
    s.isValueNoun player = true ∧ u = t ∨
      s.isValueNoun player = false ∧ Yields (s.tableOf player) t (s.keyOf player) u := by
  split at ran
  · rename_i value
    exact .inl ⟨value, (yields_pure.mp ran).2.symm⟩
  · rename_i plain
    exact .inr ⟨Bool.eq_false_iff.mpr plain, tableOf_of_discard ran⟩

end ObjectRole.Snapshot

import ObjectRole.Schema.Equality

/-! Equality of schemas as values is reflexive and transitive. It is coarser than identity, since
zeros of either sign are one value. -/
namespace ObjectRole

theorem Number.same_refl : ∀ a : Number, a.same a = true
  | integer _ => beq_self_eq_true _
  | double bits => by rw [same, beq_self_eq_true, Bool.true_or]

theorem Number.same_trans : ∀ a b c : Number, a.same b = true → b.same c = true → a.same c = true
  | integer _, integer _, integer _, first, second => by
    simp only [same, beq_iff_eq] at first second ⊢
    exact first.trans second
  | double _, double _, double _, first, second => by
    simp only [same, Bool.or_eq_true, Bool.and_eq_true, beq_iff_eq] at first second ⊢
    grind

namespace Json

mutual

theorem same_refl : ∀ a : Json, a.same a = true
  | null => rfl
  | bool _ | string _ => beq_self_eq_true _
  | number a => a.same_refl
  | array items => sameItems_refl items
  | object fields => sameFields_refl fields

theorem sameItems_refl : ∀ items : List Json, sameItems items items = true
  | [] => rfl
  | a :: rest => by simp only [sameItems, same_refl a, sameItems_refl rest, Bool.and_self]

theorem sameFields_refl : ∀ fields : List (String × Json), sameFields fields fields = true
  | [] => rfl
  | (_, a) :: rest => by
    simp only [sameFields, beq_self_eq_true, same_refl a, sameFields_refl rest, Bool.and_self]

end

mutual

theorem same_trans : ∀ a b c : Json, a.same b = true → b.same c = true → a.same c = true
  | null, null, _, _, second => second
  | bool _, bool _, bool _, first, second | string _, string _, string _, first, second => by
    simp only [same, beq_iff_eq] at first second ⊢
    exact first.trans second
  | number a, number b, number c, first, second => a.same_trans b c first second
  | array a, array b, array c, first, second => sameItems_trans a b c first second
  | object a, object b, object c, first, second => sameFields_trans a b c first second

theorem sameItems_trans : ∀ a b c : List Json,
    sameItems a b = true → sameItems b c = true → sameItems a c = true
  | [], [], _, _, second => second
  | a :: as, b :: bs, c :: cs, first, second => by
    simp only [sameItems, Bool.and_eq_true] at first second ⊢
    exact ⟨same_trans a b c first.1 second.1, sameItems_trans as bs cs first.2 second.2⟩

theorem sameFields_trans : ∀ a b c : List (String × Json),
    sameFields a b = true → sameFields b c = true → sameFields a c = true
  | [], [], _, _, second => second
  | (_, a) :: as, (_, b) :: bs, (_, c) :: cs, first, second => by
    simp only [sameFields, Bool.and_eq_true, beq_iff_eq] at first second ⊢
    exact ⟨⟨first.1.1.trans second.1.1, same_trans a b c first.1.2 second.1.2⟩,
      sameFields_trans as bs cs first.2 second.2⟩

end

end Json

namespace Keywords

variable {α : Type} {rel : α → α → Bool} {a b c : Keywords}

theorem agree_refl (refl : ∀ a, rel a a = true) : ∀ a, agree rel a a = true
  | none => rfl
  | some a => refl a

theorem agree_trans (trans : ∀ a b c, rel a b = true → rel b c = true → rel a c = true) :
    ∀ a b c, agree rel a b = true → agree rel b c = true → agree rel a c = true
  | none, none, _, _, second => second
  | some a, some b, some c, first, second => trans a b c first second

theorem same_refl (a : Keywords) : a.same a = true := by
  simp only [same, beq_self_eq_true, agree_refl Json.sameItems_refl, agree_refl Number.same_refl,
    Bool.and_self]

theorem same_trans (first : a.same b = true) (second : b.same c = true) : a.same c = true := by
  have items := agree_trans Json.sameItems_trans
  have numbers := agree_trans Number.same_trans
  simp only [same, Bool.and_eq_true, beq_iff_eq] at first second ⊢
  grind

end Keywords

namespace Schema

mutual

theorem same_refl : ∀ s : Schema, s.same s = true
  | ⟨k, properties, items, allOf, oneOf⟩ => by
    simp only [same, k.same_refl, sameProperties_refl properties, sameItem_refl items,
      sameLists_refl allOf, sameLists_refl oneOf, Bool.and_self]

theorem sameProperties_refl : ∀ properties : Option (List (String × Schema)),
    sameProperties properties properties = true
  | none => rfl
  | some entries => sameEntries_refl entries

theorem sameEntries_refl : ∀ entries : List (String × Schema), sameEntries entries entries = true
  | [] => rfl
  | (_, s) :: rest => by
    simp only [sameEntries, beq_self_eq_true, same_refl s, sameEntries_refl rest, Bool.and_self]

theorem sameItem_refl : ∀ item : Option Schema, sameItem item item = true
  | none => rfl
  | some s => same_refl s

theorem sameLists_refl : ∀ schemas : Option (List Schema), sameLists schemas schemas = true
  | none => rfl
  | some list => sameList_refl list

theorem sameList_refl : ∀ schemas : List Schema, sameList schemas schemas = true
  | [] => rfl
  | s :: rest => by simp only [sameList, same_refl s, sameList_refl rest, Bool.and_self]

end

mutual

theorem same_trans : ∀ a b c : Schema, a.same b = true → b.same c = true → a.same c = true
  | ⟨_, properties, items, allOf, oneOf⟩, ⟨_, _, _, _, _⟩, ⟨_, _, _, _, _⟩, first, second => by
    simp only [same, Bool.and_eq_true] at first second ⊢
    obtain ⟨⟨⟨⟨words, first_fields⟩, first_items⟩, first_allOf⟩, first_oneOf⟩ := first
    obtain ⟨⟨⟨⟨more, second_fields⟩, second_items⟩, second_allOf⟩, second_oneOf⟩ := second
    exact ⟨⟨⟨⟨Keywords.same_trans words more,
      sameProperties_trans properties _ _ first_fields second_fields⟩,
      sameItem_trans items _ _ first_items second_items⟩,
      sameLists_trans allOf _ _ first_allOf second_allOf⟩,
      sameLists_trans oneOf _ _ first_oneOf second_oneOf⟩

theorem sameProperties_trans : ∀ a b c : Option (List (String × Schema)),
    sameProperties a b = true → sameProperties b c = true → sameProperties a c = true
  | none, none, _, _, second => second
  | some a, some b, some c, first, second => sameEntries_trans a b c first second

theorem sameEntries_trans : ∀ a b c : List (String × Schema),
    sameEntries a b = true → sameEntries b c = true → sameEntries a c = true
  | [], [], _, _, second => second
  | (_, a) :: as, (_, b) :: bs, (_, c) :: cs, first, second => by
    simp only [sameEntries, Bool.and_eq_true, beq_iff_eq] at first second ⊢
    exact ⟨⟨first.1.1.trans second.1.1, same_trans a b c first.1.2 second.1.2⟩,
      sameEntries_trans as bs cs first.2 second.2⟩

theorem sameItem_trans : ∀ a b c : Option Schema,
    sameItem a b = true → sameItem b c = true → sameItem a c = true
  | none, none, _, _, second => second
  | some a, some b, some c, first, second => same_trans a b c first second

theorem sameLists_trans : ∀ a b c : Option (List Schema),
    sameLists a b = true → sameLists b c = true → sameLists a c = true
  | none, none, _, _, second => second
  | some a, some b, some c, first, second => sameList_trans a b c first second

theorem sameList_trans : ∀ a b c : List Schema,
    sameList a b = true → sameList b c = true → sameList a c = true
  | [], [], _, _, second => second
  | a :: as, b :: bs, c :: cs, first, second => by
    simp only [sameList, Bool.and_eq_true] at first second ⊢
    exact ⟨same_trans a b c first.1 second.1, sameList_trans as bs cs first.2 second.2⟩

end

end Schema
end ObjectRole

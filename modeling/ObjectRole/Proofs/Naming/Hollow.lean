import ObjectRole.Naming.Plural
import ObjectRole.Proofs.Naming.Prefixes
import ObjectRole.Tables.ObjectSpan

/-! Text that leaves no key, as it has nothing but spaces and hyphens. No conversion of case and no
cut makes such text of other text or fills it, so that a property name is empty exactly if all that
it was made of leaves no key. -/
namespace ObjectRole.Naming

open Text

variable {c : Char} {name subject text : List Char}

theorem key_cons (c : Char) (rest : List Char) : key (c :: rest) = key [c] ++ key rest := by
  rw [← key_append, List.singleton_append]

theorem key_eq_nil_iff : key name = [] ↔ ∀ c ∈ name, c ∈ [' ', '-'] := by
  rw [key, List.flatMap_eq_nil_iff]
  refine forall₂_congr fun c _ => ?_
  rw [keyLetters.eq_def]
  split <;> simp_all

/-- A form of a character leaves a key exactly if the character does. -/
theorem key_form_eq_nil_iff {form : List Char} (filled : form ≠ [])
    (of_sign : ∀ {sign}, IsSign sign → sign ∈ form → c = sign)
    (sign_form : IsSign c → form = [c]) : key form = [] ↔ key [c] = [] := by
  have dropped_sign {sign : Char} (dropped : sign ∈ [' ', '-']) : IsSign sign := by
    rcases List.mem_pair.mp dropped with rfl | rfl <;> decide
  constructor
  · intro none
    obtain ⟨d, rest, rfl⟩ := List.exists_cons_of_ne_nil filled
    have dropped := key_eq_nil_iff.mp none d List.mem_cons_self
    rw [of_sign (dropped_sign dropped) List.mem_cons_self, key_eq_nil_iff]
    exact fun e inside => List.mem_singleton.mp inside ▸ dropped
  · intro none
    rwa [sign_form (dropped_sign (key_eq_nil_iff.mp none c List.mem_cons_self))]

theorem key_small_eq_nil_iff : key (small c) = [] ↔ key [c] = [] :=
  key_form_eq_nil_iff (small_ne_nil c) eq_of_mem_small small_sign

theorem key_capital_eq_nil_iff : key (capital c) = [] ↔ key [c] = [] :=
  key_form_eq_nil_iff (capital_ne_nil c) eq_of_mem_capital capital_sign

theorem key_lower_eq_nil_iff : key (lower text) = [] ↔ key text = [] := by
  suffices anywhere : ∀ before, key (lowerAfter before text) = [] ↔ key text = [] from anywhere []
  induction text with
  | nil => exact fun _ => Iff.rfl
  | cons c rest ih =>
    intro before
    have sigmas : key ['σ'] ≠ [] ∧ key ['ς'] ≠ [] ∧ key ['Σ'] ≠ [] := by decide
    rw [lowerAfter, key_append, List.append_eq_nil_iff, ih, key_cons, List.append_eq_nil_iff]
    refine and_congr_left fun _ => ?_
    split
    · rename_i sigma
      subst sigma
      refine iff_of_false ?_ sigmas.2.2
      split
      · exact sigmas.2.1
      · exact sigmas.1
    · exact key_small_eq_nil_iff

theorem key_capitalizeLetters_eq_nil_iff : key (capitalizeLetters text) = [] ↔ key text = [] := by
  cases text with
  | nil => exact Iff.rfl
  | cons c rest =>
    rw [capitalizeLetters, key_append, List.append_eq_nil_iff, key_capital_eq_nil_iff,
      key_cons c rest, List.append_eq_nil_iff]

theorem key_titleCase_eq_nil_iff : key (titleCase text) = [] ↔ key text = [] := by
  rw [titleCase]
  split
  · rw [key_capitalizeLetters_eq_nil_iff, key_lower_eq_nil_iff]
  · rfl

/-- The pieces between spaces leave the key of the whole. -/
theorem flatMap_key_splitWhen (text : List Char) :
    (splitWhen (· == ' ') text).flatMap key = key text := by
  induction text with
  | nil => rfl
  | cons c rest ih =>
    rw [splitWhen, key_cons, ← ih]
    split
    · rename_i space
      rw [beq_iff_eq.mp space]
      rfl
    · split
      · rename_i none
        rw [none]
        rfl
      · rename_i piece pieces pieces_of
        rw [pieces_of, List.flatMap_cons, List.flatMap_cons, key_cons, List.append_assoc]

theorem key_titleCase_pieces_eq_nil_iff :
    key ((piecesWhen (· == ' ') text).flatMap titleCase) = [] ↔ key text = [] := by
  have pieces : (piecesWhen (· == ' ') text).flatMap key = key text := by
    rw [← flatMap_key_splitWhen, piecesWhen]
    induction splitWhen (· == ' ') text with
    | nil => rfl
    | cons piece rest ih => cases piece <;> simp [ih, key]
  rw [← pieces, key, List.flatMap_assoc, List.flatMap_eq_nil_iff, List.flatMap_eq_nil_iff]
  exact forall₂_congr fun piece _ => key_titleCase_eq_nil_iff

/-! ### Empty property names -/

theorem propertyLetters_eq_nil_iff : propertyLetters name = [] ↔ key name = [] := by
  rw [propertyLetters]
  split
  · exact lower_eq_nil_iff
  · change leadLowered (key name) = [] ↔ _
    rw [← List.length_eq_zero_iff, ← List.length_eq_zero_iff]
    refine ⟨fun empty => Nat.le_zero.mp (empty ▸ length_le_leadLowered _), fun empty => ?_⟩
    rw [List.length_eq_zero_iff.mp empty]
    rfl

/-- Spaces and hyphens do not come into property names. -/
theorem not_mem_propertyLetters (dropped : c ∈ [' ', '-']) : c ∉ propertyLetters name := by
  have dropped : c ∈ [' ', '-', '&'] := List.mem_append_left ['&'] dropped
  rw [propertyLetters]
  split
  · exact fun inside => not_mem_key dropped (mem_of_mem_lower (isSign_of_dropped dropped) inside)
  · exact not_mem_leadLowered dropped

/-- What is left of a property name behind its owner is never empty. -/
theorem stripLetters_propertyLetters_eq_nil_iff :
    stripLetters (propertyLetters name) subject = [] ↔ key name = [] := by
  rcases stripLetters_cases (propertyLetters name) subject with same |
    ⟨head, tail, cut, _, begins, left⟩
  · rw [same, propertyLetters_eq_nil_iff]
  · obtain ⟨c, rest, rfl⟩ : ∃ c rest, tail = c :: rest := by
      refine List.exists_cons_of_ne_nil ?_
      rintro rfl
      contradiction
    have inside : c ∈ propertyLetters name := by
      rw [cut]
      exact List.mem_append_right _ List.mem_cons_self
    have named : key name ≠ [] :=
      fun none => List.ne_nil_of_mem inside (propertyLetters_eq_nil_iff.mpr none)
    rw [left, propertyLetters_eq_nil_iff]
    refine iff_of_false (fun none => ?_) named
    exact not_mem_propertyLetters (key_eq_nil_iff.mp none c List.mem_cons_self) inside

theorem schemaKey_eq_empty_iff {word : String} : schemaKey word = "" ↔ key word.toList = [] := by
  rw [schemaKey, ← String.toList_inj, String.toList_ofList]
  rfl

/-- The letters of the words on the object's side, before they are made a property name. -/
theorem propertyNameOf_cases (words : List String) : ∃ name,
    propertyNameOf words = .ofList (propertyLetters name) ∧
      (key name = [] ↔ ∀ word ∈ words, schemaKey word = "") := by
  cases words with
  | nil => exact ⟨[], by decide, by simp [key]⟩
  | cons first rest =>
    refine ⟨_, rfl, ?_⟩
    rw [key_append, List.append_eq_nil_iff, key_titleCase_pieces_eq_nil_iff, List.forall_mem_cons,
      schemaKey_eq_empty_iff]
    refine and_congr_right fun _ => ?_
    rw [key, List.flatMap_assoc, List.flatMap_eq_nil_iff]
    refine forall₂_congr fun word _ => ?_
    rw [schemaKey_eq_empty_iff]
    exact key_capitalizeLetters_eq_nil_iff

theorem stripSubject_propertyNameOf_eq_empty_iff {words : List String} {subject : String} :
    stripSubject (propertyNameOf words) subject = "" ↔ ∀ word ∈ words, schemaKey word = "" := by
  obtain ⟨name, same, none⟩ := propertyNameOf_cases words
  rw [stripSubject, same, String.toList_ofList, ← String.toList_inj, String.toList_ofList, ← none]
  exact stripLetters_propertyLetters_eq_nil_iff

theorem propertyNameOf_eq_empty_iff {words : List String} :
    propertyNameOf words = "" ↔ ∀ word ∈ words, schemaKey word = "" := by
  obtain ⟨name, same, none⟩ := propertyNameOf_cases words
  rw [same, ← String.toList_inj, String.toList_ofList, ← none]
  exact propertyLetters_eq_nil_iff

theorem stripSubject_propertyName_eq_empty_iff {word subject : String} :
    stripSubject (propertyName word) subject = "" ↔ schemaKey word = "" := by
  rw [stripSubject, propertyName, String.toList_ofList, ← String.toList_inj, String.toList_ofList,
    schemaKey_eq_empty_iff]
  exact stripLetters_propertyLetters_eq_nil_iff

/-! ### Plurals -/

theorem irregularPlural?_ne_nil {entry : String × String} {plural : List Char}
    (listed : entry ∈ irregular) (found : irregularPlural? text entry = some plural) :
    plural ≠ [] := by
  have filled : ∀ entry ∈ irregular, entry.2.toList ≠ [] := by decide +kernel
  have capitalized {word : List Char} (word_filled : word ≠ []) : capitalizeLetters word ≠ [] := by
    obtain ⟨c, rest, rfl⟩ := List.exists_cons_of_ne_nil word_filled
    exact List.append_ne_nil_of_left_ne_nil (capital_ne_nil c) rest
  obtain ⟨singular, ending⟩ := entry
  simp only [irregularPlural?, bind, Option.bind_eq_some_iff, Option.guard_eq_some', pure,
    Option.some.injEq] at found
  obtain ⟨_, _, ⟨stem, segment⟩, _, _, _, _, _, rfl⟩ := found
  refine List.append_ne_nil_of_right_ne_nil stem ?_
  split
  · exact capitalized (filled _ listed)
  · exact filled _ listed

theorem regularPlural_ne_nil (word : List Char) : regularPlural word ≠ [] := by
  have behind {stem ending : List Char} (filled : ending ≠ []) : stem ++ ending ≠ [] :=
    List.append_ne_nil_of_right_ne_nil stem filled
  rw [regularPlural]
  split
  · dsimp only
    split
    · exact behind (by decide)
    · exact behind (by decide)
  · split
    · exact behind (by decide)
    · exact behind (by decide)

theorem pluralize_ne_empty (word : String) : pluralize word ≠ "" := by
  rw [pluralize, ne_eq, ← String.toList_inj, String.toList_ofList]
  cases found : irregular.findSome? (irregularPlural? word.toList) with
  | none => exact regularPlural_ne_nil word.toList
  | some plural =>
    obtain ⟨entry, listed, found⟩ := List.exists_of_findSome?_eq_some found
    exact irregularPlural?_ne_nil listed found

end ObjectRole.Naming

namespace ObjectRole.ObjectSpan

open Naming

/-- The words of a capitalized span are those of the span, one by one. -/
theorem words_capitalized (span : ObjectSpan) : span.capitalized.words =
    ((span.tokens.drop span.first).take (span.last - span.first)).map fun token =>
      capitalize token.bare := by
  rw [words, capitalized]
  apply List.ext_getElem?
  intro place
  simp only [List.getElem?_map, List.getElem?_take, List.getElem?_drop, List.getElem?_mapIdx]
  split
  · rename_i inside
    have within : span.first + place < span.last := by omega
    simp [within, Function.comp_def]
  · rfl

theorem schemaKey_capitalize_bare (token : Token) :
    schemaKey (capitalize token.bare) = "" ↔ schemaKey token.text = "" := by
  rw [schemaKey_eq_empty_iff, schemaKey_eq_empty_iff, capitalize, String.toList_ofList,
    key_capitalizeLetters_eq_nil_iff, Token.bare]
  split
  · rename_i bound
    have ends : token.text.toList.getLast? = some '-' := beq_iff_eq.mp bound
    have whole : token.text.toList = token.text.toList.dropLast ++ ['-'] :=
      (List.dropLast_append_getLast? '-' ends).symm
    rw [String.toList_ofList, whole, key_append, List.append_eq_nil_iff, List.dropLast_concat]
    exact ⟨fun none => ⟨none, rfl⟩, And.left⟩
  · rfl

theorem forall_words_capitalized_iff (span : ObjectSpan) :
    (∀ word ∈ span.capitalized.words, schemaKey word = "") ↔
      ∀ word ∈ span.words, schemaKey word = "" := by
  rw [words_capitalized, words, List.forall_mem_map, List.forall_mem_map]
  exact forall₂_congr fun token _ => schemaKey_capitalize_bare token

end ObjectRole.ObjectSpan

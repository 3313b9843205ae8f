import ObjectRole.Tables.ObjectSpan
import Mathlib.Data.Nat.Init
import Mathlib.Order.Bounds.Basic

/-! The part of a reading that speaks of the object: when there is one, where it begins and ends,
and what becomes of the tokens. It is found exactly if the reading names the subject and, at another
place, the object that is asked for. It always lies within the tokens and takes in the object, but
not the subject. -/
namespace ObjectRole

variable {tokens : Predicate} {factType subject noun : String} {plural : Option String}
  {span other : ObjectSpan} {s o place start : Nat}

/-- A search from the front finds the least place where the test holds. -/
theorem findIdx?_eq_some_iff_isLeast {α : Type} {p : α → Bool} {list : List α} :
    list.findIdx? p = some place ↔ IsLeast {i | (list[i]?).any p = true} place := by
  rw [List.findIdx?_eq_some_iff_getElem]
  constructor
  · rintro ⟨inside, holds, before⟩
    refine ⟨(Option.any_eq_true ..).mpr ⟨_, List.getElem?_eq_getElem inside, holds⟩, ?_⟩
    intro i there
    by_contra earlier
    obtain ⟨a, at_i, also⟩ := (Option.any_eq_true ..).mp there
    obtain ⟨_, rfl⟩ := List.getElem?_eq_some_iff.mp at_i
    exact before i (Nat.not_le.mp earlier) also
  · rintro ⟨there, least⟩
    obtain ⟨a, at_place, holds⟩ := (Option.any_eq_true ..).mp there
    obtain ⟨inside, rfl⟩ := List.getElem?_eq_some_iff.mp at_place
    refine ⟨inside, holds, fun i earlier also => Nat.not_le.mpr earlier (least ?_)⟩
    exact (Option.any_eq_true ..).mpr ⟨_, List.getElem?_eq_getElem (earlier.trans inside), also⟩

namespace Predicate

/-- The noun stands at the place, bound or not. -/
def NamedAt (tokens : Predicate) (noun : String) (place : Nat) : Prop :=
  (tokens[place]?).any (·.names noun) = true

/-- The token at the place is bound to its neighbour. -/
def BoundAt (tokens : Predicate) (place : Nat) : Prop :=
  (tokens[place]?).any (·.isBound) = true

instance : Decidable (tokens.BoundAt place) := inferInstanceAs (Decidable (_ = true))

/-! ### Places -/

theorem NamedAt.lt_length (named : tokens.NamedAt noun place) : place < tokens.length := by
  obtain ⟨token, found, _⟩ := (Option.any_eq_true ..).mp named
  exact (List.getElem?_eq_some_iff.mp found).1

theorem positionOf_eq_some_iff :
    tokens.positionOf noun = some s ↔ IsLeast {place | tokens.NamedAt noun place} s :=
  findIdx?_eq_some_iff_isLeast

theorem objectPosition?_eq_some_iff : tokens.objectPosition? s noun = some o ↔
    IsLeast {place | place ≠ s ∧ tokens.NamedAt noun place} o := by
  rw [objectPosition?, findIdx?_eq_some_iff_isLeast]
  refine iff_of_eq (congrArg (IsLeast · o) (Set.ext fun i => ?_))
  cases at_i : tokens[i]? <;> simp [NamedAt, List.getElem?_zipIdx, at_i]

/-! ### Beginning and end -/

theorem narrow_drop (inside : start < tokens.length) : narrow o start (tokens.drop start) =
    if start = o ∨ tokens.BoundAt start then start
      else narrow o (start + 1) (tokens.drop (start + 1)) := by
  rw [List.drop_eq_getElem_cons inside, narrow]
  simp [BoundAt, List.getElem?_eq_getElem inside]

/-- Stepping over tokens stops at the first that is bound, and at the object at the latest. -/
theorem narrow_isLeast (ahead : start ≤ o) (inside : o < tokens.length) :
    IsLeast {place | start ≤ place ∧ (place < o ∧ tokens.BoundAt place ∨ place = o)}
      (narrow o start (tokens.drop start)) := by
  -- The steps lead up to the object, so the induction goes down from it.
  induction ahead using Nat.decreasingInduction with
  | self =>
    rw [narrow_drop inside, if_pos (.inl rfl)]
    exact ⟨⟨le_rfl, .inr rfl⟩, fun _ stop => stop.1⟩
  | of_succ start before ih =>
    rw [narrow_drop (before.trans inside)]
    split
    · rename_i stops
      have bound : tokens.BoundAt start := stops.resolve_left before.ne
      exact ⟨⟨le_rfl, .inl ⟨before, bound⟩⟩, fun _ stop => stop.1⟩
    · rename_i goes_on
      obtain ⟨⟨behind, stops⟩, least⟩ := ih
      refine ⟨⟨Nat.le_of_succ_le behind, stops⟩, fun place ⟨from_start, stop⟩ => least ⟨?_, stop⟩⟩
      refine Nat.lt_of_le_of_ne from_start ?_
      rintro rfl
      exact goes_on (stop.elim (fun bound => .inr bound.2) .inl)

/-- The steps start behind the subject or, if the object comes first, at the front. -/
theorem isLeast_first_spanOf (apart : o ≠ s) (inside : o < tokens.length) :
    IsLeast {place | (o < s ∨ s < place) ∧ (place < o ∧ tokens.BoundAt place ∨ place = o)}
      (tokens.spanOf s o).first := by
  rcases Nat.lt_or_gt_of_ne apart with object_first | subject_first
  · have least := narrow_isLeast (Nat.zero_le o) inside
    simpa [spanOf, object_first, object_first.le.not_gt] using least
  · have least := narrow_isLeast subject_first inside
    simpa [spanOf, subject_first, subject_first.le.not_gt, Nat.succ_le_iff] using least

/-- The part is never empty, so its end is not moved behind its beginning. -/
theorem last_spanOf (apart : o ≠ s) (inside : o < tokens.length) : (tokens.spanOf s o).last =
    if s < o ∧ tokens.BoundAt o then tokens.length else o + 1 := by
  have whole : (tokens.spanOf s o).last =
      max (if s < o ∧ tokens.BoundAt o then tokens.length else o + 1)
        (tokens.spanOf s o).first := by
    by_cases subject_first : s < o <;> simp [spanOf, BoundAt, subject_first]
  have first_le : (tokens.spanOf s o).first ≤ o :=
    (isLeast_first_spanOf apart inside).2 ⟨Nat.lt_or_gt_of_ne apart, .inr rfl⟩
  rw [whole, max_eq_left]
  split <;> omega

end Predicate

namespace ObjectSpan

/-- The part lies within its tokens, so that it can be taken out of them whole. -/
def Within (span : ObjectSpan) : Prop :=
  span.first ≤ span.last ∧ span.last ≤ span.tokens.length

/-- The place belongs to the part. -/
def Covers (span : ObjectSpan) (place : Nat) : Prop := span.first ≤ place ∧ place < span.last

/-- What the part of a reading that speaks of an object is, where subject and object have the places
`s` and `o`. Its tokens are those of the reading, but for a plural in the object's place. -/
structure SpeaksOf (span : ObjectSpan) (tokens : Predicate) (plural : Option String) (s o : Nat) :
    Prop where
  object_covered : span.Covers o
  subject_apart : ¬span.Covers s
  /-- Of the places behind the subject, or of all if the object comes first, it begins at the first
  one before the object that is bound, and at the object if none is. -/
  begins : IsLeast {place | (o < s ∨ s < place) ∧
    (place < o ∧ span.tokens.BoundAt place ∨ place = o)} span.first
  /-- What counts is the token that stands there in the end: with a plural, it is the plural that is
  bound or not. -/
  ends : span.last = if s < o ∧ span.tokens.BoundAt o then tokens.length else o + 1
  length : span.tokens.length = tokens.length
  frame : ∀ place, place ≠ o → span.tokens[place]? = tokens[place]?
  object_token : span.tokens[o]? = plural.elim tokens[o]? fun plural =>
    some (.noun (Naming.capitalize (NounPattern.joined plural)))

/-- These conditions leave nothing open. -/
theorem SpeaksOf.unique (speaks : span.SpeaksOf tokens plural s o)
    (also : other.SpeaksOf tokens plural s o) : span = other := by
  obtain ⟨left, first, last⟩ := span
  obtain ⟨right, first', last'⟩ := other
  obtain rfl : left = right := by
    apply List.ext_getElem?
    intro place
    by_cases object : place = o
    · subst object
      exact speaks.object_token.trans also.object_token.symm
    · exact (speaks.frame place object).trans (also.frame place object).symm
  obtain rfl : first = first' := speaks.begins.unique also.begins
  obtain rfl : last = last' := speaks.ends.trans also.ends.symm
  rfl

theorem SpeaksOf.within (speaks : span.SpeaksOf tokens plural s o) (inside : o < tokens.length) :
    span.Within := by
  obtain ⟨first_le, lt_last⟩ := speaks.object_covered
  have last_le : span.last ≤ span.tokens.length := by
    rw [speaks.length, speaks.ends]
    split
    · exact le_rfl
    · exact inside
  exact ⟨first_le.trans lt_last.le, last_le⟩

end ObjectSpan

/-! ### Finding the part -/

namespace Predicate

/-- The tokens with the plural, if there is one, in the object's place. -/
def withPlural (tokens : Predicate) (o : Nat) (plural : Option String) : Predicate :=
  plural.elim tokens fun plural =>
    tokens.set o (.noun (Naming.capitalize (NounPattern.joined plural)))

theorem length_withPlural : (tokens.withPlural o plural).length = tokens.length := by
  cases plural with
  | none => rfl
  | some plural => exact List.length_set

theorem getElem?_withPlural_of_ne (elsewhere : place ≠ o) :
    (tokens.withPlural o plural)[place]? = tokens[place]? := by
  cases plural with
  | none => rfl
  | some plural => exact List.getElem?_set_ne elsewhere.symm

theorem getElem?_withPlural_self (inside : o < tokens.length) :
    (tokens.withPlural o plural)[o]? = plural.elim tokens[o]? fun plural =>
      some (.noun (Naming.capitalize (NounPattern.joined plural))) := by
  cases plural with
  | none => rfl
  | some plural => exact List.getElem?_set_self inside

theorem objectSpan_of_places (subject_at : tokens.positionOf subject = some s)
    (object_at : tokens.objectPosition? s noun = some o) :
    tokens.objectSpan factType subject noun plural =
      .ok ((tokens.withPlural o plural).spanOf s o) := by
  rw [objectSpan, subject_at]
  dsimp only
  rw [object_at]
  cases plural <;> rfl

theorem speaksOf_spanOf (apart : o ≠ s) (inside : o < tokens.length) :
    ((tokens.withPlural o plural).spanOf s o).SpeaksOf tokens plural s o := by
  have inside_changed : o < (tokens.withPlural o plural).length := by rwa [length_withPlural]
  have begins := isLeast_first_spanOf apart inside_changed
  have ends := last_spanOf apart inside_changed
  rw [length_withPlural] at ends
  have first_le := begins.2 ⟨Nat.lt_or_gt_of_ne apart, .inr rfl⟩
  refine ⟨⟨first_le, ?_⟩, ?_, begins, ends, length_withPlural,
    fun _ => getElem?_withPlural_of_ne, getElem?_withPlural_self inside⟩
  · rw [ends]
    split <;> omega
  · rintro ⟨first_le_subject, subject_lt⟩
    rcases begins.1.1 with object_first | behind
    · rw [ends, if_neg fun bound => object_first.not_gt bound.1] at subject_lt
      omega
    · exact behind.not_ge first_le_subject

theorem exists_objectSpan (subject_at : IsLeast {place | tokens.NamedAt subject place} s)
    (object_at : IsLeast {place | place ≠ s ∧ tokens.NamedAt noun place} o) :
    ∃ span, tokens.objectSpan factType subject noun plural = .ok span ∧ span.Within ∧
      span.SpeaksOf tokens plural s o := by
  have inside : o < tokens.length := object_at.1.2.lt_length
  have speaks : ((tokens.withPlural o plural).spanOf s o).SpeaksOf tokens plural s o :=
    speaksOf_spanOf object_at.1.1 inside
  exact ⟨_, objectSpan_of_places (positionOf_eq_some_iff.mpr subject_at)
    (objectPosition?_eq_some_iff.mpr object_at), speaks.within inside, speaks⟩

theorem objectSpan_eq_ok_iff : tokens.objectSpan factType subject noun plural = .ok span ↔
    span.Within ∧ ∃ s, IsLeast {place | tokens.NamedAt subject place} s ∧
      ∃ o, IsLeast {place | place ≠ s ∧ tokens.NamedAt noun place} o ∧
        span.SpeaksOf tokens plural s o := by
  constructor
  · intro found
    cases subject_at : tokens.positionOf subject with
    | none =>
      rw [objectSpan, subject_at] at found
      cases found
    | some s =>
      cases object_at : tokens.objectPosition? s noun with
      | none =>
        rw [objectSpan, subject_at] at found
        simp only [object_at] at found
        cases found
      | some o =>
        have subject_least := positionOf_eq_some_iff.mp subject_at
        have object_least := objectPosition?_eq_some_iff.mp object_at
        obtain ⟨_, also_found, within, speaks⟩ := exists_objectSpan subject_least object_least
        cases found.symm.trans also_found
        exact ⟨within, s, subject_least, o, object_least, speaks⟩
  · rintro ⟨_, s, subject_at, o, object_at, speaks⟩
    obtain ⟨found_span, found, _, also⟩ := exists_objectSpan subject_at object_at
    rw [found, speaks.unique also]

theorem restSpan_eq_ok_iff : tokens.restSpan factType subject = .ok span ↔
    span.Within ∧ ∃ s, IsLeast {place | tokens.NamedAt subject place} s ∧
      span = ⟨tokens, s + 1, tokens.length⟩ := by
  simp only [← positionOf_eq_some_iff]
  cases subject_at : tokens.positionOf subject with
  | none =>
    rw [restSpan, subject_at]
    refine iff_of_false nofun ?_
    rintro ⟨_, _, nowhere, _⟩
    cases nowhere
  | some s =>
    have inside : s < tokens.length := (positionOf_eq_some_iff.mp subject_at).1.lt_length
    rw [restSpan, subject_at]
    constructor
    · rintro ⟨⟩
      exact ⟨⟨inside, le_rfl⟩, s, rfl, rfl⟩
    · rintro ⟨_, _, ⟨⟩, rfl⟩
      rfl

/-- With an object to look for or without one, and with a plural for it or without: a part of the
tokens is found exactly if the subject is named and, at another place, so is the object. It lies
within the tokens. For an object it is the part that speaks of it; without one, the tokens stay as
they are and the part is all that follows the subject. -/
theorem span_found_iff (tokens : Predicate) (factType subject : String)
    (object plural : Option String) (span : ObjectSpan) :
    (object.elim (tokens.restSpan factType subject) fun noun =>
        tokens.objectSpan factType subject noun plural) = .ok span ↔
      span.Within ∧ ∃ s, IsLeast {place | tokens.NamedAt subject place} s ∧
        match object with
        | none => span = ⟨tokens, s + 1, tokens.length⟩
        | some noun => ∃ o, IsLeast {place | place ≠ s ∧ tokens.NamedAt noun place} o ∧
            span.SpeaksOf tokens plural s o := by
  cases object with
  | none => exact restSpan_eq_ok_iff
  | some noun => exact objectSpan_eq_ok_iff

/-- What stands in front of the object belongs to the part if it is bound, and what follows if the
object is. -/
example : objectSpan [.noun "Person", .word "knows", .word "best-", .noun "Person-", .word "well"]
    "" "Person" "Person" none = .ok
      ⟨[.noun "Person", .word "knows", .word "best-", .noun "Person-", .word "well"], 2, 5⟩ := by
  decide

/-- A plural is not bound because the noun was. -/
example : objectSpan [.noun "Person", .word "knows", .word "best-", .noun "Person-", .word "well"]
    "" "Person" "Person" (some "people") = .ok
      ⟨[.noun "Person", .word "knows", .word "best-", .noun "People", .word "well"], 2, 4⟩ := by
  decide

end Predicate
end ObjectRole

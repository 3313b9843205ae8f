import ObjectRole.Text.Casing
import Mathlib

/-! What case conversion does to single characters, as far as names rely on it: a character always
has a form, and the signs of ASCII are forms of themselves only. The tables are consulted here and
nowhere else. -/
namespace ObjectRole.Text

/-- A character of ASCII that is no letter. The null character is left out, since it also stands
for code points that there are none of. -/
def IsSign (c : Char) : Prop := isAscii c ∧ ¬c.isAlpha ∧ c.toNat ≠ 0

instance : DecidablePred IsSign := fun _ => inferInstanceAs (Decidable (_ ∧ _ ∧ _))

variable {sign c : Char} {text : List Char} {shifts : List (Run × Int)}
  {long : List (Nat × List Nat)}

theorem IsSign.not_isUpper (holds : IsSign c) : ¬c.isUpper := by
  intro capital
  exact holds.2.1 (by rw [Char.isAlpha, capital, Bool.true_or])

theorem IsSign.not_isLower (holds : IsSign c) : ¬c.isLower := by
  intro small
  exact holds.2.1 (by rw [Char.isAlpha, small, Bool.or_true])

/-- A run that leads past ASCII as a whole, or a single code point that leads to a letter of it. -/
def PastSigns (entry : Run × Int) : Prop :=
  128 ≤ (entry.1.1 : Int) + entry.2 ∨
    entry.1.1 = entry.1.2.1 ∧ (Char.ofNat ((entry.1.1 : Int) + entry.2).toNat).isAlpha

instance : DecidablePred PastSigns := fun _ => inferInstanceAs (Decidable (_ ∨ _))

theorem pastSigns_smallShifts : ∀ entry ∈ smallShifts, PastSigns entry := by
  decide +kernel

theorem pastSigns_capitalShifts : ∀ entry ∈ capitalShifts, PastSigns entry := by
  decide +kernel

theorem not_isSign_longSmalls :
    ∀ codes ∈ longSmalls.map (·.2), ∀ code ∈ codes, ¬IsSign (Char.ofNat code) := by
  decide +kernel

theorem not_isSign_longCapitals :
    ∀ codes ∈ longCapitals.map (·.2), ∀ code ∈ codes, ¬IsSign (Char.ofNat code) := by
  decide +kernel

/-- Beyond ASCII no character is shifted to a sign. -/
theorem shifted_ne_sign (past : ∀ entry ∈ shifts, PastSigns entry) (holds : IsSign sign)
    (beyond : ¬isAscii c) : shifted shifts c ≠ sign := by
  intro same
  rw [shifted] at same
  split at same
  case h_2 => exact beyond (same ▸ holds.1)
  case h_1 run shift found =>
  obtain ⟨first, last, step⟩ := run
  have within := List.find?_some found
  simp only [Run.holds, Bool.and_eq_true, decide_eq_true_eq] at within
  rcases past _ (List.mem_of_find?_eq_some found) with far | ⟨single, letter⟩
  · have code := congrArg Char.toNat same
    have ascii : sign.toNat < 128 := of_decide_eq_true holds.1
    rw [Char.toNat_ofNat] at code
    split at code
    · dsimp only at far
      omega
    · exact holds.2.2 code.symm
  · dsimp only at single letter
    have here : c.toNat = first := by omega
    rw [here] at same
    exact holds.2.1 (same ▸ letter)

theorem mem_of_lookup {n : Nat} {codes : List Nat} (found : long.lookup n = some codes) :
    codes ∈ long.map (·.2) := by
  obtain ⟨before, after, split_at, _⟩ := List.lookup_eq_some_iff.mp found
  simp [split_at]

theorem sign_not_mem_converted (past : ∀ entry ∈ shifts, PastSigns entry)
    (apart : ∀ codes ∈ long.map (·.2), ∀ code ∈ codes, ¬IsSign (Char.ofNat code))
    (holds : IsSign sign) (beyond : ¬isAscii c) : sign ∉ converted long shifts c := by
  intro inside
  rw [converted] at inside
  split at inside
  · rename_i codes found
    obtain ⟨code, among, rfl⟩ := List.mem_map.mp inside
    exact apart codes (mem_of_lookup found) code among holds
  · exact shifted_ne_sign past holds beyond (List.mem_singleton.mp inside).symm

theorem eq_of_toLower_eq_sign (holds : IsSign sign) (same : c.toLower = sign) : c = sign := by
  by_cases capital : c.isUpper
  · have letter : sign.isLower := by
      rw [← same, Char.isLower_toLower_eq_isAlpha, Char.isAlpha, capital, Bool.true_or]
    exact absurd letter holds.not_isLower
  · exact (Char.toLower_eq_of_not_isUpper capital).symm.trans same

theorem eq_of_toUpper_eq_sign (holds : IsSign sign) (same : c.toUpper = sign) : c = sign := by
  by_cases small : c.isLower
  · have letter : sign.isUpper := by
      rw [← same, Char.isUpper_toUpper_eq_isAlpha, Char.isAlpha, small, Bool.or_true]
    exact absurd letter holds.not_isUpper
  · exact (Char.toUpper_eq_of_not_isLower small).symm.trans same

theorem eq_of_mem_small (holds : IsSign sign) (inside : sign ∈ small c) : c = sign := by
  rw [small] at inside
  split at inside
  · exact eq_of_toLower_eq_sign holds (List.mem_singleton.mp inside).symm
  · rename_i beyond
    exact absurd inside
      (sign_not_mem_converted pastSigns_smallShifts not_isSign_longSmalls holds beyond)

theorem eq_of_mem_capital (holds : IsSign sign) (inside : sign ∈ capital c) : c = sign := by
  rw [capital] at inside
  split at inside
  · exact eq_of_toUpper_eq_sign holds (List.mem_singleton.mp inside).symm
  · rename_i beyond
    exact absurd inside
      (sign_not_mem_converted pastSigns_capitalShifts not_isSign_longCapitals holds beyond)

theorem small_sign (holds : IsSign sign) : small sign = [sign] := by
  rw [small, if_pos holds.1, Char.toLower_eq_of_not_isUpper holds.not_isUpper]

theorem capital_sign (holds : IsSign sign) : capital sign = [sign] := by
  rw [capital, if_pos holds.1, Char.toUpper_eq_of_not_isLower holds.not_isLower]

theorem converted_ne_nil (filled : ∀ codes ∈ long.map (·.2), codes ≠ []) :
    converted long shifts c ≠ [] := by
  rw [converted]
  split
  · rename_i codes found
    exact fun none => filled codes (mem_of_lookup found) (List.map_eq_nil_iff.mp none)
  · exact List.cons_ne_nil _ _

theorem small_ne_nil (c : Char) : small c ≠ [] := by
  rw [small]
  split
  · exact List.cons_ne_nil _ _
  · exact converted_ne_nil (by decide)

theorem capital_ne_nil (c : Char) : capital c ≠ [] := by
  rw [capital]
  split
  · exact List.cons_ne_nil _ _
  · exact converted_ne_nil (by decide +kernel)

/-- A character that its small form begins with is small already. -/
theorem small_eq_of_head {rest : List Char} (starts : small c = c :: rest) : small c = [c] := by
  rw [small] at starts ⊢
  split at starts
  · rw [if_pos ‹_›, (List.cons.inj starts).1]
  rename_i beyond
  rw [if_neg beyond]
  rw [converted] at starts ⊢
  split at starts
  · rename_i codes found
    -- The one long form begins with an i, and so with a letter of ASCII.
    have form : codes = [105, 775] := by simpa [longSmalls] using mem_of_lookup found
    rw [form] at starts
    rw [← (List.cons.inj starts).1] at beyond
    exact absurd (by decide) beyond
  · rw [(List.cons.inj starts).1]

/-- A sign in a text that was made small was there before. -/
theorem mem_of_mem_lower (holds : IsSign sign) (inside : sign ∈ lower text) : sign ∈ text := by
  suffices anywhere : ∀ before, sign ∈ lowerAfter before text → sign ∈ text from anywhere [] inside
  clear inside
  induction text with
  | nil => exact fun _ inside => inside
  | cons c rest ih =>
    intro before inside
    rw [lowerAfter] at inside
    rcases List.mem_append.mp inside with here | later
    · have sigmas : ¬IsSign 'ς' ∧ ¬IsSign 'σ' := by decide
      split at here
      · split at here
        · exact absurd holds (List.mem_singleton.mp here ▸ sigmas.1)
        · exact absurd holds (List.mem_singleton.mp here ▸ sigmas.2)
      · exact eq_of_mem_small holds here ▸ List.mem_cons_self
    · exact .tail _ (ih _ later)

theorem lower_eq_nil_iff : lower text = [] ↔ text = [] := by
  cases text with
  | nil => exact iff_of_true rfl rfl
  | cons c rest =>
    refine iff_of_false (fun none => ?_) (List.cons_ne_nil _ _)
    rw [lower, lowerAfter] at none
    have here := (List.append_eq_nil_iff.mp none).1
    split at here
    · contradiction
    · exact small_ne_nil c here

end ObjectRole.Text

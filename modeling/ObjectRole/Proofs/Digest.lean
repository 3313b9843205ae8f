import ObjectRole.Digest
import Mathlib.Algebra.Group.Nat.Defs
import Mathlib.Data.List.Basic
import Mathlib.Logic.ExistsUnique

/-! What digests tell apart. A digest does not depend on how its bytes are cut into chunks. A byte
that is changed changes the state, and no byte behind it undoes the change, since each acts on
states without loss; the text of a digest tells its state. -/
namespace ObjectRole.Digest

variable {d e : Digest} {a b : UInt8}

/-! ### Chunks -/

theorem feed_append (d : Digest) (front back : List UInt8) :
    d.feed (front ++ back) = (d.feed front).feed back := List.foldl_append

/-- Chunks are fed one behind another. -/
theorem foldl_feed (d : Digest) (chunks : List (List UInt8)) :
    chunks.foldl feed d = d.feed chunks.flatten := by
  induction chunks generalizing d with
  | nil => rfl
  | cons chunk rest ih => rw [List.foldl_cons, ih, List.flatten_cons, feed_append]

/-! ### States -/

/-- What undoes the multiplication by the prime: the prime is odd, so it has an inverse modulo
2^64. -/
def inversePrime : UInt64 := 0xce965057aff6957b

theorem prime_mul_inversePrime : prime * inversePrime = 1 := by decide

theorem mul_prime_inj {x y : UInt64} : x * prime = y * prime ↔ x = y := by
  refine ⟨fun same => ?_, fun same => same ▸ rfl⟩
  have undone (x : UInt64) : x * prime * inversePrime = x := by
    rw [UInt64.mul_assoc, prime_mul_inversePrime, UInt64.mul_one]
  rw [← undone x, same, undone y]

/-- One byte leads different states to different ones. -/
theorem absorb_inj (byte : UInt8) : d.absorb byte = e.absorb byte ↔ d = e := by
  obtain ⟨x⟩ := d
  obtain ⟨y⟩ := e
  rw [absorb, absorb, mk.injEq, mul_prime_inj, UInt64.xor_left_inj, mk.injEq]

/-- Different bytes lead one state to different ones. -/
theorem absorb_byte_inj : d.absorb a = d.absorb b ↔ a = b := by
  rw [absorb, absorb, mk.injEq, mul_prime_inj, UInt64.xor_right_inj, UInt8.toUInt64_inj]

/-- Whatever is fed later, different states stay different. -/
theorem feed_inj (bytes : List UInt8) : d.feed bytes = e.feed bytes ↔ d = e := by
  induction bytes generalizing d e with
  | nil => exact .rfl
  | cons byte rest ih => exact ih.trans (absorb_inj byte)

/-- A change of one byte shows in the state at the end. -/
theorem feed_change (d : Digest) (front back : List UInt8) :
    d.feed (front ++ a :: back) = d.feed (front ++ b :: back) ↔ a = b := by
  rw [feed_append, feed_append]
  exact (feed_inj back).trans absorb_byte_inj

/-! ### Texts -/

theorem hexDigit_inj {m n : Nat} (same : hexDigit m = hexDigit n) : m % 16 = n % 16 := by
  have digits : ∀ i < 16, ∀ j < 16, Nat.digitChar i = Nat.digitChar j → i = j := by decide
  exact digits _ (Nat.mod_lt m (by decide)) _ (Nat.mod_lt n (by decide)) same

/-- So many digits tell a number as far as they go. -/
theorem hexDigits_inj {width m n : Nat} (same : hexDigits width m = hexDigits width n) :
    m % 16 ^ width = n % 16 ^ width := by
  induction width generalizing m n with
  | zero => rw [Nat.pow_zero, Nat.mod_one, Nat.mod_one]
  | succ width ih =>
    obtain ⟨front, last⟩ := List.append_inj' same rfl
    have low := hexDigit_inj (List.singleton_inj.mp last)
    rw [Nat.pow_succ', Nat.mod_mul, Nat.mod_mul, low, ih front]

theorem render_inj : d.render = e.render ↔ d = e := by
  refine ⟨fun same => ?_, fun same => same ▸ rfl⟩
  rw [render, render, String.append_right_inj, String.ofList_inj] at same
  have fits (d : Digest) : d.state.toNat < 16 ^ 16 := by
    have bound := d.state.toNat_lt
    omega
  have states := hexDigits_inj same
  rw [Nat.mod_eq_of_lt (fits d), Nat.mod_eq_of_lt (fits e), UInt64.toNat_inj] at states
  obtain ⟨x⟩ := d
  obtain ⟨y⟩ := e
  exact congrArg mk states

/-! ### Single changes -/

/-- Two strings of one length that differ in just one place are the same before and behind it. -/
theorem exists_change {left right : List UInt8} (length : left.length = right.length)
    (once : ∃! i : Nat, left[i]? ≠ right[i]?) : ∃ front a b back, a ≠ b ∧
      left = front ++ a :: back ∧ right = front ++ b :: back := by
  obtain ⟨i, differ, only⟩ := once
  have elsewhere : ∀ j, j ≠ i → left[j]? = right[j]? :=
    fun j other => not_not.mp fun also => other (only j also)
  have inside : i < left.length := by
    by_contra beyond
    have outside := Nat.not_lt.mp beyond
    exact differ (by rw [List.getElem?_eq_none outside, List.getElem?_eq_none (length ▸ outside)])
  have inside_right : i < right.length := length ▸ inside
  have before : left.take i = right.take i := by
    refine List.ext_getElem? fun j => ?_
    rw [List.getElem?_take, List.getElem?_take]
    split
    · exact elsewhere j (by omega)
    · rfl
  have behind : left.drop (i + 1) = right.drop (i + 1) := by
    refine List.ext_getElem? fun j => ?_
    rw [List.getElem?_drop, List.getElem?_drop]
    exact elsewhere _ (by omega)
  refine ⟨left.take i, left[i], right[i], left.drop (i + 1), fun same => ?_, ?_, ?_⟩
  · rw [List.getElem?_eq_getElem inside, List.getElem?_eq_getElem inside_right, same] at differ
    exact differ rfl
  · rw [List.getElem_cons_drop, List.take_append_drop]
  · rw [before, behind, List.getElem_cons_drop, List.take_append_drop]

/-- However a byte string is cut into chunks, feeding them ends in its digest, and any other string
of its length that differs from it in just one place has another digest. -/
theorem ofBytes_tells (bytes : List UInt8) :
    (∀ chunks : List (List UInt8), chunks.flatten = bytes →
      (chunks.foldl feed empty).render = (ofBytes bytes).render) ∧
    ∀ other : List UInt8, other.length = bytes.length → (∃! i : Nat, other[i]? ≠ bytes[i]?) →
      (ofBytes other).render ≠ (ofBytes bytes).render := by
  constructor
  · rintro chunks rfl
    rw [foldl_feed, ofBytes]
  · intro other length once same
    obtain ⟨front, a, b, back, distinct, rfl, rfl⟩ := exists_change length once
    exact distinct ((feed_change empty front back).mp (render_inj.mp same))

theorem ofBytes_tells_of_chunks :
    ([[80], [], [101, 114]] : List (List UInt8)).flatten = [80, 101, 114] ∧
      ([[80], [], [101, 114]].foldl feed empty).render = (ofBytes [80, 101, 114]).render ∧
      (∃! i : Nat, ([80, 97, 114] : List UInt8)[i]? ≠ ([80, 101, 114] : List UInt8)[i]?) ∧
      (ofBytes [80, 97, 114]).render ≠ (ofBytes [80, 101, 114]).render := by
  have once : ∃! i : Nat, ([80, 97, 114] : List UInt8)[i]? ≠ ([80, 101, 114] : List UInt8)[i]? := by
    refine ⟨1, by decide, fun i differ => ?_⟩
    match i with
    | 0 | 2 => exact absurd rfl differ
    | 1 => rfl
    | _ + 3 => exact absurd rfl differ
  obtain ⟨chunked, changed⟩ := ofBytes_tells [80, 101, 114]
  exact ⟨rfl, chunked _ rfl, once, changed _ rfl once⟩

end ObjectRole.Digest

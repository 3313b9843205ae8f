import ObjectRole.Json.Draft
import ObjectRole.Decimal.Reading

/-! Numbers as JSON writes them. The digits are gathered into a significand of 64 bits; digits
that no longer fit only move the point, and the power of ten is applied with one rounding. -/
namespace ObjectRole.Json

/-- The parts of a written number. Without a point the fraction is empty. -/
structure Numeral where
  negative : Bool
  whole : List Char
  fraction : List Char
  /-- Sign (true if negative) and digits of the exponent. -/
  exponent : Option (Bool × List Char)

namespace Numeral

/-- The greatest significand. -/
def significandLimit : Nat := UInt64.size - 1

/-- Appends digits to a significand until the next one does not fit; also the digits left. -/
def gather (significand : Nat) : List Char → Nat × List Char
  | [] => (significand, [])
  | c :: rest =>
    let next := 10 * significand + Decimal.digitValue c
    if next ≤ significandLimit then gather next rest else (significand, c :: rest)

/-- The significand and the power of ten it is to be scaled by, without the exponent part. -/
def significand (n : Numeral) : Nat × Int :=
  let (whole, dropped) := gather 0 n.whole
  let (all, ignored) := gather whole n.fraction
  (all, (dropped.length : Int) - (n.fraction.length - ignored.length : Nat))

/-- Scales by a power of ten. Powers beyond 308 are applied in steps, and `steps` of them bring
any significand to zero. No value if the result is not finite. -/
def scale (steps : Nat) (value : Float) (power : Int) : Option Float :=
  if power.natAbs ≤ 308 then
    let ten := Float.ofScientific 1 false power.natAbs
    if 0 ≤ power then
      let scaled := value * ten
      if scaled.isFinite then some scaled else none
    else some (value / ten)
  else if value == 0 then some value
  else if 0 ≤ power then none
  else
    match steps with
    | 0 => some value
    | steps + 1 => scale steps (value / 1e308) (power + 308)

private def double (negative : Bool) (value : Float) : Number :=
  .double (if negative then -value else value).toBits

private def scaled (n : Numeral) (significand : Nat) (power : Int) : Except Problem Number :=
  match scale 4 significand.toUInt64.toFloat power with
  | some value => .ok (double n.negative value)
  | none => .error .malformed

/-- An exponent of more than 31 bits empties the number or puts it out of range. -/
private def withExponent (n : Numeral) (negative : Bool) (digits : List Char) :
    Except Problem Number :=
  let (significand, power) := n.significand
  let exponent := Decimal.ofDigits digits
  if exponent < Nat.pow 2 31 then
    n.scaled significand (if negative then power - exponent else power + exponent)
  else if significand != 0 && !negative then .error .malformed
  else .ok (double n.negative 0)

/-- A number without point and exponent stays whole while it fits 64 bits. Minus zero does not. -/
private def withoutExponent (n : Numeral) : Except Problem Number :=
  let (significand, power) := n.significand
  if !n.fraction.isEmpty || power != 0 then n.scaled significand power
  else if !n.negative then .ok (.integer significand)
  else if significand == 0 || Nat.pow 2 63 < significand then n.scaled significand 0
  else .ok (.integer (-(significand : Int)))

def value (n : Numeral) : Except Problem Number :=
  match n.exponent with
  | some (negative, digits) => n.withExponent negative digits
  | none => n.withoutExponent

end Numeral

/-- What is wrong where a digit is missing. -/
private def missingDigit (rest : List Char) : Problem :=
  if rest.isEmpty then .truncated else .malformed

/-- At least one digit, and what follows them. -/
private def digits (text : List Char) : Except Problem (List Char × List Char) :=
  let found := text.takeWhile Char.isDigit
  if found.isEmpty then .error (missingDigit text) else .ok (found, text.dropWhile Char.isDigit)

/-- The whole part: a zero stands alone. -/
private def whole (text : List Char) : Except Problem (List Char × List Char) := do
  let (found, rest) ← digits text
  if found.head? == some '0' && found.length != 1 then .error .malformed else .ok (found, rest)

private def fraction : List Char → Except Problem (List Char × List Char)
  | '.' :: rest => digits rest
  | rest => .ok ([], rest)

private def exponent : List Char → Except Problem (Option (Bool × List Char) × List Char)
  | mark :: rest =>
    if mark == 'e' || mark == 'E' then do
      let (negative, rest) := Decimal.signed rest
      let (found, rest) ← digits rest
      return (some (negative, found), rest)
    else .ok (none, mark :: rest)
  | [] => .ok (none, [])

/-- Takes a number from the front of a text. -/
def numeral (text : List Char) : Except Problem (Numeral × List Char) := do
  let (negative, rest) :=
    match text with
    | '-' :: rest => (true, rest)
    | rest => (false, rest)
  let (whole, rest) ← whole rest
  let (fraction, rest) ← fraction rest
  let (exponent, rest) ← exponent rest
  return (⟨negative, whole, fraction, exponent⟩, rest)

end ObjectRole.Json

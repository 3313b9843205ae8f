import ObjectRole.Decimal.Shortest

/-! How a binary64 number is written: positional with a fraction from 1e-5 up to 1e16, else
scientific with a signed exponent. -/
namespace ObjectRole.Decimal

private def zeros (count : Nat) : List Char := List.replicate count '0'

/-- Digits with the decimal point behind `point` of them. -/
def layout (digits : List Char) (point : Int) : List Char :=
  let length : Int := digits.length
  if length ≤ point && point ≤ 16 then digits ++ zeros (point - length).toNat ++ ['.', '0']
  else if 0 < point && point ≤ 16 then
    digits.take point.toNat ++ '.' :: digits.drop point.toNat
  else if -5 < point && point ≤ 0 then '0' :: '.' :: zeros (-point).toNat ++ digits
  else
    let exponent := point - 1
    let mantissa :=
      match digits with
      | first :: second :: rest => first :: '.' :: second :: rest
      | digits => digits
    mantissa ++ 'e' :: (if exponent < 0 then '-' else '+') :: Nat.toDigits 10 exponent.natAbs

/-- The written form of a finite number. -/
def render (bits : UInt64) : String :=
  let magnitude := bits &&& 0x7fffffffffffffff
  let written :=
    if magnitude == 0 then ['0', '.', '0']
    else
      let (number, place) := shortest magnitude
      let digits := Nat.toDigits 10 number
      layout digits (digits.length + place)
  .ofList (if magnitude == bits then written else '-' :: written)

end ObjectRole.Decimal

/-! Reading decimal text: whole numbers of 64 bits, and binary64 numbers rounded once. -/
namespace ObjectRole.Decimal

def digitValue (c : Char) : Nat := c.toNat - '0'.toNat

def ofDigits (digits : List Char) : Nat := digits.foldl (fun n c => 10 * n + digitValue c) 0

/-- Splits an optional sign off; true means negative. -/
def signed : List Char → Bool × List Char
  | '-' :: rest => (true, rest)
  | '+' :: rest => (false, rest)
  | text => (false, text)

/-- A whole number of 64 signed bits. -/
def readInt64? (text : List Char) : Option Int :=
  let (negative, digits) := signed text
  if digits.isEmpty || !digits.all Char.isDigit then none
  else
    let magnitude : Int := ofDigits digits
    let value := if negative then -magnitude else magnitude
    if Int64.minValue.toInt ≤ value && value ≤ Int64.maxValue.toInt then some value else none

/-- An exponent part: a mark, an optional sign and digits, or nothing at all. -/
private def readExponent? : List Char → Option Int
  | [] => some 0
  | mark :: rest =>
    let (negative, digits) := signed rest
    if (mark == 'e' || mark == 'E') && !digits.isEmpty && digits.all Char.isDigit then
      some (if negative then -(ofDigits digits : Int) else ofDigits digits)
    else none

/-- The number `digits · 10 ^ exponent`; an exponent beyond what any number of that many digits
can carry is cut back before the power is taken. -/
private def nearest (digits : List Char) (exponent : Int) : Float :=
  let reach : Int := 400 + digits.length
  let exponent := max (-reach) (min reach exponent)
  Float.ofScientific (ofDigits digits) (exponent < 0) exponent.natAbs

/-- A finite binary64 number, as bits: an optional sign, digits with at most one point and at
least one digit, and an optional exponent. -/
def readDouble? (text : List Char) : Option UInt64 := do
  let (negative, unsigned) := signed text
  let whole := unsigned.takeWhile Char.isDigit
  let rest := unsigned.dropWhile Char.isDigit
  let (fraction, rest) :=
    match rest with
    | '.' :: rest => (rest.takeWhile Char.isDigit, rest.dropWhile Char.isDigit)
    | rest => ([], rest)
  guard !(whole.isEmpty && fraction.isEmpty)
  let exponent ← readExponent? rest
  let value := nearest (whole ++ fraction) (exponent - fraction.length)
  guard value.isFinite
  return (if negative then -value else value).toBits

end ObjectRole.Decimal

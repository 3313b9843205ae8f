/-! The shortest decimal of a binary64 number: the fewest digits that read back as the same
number, and of those the nearest to it. -/
namespace ObjectRole.Decimal

/-- A finite positive binary64 number with the open or closed interval of reals that round to it,
all four over one denominator. -/
structure Neighbourhood where
  value : Nat
  lower : Nat
  upper : Nat
  denominator : Nat
  /-- Whether the two ends round to the number as well. -/
  closed : Bool

/-- The neighbourhood of the number with the given exponent and fraction fields. Below a power of
two the gap to the next number is half as wide. -/
def Neighbourhood.ofFields (exponent fraction : Nat) : Neighbourhood :=
  let normal := exponent != 0
  let significand := if normal then fraction + Nat.pow 2 52 else fraction
  let scale : Int := (if normal then exponent else 1 : Nat) - 1077
  let unit := Nat.pow 2 scale.toNat
  let below := if fraction == 0 && 1 < exponent then 1 else 2
  { value := 4 * significand * unit
    lower := (4 * significand - below) * unit
    upper := (4 * significand + 2) * unit
    denominator := Nat.pow 2 (-scale).toNat
    closed := significand % 2 == 0 }

/-- The multiple of `10 ^ place` nearest to the number, among those that read back as it. -/
def Neighbourhood.onGrid? (n : Neighbourhood) (place : Int) : Option Nat :=
  let up := Nat.pow 10 place.toNat
  let down := Nat.pow 10 (-place).toNat
  let step := n.denominator * up
  let inside (multiple : Nat) : Bool :=
    if n.closed then n.lower * down ≤ multiple * step && multiple * step ≤ n.upper * down
    else n.lower * down < multiple * step && multiple * step < n.upper * down
  let floor := n.value * down / step
  let twice := 2 * (n.value * down)
  let middle := (2 * floor + 1) * step
  let nearest :=
    if twice < middle || twice == middle && floor % 2 == 0 then [floor, floor + 1]
    else [floor + 1, floor]
  nearest.find? inside

/-- The places tried, coarsest first. -/
def places : List Int := (List.range 634).map fun (n : Nat) => 309 - (n : Int)

/-- Digits and place of the shortest decimal of a finite positive number. -/
def shortest (bits : UInt64) : Nat × Int :=
  let n := Neighbourhood.ofFields (bits.toNat / Nat.pow 2 52 % 2048) (bits.toNat % Nat.pow 2 52)
  (places.findSome? fun place => (n.onGrid? place).map (·, place)).getD (0, 0)

end ObjectRole.Decimal

/-! Sets of code points as evenly spaced runs. -/
namespace ObjectRole.Text

/-- The code points `first`, `first + step`, and so on up to `last`. -/
abbrev Run := Nat × Nat × Nat

def Run.holds : Run → Nat → Bool
  | (first, last, step), n => first ≤ n && n ≤ last && (n - first) % step == 0

def inRuns (runs : List Run) (c : Char) : Bool :=
  runs.any (·.holds c.toNat)

def isAscii (c : Char) : Bool := c.toNat < 128

end ObjectRole.Text

import ObjectRole.Json
import ObjectRole.Text.Split

/-! Looking up a part of a JSON value by a pointer such as `/paths/~1people/get`. -/
namespace ObjectRole.Json

/-- In a step `~1` stands for a slash and `~0` for a tilde. -/
private def unescape : List Char → List Char
  | '~' :: '1' :: rest => '/' :: unescape rest
  | '~' :: '0' :: rest => '~' :: unescape rest
  | c :: rest => c :: unescape rest
  | [] => []

/-- A place in an array: digits without a leading zero. -/
private def place? (step : List Char) : Option Nat :=
  if step.isEmpty || !step.all Char.isDigit || step.head? == some '0' && step != ['0'] then none
  else (String.ofList step).toNat?

private def descend? (value : Json) (step : List Char) : Option Json :=
  match value with
  | object fields => fields.lookup (String.ofList step)
  | array items => (place? step).bind (items[·]?)
  | _ => none

/-- The value a pointer leads to; the empty pointer leads to the whole. -/
def at? (value : Json) (pointer : String) : Option Json :=
  match pointer.toList with
  | [] => some value
  | '/' :: steps => ((Text.splitWhen (· == '/') steps).map unescape).foldlM descend? value
  | _ => none

end ObjectRole.Json

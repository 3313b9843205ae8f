import ObjectRole.Json
import ObjectRole.Decimal.Layout

/-! The two written forms of a JSON value, compact and indented by two blanks. -/
namespace ObjectRole.Json

private def escapedControl (n : Nat) : String :=
  "\\u00" ++ String.ofList [Nat.digitChar (n / 16), Nat.digitChar (n % 16)]

/-- Only quotes, backslashes and control characters are escaped. -/
private def escaped (c : Char) : String :=
  match c.toNat with
  | 0x22 => "\\\""
  | 0x5c => "\\\\"
  | 0x08 => "\\b"
  | 0x0c => "\\f"
  | 0x0a => "\\n"
  | 0x0d => "\\r"
  | 0x09 => "\\t"
  | n => if n < 0x20 then escapedControl n else c.toString

def quote (text : String) : String :=
  text.toList.foldl (fun out c => out ++ escaped c) "\"" ++ "\""

private def braces (inside : String) : String := "\x7b" ++ inside ++ "\x7d"

def scalar : Number → String
  | .integer value => toString value
  | .double bits => Decimal.render bits

mutual

def compact : Json → String
  | null => "null"
  | bool value => if value then "true" else "false"
  | number value => scalar value
  | string value => quote value
  | array items => "[" ++ ",".intercalate (compactItems items) ++ "]"
  | object fields => braces (",".intercalate (compactFields fields))

def compactItems : List Json → List String
  | [] => []
  | item :: rest => compact item :: compactItems rest

def compactFields : List (String × Json) → List String
  | [] => []
  | (key, value) :: rest => (quote key ++ ":" ++ compact value) :: compactFields rest

end

private def margin (depth : Nat) : String := String.ofList (List.replicate (2 * depth) ' ')

/-- Pieces on lines of their own, one step deeper than the line that opens them. -/
private def lines (depth : Nat) (pieces : List String) : String :=
  let inner := "\n" ++ margin (depth + 1)
  inner ++ ("," ++ inner).intercalate pieces ++ "\n" ++ margin depth

mutual

def indented (depth : Nat) : Json → String
  | array [] => "[]"
  | object [] => braces ""
  | array (item :: rest) => "[" ++ lines depth (indentedItems (depth + 1) (item :: rest)) ++ "]"
  | object (field :: rest) => braces (lines depth (indentedFields (depth + 1) (field :: rest)))
  | null => "null"
  | bool value => if value then "true" else "false"
  | number value => scalar value
  | string value => quote value

def indentedItems (depth : Nat) : List Json → List String
  | [] => []
  | item :: rest => indented depth item :: indentedItems depth rest

def indentedFields (depth : Nat) : List (String × Json) → List String
  | [] => []
  | (key, value) :: rest =>
    (quote key ++ ": " ++ indented depth value) :: indentedFields depth rest

end

def pretty (value : Json) : String := indented 0 value

end ObjectRole.Json

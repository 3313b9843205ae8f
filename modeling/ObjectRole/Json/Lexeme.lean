import ObjectRole.Json.Numeral

/-! The lexemes of a JSON text: brackets, commas and colons, and the values that hold no others.
The list ends with the text or with a value that breaks off. -/
namespace ObjectRole.Json

inductive Lexeme where
  /-- One of the six characters that structure a text. -/
  | mark (c : Char)
  | leaf (value : Draft)
  /-- A value that breaks off; nothing follows it. -/
  | cut (value : Draft)
deriving Inhabited

/-- What quotes enclose: a character, or a 16-bit unit written in hexadecimal. -/
inductive Piece where
  | char (c : Char)
  | unit (n : Nat)

private def escape? : Char → Option Char
  | '"' => some '"'
  | '\\' => some '\\'
  | '/' => some '/'
  | 'b' => some '\x08'
  | 'f' => some '\x0c'
  | 'n' => some '\n'
  | 'r' => some '\r'
  | 't' => some '\t'
  | _ => none

private def hexValue? (c : Char) : Option Nat :=
  if c.isDigit then some (c.toNat - 48)
  else if 'a' ≤ c && c ≤ 'f' then some (c.toNat - 87)
  else if 'A' ≤ c && c ≤ 'F' then some (c.toNat - 55)
  else none

private def hexUnit? (digits : List Char) : Option Nat :=
  digits.foldlM (fun n c => (hexValue? c).map (16 * n + ·)) 0

/-- The pieces up to the closing quote, latest first, and the text behind it or the problem that
comes before it. Four bytes must follow the mark of a hexadecimal unit. -/
private def quoted (pieces : List Piece) : List Char → List Piece × Except Problem (List Char)
  | [] => (pieces, .error .truncated)
  | '"' :: rest => (pieces, .ok rest)
  | '\\' :: 'u' :: a :: b :: c :: d :: rest =>
    match hexUnit? [a, b, c, d] with
    | some n => quoted (.unit n :: pieces) rest
    | none => (pieces, .error .malformed)
  | '\\' :: 'u' :: rest =>
    let bytes := (rest.map (·.utf8Size)).sum
    (pieces, .error (if bytes < 4 then .truncated else .malformed))
  | '\\' :: c :: rest =>
    match escape? c with
    | some c => quoted (.char c :: pieces) rest
    | none => (pieces, .error .malformed)
  | ['\\'] => (pieces, .error .truncated)
  | c :: rest =>
    if c.toNat < 0x20 then (pieces, .error .malformed) else quoted (.char c :: pieces) rest

private def isHigh (n : Nat) : Bool := 0xd800 ≤ n && n < 0xdc00

private def isLow (n : Nat) : Bool := 0xdc00 ≤ n && n < 0xe000

/-- Joins pairs of units and refuses single halves. A high half at the end of the pieces meets
the problem that ended them. -/
private def joinPieces (ending : Option Problem) (text : List Char) :
    List Piece → Except Problem (List Char)
  | [] =>
    match ending with
    | some problem => .error problem
    | none => .ok text.reverse
  | .char c :: rest => joinPieces ending (c :: text) rest
  | .unit n :: rest =>
    if isHigh n then
      match rest with
      | .unit m :: rest =>
        if isLow m then
          let code := 0x10000 + (n - 0xd800) * 0x400 + (m - 0xdc00)
          joinPieces ending (Char.ofNat code :: text) rest
        else .error .malformed
      | .char _ :: _ => .error .malformed
      | [] => .error (ending.getD .malformed)
    else if isLow n then .error .malformed
    else joinPieces ending (Char.ofNat n :: text) rest

/-- The string whose opening quote has been taken, and the text behind it. -/
private def stringLeaf (text : List Char) : Draft × Option (List Char) :=
  let (pieces, behind) := quoted [] text
  match behind with
  | .ok rest => (.string ((joinPieces none [] pieces.reverse).map String.ofList) none, some rest)
  | .error problem =>
    (.string ((joinPieces (some problem) [] pieces.reverse).map String.ofList) (some problem), none)

private def numberLeaf (text : List Char) : Draft × Option (List Char) :=
  match numeral text with
  | .ok (n, rest) => (.number n.value none, some rest)
  | .error problem => (.number (.error problem) (some .malformed), none)

/-- A literal whose first letter decides which one it is. -/
private def wordLeaf (value : Draft) (isNull : Bool) (letters : List Char) (text : List Char) :
    Draft × Option (List Char) :=
  match letters, text with
  | [], rest => (value, some rest)
  | _ :: _, [] => (.cutWord isNull .truncated, none)
  | letter :: letters, c :: rest =>
    if letter == c then wordLeaf value isNull letters rest else (.cutWord isNull .malformed, none)
termination_by structural letters

private def leaf (c : Char) (rest : List Char) : Draft × Option (List Char) :=
  match c with
  | '"' => stringLeaf rest
  | 'n' => wordLeaf .null true ['u', 'l', 'l'] rest
  | 't' => wordLeaf (.bool true) false ['r', 'u', 'e'] rest
  | 'f' => wordLeaf (.bool false) false ['a', 'l', 's', 'e'] rest
  | c => if c == '-' || c.isDigit then numberLeaf (c :: rest) else (.broken .malformed, none)

private def isMark (c : Char) : Bool := "[]\x7b\x7d,:".toList.contains c

def isSpace (c : Char) : Bool := c == ' ' || c == '\n' || c == '\t' || c == '\r'

/-- Every lexeme takes a character at least, so as many steps as there are characters do. -/
private def lexemes (steps : Nat) (found : List Lexeme) (text : List Char) : List Lexeme :=
  match steps, text with
  | _, [] | 0, _ => found.reverse
  | steps + 1, c :: rest =>
    if isSpace c then lexemes steps found rest
    else if isMark c then lexemes steps (.mark c :: found) rest
    else
      match leaf c rest with
      | (value, some rest) => lexemes steps (.leaf value :: found) rest
      | (value, none) => (.cut value :: found).reverse

def Lexeme.ofText (text : String) : List Lexeme :=
  let letters := text.toList
  lexemes letters.length [] letters

end ObjectRole.Json

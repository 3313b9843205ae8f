import ObjectRole.Json
import ObjectRole.Dict.Entries

/-! A text read as far as it is JSON. What breaks off stays in the tree at the place where it
breaks, so that a decoder that walks the tree in order meets the problems in the order of the
text. Values that nobody asks for are held to a weaker standard than values that are read. -/
namespace ObjectRole.Json

inductive Problem where
  /-- The text is not JSON. -/
  | malformed
  /-- The text ends too early. -/
  | truncated
  /-- A value of another kind was asked for. -/
  | mismatch
deriving DecidableEq, Repr, Inhabited

def Problem.describe : Problem → String
  | malformed => "the text is not JSON"
  | truncated => "the text ends too early"
  | mismatch => "a value of another kind is expected"

inductive Draft where
  /-- No value begins here. -/
  | broken (problem : Problem)
  /-- A literal that breaks off inside; `isNull` if it begins like `null`. -/
  | cutWord (isNull : Bool) (problem : Problem)
  | null
  | bool (value : Bool)
  /-- A number or why it cannot be read, and the problem even for a reader that skips it. -/
  | number (value : Except Problem Number) (skipped : Option Problem)
  | string (value : Except Problem String) (skipped : Option Problem)
  /-- `deep` marks a container nested deeper than a reader accepts; `ending` is the problem at
  the place of a comma or of the closing bracket. -/
  | array (deep : Bool) (items : List Draft) (ending : Option Problem)
  | object (deep : Bool) (members : List (Draft × Draft)) (ending : Option Problem)
deriving Inhabited

namespace Draft

/-- The problem of a value that is not of the kind asked for: what is wrong with the text comes
first, but a container is not looked into. -/
def mismatch : Draft → Problem
  | broken problem | cutWord _ problem => problem
  | number (.error problem) _ | string (.error problem) _ => problem
  | _ => .mismatch

/-- The text of a member's key. -/
def key : Draft → Except Problem String
  | string value _ => value
  | broken problem => .error problem
  | _ => .error .malformed

def skipKey : Draft → Option Problem
  | string _ skipped => skipped
  | broken problem => some problem
  | _ => some .malformed

mutual

/-- The first problem that a reader meets who only looks for the end of the value. -/
def skip : Draft → Option Problem
  | broken problem | cutWord _ problem => some problem
  | null | bool _ => none
  | number _ skipped | string _ skipped => skipped
  | array _ items ending => (skipItems items).or ending
  | object _ members ending => (skipMembers members).or ending

def skipItems : List Draft → Option Problem
  | [] => none
  | item :: rest => (skip item).or (skipItems rest)

def skipMembers : List (Draft × Draft) → Option Problem
  | [] => none
  | (key, value) :: rest => ((skipKey key).or (skip value)).or (skipMembers rest)

end

def ended : Option Problem → Except Problem Unit
  | some problem => .error problem
  | none => .ok ()

mutual

/-- The whole value in free form: keys in order, the last value of a repeated key. -/
def read : Draft → Except Problem Json
  | broken problem | cutWord _ problem => .error problem
  | null => .ok .null
  | bool value => .ok (.bool value)
  | number value _ => value.map .number
  | string value _ => value.map .string
  | array true _ _ | object true _ _ => .error .malformed
  | array false items ending => do
    let values ← readItems items
    ended ending
    return .array values
  | object false members ending => do
    let fields ← readMembers members
    ended ending
    return .object (Entries.ofList fields)

def readItems : List Draft → Except Problem (List Json)
  | [] => .ok []
  | item :: rest => do
    let value ← read item
    let values ← readItems rest
    return value :: values

def readMembers : List (Draft × Draft) → Except Problem (List (String × Json))
  | [] => .ok []
  | (key, value) :: rest => do
    let name ← key.key
    let value ← read value
    let fields ← readMembers rest
    return (name, value) :: fields

end

mutual

/-- The tree of a value that is already there, in which nothing is broken. -/
def ofJson : Json → Draft
  | .null => null
  | .bool value => bool value
  | .number value => number (.ok value) none
  | .string value => string (.ok value) none
  | .array items => array false (ofItems items) none
  | .object fields => object false (ofFields fields) none

def ofItems : List Json → List Draft
  | [] => []
  | item :: rest => ofJson item :: ofItems rest

def ofFields : List (String × Json) → List (Draft × Draft)
  | [] => []
  | (key, value) :: rest => (string (.ok key) none, ofJson value) :: ofFields rest

end
end Draft
end ObjectRole.Json

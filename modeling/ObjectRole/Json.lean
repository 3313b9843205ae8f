/-! JSON values. A number keeps the form it was written in: a whole number of 64 bits, or a
binary64 number. Objects of free form list their fields in key order. -/
namespace ObjectRole

inductive Number where
  | integer (value : Int)
  /-- A binary64 number by its bits. -/
  | double (bits : UInt64)
deriving DecidableEq, Repr, Inhabited

namespace Number

def isZero (bits : UInt64) : Bool := bits &&& 0x7fffffffffffffff == 0

/-- Equality of values: the two zeros agree, a whole number and a binary64 one never do. -/
def same : Number → Number → Bool
  | integer a, integer b => a == b
  | double a, double b => a == b || isZero a && isZero b
  | _, _ => false

end Number

inductive Json where
  | null
  | bool (value : Bool)
  | number (value : Number)
  | string (value : String)
  | array (items : List Json)
  | object (fields : List (String × Json))
deriving Inhabited

namespace Json

mutual

def same : Json → Json → Bool
  | null, null => true
  | bool a, bool b => a == b
  | number a, number b => a.same b
  | string a, string b => a == b
  | array a, array b => sameItems a b
  | object a, object b => sameFields a b
  | _, _ => false

def sameItems : List Json → List Json → Bool
  | [], [] => true
  | a :: as, b :: bs => same a b && sameItems as bs
  | _, _ => false

def sameFields : List (String × Json) → List (String × Json) → Bool
  | [], [] => true
  | (k, a) :: as, (l, b) :: bs => k == l && same a b && sameFields as bs
  | _, _ => false

end

def isNull : Json → Bool
  | null => true
  | _ => false

def field? (key : String) : Json → Option Json
  | object fields => fields.lookup key
  | _ => none

def integer (value : Int) : Json := number (.integer value)

def ofNat (value : Nat) : Json := integer value

/-- The object of the fields that are there, in the order given. -/
def record (fields : List (String × Option Json)) : Json :=
  object (fields.filterMap fun field => field.2.map (field.1, ·))

/-- `null` stands for no value. -/
def nullable (encode : α → Json) : Option α → Json
  | some value => encode value
  | none => null

def strings (values : List String) : Json := array (values.map string)

end Json
end ObjectRole

/-! FNV-1a digests: a 64-bit state absorbs bytes one at a time and is shown as 16 hexadecimal
digits. They tell inputs and outputs apart across runs and protect nothing. -/
namespace ObjectRole

structure Digest where
  state : UInt64
deriving DecidableEq, Repr, Inhabited

namespace Digest

/-- The digest before any byte. -/
def empty : Digest := ⟨0xcbf29ce484222325⟩

def prime : UInt64 := 0x100000001b3

def absorb (d : Digest) (byte : UInt8) : Digest := ⟨(d.state ^^^ byte.toUInt64) * prime⟩

def feed (d : Digest) (bytes : List UInt8) : Digest := bytes.foldl absorb d

def ofBytes (bytes : List UInt8) : Digest := empty.feed bytes

def ofText (text : String) : Digest := ofBytes text.toUTF8.toList

def hexDigit (n : Nat) : Char := Nat.digitChar (n % 16)

/-- The last `width` hexadecimal digits of a number, leading zeros kept. -/
def hexDigits : Nat → Nat → List Char
  | 0, _ => []
  | width + 1, n => hexDigits width (n / 16) ++ [hexDigit n]

def render (d : Digest) : String := "fnv1a64:" ++ String.ofList (hexDigits 16 d.state.toNat)

end Digest
end ObjectRole

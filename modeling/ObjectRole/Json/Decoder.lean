import ObjectRole.Dict
import ObjectRole.Json.Scan

/-! Decoders for single values. A decoder walks the tree in the order of the text, so its problem
is the first that a reader of the text meets. -/
namespace ObjectRole.Json

abbrev Decoder (α : Type) := Draft → Except Problem α

namespace Decoder

variable {α β : Type}

def string : Decoder String
  | .string value _ => value
  | draft => .error draft.mismatch

def bool : Decoder Bool
  | .bool value => .ok value
  | draft => .error draft.mismatch

def number : Decoder Number
  | .number value _ => value
  | draft => .error draft.mismatch

/-- A number written as a whole one; no other is a whole number here. -/
def integer : Decoder Int
  | .number (.ok (.integer value)) _ => .ok value
  | draft => .error draft.mismatch

def uint64 (draft : Draft) : Except Problem UInt64 := do
  let value ← integer draft
  if 0 ≤ value && value.toNat < UInt64.size then .ok (UInt64.ofNat value.toNat)
  else .error .mismatch

def uint32 (draft : Draft) : Except Problem UInt32 := do
  let value ← integer draft
  if 0 ≤ value && value.toNat < UInt32.size then .ok (UInt32.ofNat value.toNat)
  else .error .mismatch

def int64 (draft : Draft) : Except Problem Int64 := do
  let value ← integer draft
  if Int64.minValue.toInt ≤ value && value ≤ Int64.maxValue.toInt then .ok (Int64.ofInt value)
  else .error .mismatch

/-- A value of any kind, taken as it is. -/
def free : Decoder Json := Draft.read

def array (item : Decoder α) : Decoder (List α)
  | .array true _ _ => .error .malformed
  | .array false items ending => do
    let values ← items.mapM item
    match ending with
    | some problem => .error problem
    | none => .ok values
  | draft => .error draft.mismatch

/-- The members of an object by name, the last of a repeated name. -/
def dict (value : Decoder α) : Decoder (Dict α)
  | .object true _ _ => .error .malformed
  | .object false members ending => do
    let entries ← members.mapM fun (key, draft) => do
      let name ← key.key
      let value ← value draft
      return (name, value)
    match ending with
    | some problem => .error problem
    | none => .ok (.ofList entries)
  | draft => .error draft.mismatch

/-- A value that may be written as `null`. -/
def nullable (value : Decoder α) : Decoder (Option α)
  | .null => .ok none
  | .cutWord true problem => .error problem
  | draft => some <$> value draft

def unit : Decoder Unit
  | .null => .ok ()
  | draft => .error draft.mismatch

/-- One of a list of spellings, alone or as the only key of an object whose value is `null`. -/
def choice (spellings : List (String × α)) : Decoder α
  | .string spelling _ => do
    let name ← spelling
    spelled name
  | .object true _ _ => .error .malformed
  | .object false members ending =>
    match members with
    | [] => .error (ending.getD .malformed)
    | (key, value) :: more => do
      let name ← string key
      let found ← spelled name
      unit value
      if !more.isEmpty then .error .malformed
      else
        match ending with
        | some problem => .error problem
        | none => .ok found
  | .broken problem => .error problem
  | _ => .error .malformed
where
  spelled (name : String) : Except Problem α :=
    match spellings.lookup name with
    | some value => .ok value
    | none => .error .mismatch

/-- A value whose text is read in full before it is looked at, so that all that can be wrong with
it afterwards is its kind. -/
def whole (value : Decoder α) : Decoder α := fun draft => do
  let _ ← draft.read
  match value draft with
  | .ok result => .ok result
  | .error _ => .error .mismatch

/-- The first of two forms that fits. -/
def either (first second : Decoder α) : Decoder α := fun draft =>
  match first draft with
  | .ok result => .ok result
  | .error _ => second draft

end Decoder

/-- Decodes a text that holds one value. -/
def decodeText (value : Decoder α) (text : String) : Except Problem α := do
  let (draft, trailing) := Draft.ofText text
  let result ← value draft
  match trailing with
  | some problem => .error problem
  | none => .ok result

/-- Decodes a value that has already been read, where only its kind can be wrong. -/
def decode (value : Decoder α) (json : Json) : Except Problem α :=
  match value (.ofJson json) with
  | .ok result => .ok result
  | .error _ => .error .mismatch

end ObjectRole.Json

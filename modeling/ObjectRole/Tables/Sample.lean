import ObjectRole.Decimal.Reading
import ObjectRole.Json
import ObjectRole.Text.Split

/-! Example values that are written as text, read as the type of their property. -/
namespace ObjectRole.Json

def ofSample (type : String) (text : List Char) : Option Json :=
  match type with
  | "integer" => (Decimal.readInt64? text).map integer
  | "number" => (Decimal.readDouble? text).map fun bits => number (.double bits)
  | "boolean" => some (bool (text == "true".toList))
  | _ => none

/-- Text that does not read as the type stays as it is, as every other value does. -/
def asType (value : Json) (type : Option String) : Json :=
  match value, type with
  | string text, some type => (ofSample type (Text.trim text.toList)).getD value
  | _, _ => value

end ObjectRole.Json

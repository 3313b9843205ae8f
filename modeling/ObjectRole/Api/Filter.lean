import ObjectRole.Api.Tiers

/-! Filters of list operations: one object of operators for each property, and the combination of
filters by `and` and `or`. -/
namespace ObjectRole.Schema

def rangeOperators : List (String × String) := [
  ("greater_than", "must be greater than"),
  ("greater_than_equal", "must be greater than or equal"),
  ("less_than", "must be less than"),
  ("less_than_equal", "must be less than or equal")]

/-- Only numbers and dates have an order to filter by. -/
def supportsRanges (property : Schema) : Bool :=
  property.type == some "number" || property.type == some "integer" ||
    property.format == some "date" || property.format == some "date-time"

/-- The operators on one property. -/
def filterOperators (name : String) (property : Schema) : Schema :=
  let label := property.title.getD name
  let typedAs (description : String) : Schema :=
    { type := property.type, description := some description }
  let text (description : String) : Schema := (typed "string").describedAs description
  let ranges :=
    if supportsRanges property then
      rangeOperators.map fun (operator, phrase) => (operator, typedAs s!"The {label} {phrase}.")
    else []
  let operators := [
    ("equals", typedAs s!"The {label} must be exactly equal."),
    ("not_equals", typedAs s!"Matches every record where the {label} is not equal."),
    ("like", text "Case-insensitive; every word must be present, in any order."),
    ("contains", text s!"Must contain the {label} entered, case-insensitive."),
    ("in", text s!"The {label} must be one of the comma-delimited values."),
    ("not_in", text s!"The {label} must not be one of the comma-delimited values."),
    ("all", text s!"The {label} must contain every comma-delimited value."),
    ("exists", (typed "boolean").describedAs s!"Whether the {label} exists.")] ++ ranges
  { typed "object" with properties := some (Entries.ofList operators) }

/-- The filter for the properties of a resource. A property named as a combination hides it. -/
def filter (key : String) (update : Schema) : Schema :=
  let combination := arrayOf (component (whereKey key))
  let operators := update.fields.map fun (name, property) => (name, filterOperators name property)
  { typed "object" with
    properties := some (Entries.ofList (("and", combination) :: ("or", combination) :: operators)) }

end ObjectRole.Schema

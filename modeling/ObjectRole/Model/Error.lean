import ObjectRole.Json.Draft

/-! Why a model document cannot be resolved. -/
namespace ObjectRole

/-- Where a document mentions a name. -/
inductive Mention where
  | noun (name : String)
  | factType (title : String)
  | reading (text : String)
  | constraint
  | sample
  | jsonSample
deriving DecidableEq, Repr, Inhabited

def Mention.describe : Mention → String
  | noun name => s!"noun `{name}`"
  | factType title => s!"fact type `{title}`"
  | reading text => s!"reading `{text}`"
  | constraint => "constraint"
  | sample => "example"
  | jsonSample => "JSON example"

inductive ModelError where
  | duplicateNoun (name : String)
  | duplicateFactType (title : String)
  | unknownNoun (name : String) (mention : Mention)
  | unknownFactType (name : String) (mention : Mention)
  | unknownRole (factType selector : String)
  | readingOutOfScope (factType reading noun : String)
  | relationshipArity (factType relationship : String) (arity : Nat)
  | exampleArity (factType : String) (got arity : Nat)
  | emptySpan (index : Nat)
  | superTypeCycle (names : List String)
  | identificationCycle (names : List String)
  | inheritedIdentificationCycle (names : List String)
  | unreadable (reason : String)
  | malformed (problem : Json.Problem)
deriving DecidableEq, Repr, Inhabited

def ModelError.arrows (names : List String) : String := " -> ".intercalate names

def ModelError.message : ModelError → String
  | duplicateNoun name => s!"duplicate noun name `{name}`"
  | duplicateFactType title => s!"duplicate fact type `{title}`"
  | unknownNoun name mention => s!"unknown noun `{name}` referenced by {mention.describe}"
  | unknownFactType name mention => s!"unknown fact type `{name}` referenced by {mention.describe}"
  | unknownRole factType selector => s!"fact type `{factType}` has no role `{selector}`"
  | readingOutOfScope factType reading noun =>
    s!"reading `{reading}` of fact type `{factType}` mentions `{noun}`, which plays no role in it"
  | relationshipArity factType relationship arity =>
    s!"fact type `{factType}` declares relationship `{relationship}` but has {arity} roles " ++
      "(expected 2)"
  | exampleArity factType got arity =>
    s!"example for fact type `{factType}` has {got} values for {arity} roles"
  | emptySpan index => s!"constraint #{index} spans no roles"
  | superTypeCycle names => "supertype cycle through " ++ arrows names
  | identificationCycle names => "identification cycle through " ++ arrows names
  | inheritedIdentificationCycle names =>
    "identification through supertypes cycles through " ++ arrows names
  | unreadable reason => "failed to read model: " ++ reason
  | malformed problem => "malformed model document: " ++ problem.describe

end ObjectRole

import ObjectRole.Model.Error

/-! Why a model cannot be compiled. A compilation yields a complete document or one of these. -/
namespace ObjectRole

inductive CompileError where
  | model (error : ModelError)
  | missingReading (factType : String)
  | subjectNotInReading (factType subject predicate : String)
  | objectNotInReading (factType object predicate : String)
  | emptyPredicate (factType predicate : String)
  | unclassified (factType reason : String)
  | schemaKeyCollision (key first second : String)
  | pathCollision (path first second : String)
  | inheritanceCycle (key : String)
  | danglingReference (reference location : String)
  /-- A subject is identified through itself; an acyclic snapshot has none. -/
  | endlessIdentification (subject : String)
deriving DecidableEq, Repr, Inhabited

def CompileError.message : CompileError → String
  | model error => error.message
  | missingReading factType => s!"fact type `{factType}` has no reading"
  | subjectNotInReading factType subject predicate =>
    s!"subject `{subject}` not found in predicate `{predicate}` of fact type `{factType}`"
  | objectNotInReading factType object predicate =>
    s!"object `{object}` not found in predicate `{predicate}` of fact type `{factType}`"
  | emptyPredicate factType predicate =>
    s!"reading `{predicate}` of fact type `{factType}` names no property after its subject"
  | unclassified factType reason => s!"fact type `{factType}` matches no shape: {reason}"
  | schemaKeyCollision key first second =>
    s!"schema key `{key}` is claimed by both `{first}` and `{second}`"
  | pathCollision path first second =>
    s!"path `{path}` is claimed by both `{first}` and `{second}`"
  | inheritanceCycle key => s!"allOf chain of `{key}` does not terminate"
  | danglingReference reference location =>
    s!"`{reference}` in {location} does not resolve to a component schema"
  | endlessIdentification subject => s!"identification of `{subject}` does not terminate"

end ObjectRole

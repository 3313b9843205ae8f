import ObjectRole.CompileError
import ObjectRole.Model.Snapshot

/-! The shape of a fact type, decided by its number of roles and the uniqueness constraints on
them:

| roles | uniqueness                                         | shape        |
|-------|----------------------------------------------------|--------------|
| 1     | any                                                | unary        |
| 2     | of one role                                        | functional   |
| 2     | of both roles, and the fact type plays no role     | array-valued |
| 2     | of both roles, and the fact type plays a role      | association  |
| ≥ 3   | of several roles of the fact type                  | association  |
| ≥ 2   | none of these                                      | independent  |

A fact type without roles, and one of three or more of which a single role is unique, has none. -/
namespace ObjectRole

inductive Shape where
  /-- A yes-or-no property of the only player. -/
  | unary (role : RoleId)
  /-- A property of the player of the unique role. -/
  | functional (owner value : RoleId)
  /-- An array property of the first player. -/
  | arrayValued (owner item : RoleId)
  /-- A resource of its own, identified by the span. -/
  | association (span : List RoleId)
  /-- No property at all. -/
  | independent
deriving DecidableEq, Repr, Inhabited

namespace Shape

def label : Shape → String
  | unary _ => "unary"
  | functional _ _ => "functional"
  | arrayValued _ _ => "array-valued"
  | association _ => "association"
  | independent => "independent"

end Shape

namespace Snapshot

variable (s : Snapshot)

/-- Whether the role is unique on its own. -/
def isUnique (role : RoleId) : Bool :=
  (s.spansOfKind .uniqueness role).any (·.roles.length == 1)

/-- The first uniqueness constraint of several roles that are all of the fact type. -/
def compoundSpan (f : FactType) : Option (List RoleId) :=
  f.roles.findSome? fun role =>
    ((s.spansOfKind .uniqueness role).find? fun span =>
      1 < span.roles.length && span.roles.all f.roles.contains).map (·.roles)

def binaryShape (id : FactTypeId) (first second : RoleId) : Shape :=
  if s.isUnique first then .functional first second
  else if s.isUnique second then .functional second first
  else
    match s.compoundSpan (s.factType id) with
    | some span =>
      if span.length = 2 && !s.isObjectified id then .arrayValued first second
      else .association span
    | none => .independent

/-- The shape of a fact type. -/
def shapeOf (id : FactTypeId) : Except CompileError Shape :=
  let f := s.factType id
  match f.roles with
  | [] => .error (.unclassified f.title "it has no roles")
  | [role] => .ok (.unary role)
  | [first, second] => .ok (s.binaryShape id first second)
  | roles =>
    if roles.any s.isUnique then
      .error (.unclassified f.title "a single-role uniqueness constraint cannot own an n-ary fact")
    else
      match s.compoundSpan f with
      | some span => .ok (.association span)
      | none => .ok .independent

end Snapshot
end ObjectRole

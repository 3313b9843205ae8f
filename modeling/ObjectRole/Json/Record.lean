import ObjectRole.Json.Decoder

/-! Decoders for values with named fields. Fields are stated in their order; the text may give
them in any order by name, or as an array in theirs. Each field reports where its problem is met,
and the problem met first is the answer. -/
namespace ObjectRole.Json

/-- A result, or a problem and the place in reading order where it is met. -/
abbrev Met (α : Type) := Except (Nat × Problem) α

namespace Met

variable {α β : Type}

/-- Of two problems the one met first. -/
def both (f : Met (α → β)) (x : Met α) : Met β :=
  match f, x with
  | .ok f, .ok x => .ok (f x)
  | .error p, .ok _ | .ok _, .error p => .error p
  | .error p, .error q => .error (if q.1 < p.1 then q else p)

def placed (place : Nat) : Except Problem α → Met α
  | .ok x => .ok x
  | .error problem => .error (place, problem)

/-- A result that stands only if there is no such problem. -/
def barring (x : Met α) (problem : Option (Nat × Problem)) : Met α :=
  both ((fun _ x => x) <$> (match problem with | some p => .error p | none => .ok ())) x

def result : Met α → Except Problem α
  | .ok x => .ok x
  | .error (_, problem) => .error problem

end Met

/-- What a text holds for a field. -/
inductive Slot where
  | given (place : Nat) (draft : Draft)
  /-- Nothing, noticed at a place; `positional` in an array. -/
  | absent (place : Nat) (positional : Bool)

/-- A decoder for the fields of a value. It asks for each by its position and its name. -/
structure Record (α : Type) where
  names : List String
  run : (Nat → String → Slot) → Met α

namespace Record

variable {α β : Type}

instance : Functor Record where
  map f r := ⟨r.names, fun slot => Met.both (.ok f) (r.run slot)⟩

instance : Pure Record where
  pure x := ⟨[], fun _ => .ok x⟩

instance : Seq Record where
  seq f x :=
    let x := x ()
    ⟨f.names ++ x.names, fun slot =>
      Met.both (f.run slot) (x.run fun position => slot (f.names.length + position))⟩

/-- A field with a rule for when it is absent. -/
def field (name : String) (value : Decoder α) (absent : Nat → Bool → Met α) : Record α :=
  ⟨[name], fun slot =>
    match slot 0 name with
    | .given place draft => .placed place (value draft)
    | .absent place positional => absent place positional⟩

def required (name : String) (value : Decoder α) : Record α :=
  field name value fun place _ => .error (place, .mismatch)

def withDefault (name : String) (value : Decoder α) (default : α) : Record α :=
  field name value fun _ _ => .ok default

/-- A field that may be absent or `null`. -/
def optional (name : String) (value : Decoder α) : Record (Option α) :=
  withDefault name (.nullable value) none

/-- A field that may be `null`, and absent where fields have names. -/
def nullable (name : String) (value : Decoder α) : Record (Option α) :=
  field name (.nullable value) fun place positional =>
    if positional then .error (place, .mismatch) else .ok none

/-- The first member of a name, with its place. -/
def member? (name : String) (place : Nat) : List (Draft × Draft) → Option (Nat × Draft)
  | [] => none
  | (key, value) :: rest =>
    match key.key with
    | .ok found => if found = name then some (place, value) else member? name (place + 1) rest
    | .error _ => member? name (place + 1) rest

def namedSlot (members : List (Draft × Draft)) (_ : Nat) (name : String) : Slot :=
  match member? name 0 members with
  | some (place, value) => .given place value
  | none => .absent (members.length + 1) false

/-- The first problem of an object apart from the values of its fields: in a key, in a field given
twice, or in a member that is no field and that `other` looks at. -/
def strayMember (names : List String) (other : Draft → Option Problem) (seen : List String)
    (place : Nat) : List (Draft × Draft) → Option (Nat × Problem)
  | [] => none
  | (key, value) :: rest =>
    match key.key with
    | .error problem => some (place, problem)
    | .ok name =>
      if names.contains name then
        if seen.contains name then some (place, .mismatch)
        else strayMember names other (name :: seen) (place + 1) rest
      else
        match other value with
        | some problem => some (place, problem)
        | none => strayMember names other seen (place + 1) rest

def namedProblem (names : List String) (other : Draft → Option Problem)
    (members : List (Draft × Draft)) (ending : Option Problem) : Option (Nat × Problem) :=
  (strayMember names other [] 0 members).or (ending.map (members.length, ·))

/-- Where an array breaks off, a field that asks for more meets the break. -/
def positionalSlot (items : List Draft) (ending : Option Problem) (position : Nat)
    (_ : String) : Slot :=
  match items[position]?, ending with
  | some item, _ => .given position item
  | none, some problem => .given position (.broken problem)
  | none, none => .absent position true

def positionalProblem (fields : Nat) (items : List Draft) (ending : Option Problem) :
    Option (Nat × Problem) :=
  if fields < items.length then some (fields, .malformed) else ending.map (items.length, ·)

/-- Fields by name only; members of other names are skipped. -/
def named (r : Record α) : Decoder α
  | .object true _ _ => .error .malformed
  | .object false members ending =>
    (Met.barring (r.run (namedSlot members))
      (namedProblem r.names Draft.skip members ending)).result
  | draft => .error draft.mismatch

/-- Fields by name, or in order in an array. -/
def decode (r : Record α) : Decoder α
  | .array true _ _ => .error .malformed
  | .array false items ending =>
    (Met.barring (r.run (positionalSlot items ending))
      (positionalProblem r.names.length items ending)).result
  | draft => r.named draft

/-- The problem of a value that is to be read in full. -/
def readProblem (draft : Draft) : Option Problem :=
  match draft.read with
  | .ok _ => none
  | .error problem => some problem

/-- Fields by name, some of which are looked at only when the object has ended. Members that are
no field of the first kind are read in full. -/
def withLater (now : Record (α → β)) (later : Record α) : Decoder β
  | .object true _ _ => .error .malformed
  | .object false members ending =>
    let laterResult :=
      Met.barring (later.run (namedSlot members))
        (strayMember later.names (fun _ => none) [] 0 members)
    let later : Met α :=
      match laterResult with
      | .ok x => .ok x
      | .error _ => .error (members.length + 2, .mismatch)
    (Met.barring (Met.both (now.run (namedSlot members)) later)
      (namedProblem now.names readProblem members ending)).result
  | draft => .error draft.mismatch

end Record
end ObjectRole.Json

import ObjectRole.Json.Lexeme

/-! From text to its tree: lexemes nest into containers until one does not fit. -/
namespace ObjectRole.Json

/-- A tree and the lexemes behind it; none if the text breaks inside the tree. -/
structure Scanned where
  draft : Draft
  rest : Option (List Lexeme)

/-- Containers nested deeper than this are refused by a reader. -/
def depthLimit : Nat := 127

/-- The items read so far, latest first, make an array when the rest breaks or closes it. -/
private def arrayOf (depth : Nat) (items : List Draft) (ending : Option Problem)
    (rest : Option (List Lexeme)) : Scanned :=
  ⟨.array (depthLimit < depth) items.reverse ending, rest⟩

private def objectOf (depth : Nat) (members : List (Draft × Draft)) (ending : Option Problem)
    (rest : Option (List Lexeme)) : Scanned :=
  ⟨.object (depthLimit < depth) members.reverse ending, rest⟩

mutual

/-- The value at the front of the lexemes; `depth` counts the containers around it. A container
takes a step for itself and one for each item or member, so two steps a lexeme are enough. -/
def scanValue (steps depth : Nat) : List Lexeme → Scanned
  | [] => ⟨.broken .truncated, none⟩
  | .leaf value :: rest => ⟨value, some rest⟩
  | .cut value :: _ => ⟨value, none⟩
  | .mark c :: rest =>
    match steps, c with
    | steps + 1, '[' =>
      match rest with
      | [] => arrayOf (depth + 1) [] (some .truncated) none
      | .mark ']' :: rest => arrayOf (depth + 1) [] none (some rest)
      | rest => scanItems steps (depth + 1) [] rest
    | steps + 1, '\x7b' =>
      match rest with
      | [] => objectOf (depth + 1) [] (some .truncated) none
      | .mark '\x7d' :: rest => objectOf (depth + 1) [] none (some rest)
      | rest => scanMembers steps (depth + 1) [] rest
    | _, _ => ⟨.broken .malformed, none⟩

/-- The items of an array from the next one on. -/
def scanItems (steps depth : Nat) (items : List Draft) (lexemes : List Lexeme) : Scanned :=
  match steps with
  | 0 => arrayOf depth items (some .malformed) none
  | steps + 1 =>
    let item := scanValue steps depth lexemes
    let items := item.draft :: items
    match item.rest with
    | none => arrayOf depth items none none
    | some [] => arrayOf depth items (some .truncated) none
    | some (.mark ']' :: rest) => arrayOf depth items none (some rest)
    | some (.mark ',' :: rest) => scanItems steps depth items rest
    | some _ => arrayOf depth items (some .malformed) none

/-- The members of an object from the next key on. What stands where a colon should be takes the
place of the member's value. -/
def scanMembers (steps depth : Nat) (members : List (Draft × Draft)) (lexemes : List Lexeme) :
    Scanned :=
  match steps with
  | 0 => objectOf depth members (some .malformed) none
  | steps + 1 =>
    let key := scanValue steps depth lexemes
    match key.draft, key.rest with
    | .string _ _, some (.mark ':' :: rest) =>
      let value := scanValue steps depth rest
      let members := (key.draft, value.draft) :: members
      match value.rest with
      | none => objectOf depth members none none
      | some [] => objectOf depth members (some .truncated) none
      | some (.mark '\x7d' :: rest) => objectOf depth members none (some rest)
      | some (.mark ',' :: rest) => scanMembers steps depth members rest
      | some _ => objectOf depth members (some .malformed) none
    | _, some [] => objectOf depth ((key.draft, .broken .truncated) :: members) none none
    | _, _ => objectOf depth ((key.draft, .broken .malformed) :: members) none none

end

/-- The tree of a whole text, and the problem if anything follows the first value. -/
def Draft.ofText (text : String) : Draft × Option Problem :=
  let lexemes := Lexeme.ofText text
  let scanned := scanValue (2 * lexemes.length + 1) 0 lexemes
  (scanned.draft, match scanned.rest with
    | some (_ :: _) => some .malformed
    | _ => none)

/-- The value a text spells out in full. -/
def ofText (text : String) : Except Problem Json := do
  let (draft, trailing) := Draft.ofText text
  let value ← draft.read
  match trailing with
  | some problem => .error problem
  | none => .ok value

end ObjectRole.Json

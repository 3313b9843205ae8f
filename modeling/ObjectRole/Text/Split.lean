/-! Cutting text at separators and at blanks. -/
namespace ObjectRole.Text

def isBlank (c : Char) : Bool :=
  let n := c.toNat
  9 ≤ n && n ≤ 13 || n == 32 || n == 0x85 || n == 0xa0 || n == 0x1680 || 0x2000 ≤ n && n ≤ 0x200a ||
    n == 0x2028 || n == 0x2029 || n == 0x202f || n == 0x205f || n == 0x3000

/-- The pieces between separators; there is always at least one. -/
def splitWhen (separates : Char → Bool) : List Char → List (List Char)
  | [] => [[]]
  | c :: rest =>
    if separates c then [] :: splitWhen separates rest
    else
      match splitWhen separates rest with
      | [] => [[c]]
      | piece :: pieces => (c :: piece) :: pieces

/-- The pieces that are not empty. -/
def piecesWhen (separates : Char → Bool) (text : List Char) : List (List Char) :=
  (splitWhen separates text).filter (!·.isEmpty)

/-- The words between blanks. -/
def words (text : List Char) : List (List Char) := piecesWhen isBlank text

def trim (text : List Char) : List Char :=
  ((text.dropWhile isBlank).reverse.dropWhile isBlank).reverse

end ObjectRole.Text

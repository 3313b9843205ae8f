/-! Widths of characters in UTF-8, and cuts of a text at a width. -/
namespace ObjectRole.Text

def width : List Char → Nat
  | [] => 0
  | c :: rest => c.utf8Size + width rest

/-- Cuts a text after `n` bytes, unless that is inside a character or beyond the end. -/
def cutAt? (n : Nat) (text : List Char) : Option (List Char × List Char) :=
  match n, text with
  | 0, text => some ([], text)
  | _ + 1, [] => none
  | n + 1, c :: rest =>
    if c.utf8Size ≤ n + 1 then (cutAt? (n + 1 - c.utf8Size) rest).map fun (l, r) => (c :: l, r)
    else none
termination_by structural text

end ObjectRole.Text

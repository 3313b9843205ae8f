import ObjectRole.Text.CaseTable

/-! Case conversion with full mappings. A character may convert to several; only a whole text
knows that a sigma ends its word. -/
namespace ObjectRole.Text

def isCapital (c : Char) : Bool :=
  if isAscii c then c.isUpper else inRuns capitalRuns c

def isSmall (c : Char) : Bool :=
  if isAscii c then c.isLower else inRuns smallRuns c

def isCased (c : Char) : Bool :=
  if isAscii c then c.isAlpha else inRuns casedRuns c

def isCaseIgnorable (c : Char) : Bool :=
  if isAscii c then "'.:^\x60".toList.contains c else inRuns caseIgnorableRuns c

def shifted (shifts : List (Run × Int)) (c : Char) : Char :=
  match shifts.find? (·.1.holds c.toNat) with
  | some (_, shift) => Char.ofNat (c.toNat + shift).toNat
  | none => c

def converted (long : List (Nat × List Nat)) (shifts : List (Run × Int)) (c : Char) :
    List Char :=
  match long.lookup c.toNat with
  | some codes => codes.map Char.ofNat
  | none => [shifted shifts c]

/-- The capital form of one character. -/
def capital (c : Char) : List Char :=
  if isAscii c then [c.toUpper] else converted longCapitals capitalShifts c

/-- The small form of one character, whatever surrounds it. -/
def small (c : Char) : List Char :=
  if isAscii c then [c.toLower] else converted longSmalls smallShifts c

def upper (text : List Char) : List Char := text.flatMap capital

def meetsCased (text : List Char) : Bool :=
  match text.dropWhile isCaseIgnorable with
  | c :: _ => isCased c
  | [] => false

/-- Small forms of a text whose preceding characters, nearest first, are `before`. A capital
sigma is final when a letter precedes it and none follows. -/
def lowerAfter (before : List Char) : List Char → List Char
  | [] => []
  | c :: rest =>
    let here :=
      if c = 'Σ' then [if meetsCased before && !meetsCased rest then 'ς' else 'σ'] else small c
    here ++ lowerAfter (c :: before) rest

def lower (text : List Char) : List Char := lowerAfter [] text

end ObjectRole.Text

/-!
# The characters of a YAML document

A document is read as a list of characters, each with the line and the column it stands in, because
the structure of block mappings is in the layout. Line ends are unified first: all of them become a
line feed, the two separators of Unicode apart.
-/

namespace AvcPipeline.Yaml

def isAllowed (c : Char) : Bool :=
  c ∈ ['\t', '\n', '\r', '\x85'] || (' ' ≤ c && c ≤ '~') ||
    ('\xa0' ≤ c && c ≠ '\ufffe' && c ≠ '\uffff')

def unifyBreaks : List Char → List Char
  | [] => []
  | '\r' :: '\n' :: rest => '\n' :: unifyBreaks rest
  | c :: rest => (if c = '\r' || c = '\x85' then '\n' else c) :: unifyBreaks rest

def isBlank (c : Char) : Bool := c = ' ' || c = '\t'

def isBreak (c : Char) : Bool := c = '\n' || c = '\u2028' || c = '\u2029'

def isSpacing (c : Char) : Bool := isBlank c || isBreak c

def isWordChar (c : Char) : Bool := c.isAlphanum || c = '_' || c = '-'

def flowIndicators : List Char := [',', '[', ']', '{', '}']

structure PlacedChar where
  char : Char
  line : Nat
  column : Nat
  deriving DecidableEq, Repr

def PlacedChar.isOrderMark (c : PlacedChar) : Bool := c.char = '\ufeff' && c.column = 0

abbrev Input := List PlacedChar

def place (line column : Nat) : List Char → Input
  | [] => []
  | c :: rest =>
    ⟨c, line, column⟩ :: if isBreak c then place (line + 1) 0 rest else place line (column + 1) rest

def Input.ofText? (text : String) : Option Input :=
  if text.toList.all isAllowed then some (place 0 0 (unifyBreaks text.toList)) else none

def spacingNext (input : Input) : Bool :=
  input.head?.all (isSpacing ·.char)

def nextIn (chars : List Char) (input : Input) : Bool :=
  input.head?.any (·.char ∈ chars)

/-- Whether three of these marks start a line here and stand by themselves. -/
def startsMarks (mark : Char) (input : Input) : Bool :=
  input.head?.any (·.column = 0) && (input.take 3).map (·.char) = [mark, mark, mark] &&
    spacingNext (input.drop 3)

def startsBoundary (input : Input) : Bool :=
  startsMarks '-' input || startsMarks '.' input

def dropBlanks (input : Input) : Input :=
  input.dropWhile (isBlank ·.char)

/-- Goes on with the next line, if nothing but a comment is left on this one. -/
def endLine? (input : Input) : Option Input :=
  let left := dropBlanks input
  match if nextIn ['#'] left then left.dropWhile (fun c => !isBreak c.char) else left with
  | [] => some []
  | c :: rest => if isBreak c.char then some rest else none

def takeWord (input : Input) : List Char × Input :=
  ((input.takeWhile (isWordChar ·.char)).map (·.char), input.dropWhile (isWordChar ·.char))

end AvcPipeline.Yaml

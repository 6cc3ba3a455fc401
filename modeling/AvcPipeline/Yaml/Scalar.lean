import AvcPipeline.Text.Number
import AvcPipeline.Yaml.Text

/-!
# Scalars

A scalar is written plain, in quotes, or as a block of lines. In a plain or quoted scalar, blanks at
the end and at the front of a line do not count, and a line end between two lines counts as a space.
A block keeps its lines; a folded one joins those that start with no blank.
-/

namespace AvcPipeline.Yaml

inductive Style where
  | plain
  | singleQuoted
  | doubleQuoted
  | literal
  | folded
  deriving DecidableEq, Repr

structure Scalar where
  style : Style
  text : String
  deriving DecidableEq, Repr

/-- The blanks and line ends between two words of a scalar. -/
structure Gap where
  /-- The blanks in front of the first line end, last first. -/
  blanks : List Char := []
  broken : Bool := false
  /-- The first line end, if it counts. -/
  lead : Option Char := none
  /-- The other line ends, last first. -/
  more : List Char := []
  deriving DecidableEq, Repr

namespace Gap

def isEmpty (g : Gap) : Bool := g.blanks.isEmpty && !g.broken

/-- A gap over a line end that an escape takes away. -/
def escaped : Gap := { broken := true }

def push (g : Gap) (c : Char) : Gap :=
  if isBlank c then if g.broken then g else { g with blanks := c :: g.blanks }
  else if g.broken then { g with more := c :: g.more }
  else { blanks := [], broken := true, lead := some c, more := [] }

def after (g : Gap) (done : List Char) : List Char :=
  if g.broken then
    match g.lead with
    | none => g.more ++ done
    | some '\n' => if g.more.isEmpty then ' ' :: done else g.more ++ done
    | some c => g.more ++ c :: done
  else g.blanks ++ done

end Gap

/-! ## Plain scalars -/

def startsPlain (inFlow : Bool) : Input → Bool
  | [] => false
  | c :: rest =>
    if c.char = '-' then !spacingNext rest
    else if c.char = '?' || c.char = ':' then !inFlow && !spacingNext rest
    else !isSpacing c.char && !(c.char ∈ flowIndicators) &&
      !(c.char ∈ ['#', '&', '*', '!', '|', '>', '\'', '"', '%', '@', '\x60'])

/-- Whether a plain scalar ends in front of `c`, which follows a gap. In a block mapping it ends
where a line stands no further in than the keys do. -/
def endsPlain (inFlow : Bool) (margin : Nat) (gap : Gap) (c : PlacedChar) (rest : Input) : Bool :=
  (!gap.isEmpty && (c.char = '#' || (!inFlow && c.column < margin))) ||
    startsBoundary (c :: rest) ||
    (c.char = ':' && spacingNext rest) ||
    (inFlow && c.char ∈ flowIndicators)

structure PlainScalar where
  text : String
  /-- Whether a line end follows, so that what comes next starts a line. -/
  lineEnded : Bool
  rest : Input

/-- Takes a plain scalar. `done` holds the characters so far, last first, and `gap` what has been
read after them. -/
def takePlain (inFlow : Bool) (margin : Nat) (done : List Char) (gap : Gap) :
    Input → Option PlainScalar
  | [] => some ⟨String.ofList done.reverse, gap.broken, []⟩
  | c :: rest =>
    if isSpacing c.char then
      if gap.broken && c.char = '\t' && c.column < margin then none
      else takePlain inFlow margin done (gap.push c.char) rest
    else if endsPlain inFlow margin gap c rest then
      some ⟨String.ofList done.reverse, gap.broken, c :: rest⟩
    else if inFlow && c.char = ':' && nextIn ('?' :: flowIndicators) rest then none
    else takePlain inFlow margin (c.char :: gap.after done) {} rest

/-! ## Quoted scalars -/

/-- Takes a scalar in single quotes, in which a quote is written twice. -/
def takeSingle (done : List Char) (gap : Gap) : Input → Option (String × Input)
  | [] => none
  | c :: rest =>
    if isSpacing c.char then takeSingle done (gap.push c.char) rest
    else if startsBoundary (c :: rest) then none
    else if c.char = '\'' then
      match rest with
      | ⟨'\'', _, _⟩ :: rest => takeSingle ('\'' :: gap.after done) {} rest
      | rest => some (String.ofList (gap.after done).reverse, rest)
    else takeSingle (c.char :: gap.after done) {} rest

def shortEscapes : List (Char × Char) :=
  [('0', '\x00'), ('a', '\x07'), ('b', '\x08'), ('t', '\t'), ('\t', '\t'), ('n', '\n'),
    ('v', '\x0b'), ('f', '\x0c'), ('r', '\r'), ('e', '\x1b'), (' ', ' '), ('"', '"'), ('/', '/'),
    ('\\', '\\'), ('N', '\x85'), ('_', '\xa0'), ('L', '\u2028'), ('P', '\u2029')]

def namedChar? (digits : Input) : Option Char :=
  (Text.digits? 16 (digits.map (·.char))).bind fun n =>
    if n.isValidChar then some (Char.ofNat n) else none

def takeDouble (done : List Char) (gap : Gap) : Input → Option (String × Input)
  | [] => none
  | c :: rest =>
    if isSpacing c.char then takeDouble done (gap.push c.char) rest
    else if startsBoundary (c :: rest) then none
    else if c.char = '"' then some (String.ofList (gap.after done).reverse, rest)
    else if c.char = '\\' then
      let done := gap.after done
      match rest with
      | ⟨'x', _, _⟩ :: a :: b :: rest =>
        (namedChar? [a, b]).bind fun named => takeDouble (named :: done) {} rest
      | ⟨'u', _, _⟩ :: a :: b :: c :: d :: rest =>
        (namedChar? [a, b, c, d]).bind fun named => takeDouble (named :: done) {} rest
      | ⟨'U', _, _⟩ :: a :: b :: c :: d :: e :: f :: g :: h :: rest =>
        (namedChar? [a, b, c, d, e, f, g, h]).bind fun named => takeDouble (named :: done) {} rest
      | e :: rest =>
        if isBreak e.char then takeDouble done .escaped rest
        else match shortEscapes.lookup e.char with
          | some named => takeDouble (named :: done) {} rest
          | none => none
      | [] => none
    else takeDouble (c.char :: gap.after done) {} rest

/-! ## Block scalars -/

/-- What becomes of the line ends after the last line. -/
inductive Chomping where
  | strip
  | clip
  | keep
  deriving DecidableEq, Repr

structure BlockHeader where
  chomping : Chomping := .clip
  /-- How much further in than the mapping around it the block stands, if that is said. -/
  step : Option Nat := none
  deriving DecidableEq, Repr

def takeChomping : Input → Option Chomping × Input
  | ⟨'+', _, _⟩ :: rest => (some .keep, rest)
  | ⟨'-', _, _⟩ :: rest => (some .strip, rest)
  | input => (none, input)

def takeStep : Input → Option Nat × Input
  | c :: rest =>
    if '1' ≤ c.char && c.char ≤ '9' then (Text.digit? c.char, rest) else (none, c :: rest)
  | [] => (none, [])

/-- Takes the header of a block up to the end of its line: the step and the chomping in any order.
-/
def takeBlockHeader? (input : Input) : Option (BlockHeader × Input) := do
  let (before, rest) := takeChomping input
  let (step, rest) := takeStep rest
  let (chomping, rest) := if before.isSome then (before, rest) else takeChomping rest
  return ({ chomping := chomping.getD .clip, step }, ← endLine? rest)

/-- The deepest of the columns in which the first lines start, up to one that is not empty. -/
def deepest? (found : Nat) : Input → Option Nat
  | [] => some found
  | c :: rest =>
    if c.char = ' ' then deepest? (max found (c.column + 1)) rest
    else if c.char = '\t' then none
    else if isBreak c.char then deepest? found rest
    else some found

/-- A block so far. All characters are last first. -/
structure BlockText where
  done : List Char := []
  lead : List Char := []
  more : List Char := []
  blankLine : Bool := false
  deriving DecidableEq, Repr

namespace BlockText

def startLine (folded : Bool) (b : BlockText) (c : Char) : BlockText :=
  let joins := folded && b.lead = ['\n'] && !b.blankLine && !isBlank c
  let lead := if !joins then b.lead else if b.more.isEmpty then [' '] else []
  { done := c :: b.more ++ lead ++ b.done, blankLine := isBlank c }

def endLine (b : BlockText) (c : Char) : BlockText :=
  { b with lead := [c], more := [] }

def chomped (b : BlockText) : Chomping → List Char
  | .strip => b.done
  | .clip => b.lead ++ b.done
  | .keep => b.more ++ b.lead ++ b.done

end BlockText

/-- Takes the lines of a block that stands in this column. `inLine` says whether one has started. -/
def takeLines? (folded : Bool) (indent : Nat) (b : BlockText) (inLine : Bool) :
    Input → Option (BlockText × Input)
  | [] => some (b, [])
  | c :: rest =>
    if inLine then
      if isBreak c.char then takeLines? folded indent (b.endLine c.char) false rest
      else takeLines? folded indent { b with done := c.char :: b.done } true rest
    else if isBreak c.char then
      takeLines? folded indent { b with more := c.char :: b.more } false rest
    else if indent ≤ c.column then takeLines? folded indent (b.startLine folded c.char) true rest
    else if c.char = ' ' then takeLines? folded indent b false rest
    else if c.char = '\t' then none
    else some (b, c :: rest)

/-- Takes a block scalar after its mark. Where its header says no step, its lines show where it
stands. -/
def takeBlock? (folded : Bool) (margin : Nat) (input : Input) : Option (String × Input) := do
  let (header, rest) ← takeBlockHeader? input
  let indent ← match header.step with
    | some step => some (margin - 1 + step)
    | none => (deepest? 0 rest).map (max · (max margin 1))
  let (b, rest) ← takeLines? folded indent {} false rest
  return (String.ofList (b.chomped header.chomping).reverse, rest)

end AvcPipeline.Yaml

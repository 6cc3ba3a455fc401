/-!
# Control sequences

Control characters, and the sequences that an escape character starts, are commands to a terminal
and no text; `withoutControls` leaves them out. A line end or a tab is text even in the middle of a
short sequence. What comes after it is text as well, up to the next control character, from where on
the sequence is read further.

A line feed ends a line, together with a carriage return in front of it. What follows the last one
is a line only if it is not empty.
-/

namespace AvcPipeline.Text

/-- A sequence of which the escape character and perhaps more has been read. -/
inductive ControlSequence where
  | escape
  | intermediate
  | parameters
  | systemCommand
  | deviceStart
  | deviceParameters
  | deviceIntermediate
  | deviceText
  deriving DecidableEq, Repr

namespace ControlSequence

def nextVisible? (s : ControlSequence) (c : Char) : Option ControlSequence :=
  match s with
  | .escape =>
    if c ≤ '/' then some .intermediate
    else match c with
      | '[' => some .parameters
      | ']' => some .systemCommand
      | 'P' => some .deviceStart
      | 'X' | '^' | '_' => some .deviceText
      | _ => none
  | .intermediate => if c ≤ '/' then some .intermediate else none
  | .parameters => if c ≤ '?' then some .parameters else none
  | .deviceStart =>
    some (if c ≤ '/' then .deviceIntermediate
      else if c ≤ '?' then .deviceParameters else .deviceText)
  | .deviceParameters =>
    some (if c ≤ '/' then .deviceIntermediate
      else if c ≤ ';' then .deviceParameters else .deviceText)
  | .deviceIntermediate => some (if c ≤ '/' then .deviceIntermediate else .deviceText)
  | s => some s

/-- Goes on with a character that starts no sequence and breaks none off. A system command ends with
a bell, and a text for the device with the byte 9C, wherever it stands in the encoded text. -/
def next? (s : ControlSequence) (c : Char) : Option ControlSequence :=
  match s with
  | .systemCommand => if c = '\x07' then none else some s
  | .deviceText => if 0x9C ∈ String.utf8EncodeChar c then none else some s
  | s => if c < ' ' || '~' < c then some s else s.nextVisible? c

/-- Whether line ends and tabs in the middle of the sequence are text. -/
def isShort : ControlSequence → Bool
  | .escape | .intermediate | .parameters => true
  | _ => false

end ControlSequence

inductive Reading where
  /-- Text, which may have interrupted a sequence. -/
  | text (interrupted : Option ControlSequence)
  | within (sequence : ControlSequence)
  deriving DecidableEq, Repr

def isLayout (c : Char) : Bool := c ∈ ['\t', '\n', '\x0c', '\r']

namespace Reading

def step (r : Reading) (c : Char) : Bool × Reading :=
  if c = '\x1b' then (false, .within .escape)
  else if c = '\x18' || c = '\x1a' then (false, .text none)
  else match r with
    | .text interrupted =>
      if '\x7f' < c then (true, .text none)
      else if isLayout c || (' ' ≤ c && c ≤ '~') then (true, .text interrupted)
      else (false, interrupted.elim (.text none) .within)
    | .within s =>
      if s.isShort && isLayout c then (true, .text (some s))
      else (false, (s.next? c).elim (.text none) .within)

def keep (r : Reading) : List Char → List Char
  | [] => []
  | c :: rest =>
    let (isText, r) := r.step c
    if isText then c :: keep r rest else keep r rest

end Reading

def withoutControls (text : String) : String :=
  String.ofList ((Reading.text none).keep text.toList)

/-! ## Lines -/

/-- Cuts characters into lines. `done` holds the characters of the line so far, last first. -/
def linesFrom (done : List Char) : List Char → List String
  | [] => if done.isEmpty then [] else [String.ofList done.reverse]
  | '\n' :: rest =>
    let line := match done with
      | '\r' :: before => before
      | done => done
    String.ofList line.reverse :: linesFrom [] rest
  | c :: rest => linesFrom (c :: done) rest

def lines (text : String) : List String := linesFrom [] text.toList

end AvcPipeline.Text

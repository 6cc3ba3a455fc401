import AvcPipeline.Text.Number
import AvcPipeline.Yaml.Text

/-!
# Tags and directives

A tag is written in full, between angle brackets, or as a handle and a suffix. Directives in front
of a document say what its handles stand for. The name of a tag is a sequence of bytes, because it
may hold any byte by an escape; it ends at a zero byte.
-/

namespace AvcPipeline.Yaml

abbrev Tag := List UInt8

namespace Tag

def ofString (s : String) : Tag := s.toUTF8.toList

def standard (name : String) : Tag := ofString ("tag:yaml.org,2002:" ++ name)

def untilZero (tag : Tag) : Tag := tag.takeWhile (· ≠ 0)

end Tag

/-! ## Names of tags -/

/-- Whether a character may stand in the name of a tag. A comma and brackets may only if the name is
written in full. -/
def isTagChar (full : Bool) (c : Char) : Bool :=
  isWordChar c || c ∈ [';', '/', '?', ':', '@', '&', '=', '+', '$', '.', '!', '~', '*', '\'', '(',
    ')'] || (full && c ∈ [',', '[', ']'])

/-- How many bytes of a character are due after this one, when `due` were due before it. -/
def dueAfter? (due : Nat) (byte : UInt8) : Option Nat :=
  if due ≠ 0 then if 0x80 ≤ byte && byte < 0xC0 then some (due - 1) else none
  else if byte < 0x80 then some 0
  else if byte < 0xC0 then none
  else if byte < 0xE0 then some 1
  else if byte < 0xF0 then some 2
  else if byte < 0xF8 then some 3
  else none

/-- Takes the name of a tag. A percent sign and two digits stand for a byte, and the bytes of one
character stand together. `done` holds the bytes so far, last first. -/
def takeTagName (full : Bool) (due : Nat) (done : Tag) : Input → Option (Tag × Input)
  | [] => if due = 0 then some (done.reverse, []) else none
  | ⟨'%', _, _⟩ :: high :: low :: rest => do
    let byte := UInt8.ofNat (← Text.digits? 16 [high.char, low.char])
    takeTagName full (← dueAfter? due byte) (byte :: done) rest
  | c :: rest =>
    if due ≠ 0 || c.char = '%' then none
    else if isTagChar full c.char then
      takeTagName full 0 (UInt8.ofNat c.char.toNat :: done) rest
    else some (done.reverse, c :: rest)

def takeSomeTagName (full : Bool) (input : Input) : Option (Tag × Input) :=
  (takeTagName full 0 [] input).filter fun (name, _) => !name.isEmpty

/-! ## Tags -/

/-- A tag by its handle and its suffix. The handle of a tag written in full is empty. -/
structure WrittenTag where
  handle : String
  suffix : Tag
  deriving DecidableEq, Repr

/-- Takes a handle after its first mark. It ends with a mark too, if there is a word in it. -/
def takeHandle? (input : Input) : Option (String × Input) :=
  let (word, rest) := takeWord input
  match rest with
  | ⟨'!', _, _⟩ :: rest => some ("!" ++ String.ofList word ++ "!", rest)
  | rest => if word.isEmpty then some ("!", rest) else none

/-- The tag of the first handle, whose suffix is not empty unless it is the mark alone. -/
def WrittenTag.ofSuffix (suffix : Tag) : WrittenTag :=
  if suffix.isEmpty then ⟨"", .ofString "!"⟩ else ⟨"!", suffix⟩

def takeTag? (inFlow : Bool) (input : Input) : Option (WrittenTag × Input) := do
  let (tag, rest) ← match input, takeHandle? input with
    | ⟨'<', _, _⟩ :: rest, _ =>
      match ← takeSomeTagName true rest with
      | (name, ⟨'>', _, _⟩ :: rest) => some (⟨"", name.untilZero⟩, rest)
      | _ => none
    | input, some ("!", _) | input, none => do
      let (suffix, rest) ← takeTagName false 0 [] input
      some (.ofSuffix suffix.untilZero, rest)
    | _, some (handle, rest) => do
      let (suffix, rest) ← takeSomeTagName false rest
      some (⟨handle, suffix.untilZero⟩, rest)
  if spacingNext rest || (inFlow && nextIn [','] rest) then some (tag, rest) else none

/-! ## Directives -/

inductive Directive where
  | version
  | handle (handle : String) (stands : Tag)
  deriving DecidableEq, Repr

def maxVersionDigits : Nat := 9

def takeVersionNumber? (input : Input) : Option (Nat × Input) := do
  let digits := input.takeWhile (·.char.isDigit)
  guard (digits.length ≤ maxVersionDigits)
  return (← Text.digits? 10 (digits.map (·.char)), input.dropWhile (·.char.isDigit))

def takeVersion? (input : Input) : Option (Directive × Input) := do
  let (major, rest) ← takeVersionNumber? (dropBlanks input)
  match rest with
  | ⟨'.', _, _⟩ :: rest =>
    let (minor, rest) ← takeVersionNumber? rest
    if major = 1 && (minor = 1 || minor = 2) then some (.version, rest) else none
  | _ => none

def takeHandleMeaning? (input : Input) : Option (Directive × Input) := do
  match dropBlanks input with
  | ⟨'!', _, _⟩ :: rest =>
    let (handle, rest) ← takeHandle? rest
    guard (nextIn [' ', '\t'] rest)
    let (stands, rest) ← takeSomeTagName true (dropBlanks rest)
    guard (spacingNext rest)
    some (.handle handle stands.untilZero, rest)
  | _ => none

def takeDirective? (input : Input) : Option (Directive × Input) := do
  let (name, rest) := takeWord input
  guard (spacingNext rest)
  let (directive, rest) ← match String.ofList name with
    | "YAML" => takeVersion? rest
    | "TAG" => takeHandleMeaning? rest
    | _ => none
  return (directive, ← endLine? rest)

structure Prologue where
  version : Bool := false
  handles : List (String × Tag) := []
  deriving DecidableEq, Repr

namespace Prologue

def add? (p : Prologue) : Directive → Option Prologue
  | .version => if p.version then none else some { p with version := true }
  | .handle handle stands =>
    if (p.handles.lookup handle).isSome then none
    else some { p with handles := (handle, stands) :: p.handles }

def standardHandles : List (String × Tag) :=
  [("!", .ofString "!"), ("!!", .standard "")]

def tag? (p : Prologue) (written : WrittenTag) : Option Tag :=
  if written.handle = "" then some written.suffix
  else ((p.handles ++ standardHandles).lookup written.handle).map (· ++ written.suffix)

end Prologue
end AvcPipeline.Yaml

import AvcPipeline.Yaml.Scalar
import AvcPipeline.Yaml.Tag

/-!
# Tokens

The tokens of a document say where its block mappings start and end, which the text shows only by
columns. A key without a question mark is known by the colon after it, so the place where a key may
start is kept until the colon comes or the line ends, and the tokens that open the key are put in
there. Sequences have no tokens: a document that holds one cannot be read.
-/

namespace AvcPipeline.Yaml

inductive Token where
  | directive (directive : Directive)
  | documentStart
  | documentEnd
  | blockStart
  | blockEnd
  | flowStart
  | flowEnd
  | comma
  | key
  | value
  | anchor (name : String)
  | alias (name : String)
  | tag (tag : WrittenTag)
  | scalar (scalar : Scalar)
  deriving DecidableEq, Repr

structure KeyPlace where
  index : Nat
  required : Bool
  line : Nat
  column : Nat
  deriving DecidableEq, Repr

def maxKeyWidth : Nat := 1024

def KeyPlace.reaches (k : KeyPlace) (c : PlacedChar) : Bool :=
  k.line = c.line && c.column ≤ k.column + maxKeyWidth

/-- The tokens so far, last first, and what decides about the next one. The margin of a block
mapping is the number of columns its values keep free: one more than the column of its keys. -/
structure Lexer where
  /-- The margins of the open block mappings, innermost first. -/
  margins : List Nat := []
  /-- Where a key may have started, in the innermost flow mapping. -/
  place : Option KeyPlace := none
  /-- The same for what is around each open flow mapping, innermost first. -/
  outerPlaces : List (Option KeyPlace) := []
  keyAllowed : Bool := true
  tokens : List Token := []
  count : Nat := 0
  deriving DecidableEq, Repr

namespace Lexer

def inFlow (s : Lexer) : Bool := !s.outerPlaces.isEmpty

def margin (s : Lexer) : Nat := s.margins.headD 0

def push (s : Lexer) (t : Token) : Lexer :=
  { s with tokens := t :: s.tokens, count := s.count + 1 }

def insert (s : Lexer) (index : Nat) (tokens : List Token) : Lexer :=
  let since := s.count - index
  { s with
    tokens := s.tokens.take since ++ tokens ++ s.tokens.drop since
    count := s.count + tokens.length }

/-! ## Keys -/

def dropPlace (s : Lexer) : Option Lexer :=
  if s.place.any (·.required) then none else some { s with place := none }

def savePlace (s : Lexer) (c : PlacedChar) : Option Lexer :=
  if s.keyAllowed then do
    let s ← s.dropPlace
    let required := !s.inFlow && s.margin = c.column + 1
    return { s with place := some ⟨s.count, required, c.line, c.column⟩ }
  else some s

def dropPlaces (s : Lexer) (c : PlacedChar) : Option Lexer := do
  let keep := fun (place : Option KeyPlace) =>
    match place with
    | some k => if k.reaches c then some (some k) else if k.required then none else some none
    | none => some none
  return { s with place := ← keep s.place, outerPlaces := ← s.outerPlaces.mapM keep }

/-! ## Block mappings -/

def opensBlock (s : Lexer) (column : Nat) : Bool := !s.inFlow && s.margin ≤ column

def openBlock (s : Lexer) (column : Nat) : Lexer :=
  { s with margins := (column + 1) :: s.margins }

def startBlock (s : Lexer) (column : Nat) : Lexer :=
  if s.opensBlock column then (s.openBlock column).push .blockStart else s

def closeBlocks (s : Lexer) (margin : Nat) : Lexer :=
  if s.inFlow then s
  else
    let ended := s.margins.takeWhile (margin < ·)
    { s with
      margins := s.margins.drop ended.length
      tokens := ended.map (fun _ => Token.blockEnd) ++ s.tokens
      count := s.count + ended.length }

/-! ## Steps -/

/-- Ends what is open in front of a mark that stands between documents. -/
def atBoundary (s : Lexer) : Option Lexer := do
  let s ← (s.closeBlocks 0).dropPlace
  return { s with keyAllowed := false }

def openFlow (s : Lexer) : Lexer :=
  { s.push .flowStart with
    place := none, outerPlaces := s.place :: s.outerPlaces, keyAllowed := true }

def closeFlow (s : Lexer) : Lexer :=
  { s.push .flowEnd with
    place := s.outerPlaces.headD none, outerPlaces := s.outerPlaces.tail, keyAllowed := false }

def keyMark (s : Lexer) (c : PlacedChar) : Option Lexer := do
  guard (s.inFlow || s.keyAllowed)
  let s ← (s.startBlock c.column).dropPlace
  return { s.push .key with keyAllowed := !s.inFlow }

/-- A colon, which stands in front of a value. It makes a key of what may be one. -/
def valueMark (s : Lexer) (c : PlacedChar) : Option Lexer :=
  match s.place with
  | some k =>
    let s := if s.opensBlock k.column then
        (s.openBlock k.column).insert k.index [.key, .blockStart]
      else s.insert k.index [.key]
    some { s.push .value with place := none, keyAllowed := false }
  | none => do
    guard (s.inFlow || s.keyAllowed)
    let s := s.startBlock c.column
    return { s.push .value with keyAllowed := !s.inFlow }

/-- Takes the name of an anchor or an alias, which must be set off from what follows. -/
def takeName? (input : Input) : Option (String × Input) :=
  let (word, rest) := takeWord input
  if word.isEmpty then none
  else if spacingNext rest || nextIn ['?', ':', ',', ']', '}', '%', '@', '\x60'] rest then
    some (String.ofList word, rest)
  else none

def pushTaken {α : Type} (s : Lexer) (token : α → Token) (taken : α × Input) : Lexer × Input :=
  ({ s.push (token taken.1) with keyAllowed := false }, taken.2)

def block? (s : Lexer) (style : Style) (rest : Input) : Option (Lexer × Input) := do
  let s ← s.dropPlace
  let (text, rest) ← takeBlock? (style = .folded) s.margin rest
  return ({ s.push (.scalar ⟨style, text⟩) with keyAllowed := true }, rest)

def plain? (s : Lexer) (input : Input) : Option (Lexer × Input) := do
  guard (startsPlain s.inFlow input)
  let p ← takePlain s.inFlow s.margin [] {} input
  return ({ s.push (.scalar ⟨.plain, p.text⟩) with keyAllowed := p.lineEnded }, p.rest)

def token? (s : Lexer) (c : PlacedChar) (rest : Input) : Option (Lexer × Input) := do
  if c.column = 0 && c.char = '%' then
    return (← s.atBoundary).pushTaken .directive (← takeDirective? rest)
  if startsMarks '-' (c :: rest) then return ((← s.atBoundary).push .documentStart, rest.drop 2)
  if startsMarks '.' (c :: rest) then return ((← s.atBoundary).push .documentEnd, rest.drop 2)
  match c.char with
  | '\x7b' => return ((← s.savePlace c).openFlow, rest)
  | '\x7d' => return ((← s.dropPlace).closeFlow, rest)
  | ',' => return ({ (← s.dropPlace).push .comma with keyAllowed := true }, rest)
  | '&' => return (← s.savePlace c).pushTaken .anchor (← takeName? rest)
  | '*' => return (← s.savePlace c).pushTaken .alias (← takeName? rest)
  | '!' => return (← s.savePlace c).pushTaken .tag (← takeTag? s.inFlow rest)
  | '\'' =>
    return (← s.savePlace c).pushTaken (.scalar ⟨.singleQuoted, ·⟩) (← takeSingle [] {} rest)
  | '"' =>
    return (← s.savePlace c).pushTaken (.scalar ⟨.doubleQuoted, ·⟩) (← takeDouble [] {} rest)
  | '|' => if s.inFlow then none else s.block? .literal rest
  | '>' => if s.inFlow then none else s.block? .folded rest
  | _ =>
    if c.char = '?' && (s.inFlow || spacingNext rest) then return (← s.keyMark c, rest)
    if c.char = ':' && (s.inFlow || spacingNext rest) then return (← s.valueMark c, rest)
    (← s.savePlace c).plain? (c :: rest)

/-- Skips blanks, comments, line ends and the byte order marks of lines. Outside flow mappings a key
may start on a new line, and no tab may stand where one may. -/
def skip (s : Lexer) (inComment : Bool) : Input → Lexer × Input
  | [] => (s, [])
  | c :: rest =>
    if isBreak c.char then skip { s with keyAllowed := s.keyAllowed || !s.inFlow } false rest
    else if inComment || c.isOrderMark || c.char = ' ' ||
        (c.char = '\t' && (s.inFlow || !s.keyAllowed)) then
      skip s inComment rest
    else if c.char = '#' then skip s true rest
    else (s, c :: rest)

/-- Reads the tokens of the input. Each of them uses up at least one character, so the length of the
input is budget enough. -/
def run? (budget : Nat) (s : Lexer) (input : Input) : Option Lexer :=
  match budget, s.skip false input with
  | _, (s, []) => s.atBoundary
  | 0, _ => none
  | budget + 1, (s, c :: rest) => do
    let s ← s.dropPlaces c
    let (s, rest) ← (s.closeBlocks (c.column + 1)).token? c rest
    s.run? budget rest

end Lexer

def Token.ofText? (text : String) : Option (List Token) := do
  let input ← Input.ofText? text
  let s ← ({} : Lexer).run? input.length input
  return s.tokens.reverse

end AvcPipeline.Yaml

import AvcPipeline.CommandLine.Option

/-!
# Reading a command line

The arguments of a level are read one by one. An option without `=` takes the next argument as its
value if that does not look like an option. A value is checked only when the next option or input is
met, or at the end, so an unknown option is reported before a bad value in front of it. After `--`
every argument is an input.
-/

namespace AvcPipeline.CommandLine

inductive Form where
  | separator
  | named (name : String) (value : Option String)
  | letters (first : Char)
  | plain
  deriving DecidableEq, Repr

def namedForm (cs : List Char) : Form :=
  let name := String.ofList (cs.takeWhile (· ≠ '='))
  match cs.dropWhile (· ≠ '=') with
  | [] => .named name none
  | _ :: value => .named name (some (String.ofList value))

def Form.ofArgument (argument : String) : Form :=
  match argument.toList with
  | ['-', '-'] => .separator
  | '-' :: '-' :: cs => namedForm cs
  | '-' :: c :: _ => .letters c
  | _ => .plain

structure Scan where
  level : Level
  given : Given := {}
  /-- An option that is not checked yet, with its value if that has been met. -/
  pending : Option (Setting × Option String) := none
  inputsOnly : Bool := false
  deriving DecidableEq, Repr

namespace Scan

def awaitsValue (s : Scan) : Bool :=
  match s.pending with
  | some (_, none) => true
  | _ => false

def settle (s : Scan) : Except UsageError Scan :=
  match s.pending with
  | none => .ok s
  | some (option, none) => .error (.missingValue option.label)
  | some (option, some value) => do
    return { s with given := ← s.given.set option value, pending := none }

def readInput (s : Scan) (argument : String) : Except UsageError Scan :=
  if s.level = .program then
    if s.inputsOnly && ((Level.ofCommand? argument).isSome || argument = "help") then
      .error (.unknownArgument argument)
    else .error (.unknownCommand argument)
  else if s.given.input.isSome || s.pending.any (·.1 = .input) then
    .error (.unknownArgument argument)
  else do
    let s ← s.settle
    return { s with pending := some (.input, some argument) }

def readSwitch (s : Scan) (switch : Switch) : Except UsageError Scan := do
  let s ← s.settle
  return { s with given := ← s.given.turnOn switch }

def readNamed (s : Scan) (argument name : String) (value : Option String) :
    Except UsageError Scan :=
  let label := "--" ++ name
  match s.level.settings.find? (·.label = label), s.level.switches.find? (·.label = label) with
  | some option, _ => do
    let s ← s.settle
    let s := { s with pending := some (option, value) }
    if value.isSome then s.settle else return s
  | none, some switch =>
    if value.isSome then .error (.unexpectedValue label) else s.readSwitch switch
  | none, none => .error (.unknownArgument argument)

def readArgument (s : Scan) (argument : String) : Except UsageError Scan :=
  if s.inputsOnly then s.readInput argument
  else match Form.ofArgument argument with
    | .separator => .ok { s with inputsOnly := true }
    | .named name value => s.readNamed argument name value
    | .letters first =>
      match s.level.letter? first with
      | some switch => s.readSwitch switch
      | none => .error (.unknownArgument argument)
    | .plain =>
      match s.pending with
      | some (option, none) => .ok { s with pending := some (option, some argument) }
      | _ => s.readInput argument

def expectsCommand (s : Scan) : Bool :=
  s.level = .program && !s.inputsOnly && !s.awaitsValue

def helpOn : List String → UsageError
  | [] => .helpRequested
  | [topic] =>
    if (Level.ofCommand? topic).isSome || topic = "help" then .helpRequested
    else .unknownCommand topic
  | _ :: rest => .unknownCommand (rest.headD "")

/-- Reads up to the end, or to a command, which is given with the arguments after it. -/
def readAll (s : Scan) : List String → Except UsageError (Scan × Option (Level × List String))
  | [] => .ok (s, none)
  | argument :: rest =>
    if s.expectsCommand && argument = "help" then .error (helpOn rest)
    else match (if s.expectsCommand then Level.ofCommand? argument else none) with
      | some level => .ok (s, some (level, rest))
      | none => do readAll (← s.readArgument argument) rest

end Scan

def readCommand (level : Level) (arguments : List String) :
    Except UsageError (Given × Command) := do
  let (s, _) ← Scan.readAll { level } arguments
  let s ← s.settle
  match s.given.input with
  | none => throw .missingInput
  | some input =>
    return (s.given, if level = .play then .play (s.given.playArgs input) else .info input)

def Invocation.ofArguments? (arguments : List String) : Except UsageError Invocation := do
  let (before, command) ← Scan.readAll { level := .program } arguments
  match command with
  | none =>
    let s ← before.settle
    throw (if s.given = {} then .nothingGiven else .missingCommand)
  | some (level, rest) =>
    let (after, command) ← readCommand level rest
    let before ← before.settle
    return before.given.invocation after command

end AvcPipeline.CommandLine

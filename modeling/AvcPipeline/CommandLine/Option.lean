import AvcPipeline.CommandLine.Basic

/-!
# Options

The options of each level of a command line, and the values that they take. What has been given at
one level is a `Given`; an option may be given there once.
-/

namespace AvcPipeline.CommandLine

/-- The part of a command line before the command, or after it. -/
inductive Level where
  | program
  | play
  | info
  deriving DecidableEq, Repr

def Level.ofCommand? : String → Option Level
  | "play" => some .play
  | "info" => some .info
  | _ => none

/-- The options with a value. The input has a place and no name. -/
inductive Setting where
  | verbosity
  | logStyle
  | config
  | width
  | height
  | fps
  | deliveryFps
  | input
  deriving DecidableEq, Repr

def Setting.label : Setting → String
  | .verbosity => "--loglevel"
  | .logStyle => "--log-format"
  | .config => "--config"
  | .width => "--width"
  | .height => "--height"
  | .fps => "--fps"
  | .deliveryFps => "--delivery-fps"
  | .input => "INPUT"

inductive Switch where
  | strict
  | progress
  | noPacing
  | showRate
  | help
  | version
  deriving DecidableEq, Repr

def Switch.label : Switch → String
  | .strict => "--strict"
  | .progress => "--progress"
  | .noPacing => "--no-frame-pacer"
  | .showRate => "--show-fps"
  | .help => "--help"
  | .version => "--version"

def Level.settings : Level → List Setting
  | .play => [.verbosity, .logStyle, .config, .width, .height, .fps, .deliveryFps]
  | .program | .info => [.verbosity, .logStyle, .config]

def Level.switches : Level → List Switch
  | .program => [.strict, .progress, .help, .version]
  | .play => [.strict, .progress, .help, .noPacing, .showRate]
  | .info => [.strict, .progress, .help]

def Level.letter? (level : Level) : Char → Option Switch
  | 'h' => some .help
  | 'V' => if level = .program then some .version else none
  | _ => none

structure Given where
  verbosity : Option Verbosity := none
  logStyle : Option LogStyle := none
  config : Option String := none
  width : Option UInt32 := none
  height : Option UInt32 := none
  fps : Option UInt32 := none
  deliveryFps : Option UInt32 := none
  input : Option String := none
  strict : Bool := false
  progress : Bool := false
  noPacing : Bool := false
  showRate : Bool := false
  deriving DecidableEq, Repr

def integer? (text : String) : Option Int :=
  let digits := fun (cs : List Char) =>
    if cs.isEmpty || !cs.all Char.isDigit then none
    else some (cs.foldl (fun n c => n * 10 + (c.toNat - '0'.toNat)) 0)
  match text.toList with
  | '-' :: cs => (digits cs).map fun n => -Int.ofNat n
  | '+' :: cs => (digits cs).map Int.ofNat
  | cs => (digits cs).map Int.ofNat

/-- A number from `least` up that fits in 32 bits. -/
def word? (least : Nat) (text : String) : Option UInt32 :=
  (integer? text).bind fun n =>
    if least ≤ n ∧ n.toNat < UInt32.size then some (UInt32.ofNat n.toNat) else none

def verbosity? : String → Option Verbosity
  | "off" => some .off
  | "error" => some (.upTo .error)
  | "warn" => some (.upTo .warn)
  | "info" => some (.upTo .info)
  | "debug" => some (.upTo .debug)
  | "trace" => some (.upTo .trace)
  | _ => none

def logStyle? : String → Option LogStyle
  | "plain" => some .plain
  | "json" => some .json
  | _ => none

def path? (text : String) : Option String :=
  if text.isEmpty then none else some text

/-- What stands where an option may be given: it must be free, and the value readable. -/
def Setting.fill {α : Type} (s : Setting) (current : Option α) (read : String → Option α)
    (error : String → String → UsageError) (value : String) :
    Except UsageError (Option α) :=
  if current.isSome then .error (.repeated s.label)
  else match read value with
    | none => .error (error s.label value)
    | some a => .ok (some a)

namespace Given

def set (g : Given) (s : Setting) (value : String) : Except UsageError Given := do
  match s with
  | .verbosity => return { g with verbosity := ← s.fill g.verbosity verbosity? .invalidValue value }
  | .logStyle => return { g with logStyle := ← s.fill g.logStyle logStyle? .invalidValue value }
  | .config => return { g with config := ← s.fill g.config path? .invalidValue value }
  | .width => return { g with width := ← s.fill g.width (word? 0) .invalidNumber value }
  | .height => return { g with height := ← s.fill g.height (word? 0) .invalidNumber value }
  | .fps => return { g with fps := ← s.fill g.fps (word? 1) .invalidNumber value }
  | .deliveryFps =>
    return { g with deliveryFps := ← s.fill g.deliveryFps (word? 0) .invalidNumber value }
  | .input => return { g with input := ← s.fill g.input path? .invalidValue value }

/-- Turns a switch on. Asking for help or the version ends the reading. -/
def turnOn (g : Given) (s : Switch) : Except UsageError Given :=
  match s with
  | .help => .error .helpRequested
  | .version => .error .versionRequested
  | .strict => once g.strict { g with strict := true }
  | .progress => once g.progress { g with progress := true }
  | .noPacing => once g.noPacing { g with noPacing := true }
  | .showRate => once g.showRate { g with showRate := true }
where
  once (given : Bool) (next : Given) : Except UsageError Given :=
    if given then .error (.repeated s.label) else .ok next

/-- Options given after the command win over those before it; switches hold from either place. -/
def invocation (before after : Given) (command : Command) : Invocation where
  verbosity := (after.verbosity <|> before.verbosity).getD (.upTo .info)
  strict := before.strict || after.strict
  logStyle := (after.logStyle <|> before.logStyle).getD .plain
  progress := before.progress || after.progress
  config := after.config <|> before.config
  command := command

def playArgs (g : Given) (input : String) : Settings.PlayArgs where
  input := input
  width := g.width
  height := g.height
  fps := g.fps
  deliveryFps := g.deliveryFps
  noPacing := g.noPacing
  showRate := g.showRate

end Given
end AvcPipeline.CommandLine

import AvcPipeline.Text.Number
import AvcPipeline.Text.Quoted

/-!
# Log records

A record has a level, the part of the program that it comes from, and a message. A `Verbosity` tells
which records are shown, and a `LogStyle` in which form.
-/

namespace AvcPipeline

inductive LogLevel where
  | error
  | warn
  | info
  | debug
  | trace
  deriving DecidableEq, Repr

namespace LogLevel

def label : LogLevel → String
  | .error => "ERROR"
  | .warn => "WARN"
  | .info => "INFO"
  | .debug => "DEBUG"
  | .trace => "TRACE"

/-- How far down a level stands: errors come first. -/
def rank : LogLevel → Nat
  | .error => 1
  | .warn => 2
  | .info => 3
  | .debug => 4
  | .trace => 5

end LogLevel

inductive LogSource where
  | lifecycle
  | present
  | pacer
  | analysis
  | playback
  | progress
  | delivery
  deriving DecidableEq, Repr

def LogSource.target : LogSource → String
  | .lifecycle => "hwavc::process::lifecycle"
  | .present => "hwavc::process::present"
  | .pacer => "hwavc::process::pacer"
  | .analysis => "hwavcd::cli::info"
  | .playback => "hwavcd::cli::play"
  | .progress => "hwavcd::cli::play::progress"
  | .delivery => "hwavcd::cli::play::delivery"

structure LogRecord where
  level : LogLevel
  source : LogSource
  message : String
  deriving DecidableEq, Repr

inductive Verbosity where
  | off
  | upTo (level : LogLevel)
  deriving DecidableEq, Repr

def Verbosity.admits (v : Verbosity) (level : LogLevel) : Bool :=
  match v with
  | .off => false
  | .upTo limit => level.rank ≤ limit.rank

inductive LogStyle where
  | plain
  | json
  deriving DecidableEq, Repr

namespace LogRecord

/-- The record under its level and target. Further lines of the message are indented. -/
def plainText (r : LogRecord) : String :=
  let message := "\n    ".intercalate (r.message.splitOn "\n")
  s!"[{Text.padRight 5 r.level.label} {r.source.target}] {message}"

/-- The record as an object on one line. The time is left blank. -/
def jsonText (r : LogRecord) : String :=
  s!"\x7b\"ts\":\"\",\"lvl\":\"{r.level.label}\",\"target\":\"{r.source.target}\",\"msg\":{Text.quoted r.message}\x7d"

def text (r : LogRecord) : LogStyle → String
  | .plain => r.plainText
  | .json => r.jsonText

end LogRecord
end AvcPipeline

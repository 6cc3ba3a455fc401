import AvcPipeline.Text.Number

/-!
# Spans of time

A span is a number of nanoseconds. Spans are held in 64 bits of seconds and a fraction, so `maxSpan`
is the longest one.
-/

namespace AvcPipeline

abbrev Nanos := Nat

namespace Nanos

def perSecond : Nat := 1000000000

def perMilli : Nat := 1000000

def maxSpan : Nanos := UInt64.size * perSecond - 1

def ofSeconds (seconds nanos : Nat) : Nanos := seconds * perSecond + nanos

def ofMillis (millis : Nat) : Nanos := millis * perMilli

/-- Hours, minutes, seconds and milliseconds; the hours widen past two digits. -/
def clockText (span : Nanos) : String :=
  let millis := span / perMilli
  let hours := Text.zeroPadded 2 (millis / 3600000)
  let minutes := Text.zeroPadded 2 (millis % 3600000 / 60000)
  let seconds := Text.zeroPadded 2 (millis % 60000 / 1000)
  s!"{hours}:{minutes}:{seconds}.{Text.zeroPadded 3 (millis % 1000)}"

def decimalText (value digits : Nat) : String :=
  let scale := Nat.pow 10 digits
  let fraction := (Text.zeroPadded digits (value % scale)).toList
  let kept := (fraction.reverse.dropWhile (· = '0')).reverse
  let whole := toString (value / scale)
  if kept.isEmpty then whole else whole ++ "." ++ String.ofList kept

/-- The span in the largest of s, ms, µs and ns of which it has at least one. -/
def unitText (span : Nanos) : String :=
  if perSecond ≤ span then decimalText span 9 ++ "s"
  else if perMilli ≤ span then decimalText span 6 ++ "ms"
  else if 1000 ≤ span then decimalText span 3 ++ "µs"
  else toString span ++ "ns"

end Nanos
end AvcPipeline

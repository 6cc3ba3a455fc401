import AvcPipeline.Pacing.Pacer
import AvcPipeline.Settings.File

/-!
# Settings of a playback

Settings given on the command line win over the settings file, and both over the defaults. A rate or
a time of zero that would stop the playback is refused.
-/

namespace AvcPipeline.Settings

structure PlayArgs where
  input : String := "-"
  width : Option UInt32 := none
  height : Option UInt32 := none
  fps : Option UInt32 := none
  deliveryFps : Option UInt32 := none
  noPacing : Bool := false
  showRate : Bool := false
  deriving DecidableEq, Repr

structure Resolved where
  video : VideoConfig
  pacer : PacerSettings
  /-- The rate at which units are handed over, zero for no limit. -/
  deliveryFps : UInt32
  deriving DecidableEq, Repr

inductive Problem where
  | zeroRate
  | zeroInterval
  | zeroTimeout
  deriving DecidableEq, Repr

def Problem.message : Problem → String
  | .zeroRate => "Target frame rate must be at least 1 fps"
  | .zeroInterval => "pacer.interval_ms must be greater than 0"
  | .zeroTimeout => "pacer.shutdown_timeout_ms must be greater than 0"

def millis (n : UInt64) : Nanos := .ofMillis n.toNat

def File.resolve (f : File) (args : PlayArgs) : Except Problem Resolved := do
  let video : VideoConfig := {}
  let pacer : PacerSettings := {}
  let fps := (args.fps <|> f.fps).getD video.fps
  if fps = 0 then throw .zeroRate
  if f.intervalMillis = some 0 then throw .zeroInterval
  if f.timeoutMillis = some 0 then throw .zeroTimeout
  return {
    video := {
      fps
      pacing := !args.noPacing && f.pacing.getD video.pacing
      showRate := args.showRate || f.showRate.getD video.showRate }
    pacer := {
      interval := (f.intervalMillis.map millis).getD pacer.interval
      shutdownTimeout := (f.timeoutMillis.map millis).getD pacer.shutdownTimeout }
    deliveryFps := (args.deliveryFps <|> f.deliveryFps).getD fps }

end AvcPipeline.Settings

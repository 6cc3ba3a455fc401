import AvcPipeline.CommandLine.Basic
import AvcPipeline.CommandLine.Failure
import AvcPipeline.Device.Simulated
import AvcPipeline.Playback.Basic
import AvcPipeline.Text.ControlSequence

/-!
# Running a command

A command leaves a `Transcript`: the lines that it prints, the records that it logs, and the failure
it ends with, if any. Playback runs on the simulated device.
-/

namespace AvcPipeline.CommandLine

structure Transcript where
  lines : List String := []
  played : Option (VideoConfig × Stats) := none
  log : List LogRecord := []
  failure : Option Failure := none

namespace Transcript

def output (t : Transcript) (elapsed : Nanos) : List String :=
  t.lines ++ t.played.toList.flatMap fun (video, stats) =>
    Playback.summaryLines video stats elapsed

def exitCode (t : Transcript) : UInt32 :=
  if t.failure.isSome then 1 else 0

/-- What appears on the error stream: the part of the log that is shown, then the failure. Records
are written without control sequences; one that is not ended takes up the end of the line as well.
-/
def errorText (t : Transcript) (verbosity : Verbosity) (style : LogStyle) : String :=
  let shown := t.log.filter fun r => verbosity.admits r.level
  String.join (shown.map fun r => Text.withoutControls (r.text style ++ "\n")) ++
    t.failure.elim "" fun f => reportText f.chain ++ "\n"

def errorLines (t : Transcript) (verbosity : Verbosity) (style : LogStyle) : List String :=
  Text.lines (t.errorText verbosity style)

end Transcript

/-- The whole input; `-` stands for the standard input. -/
def readInput (files : Files) (path : String) : Except Failure Bytes :=
  if path = "-" then .ok files.standardInput
  else match files.read path with
    | .ok content => .ok content
    | .error .isDirectory => .error (.inputUnreadable .isDirectory)
    | .error e => .error (.inputMissing path e)

def readSettings (files : Files) : Option String → Except Failure Settings.File
  | none => .ok {}
  | some path =>
    match files.readText path with
    | .error e => .error (.settingsUnreadable path e)
    | .ok text =>
      match Settings.File.ofText? text with
      | none => .error (.settingsMalformed path)
      | some file => .ok file

def analyse (files : Files) (strict : Bool) (input : String) : Transcript :=
  let opening : LogRecord := ⟨.info, .analysis, s!"Analyzing H.264 stream: {input}"⟩
  match readInput files input with
  | .error failure => { log := [opening], failure := some failure }
  | .ok stream =>
    let (a, fault) := Analysis.ofStream strict stream
    { lines := a.reportLines ++ if fault.isNone then a.summaryLines stream.length else []
      log := opening :: a.notes.reverse
      failure := fault.map .analysis }

/-- The records of a progress display: how many pictures of a file it is to show. Counting them is
taken to need no time. -/
def countingRecords (i : Invocation) (input : String) (stream : Bytes) : List LogRecord :=
  if i.progress && input ≠ "-" then [
    ⟨.info, .progress, "Counting decode units for progress estimation"⟩,
    ⟨.info, .progress,
      s!"Found {(Playback.pictures stream).length} decode units in 0.000s ({stream.length} bytes)"⟩]
  else []

def playOn (strict : Bool) (settings : Settings.Resolved) (size : UInt32 × UInt32)
    (stream : Bytes) : Except Playback.Failure Stats × Device :=
  let (outcome, device) :=
    (Playback.play strict settings size stream).run Device.interpreter {}
  match outcome with
  | .error failure => (.error failure, device)
  | .ok stats => (if device.ledger.isClean then .ok stats else .error .resourcesHeld, device)

def play (files : Files) (i : Invocation) (args : Settings.PlayArgs) : Transcript :=
  match readSettings files i.config with
  | .error failure => { failure := some failure }
  | .ok file =>
    match file.resolve args with
    | .error problem => { failure := some (.settings problem) }
    | .ok settings =>
      let opening : LogRecord := ⟨.info, .playback,
        s!"Playing H.264 stream: {args.input} (strict mode: {i.strict}, fps: {settings.video.fps}, frame pacer: {settings.video.pacing})"⟩
      match readInput files args.input with
      | .error failure => { log := [opening], failure := some failure }
      | .ok stream =>
        match Playback.streamSize args stream with
        | .error failure => { log := [opening], failure := some (.playback failure) }
        | .ok size =>
          let (outcome, device) := playOn i.strict settings size stream
          let log := opening :: countingRecords i args.input stream ++ device.log.reverse
          match outcome with
          | .error failure => { log, failure := some (.playback failure) }
          | .ok stats => { log, played := some (settings.video, stats) }

def Invocation.run (i : Invocation) (files : Files) : Transcript :=
  match i.command with
  | .info input => analyse files i.strict input
  | .play args => play files i args

def Invocation.paths (i : Invocation) : List String :=
  match i.command with
  | .info input => [input]
  | .play args => i.config.toList ++ [args.input]

end AvcPipeline.CommandLine

import AvcPipeline.Analysis.Basic
import AvcPipeline.CommandLine.Files
import AvcPipeline.Playback.Basic

/-!
# Failures of a command

A failure is reported as a chain of messages: what could not be done, and then the causes.
-/

namespace AvcPipeline.CommandLine

inductive Failure where
  | settingsUnreadable (path : String) (cause : FileError)
  | settingsMalformed (path : String)
  | settings (problem : Settings.Problem)
  | inputMissing (path : String) (cause : FileError)
  | inputUnreadable (cause : FileError)
  | analysis (fault : Analysis.Fault)
  | playback (failure : Playback.Failure)

namespace Failure

def settingsForm : String := "expected the sections video and pacer, and delivery_fps"

def chain : Failure → List String
  | .settingsUnreadable path cause => [s!"Failed to read config file {path}", cause.message]
  | .settingsMalformed path => [s!"Invalid config file {path}", settingsForm]
  | .settings problem => [problem.message]
  | .inputMissing path cause => [s!"Failed to open input {path}", cause.message]
  | .inputUnreadable cause => [cause.message]
  | .analysis fault => [fault.message]
  | .playback failure => failure.chain

end Failure

/-- A cause, with its further lines under its first. -/
def indented (front : String) (cause : String) : String :=
  let margin := "\n" ++ String.ofList (List.replicate front.length ' ')
  front ++ margin.intercalate (cause.splitOn "\n")

/-- The causes under their heading, numbered if there are several. -/
def causeText : List String → String
  | [] => ""
  | [cause] => "\n\nCaused by:\n" ++ indented "    " cause
  | causes =>
    let numbered := causes.zipIdx.map fun (cause, i) =>
      indented (Text.padLeft 5 ' ' (toString i) ++ ": ") cause
    "\n\nCaused by:\n" ++ "\n".intercalate numbered

def reportText : List String → String
  | [] => "Error"
  | outermost :: causes => s!"Error: {outermost}" ++ causeText causes

end AvcPipeline.CommandLine

import AvcPipeline.CommandLine.Reader
import AvcPipeline.CommandLine.Run

/-!
# The program

Reads what the command line asks for, runs the command and prints its transcript.
-/

namespace AvcPipeline.CommandLine

partial def readToEnd (input : IO.FS.Stream) (done : ByteArray) : IO ByteArray := do
  let chunk ← input.read 65536
  if chunk.isEmpty then return done
  readToEnd input (done ++ chunk)

def fileError : IO.Error → FileError
  | .noFileOrDirectory .. => .notFound
  | .inappropriateType _ code details =>
    if code = 21 then .isDirectory else if code = 20 then .notDirectory else .other details
  | e => .other e.toString

def readFile (path : String) : IO (Except FileError Bytes) := do
  try
    let content ← IO.FS.readBinFile path
    return .ok content.toList
  catch e => return .error (fileError e)

def gather (i : Invocation) : IO Files := do
  let found ← i.paths.mapM fun path => do return (path, ← readFile path)
  let standardInput ←
    if i.paths.contains "-" then readToEnd (← IO.getStdin) .empty else pure .empty
  return {
    standardInput := standardInput.toList
    read := fun path =>
      match found.find? fun (name, _) => name = path with
      | some (_, content) => content
      | none => .error .notFound }

def execute (i : Invocation) : IO UInt32 := do
  let files ← gather i
  let started ← IO.monoNanosNow
  let t := i.run files
  IO.eprint (t.errorText i.verbosity i.logStyle)
  let ended ← IO.monoNanosNow
  for line in t.output (ended - started) do
    IO.println line
  return t.exitCode

end AvcPipeline.CommandLine

open AvcPipeline.CommandLine in
def main (arguments : List String) : IO UInt32 := do
  match Invocation.ofArguments? arguments with
  | .ok i => execute i
  | .error e =>
    if e.exitCode = 0 then IO.println e.message
    else IO.eprintln s!"error: {e.message}"
    return e.exitCode

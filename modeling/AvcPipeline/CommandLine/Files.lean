import AvcPipeline.Bits.Basic

/-!
# Files

What a command can read: the standard input, and files by their path. A `Directory` serves the files
that lie directly in it. Around it there is a system of which only the outline is known: the
directories at its root, and the devices that every system has.
-/

namespace AvcPipeline.CommandLine

inductive FileError where
  | notFound
  | isDirectory
  | notDirectory
  | nameTooLong
  | nulInName
  | notText
  | other (message : String)
  deriving DecidableEq, Repr

def FileError.message : FileError → String
  | .notFound => "No such file or directory (os error 2)"
  | .isDirectory => "Is a directory (os error 21)"
  | .notDirectory => "Not a directory (os error 20)"
  | .nameTooLong => "File name too long (os error 36)"
  | .nulInName => "file name contained an unexpected NUL byte"
  | .notText => "stream did not contain valid UTF-8"
  | .other message => message

structure Files where
  standardInput : Bytes
  read : String → Except FileError Bytes

namespace Files

def readText (f : Files) (path : String) : Except FileError String := do
  match String.fromUTF8? ⟨(← f.read path).toArray⟩ with
  | some text => return text
  | none => throw .notText

end Files

abbrev Entries := List (String × Bytes)

def Entries.find? (entries : Entries) (name : String) : Option Bytes :=
  (List.find? (fun entry => entry.1 = name) entries).map (·.2)

structure Directory where
  entries : Entries

namespace Directory

def systemDirectories : List String :=
  ["bin", "boot", "dev", "etc", "home", "lib", "lib64", "media", "mnt", "opt", "proc", "root",
    "run", "sbin", "srv", "sys", "tmp", "usr", "var"]

def deviceEntries (standardInput : Bytes) : Entries :=
  [("null", []), ("stdin", standardInput)]

def maxNameLength : Nat := 255

def maxPathLength : Nat := 4095

inductive Stop where
  | inside
  /-- A directory in which nothing is known. -/
  | outside
  | root
  | system (name : String)
  | file (content : Bytes)
  deriving DecidableEq, Repr

def named? (d : Directory) (devices : Entries) (stop : Stop) (name : String) : Option Stop :=
  match stop with
  | .inside => (d.entries.find? name).map .file
  | .root => if name ∈ systemDirectories then some (.system name) else none
  | .system "dev" => (devices.find? name).map .file
  | _ => none

def parent : Stop → Stop
  | .root | .system _ => .root
  | _ => .outside

/-- Follows one component of a path. Nothing leads on from a file, not even an empty component. -/
def step (d : Directory) (devices : Entries) (stop : Stop) (component : String) :
    Except FileError Stop :=
  match stop, component with
  | .file _, _ => .error .notDirectory
  | stop, "" | stop, "." => .ok stop
  | stop, ".." => .ok (parent stop)
  | stop, name =>
    if maxNameLength < name.utf8ByteSize then .error .nameTooLong
    else match d.named? devices stop name with
      | some next => .ok next
      | none => .error .notFound

def read (d : Directory) (devices : Entries) (path : String) : Except FileError Bytes := do
  if path.contains '\x00' then throw .nulInName
  if path = "" then throw .notFound
  if maxPathLength < path.utf8ByteSize then throw .nameTooLong
  let start := if path.startsWith "/" then .root else .inside
  match ← (path.splitOn "/").foldlM (d.step devices) start with
  | .file content => return content
  | _ => throw .isDirectory

def files (d : Directory) (standardInput : Bytes) : Files where
  standardInput := standardInput
  read := d.read (deviceEntries standardInput)

end Directory
end AvcPipeline.CommandLine

import AvcPipeline.Analysis.Report
import AvcPipeline.Log
import AvcPipeline.Nal.ByteStream

/-!
# Analysing a byte stream

An analysis counts the units of a stream by their type and reports on every distinct parameter set.
A unit that cannot be read is noted and passed over, unless the analysis is strict: then it ends
there, and what was reported before it stands.
-/

namespace AvcPipeline

inductive Analysis.Fault where
  | malformed (cause : Nal.Error)
  | parameterSet (cause : ParameterSet.Error)

structure Analysis where
  total : Nat := 0
  /-- The types of the units with a readable header, last first. -/
  types : List UInt8 := []
  /-- The distinct parameter sets with their units, last first. -/
  reports : List (Bytes × Analysis.Report) := []
  /-- The warnings, last first. -/
  notes : List LogRecord := []

namespace Analysis

def Fault.message : Fault → String
  | .malformed cause => cause.message
  | .parameterSet cause => cause.message

def Fault.note (f : Fault) (number : Nat) : String :=
  match f with
  | .malformed _ => s!"Malformed NAL unit {number}: {f.message}"
  | .parameterSet _ => s!"SPS parse error at NAL unit {number}: {f.message}"

def warn (a : Analysis) (message : String) : Analysis :=
  { a with notes := ⟨.warn, .analysis, message⟩ :: a.notes }

def hasSeen (a : Analysis) (unit : Bytes) : Bool :=
  a.reports.any fun (seen, _) => seen = unit

def addReport (a : Analysis) (unit : Bytes) (r : Report) : Analysis :=
  let a := { a with reports := (unit, r) :: a.reports }
  match r.fixed with
  | .ok _ => a
  | .error e => a.warn s!"SPS fix-up failed: {e.message}"

def add (a : Analysis) (unit : Bytes) : Analysis × Option Fault :=
  let a := { a with total := a.total + 1 }
  match Nal.split? unit with
  | .error e => (a, some (.malformed e))
  | .ok (header, _) =>
    let a := { a with types := header.unitType :: a.types }
    if header.unitType = Nal.parameterSetType && !a.hasSeen unit then
      match ParameterSet.ofUnit? unit with
      | .ok (_, set) => (a.addReport unit (.ofUnit unit set), none)
      | .error e => (a, some (.parameterSet e))
    else (a, none)

/-- Takes the units into account, up to the first faulty one if the analysis is strict. -/
def addAll (strict : Bool) (a : Analysis) : List Bytes → Analysis × Option Fault
  | [] => (a, none)
  | unit :: rest =>
    match a.add unit with
    | (a, none) => addAll strict a rest
    | (a, some fault) =>
      if strict then (a, some fault) else addAll strict (a.warn (fault.note a.total)) rest

def ofStream (strict : Bool) (stream : Bytes) : Analysis × Option Fault :=
  addAll strict {} (Nal.units stream)

def unitTypeName (unitType : Nat) : String :=
  match unitType with
  | 1 => "Non-IDR slice"
  | 2 | 3 | 4 => "Slice data partition"
  | 5 => "IDR slice"
  | 6 => "SEI"
  | 7 => "SPS"
  | 8 => "PPS"
  | 9 => "Access unit delimiter"
  | 10 => "End of sequence"
  | 11 => "End of stream"
  | 12 => "Filler data"
  | _ => "Other"

/-- The unit types that occur and how often, in ascending order. -/
def counts (a : Analysis) : List (Nat × Nat) :=
  ((List.range 32).map fun t => (t, a.types.count (UInt8.ofNat t))).filter fun (_, n) => n ≠ 0

def countLine (unitType count : Nat) : String :=
  let name := s!"{unitTypeName unitType} ({unitType})"
  s!"    {Text.padRight 22 name}  {count}"

def reportLines (a : Analysis) : List String :=
  a.reports.reverse.flatMap fun (_, r) => r.lines

def summaryLines (a : Analysis) (streamLength : Nat) : List String :=
  (if a.reports.isEmpty then
    ["No sequence parameter set found in the input.",
      "This doesn't appear to be an Annex B H.264 stream."]
  else [])
  ++ ["Analysis Summary", s!"  NAL units                 {a.total}"]
  ++ a.counts.map (fun (t, n) => countLine t n)
  ++ [s!"  Distinct SPS              {a.reports.length}",
    s!"  Size                      {Text.quotientText 2 streamLength 1000000} MB ({streamLength} bytes)",
    ""]

end Analysis
end AvcPipeline

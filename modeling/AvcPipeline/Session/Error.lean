import AvcPipeline.DecodeUnit.Assembly
import AvcPipeline.Device.Call
import AvcPipeline.Session.Stage
import AvcPipeline.Time

/-!
# What can go wrong in a session

Setup errors carry a status code for the streaming side and name the stage that failed.
-/

namespace AvcPipeline

inductive SetupError where
  | unsupportedFormat (format : UInt32)
  | unsupportedGeometry (width height : UInt32)
  | noMemory (purpose : String)
  | initLibrary (cause : Status)
  | queryMemory (cause : Status)
  | allocate (size : UInt64) (cause : Status)
  | blockBase (cause : Status)
  | createDecoder (cause : Status)
  | startPacer (cause : String)
  | alreadyAt (stage : Stage)
  deriving DecidableEq, Repr

namespace SetupError

def noBuffer : SetupError := .noMemory "elementary stream buffer"

def noTexture : SetupError := .noMemory "frame texture"

def message : SetupError → String
  | .unsupportedFormat format =>
    s!"Unsupported video format {Text.hex 4 format.toNat}, only H.264 can be decoded"
  | .unsupportedGeometry width height => s!"Unsupported stream geometry {width}x{height}"
  | .noMemory purpose => s!"Not enough memory for the {purpose}"
  | .initLibrary cause => s!"Codec library initialization failed: {cause.message}"
  | .queryMemory cause => s!"Decoder memory size query failed: {cause.message}"
  | .allocate size cause =>
    s!"Decoder memory block allocation of {size} bytes failed: {cause.message}"
  | .blockBase cause => s!"Decoder memory block base lookup failed: {cause.message}"
  | .createDecoder cause => s!"Decoder creation failed: {cause.message}"
  | .startPacer cause => s!"Frame pacer could not be started: {cause}"
  | .alreadyAt stage => s!"Video setup requested while already at stage {stage.label}"

def code : SetupError → UInt32
  | .noMemory _ => 0x80010001
  | .initLibrary _ => 0x80010002
  | .queryMemory _ => 0x80010003
  | .allocate _ _ => 0x80010004
  | .blockBase _ => 0x80010005
  | .createDecoder _ => 0x80010006
  | .startPacer _ => 0x80010007
  | .unsupportedFormat _ | .unsupportedGeometry _ _ => 0x80010008
  | .alreadyAt _ => 0x80010009

def stage : SetupError → Stage
  | .unsupportedFormat _ | .unsupportedGeometry _ _ => .format
  | .noMemory _ => .frameBuffer
  | .initLibrary _ => .library
  | .queryMemory _ | .allocate _ _ | .blockBase _ => .memory
  | .createDecoder _ => .decoder
  | .startPacer _ => .running
  | .alreadyAt stage => stage

end SetupError

inductive SetupFailure where
  /-- A stage was not acquired, or none could be; what the setup held is given back. -/
  | refused (cause : SetupError)
  /-- The memory asked for leaves no room to round its size up; what the setup holds stays held. -/
  | oversized (required : UInt64)
  deriving DecidableEq, Repr

inductive TeardownError where
  | pacerTimeout (timeout : Nanos)
  deriving DecidableEq, Repr

def TeardownError.message : TeardownError → String
  | .pacerTimeout timeout => s!"Frame pacer did not stop within {timeout.unitText}"

inductive DecodeError where
  | notRunning
  | assembly (cause : AssemblyError)
  | rejected (cause : Status)
  | tooManyPictures (count : UInt32)
  deriving DecidableEq, Repr

def DecodeError.message : DecodeError → String
  | .notRunning => "decode unit submitted before video setup completed"
  | .assembly cause => cause.message
  | .rejected cause => s!"Hardware decoder rejected the unit: {cause.message}"
  | .tooManyPictures count => s!"Decoder returned {count} pictures for a single unit"

end AvcPipeline

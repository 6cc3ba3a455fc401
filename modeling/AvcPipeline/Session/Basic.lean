import AvcPipeline.Indicator
import AvcPipeline.Session.FramePacer

/-!
# Sessions

A `Session` is what a hardware decoder holds between its operations: how far it is set up, the
resources of each stage, the indicator, and the statistics over its whole life. Its `Capabilities`
are a word with the number of slices a frame may have in the top byte and single flags below.
-/

namespace AvcPipeline

structure Capabilities where
  bits : UInt32 := 0
  deriving DecidableEq, Repr

namespace Capabilities

def directSubmit : Capabilities := ⟨1⟩

def slicesPerFrame (slices : UInt8) : Capabilities := ⟨slices.toUInt32 <<< 24⟩

def union (a b : Capabilities) : Capabilities := ⟨a.bits ||| b.bits⟩

def contains (a b : Capabilities) : Bool := a.bits &&& b.bits = b.bits

def maxSlicesPerFrame (a : Capabilities) : UInt8 := (a.bits >>> 24).toUInt8

def session : Capabilities := (slicesPerFrame 2).union directSubmit

end Capabilities

structure SetupParams where
  format : UInt32 := 1
  width : UInt32
  height : UInt32
  rate : UInt32 := 60
  flags : UInt32 := 0
  deriving DecidableEq, Repr

inductive Outcome where
  | presented
  /-- Decoded, and left out to work off the quota. -/
  | dropped
  /-- Taken by the decoder without a picture so far. -/
  | pending
  | hidden
  deriving DecidableEq, Repr

structure Stats where
  submitted : Nat := 0
  presented : Nat := 0
  dropped : Nat := 0
  pending : Nat := 0
  hidden : Nat := 0
  needKeyframe : Nat := 0
  deriving DecidableEq, Repr

def Stats.record (s : Stats) : Outcome → Stats
  | .presented => { s with presented := s.presented + 1 }
  | .dropped => { s with dropped := s.dropped + 1 }
  | .pending => { s with pending := s.pending + 1 }
  | .hidden => { s with hidden := s.hidden + 1 }

structure DecoderMemory where
  block : MemoryBlock
  frame : FrameMemory
  info : DecoderInfo
  deriving DecidableEq, Repr

structure Session where
  config : VideoConfig := {}
  settings : PacerSettings := {}
  stage : Stage := .idle
  geometry : Option Geometry := none
  initInfo : Option InitInfo := none
  fixup : Option Fixup := none
  assembler : Option Assembler := none
  texture : Option Texture := none
  memory : Option DecoderMemory := none
  decoder : Option DecoderHandle := none
  pacer : Option FramePacer := none
  indicator : Indicator := {}
  stats : Stats := {}
  deriving DecidableEq, Repr

namespace Session

/-- The size of the surface that pictures are shown on, whatever the size of the stream. -/
def screenWidth : UInt32 := 960

def screenHeight : UInt32 := 544

def isRunning (s : Session) : Bool := s.stage = .running

def showIndicator (s : Session) : Session := { s with indicator := s.indicator.activate }

def hideIndicator (s : Session) : Session := { s with indicator := {} }

end Session
end AvcPipeline

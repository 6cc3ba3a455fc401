import AvcPipeline.ParameterSet.Reader
import AvcPipeline.ParameterSet.Writer

/-!
# Fitting parameter sets to the decoder

A stream whose parameter set restricts neither reordering nor buffering makes the decoder hold
frames back. A `Fixup` adapts the parameter sets of a session: it states a restriction that buffers
no more than the reference frames, and it fixes the level for two common picture sizes.
-/

namespace AvcPipeline

structure Fixup where
  width : UInt32
  height : UInt32
  /-- Whether a restriction is stated; otherwise the one in the stream is removed. -/
  restrict : Bool := true
  /-- The buffer that adapted units are written into, with what the last use left there. -/
  output : Bytes := []
  deriving DecidableEq, Repr, Inhabited

namespace Fixup

def level? (f : Fixup) : Option UInt8 :=
  if f.width = 1280 ∧ f.height = 720 then some 32
  else if f.width = 1920 ∧ f.height = 1080 then some 42
  else none

def newRestriction : Restriction where
  vectorsOverBoundaries := true
  log2MaxMvLengthHorizontal := 16
  log2MaxMvLengthVertical := 16

/-- Limits buffering to `refFrames` frames and keeps what the stream says of reordering. -/
def tighten (refFrames : UInt32) (r : Restriction) : Restriction :=
  { r with maxDecFrameBuffering := refFrames, maxBytesPerPicDenom := 2, maxBitsPerMbDenom := 1 }

def applyVui (f : Fixup) (refFrames : UInt32) (vui : Option Vui) : Option Vui :=
  if f.restrict then
    let vui := vui.getD {}
    some { vui with restriction := some (tighten refFrames (vui.restriction.getD newRestriction)) }
  else vui.map fun vui => { vui with restriction := none }

def apply (f : Fixup) (s : ParameterSet) : ParameterSet :=
  { s with levelIdc := f.level?.getD s.levelIdc, vui := f.applyVui s.maxNumRefFrames s.vui }

/-- The unit to send in place of a parameter set unit. It is written into the emptied output buffer;
a unit that cannot be read leaves the buffer as it was. -/
def fix (f : Fixup) (unit : Bytes) : Except ParameterSet.Error Bytes × Fixup :=
  match ParameterSet.ofUnit? unit with
  | .error e => (.error e, f)
  | .ok (header, s) =>
    let (written, output) := (f.apply s).appendUnit header []
    match written with
    | .error e => (.error (.unwritable e), { f with output })
    | .ok () => (.ok output, { f with output })

end Fixup
end AvcPipeline

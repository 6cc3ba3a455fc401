import AvcPipeline.Geometry
import AvcPipeline.ParameterSet.Fixup
import AvcPipeline.Text.Number

/-!
# Reports on parameter sets

What a parameter set says of its stream, the geometry that the decoder would be asked for, and what
fitting it to the decoder makes of it.
-/

namespace AvcPipeline.Analysis

structure Fixed where
  set : ParameterSet
  length : Nat
  deriving DecidableEq, Repr

structure Report where
  set : ParameterSet
  length : Nat
  fixed : Except ParameterSet.Error Fixed

/-- Fits a parameter set to a session of its own picture size. -/
def Report.ofUnit (unit : Bytes) (set : ParameterSet) : Report :=
  let fixup : Fixup := { width := set.width, height := set.height }
  { set, length := unit.length
    fixed := (fixup.fix unit).1.map fun adapted => ⟨fixup.apply set, adapted.length⟩ }

def profileName (profileIdc : UInt8) : String :=
  match profileIdc.toNat with
  | 66 => "Baseline"
  | 77 => "Main"
  | 88 => "Extended"
  | 100 => "High"
  | 110 => "High 10"
  | 122 => "High 4:2:2"
  | 244 => "High 4:4:4 Predictive"
  | other => s!"Unknown ({other})"

def restrictionText (set : ParameterSet) : String :=
  match set.vui.bind (·.restriction) with
  | none => "absent"
  | some r =>
    s!"max_dec_frame_buffering {r.maxDecFrameBuffering}, max_bytes_per_pic_denom {r.maxBytesPerPicDenom}, max_bits_per_mb_denom {r.maxBitsPerMbDenom}"

/-- A frame lasts two ticks. -/
def frameRateLines (set : ParameterSet) : List String :=
  match set.vui.bind (·.timing) with
  | none => []
  | some t =>
    if t.unitsInTick = 0 then []
    else
      let rate := Text.quotientText 3 t.timeScale.toNat (2 * t.unitsInTick.toNat)
      [s!"  Frame rate                {rate} fps"]

def geometryText (set : ParameterSet) : String :=
  match Geometry.negotiate? set.width set.height with
  | none => "unsupported"
  | some g => s!"{g.horizontal}x{g.vertical}"

def Fixed.lines (f : Fixed) (lengthBefore : Nat) : List String := [
  "  Fix-up",
  s!"    Level                   {f.set.levelText}",
  s!"    Bitstream restriction   {restrictionText f.set}",
  s!"    Size                    {lengthBefore} -> {f.length} bytes"]

def Report.lines (r : Report) : List String :=
  let s := r.set
  ["",
    s!"Sequence Parameter Set {s.id}",
    s!"  Profile                   {profileName s.profileIdc}",
    s!"  Level                     {s.levelText}",
    s!"  Coded size                {s.codedWidth}x{s.codedHeight}",
    s!"  Display size              {s.width}x{s.height}",
    s!"  Reference frames          {s.maxNumRefFrames}"]
  ++ frameRateLines s
  ++ [s!"  Hardware geometry         {geometryText s}",
    s!"  Bitstream restriction     {restrictionText s}"]
  ++ (match r.fixed with
    | .ok fixed => fixed.lines r.length
    | .error _ => [])
  ++ [""]

end AvcPipeline.Analysis

import AvcPipeline.Bits.Reader
import AvcPipeline.Bits.Writer
import AvcPipeline.Nal.Header

/-!
# What can be wrong with a parameter set
-/

namespace AvcPipeline.ParameterSet

inductive Error where
  | unit (cause : Nal.Error)
  | bits (cause : Bits.ReadError)
  | unexpectedType (unitType : UInt8)
  | idTooLarge (id : UInt32)
  | unknownChromaFormat (idc : UInt32)
  | unknownOrderCount (kind : UInt32)
  | cycleTooLong (length : UInt32)
  | tooManySchedules (countMinus1 : UInt32)
  | deltaOutOfRange (delta : Int32)
  | pictureTooLarge (widthInMbs heightInMapUnits : UInt32)
  | unwritable (cause : Bits.WriteError)
  deriving DecidableEq, Repr

def Error.message : Error → String
  | .unit cause => cause.message
  | .bits cause => cause.message
  | .unexpectedType t => s!"Expected a sequence parameter set NAL unit, got type {t}"
  | .idTooLarge id => s!"seq_parameter_set_id must be <= 31. Read {id}"
  | .unknownChromaFormat idc => s!"chroma_format_idc must be <= 3. Read {idc}"
  | .unknownOrderCount kind => s!"pic_order_cnt_type must be <= 2. Read {kind}"
  | .cycleTooLong length => s!"num_ref_frames_in_pic_order_cnt_cycle must be <= 255. Read {length}"
  | .tooManySchedules count => s!"cpb_cnt_minus1 must be <= 31. Read {count}"
  | .deltaOutOfRange delta => s!"delta_scale must be in -128..=127. Read {delta}"
  | .pictureTooLarge width height =>
    s!"Picture of {width}x{height} macroblocks exceeds every level limit"
  | .unwritable cause => cause.message

end AvcPipeline.ParameterSet

/-!
# The poor-network indicator

While it is active the indicator fades in and out: its alpha moves by four with every frame drawn,
and turns around where it would become zero.
-/

namespace AvcPipeline

structure Indicator where
  active : Bool := false
  alpha : UInt8 := 0
  rising : Bool := false
  deriving DecidableEq, Repr

namespace Indicator

def activate (i : Indicator) : Indicator := { i with active := true }

/-- One step of the ramp; the alpha wraps around. -/
def stepAlpha (rising : Bool) (alpha : UInt8) : UInt8 :=
  if rising then alpha + 4 else alpha - 4

/-- The alpha to draw now, and the indicator for the next frame. -/
def advance (i : Indicator) : Option UInt8 × Indicator :=
  if i.active then
    let alpha := stepAlpha i.rising i.alpha
    if alpha = 0 then
      (some i.alpha, { i with alpha := stepAlpha (!i.rising) 0, rising := !i.rising })
    else (some i.alpha, { i with alpha })
  else (none, i)

end Indicator
end AvcPipeline

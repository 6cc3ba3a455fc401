import AvcPipeline.DecodeUnit.Basic
import AvcPipeline.Nal.Header

/-!
# Grouping units into pictures

A `Grouper` collects the units of a byte stream. Once it holds picture data, the next unit that
opens an access unit completes the decode unit, which is numbered and emitted.
-/

namespace AvcPipeline

/-- Whether a unit that follows picture data opens a new access unit. Supplementary information,
parameter sets, delimiters and reserved types 14 to 18 do; picture data does when its first element,
the number of its first macroblock, is zero, which is written as a single one bit. -/
def Nal.Header.opensAccessUnit (h : Nal.Header) (payload : Bytes) : Bool :=
  if (6 ≤ h.unitType && h.unitType ≤ 9) || (14 ≤ h.unitType && h.unitType ≤ 18) then true
  else if h.isPicture then
    match payload with
    | [] => false
    | byte :: _ => 0x80 ≤ byte
  else false

structure Grouper where
  nextFrame : UInt32 := 0
  /-- The fragments collected so far, last first. -/
  held : List Fragment := []
  hasPicture : Bool := false
  hasRefresh : Bool := false
  deriving DecidableEq, Repr

namespace Grouper

def empty : Grouper := {}

def flush (g : Grouper) : Option DecodeUnit × Grouper :=
  if g.held.isEmpty then (none, g)
  else
    (some (.ofFragments g.nextFrame (if g.hasRefresh then .refresh else .predicted)
        g.held.reverse),
      { nextFrame := g.nextFrame + 1 })

def hold (g : Grouper) (header : Nal.Header) (unit : Bytes) : Grouper :=
  let kind := if header.unitType = Nal.parameterSetType then .parameterSet else .ordinary
  { g with
    held := ⟨kind, unit⟩ :: g.held
    hasPicture := g.hasPicture || header.isPicture
    hasRefresh := g.hasRefresh || header.unitType = Nal.refreshSliceType }

/-- Adds a unit with its start code and gives the decode unit that it completed. A unit without a
readable header is refused and changes nothing. -/
def push (g : Grouper) (unit : Bytes) : Except Nal.Error (Option DecodeUnit × Grouper) := do
  let (header, payload) ← Nal.split? unit
  let (completed, g) :=
    if g.hasPicture && header.opensAccessUnit payload then g.flush else (none, g)
  return (completed, g.hold header unit)

end Grouper
end AvcPipeline

import AvcPipeline.DecodeUnit.Basic
import AvcPipeline.ParameterSet.Fixup

/-!
# Assembling decode units

An `Assembler` joins the fragments of a unit in a buffer of fixed capacity, with parameter sets
replaced by their adapted form. A failed assembly leaves in the buffer the pieces before the one
that failed. Every assembly starts from an empty buffer.
-/

namespace AvcPipeline

inductive AssemblyError where
  | unitTooLarge (length capacity : Nat)
  | overflow (needed capacity : Nat)
  | fixup (cause : ParameterSet.Error)
  deriving DecidableEq, Repr

def AssemblyError.message : AssemblyError → String
  | .unitTooLarge length capacity => s!"Decode unit too large: {length} > {capacity} bytes"
  | .overflow needed capacity =>
    s!"Decode unit overflowed the {capacity} byte buffer while appending {needed} bytes"
  | .fixup cause => s!"Parameter set fix-up failed: {cause.message}"

def Fixup.piece (f : Fixup) (fragment : Fragment) : Except ParameterSet.Error Bytes × Fixup :=
  match fragment.kind with
  | .ordinary => (.ok fragment.data, f)
  | .parameterSet => f.fix fragment.data

structure Assembler where
  capacity : Nat
  buffer : Bytes := []
  deriving DecidableEq, Repr

namespace Assembler

def decoderCapacity : Nat := 92 * 1024

/-- No buffer is longer than half the addresses, whatever memory there is. -/
def maxCapacity : Nat := 1 <<< 63 - 1

/-- Gathers the pieces of the fragments while they fit. `done` holds the pieces so far, last first,
and `used` their total length. -/
def gather (capacity : Nat) (f : Fixup) (done : List Bytes) (used : Nat) :
    List Fragment → Except AssemblyError Unit × List Bytes × Fixup
  | [] => (.ok (), done.reverse, f)
  | fragment :: rest =>
    match f.piece fragment with
    | (.error e, f) => (.error (.fixup e), done.reverse, f)
    | (.ok piece, f) =>
      if capacity < used + piece.length then
        (.error (.overflow piece.length capacity), done.reverse, f)
      else gather capacity f (piece :: done) (used + piece.length) rest

def assemble (a : Assembler) (f : Fixup) (u : DecodeUnit) :
    Except AssemblyError Bytes × Assembler × Fixup :=
  if a.capacity < u.declaredLength then
    (.error (.unitTooLarge u.declaredLength a.capacity), { a with buffer := [] }, f)
  else
    let (outcome, pieces, f) := gather a.capacity f [] 0 u.fragments
    let buffer := pieces.flatten
    (outcome.map fun _ => buffer, { a with buffer }, f)

end Assembler
end AvcPipeline

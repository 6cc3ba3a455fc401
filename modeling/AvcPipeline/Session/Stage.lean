/-!
# Stages of a session

A session acquires its resources in six steps and releases them in the opposite order. The stage
tells how far it has come.
-/

namespace AvcPipeline

inductive Stage where
  | idle
  | format
  | frameBuffer
  | library
  | memory
  | decoder
  | running
  deriving DecidableEq, Repr

namespace Stage

/-- The stages above `idle`, in the order in which they are acquired. -/
def ladder : List Stage :=
  [.format, .frameBuffer, .library, .memory, .decoder, .running]

def rank : Stage → Nat
  | .idle => 0
  | .format => 1
  | .frameBuffer => 2
  | .library => 3
  | .memory => 4
  | .decoder => 5
  | .running => 6

def next? (s : Stage) : Option Stage := ladder[s.rank]?

def prev? (s : Stage) : Option Stage :=
  match s.rank with
  | 0 => none
  | below + 1 => (idle :: ladder)[below]?

/-- The stages acquired, newest first. -/
def held (s : Stage) : List Stage := (ladder.take s.rank).reverse

def label : Stage → String
  | .idle => "Uninitialized"
  | .format => "FormatReady"
  | .frameBuffer => "FrameBufferReady"
  | .library => "CodecLibraryReady"
  | .memory => "DecoderMemoryReady"
  | .decoder => "DecoderReady"
  | .running => "PacerRunning"

end Stage
end AvcPipeline

import AvcPipeline.Bits.Basic
import AvcPipeline.Geometry
import AvcPipeline.Log
import AvcPipeline.Pacing.Pacer
import AvcPipeline.Program
import AvcPipeline.Text.Number

/-!
# Calls to the device

`DeviceCall` lists what a session asks of the codec, of the display and of its host, each with the
type of its reply. The host has memory and threads to give, and carries the signals between a
session and the task that it started. `Call` adds the steps on the shared counters and the log. A
session operation is an `Action`: a program over these calls. `Call.interpreter` runs it on whatever
answers the calls of the device; what is logged is let go.
-/

namespace AvcPipeline

structure Status where
  code : UInt32
  deriving DecidableEq, Repr

def Status.message (s : Status) : String :=
  s!"hardware status {Text.hex 8 s.code.toNat}"

structure DecoderInfo where
  horizontal : UInt32
  vertical : UInt32
  refFrames : UInt32
  deriving DecidableEq, Repr

def InitInfo.decoderInfo (i : InitInfo) : DecoderInfo :=
  ⟨i.horizontal, i.vertical, i.refFrames⟩

structure MemoryBlock where
  uid : Int32
  size : UInt64
  deriving DecidableEq, Repr

structure FrameMemory where
  base : UInt64
  size : UInt64
  deriving DecidableEq, Repr

structure DecoderHandle where
  raw : UInt32
  deriving DecidableEq, Repr

/-! ## Units and pictures -/

structure Timestamp where
  upper : UInt32
  lower : UInt32
  deriving DecidableEq, Repr

def Timestamp.unknown : Timestamp := ⟨0xFFFFFFFF, 0xFFFFFFFF⟩

/-- What the decoder is given at once, with the times to present and to decode it. -/
structure AccessUnit where
  stream : Bytes
  pts : Timestamp
  dts : Timestamp
  deriving DecidableEq, Repr

def AccessUnit.untimed (stream : Bytes) : AccessUnit := ⟨stream, .unknown, .unknown⟩

inductive PixelFormat where
  | abgr8888
  deriving DecidableEq, Repr

def PixelFormat.bytesPerPixel : PixelFormat → UInt64
  | .abgr8888 => 4

def PixelFormat.decoderType : PixelFormat → UInt32
  | .abgr8888 => 0

/-- The surface that pictures are decoded into. All its bytes are equal, so that one of them, the
shade, stands for the picture. -/
structure Texture where
  id : UInt32
  width : UInt32
  height : UInt32
  format : PixelFormat := .abgr8888
  shade : UInt8 := 0
  deriving DecidableEq, Repr

/-- Where the decoder writes a picture, and what is there before. -/
structure PictureTarget where
  pixelType : UInt32
  pitch : UInt32
  width : UInt32
  height : UInt32
  byteCount : UInt64
  shade : UInt8
  deriving DecidableEq, Repr

namespace Texture

def byteCount (t : Texture) : UInt64 :=
  t.width.toUInt64 * t.height.toUInt64 * t.format.bytesPerPixel

def target (t : Texture) : PictureTarget :=
  ⟨t.format.decoderType, t.width, t.width, t.height, t.byteCount, t.shade⟩

end Texture

structure Colour where
  red : UInt8
  green : UInt8
  blue : UInt8
  alpha : UInt8
  deriving DecidableEq, Repr

def Colour.white (alpha : UInt8) : Colour := ⟨0xFF, 0xFF, 0xFF, alpha⟩

/-! ## Tasks -/

inductive TaskBody where
  /-- Samples the shared counters until it is told to stop. -/
  | pacer (config : VideoConfig) (interval : Nanos)
  | empty
  deriving DecidableEq, Repr

structure TaskHandle where
  number : Nat
  deriving DecidableEq, Repr

/-- One end of the channel on which a task waits to be told to stop. -/
structure StopSender where
  task : TaskHandle
  deriving DecidableEq, Repr

/-- The other end of the channel that a task closes when it is through. -/
structure DoneReceiver where
  task : TaskHandle
  deriving DecidableEq, Repr

inductive Signal where
  | message
  | disconnected
  | timedOut
  deriving DecidableEq, Repr

/-! ## Calls -/

inductive DeviceCall where
  | reserve (bytes : Nat)
  | initLibrary (info : InitInfo)
  | termLibrary
  | queryMemory (info : DecoderInfo)
  | allocate (name : String) (size : UInt64)
  | blockBase (block : MemoryBlock)
  | free (block : MemoryBlock)
  | createDecoder (memory : FrameMemory) (info : DecoderInfo)
  | deleteDecoder (decoder : DecoderHandle)
  | decode (decoder : DecoderHandle) (unit : AccessUnit) (target : PictureTarget)
  | createTexture (width height : UInt32) (format : PixelFormat)
  | freeTexture (texture : Texture)
  | startDrawing
  | drawTexture (texture : Texture) (x y : Int32)
  | drawText (x y : Int32) (colour : Colour) (size : UInt32) (text : String)
  | endDrawing
  | waitRenderingDone
  | swapBuffers
  | setVblankWait (on : Bool)
  | spawn (name : String) (stackSize : Nat) (body : TaskBody)
  | hangUp (sender : StopSender)
  | awaitDone (receiver : DoneReceiver) (timeout : Nanos)
  /-- Waits for the end of a task; the reply says whether it panicked. -/
  | join (task : TaskHandle)
  deriving DecidableEq, Repr

namespace DeviceCall

/-- The reply to a call. A decode gives the number of pictures and the texture's new shade. -/
def Reply : DeviceCall → Type
  | .initLibrary _ => Except Status Unit
  | .queryMemory _ => Except Status UInt64
  | .allocate _ _ => Except Status MemoryBlock
  | .blockBase _ => Except Status UInt64
  | .createDecoder _ _ => Except Status DecoderHandle
  | .decode _ _ _ => Except Status UInt32 × UInt8
  | .createTexture _ _ _ => Option Texture
  | .spawn _ _ _ => Except String TaskHandle
  | .awaitDone _ _ => Signal
  | .reserve _ | .join _ => Bool
  | .termLibrary | .free _ | .deleteDecoder _ | .freeTexture _ | .startDrawing | .drawTexture _ _ _
  | .drawText _ _ _ _ _ | .endDrawing | .waitRenderingDone | .swapBuffers | .setVblankWait _
  | .hangUp _ => Unit

end DeviceCall

inductive Call where
  | device (c : DeviceCall)
  | counter (op : CounterOp)
  | log (record : LogRecord)

def Call.Reply : Call → Type
  | .device c => c.Reply
  | .counter op => op.Reply
  | .log _ => Unit

abbrev Action := Program Call Call.Reply

namespace Action

def device (c : DeviceCall) : Action c.Reply := .perform (Call.device c)

def counter (op : CounterOp) : Action op.Reply := .perform (Call.counter op)

def log (level : LogLevel) (source : LogSource) (message : String) : Action Unit :=
  .perform (Call.log ⟨level, source, message⟩)

def reserve (bytes : Nat) : Action Bool := device (.reserve bytes)

def initLibrary (info : InitInfo) : Action (Except Status Unit) := device (.initLibrary info)

def termLibrary : Action Unit := device .termLibrary

def queryMemory (info : DecoderInfo) : Action (Except Status UInt64) := device (.queryMemory info)

def allocate (name : String) (size : UInt64) : Action (Except Status MemoryBlock) :=
  device (.allocate name size)

def blockBase (block : MemoryBlock) : Action (Except Status UInt64) := device (.blockBase block)

def free (block : MemoryBlock) : Action Unit := device (.free block)

def createDecoder (memory : FrameMemory) (info : DecoderInfo) :
    Action (Except Status DecoderHandle) :=
  device (.createDecoder memory info)

def deleteDecoder (decoder : DecoderHandle) : Action Unit := device (.deleteDecoder decoder)

def decode (decoder : DecoderHandle) (unit : AccessUnit) (target : PictureTarget) :
    Action (Except Status UInt32 × UInt8) :=
  device (.decode decoder unit target)

def createTexture (width height : UInt32) (format : PixelFormat) : Action (Option Texture) :=
  device (.createTexture width height format)

def freeTexture (texture : Texture) : Action Unit := device (.freeTexture texture)

def startDrawing : Action Unit := device .startDrawing

def drawTexture (texture : Texture) (x y : Int32) : Action Unit := device (.drawTexture texture x y)

def drawText (x y : Int32) (colour : Colour) (size : UInt32) (text : String) : Action Unit :=
  device (.drawText x y colour size text)

def endDrawing : Action Unit := device .endDrawing

def waitRenderingDone : Action Unit := device .waitRenderingDone

def swapBuffers : Action Unit := device .swapBuffers

def setVblankWait (on : Bool) : Action Unit := device (.setVblankWait on)

def spawn (name : String) (stackSize : Nat) (body : TaskBody) : Action (Except String TaskHandle) :=
  device (.spawn name stackSize body)

def hangUp (sender : StopSender) : Action Unit := device (.hangUp sender)

def awaitDone (receiver : DoneReceiver) (timeout : Nanos) : Action Signal :=
  device (.awaitDone receiver timeout)

def join (task : TaskHandle) : Action Bool := device (.join task)

def recordPresented : Action Unit := counter .recordPresented

def consumeDrop : Action Bool := counter .consumeDrop

def lastInterval : Action Interval := counter .lastInterval

def isActive : Action Bool := counter .isActive

def setActive (on : Bool) : Action Unit := counter (.setActive on)

def resetCounters : Action Unit := counter .reset

end Action

/-! ## Any device -/

abbrev AbstractDevice (σ : Type) := Interpreter DeviceCall DeviceCall.Reply σ

def Call.answer {σ : Type} (device : AbstractDevice σ) :
    (c : Call) → Counters × σ → c.Reply × Counters × σ
  | .device c, (counters, d) =>
    let (reply, d) := device.answer c d
    (reply, counters, d)
  | .counter op, (counters, d) =>
    let (reply, counters) := op.step counters
    (reply, counters, d)
  | .log _, state => ((), state)

def Call.interpreter {σ : Type} (device : AbstractDevice σ) :
    Interpreter Call Call.Reply (Counters × σ) where
  answer := Call.answer device

end AvcPipeline

import AvcPipeline.Device.Call
import AvcPipeline.Nal.ByteStream

/-!
# A simulated device

The simulated device keeps a ledger of what is held, an event log of acquisitions and releases, and
what was drawn. Calls can be made to fail. Its `interpreter` answers every call of a session.

A task is told to stop by hanging up on it. It looks at that only when it has read the time, for
which it needs its `stall`; a wait that is too short uses up that much of it.

The device works with words of 32 and 64 bits, and its numbers wrap around. `attempt` is the device
as it is built, with or without a check of its numbers: a call that would take one past its end is
then not answered. A session comes near an end only by the number of its identifiers, and before
that it cannot tell the two apart (`System.run_checked`).
-/

namespace AvcPipeline

/-- Where a call can be made to fail. The last two are the host's. -/
inductive FailPoint where
  | initLibrary
  | queryMemory
  | allocate
  | blockBase
  | createDecoder
  | decode
  | createTexture
  | spawn
  | reserve
  /-- The host has no thread to give, and answers with this error. -/
  | thread (error : String)
  deriving DecidableEq, Repr

def FailPoint.threadError? : FailPoint → Option String
  | .thread error => some error
  | _ => none

inductive Resource where
  | library
  | memoryBlock
  | decoder
  | texture
  | task
  deriving DecidableEq, Repr

def Resource.label : Resource → String
  | .library => "Library"
  | .memoryBlock => "MemBlock"
  | .decoder => "Decoder"
  | .texture => "Texture"
  | .task => "Task"

inductive LedgerEvent where
  | acquire (resource : Resource)
  | release (resource : Resource)
  deriving DecidableEq, Repr

structure Ledger where
  library : Bool := false
  memoryBlocks : Nat := 0
  decoders : Nat := 0
  textures : Nat := 0
  tasks : Nat := 0
  /-- The events so far, last first. -/
  history : List LedgerEvent := []
  lastId : UInt32 := 0
  lastBlockSize : UInt64 := 0
  deriving DecidableEq, Repr

structure Caption where
  x : Int32
  y : Int32
  colour : Colour
  text : String
  deriving DecidableEq, Repr

structure Screen where
  decodeCalls : Nat := 0
  presented : Nat := 0
  /-- Swaps made before rendering was done. -/
  unsyncedSwaps : Nat := 0
  renderPending : Bool := false
  /-- The texts drawn since drawing was last started, last first. -/
  captions : List Caption := []
  vblankWait : Bool := false
  deriving DecidableEq, Repr

structure Faults where
  failing : List FailPoint := []
  /-- The number of pictures that every successful decode reports. -/
  outputs : Option UInt32 := none
  memorySize : Option UInt64 := none
  /-- How long a task that is started now takes to look at the time. -/
  stall : Nanos := 0
  deriving DecidableEq, Repr

def Faults.threadError? (f : Faults) : Option String :=
  f.failing.findSome? FailPoint.threadError?

structure Task where
  handle : TaskHandle
  stall : Nanos
  stopping : Bool := false
  panicked : Bool := false
  deriving DecidableEq, Repr

structure Device where
  faults : Faults := {}
  ledger : Ledger := {}
  screen : Screen := {}
  /-- The tasks that nobody has joined and that have not ended, or ended in a panic. -/
  tasks : List Task := []
  started : Nat := 0
  counters : Counters := {}
  log : List LogRecord := []
  deriving DecidableEq, Repr

namespace Ledger

def events (l : Ledger) : List LedgerEvent := l.history.reverse

def isClean (l : Ledger) : Bool :=
  !l.library && l.memoryBlocks = 0 && l.decoders = 0 && l.textures = 0 && l.tasks = 0

def acquire (l : Ledger) (r : Resource) : Ledger :=
  let l := { l with history := .acquire r :: l.history }
  match r with
  | .library => { l with library := true }
  | .memoryBlock => { l with memoryBlocks := l.memoryBlocks + 1 }
  | .decoder => { l with decoders := l.decoders + 1 }
  | .texture => { l with textures := l.textures + 1 }
  | .task => { l with tasks := l.tasks + 1 }

/-- Counts a resource as given back and notes it, even if none was held. -/
def release (l : Ledger) (r : Resource) : Ledger :=
  let l := { l with history := .release r :: l.history }
  match r with
  | .library => { l with library := false }
  | .memoryBlock => { l with memoryBlocks := l.memoryBlocks - 1 }
  | .decoder => { l with decoders := l.decoders - 1 }
  | .texture => { l with textures := l.textures - 1 }
  | .task => { l with tasks := l.tasks - 1 }

/-- The next identifier. Blocks, decoders and textures are numbered together. -/
def nextId (l : Ledger) : UInt32 := l.lastId + 1

end Ledger

namespace Device

def failure : Status := ⟨0x80620001⟩

def fails (d : Device) (p : FailPoint) : Bool := p ∈ d.faults.failing

/-- The memory that a decoder needs: room for its reference frames and one more, and a fixed part.
-/
def memoryNeeded (info : DecoderInfo) : Nat :=
  info.horizontal.toNat * info.vertical.toNat * 3 / 2 * (info.refFrames.toNat + 1) + 0x42000

/-- The same in 64 bits. -/
def memorySize (info : DecoderInfo) : UInt64 :=
  info.horizontal.toUInt64 * info.vertical.toUInt64 * 3 / 2 * (info.refFrames.toUInt64 + 1) +
    0x42000

def baseOf (block : MemoryBlock) : UInt64 :=
  0x81000000 + block.uid.toInt64.toUInt64 * 0x01000000

def hasPicture (stream : Bytes) : Bool :=
  (Nal.units stream).any fun unit =>
    match Nal.split? unit with
    | .ok (header, _) => header.isPicture
    | .error _ => false

def acquireId (d : Device) (r : Resource) : UInt32 × Device :=
  let id := d.ledger.nextId
  (id, { d with ledger := { d.ledger.acquire r with lastId := id } })

def releaseOf (d : Device) (r : Resource) : Device :=
  { d with ledger := d.ledger.release r }

/-- The decode counter moves on also when the decode fails. A picture is filled with the number of
the decode call. -/
def decode (d : Device) (unit : AccessUnit) (target : PictureTarget) :
    (Except Status UInt32 × UInt8) × Device :=
  let calls := d.screen.decodeCalls + 1
  let d := { d with screen := { d.screen with decodeCalls := calls } }
  if d.fails .decode || unit.stream.isEmpty then ((.error failure, target.shade), d)
  else
    let outputs := d.faults.outputs.getD (if hasPicture unit.stream then 1 else 0)
    ((.ok outputs, if outputs = 0 then target.shade else UInt8.ofNat calls), d)

/-! ## Tasks -/

def task? (d : Device) (h : TaskHandle) : Option Task :=
  d.tasks.find? (·.handle = h)

def withoutTask (d : Device) (h : TaskHandle) : Device :=
  { d with tasks := d.tasks.filter (·.handle ≠ h) }

def changeTask (d : Device) (h : TaskHandle) (change : Task → Task) : Device :=
  { d with tasks := d.tasks.map fun t => if t.handle = h then change t else t }

def endTask (d : Device) (h : TaskHandle) : Device :=
  (d.releaseOf .task).withoutTask h

/-- The task is counted before a thread is asked for, and no more if there is none. -/
def spawn (d : Device) : Except String TaskHandle × Device :=
  if d.fails .spawn then (.error "simulated thread creation failure", d)
  else
    let counted := { d with ledger := d.ledger.acquire .task }
    match d.faults.threadError? with
    | some error => (.error error, counted.releaseOf .task)
    | none =>
      let handle : TaskHandle := ⟨d.started + 1⟩
      (.ok handle, { counted with
        started := d.started + 1
        tasks := d.tasks ++ [{ handle, stall := d.faults.stall }] })

/-- The channel of a task is closed when the task is through. -/
def awaitDone (d : Device) (h : TaskHandle) (timeout : Nanos) : Signal × Device :=
  match d.task? h with
  | none => (.disconnected, d)
  | some t =>
    if t.panicked then (.disconnected, d)
    else
      let waited := d.changeTask h fun t => { t with stall := t.stall - timeout }
      (if t.stopping && t.stall ≤ timeout then .disconnected else .timedOut, waited)

/-- Whatever is left to do for the task is done first. -/
def join (d : Device) (h : TaskHandle) : Bool × Device :=
  match d.task? h with
  | none => (false, d)
  | some t => if t.panicked then (true, d.withoutTask h) else (false, d.endTask h)

/-- A task that was told to stop ends while nobody waits for it. -/
def exitTask (d : Device) (h : TaskHandle) : Device :=
  match d.task? h with
  | some t => if t.stopping && !t.panicked then d.endTask h else d
  | none => d

/-! ## Answers -/

def answerDevice : (c : DeviceCall) → Device → c.Reply × Device
  | .reserve _, d => (!d.fails .reserve, d)
  | .initLibrary _, d =>
    if d.fails .initLibrary || d.ledger.library then (.error failure, d)
    else (.ok (), { d with ledger := d.ledger.acquire .library })
  | .termLibrary, d => ((), if d.ledger.library then d.releaseOf .library else d)
  | .queryMemory info, d =>
    if d.fails .queryMemory || !d.ledger.library then (.error failure, d)
    else (.ok (d.faults.memorySize.getD (memorySize info)), d)
  | .allocate _ size, d =>
    if d.fails .allocate then (.error failure, d)
    else
      let (id, d) := d.acquireId .memoryBlock
      (.ok ⟨id.toInt32, size⟩, { d with ledger := { d.ledger with lastBlockSize := size } })
  | .blockBase block, d =>
    (if d.fails .blockBase then .error failure else .ok (baseOf block), d)
  | .free _, d => ((), d.releaseOf .memoryBlock)
  | .createDecoder memory info, d =>
    if d.fails .createDecoder || memory.size < memorySize info then (.error failure, d)
    else
      let (id, d) := d.acquireId .decoder
      (.ok ⟨id⟩, d)
  | .deleteDecoder _, d => ((), d.releaseOf .decoder)
  | .decode _ unit target, d => d.decode unit target
  | .createTexture width height format, d =>
    if d.fails .createTexture then (none, d)
    else
      let (id, d) := d.acquireId .texture
      (some { id, width, height, format }, d)
  | .freeTexture _, d => ((), d.releaseOf .texture)
  | .startDrawing, d => ((), { d with screen := { d.screen with captions := [] } })
  | .drawTexture _ _ _, d => ((), d)
  | .drawText x y colour _ text, d =>
    let captions := ⟨x, y, colour, text⟩ :: d.screen.captions
    ((), { d with screen := { d.screen with captions } })
  | .endDrawing, d => ((), { d with screen := { d.screen with renderPending := true } })
  | .waitRenderingDone, d => ((), { d with screen := { d.screen with renderPending := false } })
  | .swapBuffers, d =>
    let unsynced := if d.screen.renderPending then 1 else 0
    ((), { d with screen := { d.screen with
      unsyncedSwaps := d.screen.unsyncedSwaps + unsynced
      presented := d.screen.presented + 1 } })
  | .setVblankWait on, d => ((), { d with screen := { d.screen with vblankWait := on } })
  | .spawn _ _ _, d => d.spawn
  | .hangUp sender, d => ((), d.changeTask sender.task fun t => { t with stopping := true })
  | .awaitDone receiver timeout, d => d.awaitDone receiver.task timeout
  | .join task, d => d.join task

def answer : (c : Call) → Device → c.Reply × Device
  | .device c, d => d.answerDevice c
  | .counter op, d =>
    let (reply, counters) := op.step d.counters
    (reply, { d with counters })
  | .log record, d => ((), { d with log := record :: d.log })

def interpreter : Interpreter Call Call.Reply Device where
  answer := answer

def simulated : AbstractDevice Device where
  answer c d := d.answerDevice c

/-! ## Limits -/

/-- What comes of a number that passes its end. -/
inductive Overflow where
  /-- The call gets no answer. -/
  | stops
  | wraps
  deriving DecidableEq, Repr

def Overflow.admits (o : Overflow) (fits : Bool) : Bool := o = .wraps || fits

/-- The most bytes that a texture can have, in any build. -/
def maxTextureBytes : UInt64 := 0x7FFFFFFFFFFFFFFF

def sizeFits (info : DecoderInfo) : Bool :=
  info.horizontal.toNat * info.vertical.toNat * 3 < UInt64.size && memoryNeeded info < UInt64.size

def idFits (d : Device) : Bool := d.ledger.lastId.toNat + 1 < UInt32.size

def textureFits (t : Texture) : Bool := t.width.toNat * t.height.toNat * 4 < UInt64.size

def canHold (o : Overflow) (t : Texture) : Bool :=
  o.admits (textureFits t) && t.byteCount ≤ maxTextureBytes

/-- Whether the numbers that the answer to a call takes fit, but for the bytes of a texture. A call
that is made to fail takes none. -/
def canAnswer (o : Overflow) (d : Device) : DeviceCall → Bool
  | .queryMemory info => d.fails .queryMemory || !d.ledger.library || o.admits (sizeFits info)
  | .allocate _ _ => d.fails .allocate || o.admits d.idFits
  | .blockBase block => d.fails .blockBase || o.admits (0 ≤ block.uid)
  | .createDecoder memory info => d.fails .createDecoder ||
    o.admits (sizeFits info && (memory.size < memorySize info || d.idFits))
  | .createTexture _ _ _ => d.fails .createTexture || o.admits d.idFits
  | _ => true

def canGive (o : Overflow) : (c : DeviceCall) → c.Reply → Bool
  | .createTexture _ _ _, some t => canHold o t
  | _, _ => true

/-- Answers a call if it can. A texture that cannot be made is counted as held all the same. -/
def attempt (o : Overflow) (d : Device) (c : DeviceCall) : Option c.Reply × Device :=
  if d.canAnswer o c then
    let (reply, after) := d.answerDevice c
    (if canGive o c reply then some reply else none, after)
  else (none, d)

end Device
end AvcPipeline

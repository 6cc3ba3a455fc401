import AvcPipeline.Session.Basic

/-!
# Setting a session up and tearing it down

`setup` climbs the ladder of stages; each step acquires its stage completely or not at all, and a
refused step is followed by the release of what was acquired before. Only a memory size that cannot
be rounded up ends a setup where it stands. `teardown` releases the stages held, newest first, and
stops if the pacer does not exit in time, so that it can be tried again.
-/

namespace AvcPipeline.Session

def formatMask : UInt32 := 0xF

def blockAlignment : UInt64 := 0x100000

/-- The size of the block for `size` bytes, which must leave room for a mebibyte more in 64 bits. -/
def blockSize? (size : UInt64) : Option UInt64 :=
  if size.toNat < UInt64.size - blockAlignment.toNat then
    some ((size + (blockAlignment - 1)) &&& ~~~(blockAlignment - 1))
  else none

def blockName : String := "decoder"

abbrev Result (ε : Type) := Except ε Unit × Session

def fail {ε : Type} (s : Session) (e : ε) : Action (Result ε) := return (.error e, s)

def refuse (s : Session) (e : SetupError) : Action (Result SetupFailure) := s.fail (.refused e)

def finish {ε : Type} (s : Session) : Action (Result ε) := return (.ok (), s)

def negotiate (s : Session) (p : SetupParams) : Action (Result SetupFailure) :=
  if p.format &&& formatMask = 0 then s.refuse (.unsupportedFormat p.format)
  else match Geometry.negotiate? p.width p.height with
    | none => s.refuse (.unsupportedGeometry p.width p.height)
    | some geometry => do
      if p.rate ≠ s.config.fps then
        Action.log .warn .lifecycle
          s!"Redraw rate {p.rate} Hz differs from the configured {s.config.fps} fps; pacing to {s.config.fps} fps"
      finish { s with
        fixup := some { width := p.width, height := p.height }
        initInfo := some geometry.initInfo
        geometry := some geometry }

/-- An empty assembler, if there can be a buffer of this capacity and the host has the memory. -/
def makeAssembler (capacity : Nat) : Action (Option Assembler) := do
  if Assembler.maxCapacity < capacity then return none
  if ← Action.reserve capacity then return some { capacity } else return none

def acquireFrameBuffer (s : Session) : Action (Result SetupFailure) := do
  match ← makeAssembler Assembler.decoderCapacity with
  | none => s.refuse .noBuffer
  | some assembler =>
    match ← Action.createTexture screenWidth screenHeight .abgr8888 with
    | none => s.refuse .noTexture
    | some texture => finish { s with assembler := some assembler, texture := some texture }

def acquireLibrary (s : Session) : Action (Result SetupFailure) :=
  match s.initInfo with
  | none => s.refuse (.alreadyAt s.stage)
  | some info => do
    match ← Action.initLibrary info with
    | .error e => s.refuse (.initLibrary e)
    | .ok () =>
      Action.log .info .lifecycle
        s!"Codec library initialized for {info.horizontal}x{info.vertical}, {info.refFrames} reference frames"
      s.finish

/-- A block whose base cannot be found is freed again at once. -/
def allocateMemory (s : Session) (info : DecoderInfo) (size : UInt64) :
    Action (Result SetupFailure) := do
  match ← Action.allocate blockName size with
  | .error e => s.refuse (.allocate size e)
  | .ok block =>
    match ← Action.blockBase block with
    | .error e =>
      Action.free block
      s.refuse (.blockBase e)
    | .ok base => finish { s with memory := some ⟨block, ⟨base, size⟩, info⟩ }

def acquireMemory (s : Session) : Action (Result SetupFailure) :=
  match s.initInfo with
  | none => s.refuse (.alreadyAt s.stage)
  | some init => do
    match ← Action.queryMemory init.decoderInfo with
    | .error e => s.refuse (.queryMemory e)
    | .ok required =>
      match blockSize? required with
      | none => s.fail (.oversized required)
      | some size => s.allocateMemory init.decoderInfo size

def acquireDecoder (s : Session) : Action (Result SetupFailure) :=
  match s.memory with
  | none => s.refuse (.alreadyAt s.stage)
  | some memory => do
    match ← Action.createDecoder memory.frame memory.info with
    | .error e => s.refuse (.createDecoder e)
    | .ok decoder => finish { s with decoder := some decoder }

def startPacer (s : Session) : Action (Result SetupFailure) := do
  match ← FramePacer.start s.config s.settings with
  | .error cause => s.refuse (.startPacer cause)
  | .ok pacer => finish { s with pacer := some pacer }

def acquire (s : Session) (p : SetupParams) : Stage → Action (Result SetupFailure)
  | .idle => s.finish
  | .format => s.negotiate p
  | .frameBuffer => s.acquireFrameBuffer
  | .library => s.acquireLibrary
  | .memory => s.acquireMemory
  | .decoder => s.acquireDecoder
  | .running => s.startPacer

def stopPacer (s : Session) : Action (Result TeardownError) :=
  match s.pacer with
  | none => s.finish
  | some pacer => do
    let (outcome, pacer) ← pacer.stop s.settings.shutdownTimeout
    match outcome with
    | .error e => fail { s with pacer := some pacer } e
    | .ok () => finish { s with pacer := none }

def release (s : Session) : Stage → Action (Result TeardownError)
  | .idle => s.finish
  | .format => finish { s with fixup := none, initInfo := none, geometry := none }
  | .frameBuffer => do
    if let some texture := s.texture then Action.freeTexture texture
    finish { s with texture := none, assembler := none }
  | .library => do
    Action.termLibrary
    s.finish
  | .memory => do
    if let some memory := s.memory then Action.free memory.block
    finish { s with memory := none }
  | .decoder => do
    if let some decoder := s.decoder then Action.deleteDecoder decoder
    finish { s with decoder := none }
  | .running => s.stopPacer

def descend (s : Session) : List Stage → Action (Result TeardownError)
  | [] => s.finish
  | stage :: rest => do
    let (outcome, s) ← s.release stage
    match outcome with
    | .error e => s.fail e
    | .ok () => descend { s with stage := stage.prev?.getD .idle } rest

def teardown (s : Session) : Action (Result TeardownError) :=
  s.descend s.stage.held

/-- Gives back what is held after a failed step and keeps the step's error. -/
def unwind (s : Session) (stage : Stage) (e : SetupError) : Action (Result SetupFailure) := do
  Action.log .error .lifecycle
    s!"Video setup failed at {stage.label}: {e.message} ({Text.hex 8 e.code.toNat})"
  let (outcome, s) ← s.teardown
  if let .error e := outcome then
    Action.log .error .lifecycle s!"Teardown after failed setup: {e.message}"
  s.refuse e

def climb (s : Session) (p : SetupParams) : List Stage → Action (Result SetupFailure)
  | [] => s.finish
  | stage :: rest => do
    let (outcome, s) ← s.acquire p stage
    match outcome with
    | .error (.refused e) => s.unwind stage e
    | .error (.oversized required) => s.fail (.oversized required)
    | .ok () => climb { s with stage := stage } p rest

def setup (s : Session) (p : SetupParams) : Action (Result SetupFailure) :=
  if s.stage ≠ .idle then s.refuse (.alreadyAt s.stage)
  else do
    Action.log .info .lifecycle
      s!"Video setup: format {Text.hex 4 p.format.toNat}, {p.width}x{p.height} @ {p.rate} Hz, flags {Text.hex 1 p.flags.toNat}"
    let (outcome, s) ← s.climb p Stage.ladder
    if let .ok () := outcome then Action.log .info .lifecycle "Video setup complete"
    return (outcome, s)

/-- A teardown on behalf of the streaming side. -/
def cleanup (s : Session) : Action (Result TeardownError) := do
  Action.log .info .lifecycle s!"Video cleanup from {s.stage.label}"
  s.teardown

/-- The end of a session's life: a last teardown, whatever comes of it. -/
def drop (s : Session) : Action Session := do
  let (outcome, s) ← s.teardown
  if let .error e := outcome then
    Action.log .error .lifecycle s!"Video decoder dropped with a live pacer: {e.message}"
  return s

end AvcPipeline.Session

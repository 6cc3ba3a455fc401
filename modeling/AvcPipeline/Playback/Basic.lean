import AvcPipeline.Playback.Delivery
import AvcPipeline.Session.Frame
import AvcPipeline.Session.Lifecycle
import AvcPipeline.Settings.Resolve
import AvcPipeline.Text.Number

/-!
# Playing a stream

A playback sets a session up for the size of the stream, submits the pictures that the stream
delivers, and tears the session down. A strict playback ends at the first unit that cannot be read
and at the first picture that cannot be decoded; a lenient one goes on after them.

A playback that waits long for the next picture shows the indicator until it comes. That draws
nothing and is over when the picture is submitted, so the waits are left out.
-/

namespace AvcPipeline.Playback

inductive Failure where
  | noParameterSet
  | parameterSet (cause : ParameterSet.Error)
  | setup (cause : SetupError)
  /-- The device asks for more memory than a block can have. -/
  | oversized (required : UInt64)
  | unreadable (index : Nat) (cause : Nal.Error)
  | keyframeRequested (frame : UInt32)
  | cleanup (cause : TeardownError)
  | resourcesHeld

def Failure.chain : Failure → List String
  | .noParameterSet => ["No sequence parameter set found; pass --width and --height"]
  | .parameterSet cause => [cause.message]
  | .setup cause =>
    [s!"Video setup failed with status {Text.hex 8 cause.code.toNat}: {cause.message}"]
  | .oversized required => [s!"The decoder cannot have {required} bytes of memory"]
  | .unreadable index cause => [s!"NAL unit {index}", cause.message]
  | .keyframeRequested frame => [s!"Decoder requested a keyframe at unit {frame}"]
  | .cleanup cause => ["Video cleanup failed", cause.message]
  | .resourcesHeld => ["Hardware resources still held after cleanup"]

def firstParameterSet? (stream : Bytes) : Option Bytes :=
  (Nal.units stream).find? fun unit =>
    match Nal.split? unit with
    | .ok (header, _) => header.unitType = Nal.parameterSetType
    | .error _ => false

/-- The size asked for, completed from the first parameter set of the stream. -/
def streamSize (args : Settings.PlayArgs) (stream : Bytes) : Except Failure (UInt32 × UInt32) :=
  match args.width, args.height with
  | some width, some height => .ok (width, height)
  | width, height =>
    match firstParameterSet? stream with
    | none => .error .noParameterSet
    | some unit =>
      match ParameterSet.ofUnit? unit with
      | .error e => .error (.parameterSet e)
      | .ok (_, set) => .ok (width.getD set.width, height.getD set.height)

/-- Submits what is delivered, up to the first problem if the playback is strict. -/
def submitAll (strict : Bool) (s : Session) : List Delivery → Action (Option Failure × Session)
  | [] => return (none, s)
  | .unreadable index e :: rest =>
    if strict then return (some (.unreadable index e), s)
    else do
      Action.log .warn .delivery s!"Skipping NAL unit {index}: {e.message}"
      submitAll strict s rest
  | .picture unit :: rest => do
    let (status, s) ← s.submit unit
    if strict && status = .needKeyframe then
      return (some (.keyframeRequested unit.frameNumber), s)
    submitAll strict s rest

/-- Ends the session of a playback, whatever stopped it. A session that cannot be torn down counts
for more than what stopped it. -/
def close (s : Session) (stopped : Option Failure) : Action (Except Failure Stats) := do
  Session.stop
  let (ended, after) ← s.teardown
  let _ ← after.drop
  match ended, stopped with
  | .error e, _ => return .error (.cleanup e)
  | .ok (), some failure => return .error failure
  | .ok (), none => return .ok s.stats

def play (strict : Bool) (settings : Settings.Resolved) (size : UInt32 × UInt32)
    (stream : Bytes) : Action (Except Failure Stats) := do
  let session : Session := { config := settings.video, settings := settings.pacer }
  let (outcome, s) ← session.setup
    { width := size.1, height := size.2, rate := settings.video.fps }
  match outcome with
  | .error e =>
    let _ ← s.drop
    return .error (match e with
      | .refused cause => .setup cause
      | .oversized required => .oversized required)
  | .ok () =>
    if let some g := s.geometry then
      Action.log .info .playback
        s!"Decoder ready: stream {g.width}x{g.height}, hardware {g.horizontal}x{g.vertical}"
    Session.start
    let (stopped, s) ← submitAll strict s (deliveries stream)
    close s stopped

/-! ## Summary -/

/-- Pictures per second over a span, zero if no time has passed. -/
def rateText (presented : Nat) (elapsed : Nanos) : String :=
  if elapsed = 0 then Text.quotientText 1 0 1
  else Text.quotientText 1 (presented * Nanos.perSecond) elapsed

def summaryLines (video : VideoConfig) (stats : Stats) (elapsed : Nanos) : List String := [
  "",
  "Playback Summary",
  s!"  Target rate               {video.fps} fps",
  s!"  Frame pacer               {video.pacing}",
  s!"  Units submitted           {stats.submitted}",
  s!"  Frames presented          {stats.presented}",
  s!"  Frames dropped            {stats.dropped}",
  s!"  Pending outputs           {stats.pending}",
  s!"  Keyframe requests         {stats.needKeyframe}",
  s!"  Elapsed                   {elapsed.clockText}",
  s!"  Presented rate            {rateText stats.presented elapsed} fps",
  ""]

end AvcPipeline.Playback

import AvcPipeline.Session.Basic

/-!
# Decoding and presenting

One decode unit is assembled, decoded into the texture, and then shown, dropped against the quota,
or hidden. Only a picture that is shown makes drawing calls.
-/

namespace AvcPipeline.Session

def rateText (i : Interval) : String := s!"fps: {i.decoded} / {i.vblanks}"

def icon : String := "⚠"

def drawRate (s : Session) : Action Unit :=
  if s.config.showRate then do
    let interval ← Action.lastInterval
    Action.drawText 40 20 (.white 0xFF) 16 (rateText interval)
  else return ()

def drawIcon : Option UInt8 → Action Unit
  | some alpha => Action.drawText 40 500 (.white alpha) 64 icon
  | none => return ()

def present (s : Session) (texture : Texture) : Action Session := do
  Action.startDrawing
  Action.drawTexture texture 0 0
  s.drawRate
  drawIcon s.indicator.advance.1
  Action.endDrawing
  Action.waitRenderingDone
  Action.swapBuffers
  return { s with indicator := s.indicator.advance.2 }

def showPicture (s : Session) (texture : Texture) : Action (Outcome × Session) := do
  if !(← Action.isActive) then return (.hidden, s)
  if ← Action.consumeDrop then return (.dropped, s)
  let s ← s.present texture
  Action.recordPresented
  return (.presented, s)

def decodeUnit (s : Session) (u : DecodeUnit) : Action (Except DecodeError Outcome × Session) := do
  if !s.isRunning then return (.error .notRunning, s)
  match s.assembler, s.fixup, s.texture, s.decoder with
  | some assembler, some fixup, some texture, some decoder =>
    let (assembled, assembler, fixup) := assembler.assemble fixup u
    let s := { s with assembler := some assembler, fixup := some fixup }
    match assembled with
    | .error e => return (.error (.assembly e), s)
    | .ok stream =>
      let (decoded, shade) ← Action.decode decoder (.untimed stream) texture.target
      let texture := { texture with shade }
      let s := { s with texture := some texture }
      match decoded with
      | .error e => return (.error (.rejected e), s)
      | .ok pictures =>
        if pictures = 0 then return (.ok .pending, s)
        if pictures ≠ 1 then return (.error (.tooManyPictures pictures), s)
        let (outcome, s) ← s.showPicture texture
        return (.ok outcome, s)
  | _, _, _, _ => return (.error .notRunning, s)

inductive SubmitStatus where
  | ok
  /-- The unit could not be decoded, and decoding should start over from a refresh picture. -/
  | needKeyframe
  | notRunning
  deriving DecidableEq, Repr

def submit (s : Session) (u : DecodeUnit) : Action (SubmitStatus × Session) := do
  let s := { s with stats := { s.stats with submitted := s.stats.submitted + 1 } }
  let (result, s) ← s.decodeUnit u
  match result with
  | .ok outcome => return (.ok, { s with stats := s.stats.record outcome })
  | .error .notRunning => return (.notRunning, s)
  | .error e =>
    let level := match e with
      | .tooManyPictures _ => .error
      | _ => .warn
    Action.log level .present s!"Frame {u.frameNumber}: {e.message}"
    return (.needKeyframe,
      { s with stats := { s.stats with needKeyframe := s.stats.needKeyframe + 1 } })

/-- Shows video again, with swaps that do not wait for the display. -/
def start : Action Unit := do
  Action.setActive true
  Action.setVblankWait false

/-- Stops showing video; decoding goes on. -/
def stop : Action Unit := do
  Action.setVblankWait true
  Action.setActive false

end AvcPipeline.Session

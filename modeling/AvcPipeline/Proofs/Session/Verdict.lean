import AvcPipeline.Proofs.Session.Outcome
import AvcPipeline.Proofs.Session.Renewal

/-!
# One unit, exactly

While the pacer takes no step, the assembly, the reply of the decoder and the shared counters decide
what a running session makes of a unit. `Verdict` has one case for each way out, with the calls of
the device that follow the decoding and the counters that are left: the quota is asked only while
video is shown, and only a picture that passed it is drawn. Nothing else of the session changes.
-/

namespace AvcPipeline.Session

open Program CallEvent

variable {s : Session} {texture : Texture} {σ : Type} {device : AbstractDevice σ} {c : Counters}
  {d : σ} {events : List CallEvent} {reply : Except Status UInt32}

/-- The calls of the device that show a picture, with the figures of this interval and the
indicator as they are wanted. -/
def showing (s : Session) (texture : Texture) (interval : Interval) : List DeviceEvent :=
  [⟨.startDrawing, ()⟩, ⟨.drawTexture texture 0 0, ()⟩] ++
    ((if s.config.showRate then
        [⟨.drawText 40 20 (.white 0xFF) 16 (rateText interval), ()⟩] else []) ++
    ((if s.indicator.active then
        [⟨.drawText 40 500 (.white s.indicator.alpha) 64 icon, ()⟩] else []) ++
    [⟨.endDrawing, ()⟩, ⟨.waitRenderingDone, ()⟩, ⟨.swapBuffers, ()⟩]))

/-- What becomes of a unit that the decoder answered with this reply, while these are the counters:
the result and the session, the calls that follow, and the counters then. -/
inductive Verdict (s : Session) (texture : Texture) (c : Counters) :
    Except Status UInt32 → Except DecodeError Outcome × Session → List DeviceEvent → Counters → Prop
  | rejected (e : Status) : Verdict s texture c (.error e) (.error (.rejected e), s) [] c
  | pending : Verdict s texture c (.ok 0) (.ok .pending, s) [] c
  | tooMany {pictures : UInt32} (hmany : 1 < pictures) :
    Verdict s texture c (.ok pictures) (.error (.tooManyPictures pictures), s) [] c
  | hidden (hhidden : c.active = false) : Verdict s texture c (.ok 1) (.ok .hidden, s) [] c
  | dropped (hshown : c.active = true) (hquota : 0 < c.quota) :
    Verdict s texture c (.ok 1) (.ok .dropped, s) [] { c with quota := c.quota - 1 }
  | presented (hshown : c.active = true) (hquota : c.quota = 0) :
    Verdict s texture c (.ok 1) (.ok .presented, s.drawn) (s.showing texture c.interval)
      { c with frames := c.frames + 1 }

/-! ## Drawing -/

theorem Verdict.keeps {result : Except DecodeError Outcome × Session} {calls : List DeviceEvent}
    {c' : Counters} (h : Verdict s texture c reply result calls c') :
    result.2 = { s with indicator := result.2.indicator } ∧ c'.published = c.published := by
  cases h <;> exact ⟨rfl, rfl⟩

end AvcPipeline.Session

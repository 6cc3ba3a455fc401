import AvcPipeline.Proofs.Device.Handles
import AvcPipeline.Proofs.Session.Frame

/-!
# What becomes of a unit

On any device a unit meets one gate after the other: it has to be assembled, to be taken by the
decoder, to give a single picture, video has to be shown, and the quota has to be used up. Each
relation below has one case for each way out, with the calls made up to there and the session that
is left. Only a picture that passes every gate is drawn, by the calls of `drawing`.
-/

namespace AvcPipeline.Session

open Program CallEvent

variable {s s' : Session} {u : DecodeUnit}

def rateDrawing (s : Session) (interval : Interval) : List CallEvent :=
  if s.config.showRate then
    [⟨.counter .lastInterval, interval⟩,
      ⟨.device (.drawText 40 20 (.white 0xFF) 16 (rateText interval)), ()⟩]
  else []

def iconDrawing : Option UInt8 → List CallEvent
  | some alpha => [⟨.device (.drawText 40 500 (.white alpha) 64 icon), ()⟩]
  | none => []

/-- The calls that show a picture, with the rate of this interval if it is wanted. -/
def drawing (s : Session) (texture : Texture) (interval : Interval) : List CallEvent :=
  ⟨.device .startDrawing, ()⟩ :: ⟨.device (.drawTexture texture 0 0), ()⟩ ::
    (s.rateDrawing interval ++ (iconDrawing s.indicator.advance.1 ++
      [⟨.device .endDrawing, ()⟩, ⟨.device .waitRenderingDone, ()⟩, ⟨.device .swapBuffers, ()⟩]))

def drawn (s : Session) : Session := { s with indicator := s.indicator.advance.2 }

inductive ShownBy (s : Session) (texture : Texture) : List CallEvent → Outcome × Session → Prop
  | hidden : ShownBy s texture [⟨.counter .isActive, false⟩] (.hidden, s)
  | dropped :
    ShownBy s texture [⟨.counter .isActive, true⟩, ⟨.counter .consumeDrop, true⟩] (.dropped, s)
  | presented (interval : Interval) :
    ShownBy s texture
      (⟨.counter .isActive, true⟩ :: ⟨.counter .consumeDrop, false⟩ ::
        (s.drawing texture interval ++ [⟨.counter .recordPresented, ()⟩]))
      (.presented, s.drawn)

inductive JudgedBy (s : Session) (texture : Texture) :
    Except Status UInt32 → List CallEvent → Except DecodeError Outcome × Session → Prop
  | rejected (e : Status) : JudgedBy s texture (.error e) [] (.error (.rejected e), s)
  | pending : JudgedBy s texture (.ok 0) [] (.ok .pending, s)
  | tooMany {pictures : UInt32} (hsome : pictures ≠ 0) (hmany : pictures ≠ 1) :
    JudgedBy s texture (.ok pictures) [] (.error (.tooManyPictures pictures), s)
  | single {events : List CallEvent} {outcome : Outcome} {s' : Session}
      (h : ShownBy s texture events (outcome, s')) :
    JudgedBy s texture (.ok 1) events (.ok outcome, s')

structure Ready (s : Session) (a : Assembler) (f : Fixup) (texture : Texture)
    (decoder : DecoderHandle) : Prop where
  stage : s.stage = .running
  assembler : s.assembler = some a
  fixup : s.fixup = some f
  texture : s.texture = some texture
  decoder : s.decoder = some decoder

def gathered (s : Session) (buffers : Assembler × Fixup) : Session :=
  { s with assembler := some buffers.1, fixup := some buffers.2 }

def pictured (s : Session) (texture : Texture) : Session := { s with texture := some texture }

inductive DecodedBy (s : Session) (u : DecodeUnit) :
    List CallEvent → Except DecodeError Outcome × Session → Prop
  | notRunning (h : s.stage ≠ .running) : DecodedBy s u [] (.error .notRunning, s)
  | unassembled {a : Assembler} {f : Fixup} {texture : Texture} {decoder : DecoderHandle}
      {e : AssemblyError} (hready : s.Ready a f texture decoder)
      (h : (a.assemble f u).1 = .error e) :
    DecodedBy s u [] (.error (.assembly e), s.gathered (a.assemble f u).2)
  | decoded {a : Assembler} {f : Fixup} {texture : Texture} {decoder : DecoderHandle}
      {stream : Bytes} {reply : Except Status UInt32} {shade : UInt8} {events : List CallEvent}
      {result : Except DecodeError Outcome × Session} (hready : s.Ready a f texture decoder)
      (h : (a.assemble f u).1 = .ok stream)
      (hjudged : JudgedBy ((s.gathered (a.assemble f u).2).pictured { texture with shade })
        { texture with shade } reply events result) :
    DecodedBy s u
      (⟨.device (.decode decoder (.untimed stream) texture.target), (reply, shade)⟩ :: events)
      result

/-! ## Programs -/

theorem drawRate_follows (s : Session) :
    s.drawRate.Follows fun events _ => ∃ interval, events = s.rateDrawing interval := by
  unfold drawRate rateDrawing
  split
  · exact follows_call fun interval => follows_call fun _ => ⟨interval, rfl⟩
  · exact follows_pure ⟨{}, rfl⟩

theorem drawIcon_follows (alpha : Option UInt8) :
    (drawIcon alpha).Follows fun events _ => events = iconDrawing alpha := by
  cases alpha with
  | none => exact follows_pure rfl
  | some alpha => exact follows_call fun _ => rfl

theorem present_follows (s : Session) (texture : Texture) :
    (s.present texture).Follows fun events s' =>
      ∃ interval, events = s.drawing texture interval ∧ s' = s.drawn := by
  refine follows_call fun _ => follows_call fun _ => ?_
  refine (drawRate_follows s).bind fun rate _ hrate => ?_
  refine (drawIcon_follows s.indicator.advance.1).bind fun mark _ hmark => ?_
  refine follows_call fun _ => follows_call fun _ => follows_call fun _ => follows_pure ?_
  obtain ⟨interval, rfl⟩ := hrate
  obtain rfl := hmark
  exact ⟨interval, rfl, rfl⟩

theorem showPicture_shownBy (s : Session) (texture : Texture) :
    (s.showPicture texture).Follows (ShownBy s texture) := by
  refine follows_call fun (active : Bool) => ?_
  cases active with
  | false => exact follows_pure .hidden
  | true =>
    refine follows_call fun (drop : Bool) => ?_
    cases drop with
    | true => exact follows_pure .dropped
    | false =>
      refine (present_follows s texture).bind fun events s' hpresent => ?_
      obtain ⟨interval, rfl, rfl⟩ := hpresent
      exact follows_call fun _ => follows_pure (.presented interval)

theorem exists_ready (h : s.Filled .running) (hstage : s.stage = .running) :
    ∃ a f texture decoder, s.Ready a f texture decoder := by
  obtain ⟨a, ha⟩ := Option.isSome_iff_exists.mp h.full.assembler
  obtain ⟨f, hf⟩ := Option.isSome_iff_exists.mp h.full.fixup
  obtain ⟨texture, htexture⟩ := Option.isSome_iff_exists.mp h.full.texture
  obtain ⟨decoder, hdecoder⟩ := Option.isSome_iff_exists.mp h.full.decoder
  exact ⟨a, f, texture, decoder, hstage, ha, hf, htexture, hdecoder⟩

/-- What is left of decoding once the decoder answered. -/
def judge (s : Session) (texture : Texture) :
    Except Status UInt32 → Action (Except DecodeError Outcome × Session)
  | .error e => return (.error (.rejected e), s)
  | .ok pictures =>
    if pictures = 0 then return (.ok .pending, s)
    else if pictures ≠ 1 then return (.error (.tooManyPictures pictures), s)
    else do
      let (outcome, s) ← s.showPicture texture
      return (.ok outcome, s)

theorem decodeUnit_eq {a : Assembler} {f : Fixup} {texture : Texture} {decoder : DecoderHandle}
    (hready : s.Ready a f texture decoder) (u : DecodeUnit) :
    s.decodeUnit u =
      match (a.assemble f u).1 with
      | .error e => return (.error (.assembly e), s.gathered (a.assemble f u).2)
      | .ok stream => Action.decode decoder (.untimed stream) texture.target >>= fun reply =>
        judge ((s.gathered (a.assemble f u).2).pictured { texture with shade := reply.2 })
          { texture with shade := reply.2 } reply.1 := by
  cases s
  obtain ⟨hstage, hassembler, hfixup, htexture, hdecoder⟩ := hready
  cases hstage
  cases hassembler
  cases hfixup
  cases htexture
  cases hdecoder
  unfold decodeUnit
  dsimp only
  generalize a.assemble f u = result
  obtain ⟨outcome, a', f'⟩ := result
  cases outcome with
  | error e => rfl
  | ok stream => rfl

theorem judge_judgedBy (s : Session) (texture : Texture) (reply : Except Status UInt32) :
    (s.judge texture reply).Follows (JudgedBy s texture reply) := by
  cases reply with
  | error e => exact follows_pure (.rejected e)
  | ok pictures =>
    by_cases hnone : pictures = 0
    · subst hnone
      exact follows_pure .pending
    · by_cases hsingle : pictures = 1
      · subst hsingle
        refine (showPicture_shownBy s texture).bind fun events result hshown => follows_pure ?_
        rw [List.append_nil]
        exact .single hshown
      · rw [judge, if_neg hnone, if_pos hsingle]
        exact follows_pure (.tooMany hnone hsingle)

theorem decodeUnit_of_not_running (h : s.stage ≠ .running) (u : DecodeUnit) :
    s.decodeUnit u = pure (.error .notRunning, s) := by
  have hidle : s.isRunning = false := decide_eq_false h
  rw [decodeUnit, hidle]
  rfl

theorem decodeUnit_decodedBy (h : s.Filled s.stage) (u : DecodeUnit) :
    (s.decodeUnit u).Follows (DecodedBy s u) := by
  by_cases hstage : s.stage = .running
  · obtain ⟨a, f, texture, decoder, hready⟩ := exists_ready (hstage ▸ h) hstage
    rw [decodeUnit_eq hready]
    cases hassemble : (a.assemble f u).1 with
    | error e => exact follows_pure (.unassembled hready hassemble)
    | ok stream =>
      refine follows_call fun reply => ?_
      exact (judge_judgedBy _ _ _).mono fun events result hjudged =>
        .decoded hready hassemble hjudged
  · rw [decodeUnit_of_not_running hstage]
    exact follows_pure (.notRunning hstage)

/-! ## Submitting -/

def counted (s : Session) : Session :=
  { s with stats := { s.stats with submitted := s.stats.submitted + 1 } }

def statusOf : Except DecodeError Outcome → SubmitStatus
  | .ok _ => .ok
  | .error .notRunning => .notRunning
  | .error _ => .needKeyframe

def concluded (s : Session) : Except DecodeError Outcome → Session
  | .ok outcome => { s with stats := s.stats.record outcome }
  | .error .notRunning => s
  | .error _ => { s with stats := { s.stats with needKeyframe := s.stats.needKeyframe + 1 } }

theorem run_submit {σ : Type} {i : Interpreter Call Call.Reply σ} {x x' : σ}
    {outcome : Except DecodeError Outcome}
    (h : (s.counted.decodeUnit u).run i x = ((outcome, s'), x')) :
    ∃ after, (s.submit u).run i x = ((statusOf outcome, s'.concluded outcome), after) ∧
      (after = x' ∨ ∃ record, after = (i.answer (.log record) x').2) := by
  change ∃ after, run i (s.counted.decodeUnit u >>= _) x = _ ∧ _
  rw [run_bind, h]
  cases outcome with
  | ok outcome => exact ⟨x', rfl, .inl rfl⟩
  | error e =>
    cases e with
    | notRunning => exact ⟨x', rfl, .inl rfl⟩
    | _ => exact ⟨_, rfl, .inr ⟨_, rfl⟩⟩

end AvcPipeline.Session

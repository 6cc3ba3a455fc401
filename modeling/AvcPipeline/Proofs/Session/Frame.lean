import AvcPipeline.Proofs.Session.Holdings
import AvcPipeline.Session.Frame

/-!
# Decoding leaves the holdings alone

Whatever the device replies, decoding and presenting make quiet calls only, and the session keeps
its stage and its resources: a buffer, a texture or a fixup may get new contents, but none appears
or goes.
-/

namespace AvcPipeline.Session

open Program

structure Keeps (s s' : Session) : Prop where
  stage : s'.stage = s.stage
  geometry : s'.geometry = s.geometry
  initInfo : s'.initInfo = s.initInfo
  memory : s'.memory = s.memory
  decoder : s'.decoder = s.decoder
  pacer : s'.pacer = s.pacer
  fixup : s'.fixup.isSome = s.fixup.isSome
  assembler : s'.assembler.isSome = s.assembler.isSome
  texture : s'.texture.isSome = s.texture.isSome

variable {s s' s'' : Session} {d d' : Device} {stage : Stage}

theorem Keeps.refl (s : Session) : s.Keeps s :=
  ⟨rfl, rfl, rfl, rfl, rfl, rfl, rfl, rfl, rfl⟩

theorem Keeps.trans (h : s.Keeps s') (h' : s'.Keeps s'') : s.Keeps s'' where
  stage := h'.stage.trans h.stage
  geometry := h'.geometry.trans h.geometry
  initInfo := h'.initInfo.trans h.initInfo
  memory := h'.memory.trans h.memory
  decoder := h'.decoder.trans h.decoder
  pacer := h'.pacer.trans h.pacer
  fixup := h'.fixup.trans h.fixup
  assembler := h'.assembler.trans h.assembler
  texture := h'.texture.trans h.texture

theorem Filled.keeps (h : s.Filled stage) (hkeeps : s.Keeps s') : s'.Filled stage where
  geometry := hkeeps.geometry ▸ h.geometry
  initInfo := hkeeps.initInfo ▸ h.initInfo
  fixup := hkeeps.fixup.trans h.fixup
  assembler := hkeeps.assembler.trans h.assembler
  texture := hkeeps.texture.trans h.texture
  memory := hkeeps.memory ▸ h.memory
  decoder := hkeeps.decoder ▸ h.decoder
  pacer := hkeeps.pacer ▸ h.pacer
  awaits := hkeeps.pacer ▸ h.awaits
  legal := hkeeps.initInfo ▸ h.legal

theorem Stands.keeps (h : Stands stage s d) (hkeeps : s.Keeps s')
    (hsame : d'.holdings = d.holdings) : Stands stage s' d' :=
  have hstands := h.congr hsame
  ⟨hstands.filled.keeps hkeeps, hstands.backs, hkeeps.pacer ▸ hstands.runs⟩

/-! ## Quiet programs -/

theorem draws_drawRate (s : Session) : s.drawRate.Ensures Call.Draws fun _ => True := by
  unfold drawRate
  split
  · refine ensures_call (by trivial) fun _ => ?_
    exact ensures_perform trivial fun _ => trivial
  · exact ensures_pure trivial

theorem draws_drawIcon (alpha : Option UInt8) :
    (drawIcon alpha).Ensures Call.Draws fun _ => True := by
  cases alpha with
  | none => exact ensures_pure trivial
  | some alpha => exact ensures_perform trivial fun _ => trivial

theorem draws_present (s : Session) (texture : Texture) :
    (s.present texture).Ensures Call.Draws fun s' => s.Keeps s' ∧ s'.stats = s.stats := by
  refine ensures_call (by trivial) fun _ => ?_
  refine ensures_call (by trivial) fun _ => ?_
  refine s.draws_drawRate.bind fun _ _ => ?_
  refine (draws_drawIcon _).bind fun _ _ => ?_
  refine ensures_call (by trivial) fun _ => ?_
  refine ensures_call (by trivial) fun _ => ?_
  refine ensures_call (by trivial) fun _ => ?_
  exact ensures_pure ⟨{ Keeps.refl s with }, rfl⟩

theorem showPicture_keeps (s : Session) (texture : Texture) :
    (s.showPicture texture).Ensures Call.Quiet fun result => s.Keeps result.2 := by
  refine ensures_call (by trivial) fun active => ?_
  split
  · exact ensures_pure (Keeps.refl s)
  · refine ensures_call (by trivial) fun drop => ?_
    split
    · exact ensures_pure (Keeps.refl s)
    · have hpresent := (s.draws_present texture).allow fun _ => Call.Draws.quiet
      refine hpresent.bind fun s' hkeeps => ?_
      refine ensures_call (by trivial) fun _ => ?_
      exact ensures_pure hkeeps.1

theorem decodeUnit_keeps (s : Session) (u : DecodeUnit) :
    (s.decodeUnit u).Ensures Call.Quiet fun result => s.Keeps result.2 := by
  unfold decodeUnit
  split
  · exact ensures_pure (Keeps.refl s)
  · split
    · rename_i assembler fixup texture decoder hassembler hfixup htexture hdecoder
      obtain ⟨assembled, assembler', fixup'⟩ := assembler.assemble fixup u
      have hgathered : s.Keeps { s with assembler := some assembler', fixup := some fixup' } :=
        { Keeps.refl s with
          fixup := by rw [hfixup]; rfl
          assembler := by rw [hassembler]; rfl }
      cases assembled with
      | error e => exact ensures_pure hgathered
      | ok stream =>
        refine ensures_call (by trivial) fun reply => ?_
        obtain ⟨decoded, shade⟩ := reply
        have hdecoded : s.Keeps { s with
            assembler := some assembler'
            fixup := some fixup'
            texture := some { texture with shade } } :=
          { hgathered with texture := by rw [htexture]; rfl }
        cases decoded with
        | error e => exact ensures_pure hdecoded
        | ok pictures =>
          dsimp only
          split
          · exact ensures_pure hdecoded
          · split
            · exact ensures_pure hdecoded
            · refine (showPicture_keeps _ _).bind fun result hkeeps => ?_
              exact ensures_pure (hdecoded.trans hkeeps)
    · exact ensures_pure (Keeps.refl s)

theorem submit_keeps (s : Session) (u : DecodeUnit) :
    (s.submit u).Ensures Call.Quiet fun result => s.Keeps result.2 := by
  unfold submit
  refine (decodeUnit_keeps _ u).bind fun result hkeeps => ?_
  obtain ⟨outcome, s'⟩ := result
  have hkept : s.Keeps s' := { hkeeps with }
  cases outcome with
  | ok outcome => exact ensures_pure { hkept with }
  | error e =>
    cases e with
    | notRunning => exact ensures_pure hkept
    | _ =>
      refine ensures_call (by trivial) fun _ => ?_
      exact ensures_pure { hkept with }

theorem quiet_start : start.Ensures Call.Quiet fun _ => True := by
  refine ensures_call (by trivial) fun _ => ?_
  exact ensures_perform trivial fun _ => trivial

theorem quiet_stop : stop.Ensures Call.Quiet fun _ => True := by
  refine ensures_call (by trivial) fun _ => ?_
  exact ensures_perform trivial fun _ => trivial

end AvcPipeline.Session

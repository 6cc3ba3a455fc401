import AvcPipeline.Device.Simulated
import AvcPipeline.Proofs.Device.Handles

/-!
# Runs on a device that refuses nothing

`On` says what a program on the simulated device ends in, which calls it makes, and how it leaves
the device. A simulated device none of whose calls is made to fail is `Willing`: it grants every
request, but for a library that is held already and a decoder that does not fit in its memory.
-/

namespace AvcPipeline

open CallEvent

namespace Program

/-- A run on this device ends in such a result, with such calls of the device, and leaves it so. -/
def On {α : Type} (p : Action α) (d : Device) (spec : α → List DeviceEvent → Device → Prop) :
    Prop :=
  let done := p.trace Device.interpreter d
  spec done.1.1 (deviceCalls done.1.2) done.2

variable {α β : Type} {d d' : Device} {spec : α → List DeviceEvent → Device → Prop}

theorem On.bind {p : Action α} {f : α → Action β} {goal : β → List DeviceEvent → Device → Prop}
    (hp : On p d spec)
    (hf : ∀ a calls d', spec a calls d' → On (f a) d' fun b more => goal b (calls ++ more)) :
    On (p >>= f) d goal := by
  have hrest := hf _ _ _ hp
  rw [On, trace_bind]
  rw [On, ← deviceCalls_append] at hrest
  exact hrest

end Program

namespace Device

/-- No call is made to fail, and the library is held or not. -/
structure Willing (library : Bool) (d : Device) : Prop where
  failing : d.faults.failing = []
  memorySize : d.faults.memorySize = none
  library : d.ledger.library = library

variable {d : Device} {library : Bool}

theorem Willing.not_fails (h : d.Willing library) (point : FailPoint) : d.fails point = false := by
  rw [fails, h.failing]
  rfl

theorem Willing.reserve (h : d.Willing library) (bytes : Nat) :
    d.answerDevice (.reserve bytes) = (true, d) := by
  rw [answerDevice, h.not_fails]
  rfl

theorem Willing.createTexture (h : d.Willing library) (width height : UInt32)
    (format : PixelFormat) : ∃ texture d',
      d.answerDevice (.createTexture width height format) = (some texture, d') ∧
        d'.Willing library := by
  rw [answerDevice, h.not_fails]
  exact ⟨_, _, rfl, { h with }⟩

theorem Willing.initLibrary (h : d.Willing false) (info : InitInfo) :
    ∃ d', d.answerDevice (.initLibrary info) = (.ok (), d') ∧ d'.Willing true := by
  rw [answerDevice, h.not_fails, h.library]
  exact ⟨_, rfl, { h with library := rfl }⟩

theorem Willing.queryMemory (h : d.Willing true) (info : DecoderInfo) :
    d.answerDevice (.queryMemory info) = (.ok (Device.memorySize info), d) := by
  rw [answerDevice, h.not_fails, h.library, h.memorySize]
  rfl

theorem Willing.allocate (h : d.Willing library) (name : String) (size : UInt64) :
    ∃ block d', d.answerDevice (.allocate name size) = (.ok block, d') ∧ d'.Willing library := by
  rw [answerDevice, h.not_fails]
  exact ⟨_, _, rfl, { h with }⟩

theorem Willing.blockBase (h : d.Willing library) (block : MemoryBlock) :
    d.answerDevice (.blockBase block) = (.ok (baseOf block), d) := by
  rw [answerDevice, h.not_fails]
  rfl

theorem Willing.createDecoder (h : d.Willing library) {memory : FrameMemory} {info : DecoderInfo}
    (hsize : Device.memorySize info ≤ memory.size) :
    ∃ decoder d', d.answerDevice (.createDecoder memory info) = (.ok decoder, d') ∧
      d'.Willing library := by
  rw [answerDevice, h.not_fails, decide_eq_false (UInt64.not_lt.mpr hsize)]
  exact ⟨_, _, rfl, { h with }⟩

theorem Willing.spawn (h : d.Willing library) (name : String) (stackSize : Nat) (body : TaskBody) :
    ∃ task d', d.answerDevice (.spawn name stackSize body) = (.ok task, d') ∧
      d'.Willing library := by
  have hthread : d.faults.threadError? = none := by rw [Faults.threadError?, h.failing]; rfl
  rw [answerDevice, Device.spawn, h.not_fails]
  dsimp only
  rw [hthread]
  exact ⟨_, _, rfl, { h with }⟩

end Device
end AvcPipeline

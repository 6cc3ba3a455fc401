import AvcPipeline.Device.Simulated
import AvcPipeline.Proofs.Device.Handles
import AvcPipeline.Proofs.Device.Ledger
import AvcPipeline.Session.Run

/-!
# The books of the simulated device

The ledger counts what is held and logs what happens beside it. Whatever calls are made on the
device, with handles that it gave or with any others, and whatever calls are made to fail, the
counts are those that the log gives when it is replayed. The identifiers given out are numbered by
the log too. A call that fails leaves the ledger as it was, but for one: a task is counted before
the host is asked for its thread, so that a host without a thread leaves two events behind.
-/

namespace AvcPipeline

/-! ## Replaying the log -/

def LedgerEvent.resource : LedgerEvent → Resource
  | .acquire r | .release r => r

/-- The count of a resource after an event. Nothing is counted below zero. -/
def LedgerEvent.tell (r : Resource) (count : Nat) : LedgerEvent → Nat
  | .acquire other => if other = r then count + 1 else count
  | .release other => if other = r then count - 1 else count

def tally (r : Resource) (events : List LedgerEvent) : Nat :=
  events.foldl (LedgerEvent.tell r) 0

def libraryEvents (events : List LedgerEvent) : List LedgerEvent :=
  events.filter (·.resource = .library)

def libraryTurn (i : Nat) : LedgerEvent :=
  if i % 2 = 0 then .acquire .library else .release .library

/-- The first `count` of an acquisition of the library, its release, the next acquisition, and so
on. -/
def libraryTurns (count : Nat) : List LedgerEvent :=
  (List.range count).map libraryTurn

def Resource.isNumbered : Resource → Bool
  | .memoryBlock | .decoder | .texture => true
  | .library | .task => false

def LedgerEvent.takesId : LedgerEvent → Bool
  | .acquire r => r.isNumbered
  | .release _ => false

def taken (events : List LedgerEvent) : Nat :=
  events.countP LedgerEvent.takesId

section

variable (r : Resource) (events : List LedgerEvent) (e : LedgerEvent)

theorem tally_concat : tally r (events ++ [e]) = e.tell r (tally r events) := by
  rw [tally, List.foldl_append]
  rfl

theorem libraryEvents_concat : libraryEvents (events ++ [e]) =
    if e.resource = .library then libraryEvents events ++ [e] else libraryEvents events := by
  rw [libraryEvents, List.filter_append]
  by_cases h : e.resource = .library
  · rw [if_pos h, List.filter_cons_of_pos (by simpa using h)]
    rfl
  · rw [if_neg h, List.filter_cons_of_neg (by simpa using h)]
    exact List.append_nil _

theorem taken_concat : taken (events ++ [e]) = taken events + e.takesId.toNat := by
  rw [taken, List.countP_append, List.countP_singleton]
  cases e.takesId <;> rfl

theorem taken_le_concat : taken events ≤ taken (events ++ [e]) := by
  rw [taken_concat]
  exact Nat.le_add_right _ _

end

theorem libraryTurns_succ (count : Nat) :
    libraryTurns (count + 1) = libraryTurns count ++ [libraryTurn count] := by
  rw [libraryTurns, List.range_succ, List.map_append]
  rfl

theorem tell_libraryTurn (i : Nat) : (libraryTurn i).tell .library (i % 2) = (i + 1) % 2 := by
  rcases Nat.mod_two_eq_zero_or_one i with h | h
  · rw [libraryTurn, if_pos h, LedgerEvent.tell, if_pos rfl]
    omega
  · rw [libraryTurn, if_neg (by omega), LedgerEvent.tell, if_pos rfl]
    omega

namespace Ledger

def live (l : Ledger) : Resource → Nat
  | .library => l.library.toNat
  | .memoryBlock => l.memoryBlocks
  | .decoder => l.decoders
  | .texture => l.textures
  | .task => l.tasks

variable {l l' : Ledger}

theorem live_acquire {r : Resource} (h : r = .library → l.library = false) (s : Resource) :
    (l.acquire r).live s = (LedgerEvent.acquire r).tell s (l.live s) := by
  cases r with
  | library => cases s <;> simp [acquire, live, LedgerEvent.tell, h rfl]
  | _ => cases s <;> rfl

theorem live_release (r s : Resource) :
    (l.release r).live s = (LedgerEvent.release r).tell s (l.live s) := by
  cases r with
  | library => cases s <;> cases h : l.library <;> simp [release, live, LedgerEvent.tell, h]
  | _ => cases s <;> rfl

theorem lastId_acquire (r : Resource) : (l.acquire r).lastId = l.lastId := by
  cases r <;> rfl

theorem lastId_release (r : Resource) : (l.release r).lastId = l.lastId := by
  cases r <;> rfl

/-! ## What the ledger keeps -/

/-- The ledger says what its log says. -/
structure Sound (l : Ledger) : Prop where
  live : ∀ r, l.live r = tally r l.events
  turns : libraryEvents l.events = libraryTurns (libraryEvents l.events).length
  library : l.live .library = (libraryEvents l.events).length % 2
  lastId : l.lastId = .ofNat (taken l.events)

/-- Everything that a call can do to the ledger, by whether it failed though the host had a thread
for it, and by the identifier that it gave. -/
inductive Enters (l : Ledger) : Bool → Option UInt32 → Ledger → Prop where
  | nothing {failed : Bool} : Enters l failed none l
  | acquired {r : Resource} (hplain : r.isNumbered = false)
      (hfree : r = .library → l.library = false) : Enters l false none (l.acquire r)
  | numbered {r : Resource} (hnumbered : r.isNumbered = true) (size : UInt64) :
      Enters l false (some l.nextId)
        { l.acquire r with lastId := l.nextId, lastBlockSize := size }
  | released {r : Resource} (hheld : r = .library → l.library = true) :
      Enters l false none (l.release r)
  | undone : Enters l false none ((l.acquire .task).release .task)

variable {failed : Bool} {id : Option UInt32}

theorem sound_empty : ({} : Ledger).Sound where
  live r := by cases r <;> rfl
  turns := rfl
  library := rfl
  lastId := rfl

/-- An event of the library has to be the one whose turn it is. -/
theorem Sound.concat {e : LedgerEvent} (h : l.Sound) (hevents : l'.events = l.events ++ [e])
    (hlive : ∀ r, l'.live r = e.tell r (l.live r))
    (hturn : e.resource = .library → e = libraryTurn (libraryEvents l.events).length)
    (hid : l'.lastId = l.lastId + .ofNat e.takesId.toNat) : l'.Sound where
  live r := by rw [hlive, h.live, hevents, tally_concat]
  turns := by
    rw [hevents, libraryEvents_concat]
    split
    next hlibrary =>
      rw [List.length_append, List.length_singleton, libraryTurns_succ, ← h.turns, hturn hlibrary]
    next => exact h.turns
  library := by
    rw [hlive, hevents, libraryEvents_concat]
    split
    next hlibrary =>
      rw [List.length_append, List.length_singleton, h.library, hturn hlibrary, tell_libraryTurn]
    next hother =>
      rw [← h.library]
      cases e <;> exact if_neg hother
  lastId := by rw [hid, h.lastId, hevents, taken_concat, UInt32.ofNat_add]

theorem Sound.libraryTurn_eq (h : l.Sound) : libraryTurn (libraryEvents l.events).length =
    if l.library then .release .library else .acquire .library := by
  have hlibrary : l.library.toNat = (libraryEvents l.events).length % 2 := h.library
  rw [libraryTurn, ← hlibrary]
  cases l.library <;> rfl

theorem Sound.acquired {r : Resource} (h : l.Sound) (hplain : r.isNumbered = false)
    (hfree : r = .library → l.library = false) : (l.acquire r).Sound := by
  refine h.concat (l.events_acquire r) (live_acquire hfree) ?_ ?_
  · rintro rfl
    rw [h.libraryTurn_eq, hfree rfl]
    rfl
  · rw [lastId_acquire, LedgerEvent.takesId, hplain]
    exact (UInt32.add_zero _).symm

theorem Sound.numbered {r : Resource} (h : l.Sound) (hnumbered : r.isNumbered = true)
    (size : UInt64) :
    Sound { l.acquire r with lastId := l.nextId, lastBlockSize := size } := by
  have hother : r ≠ .library := by
    rintro rfl
    cases hnumbered
  refine h.concat (l.events_acquire r) ?_ (absurd · hother) ?_
  · intro s
    rw [← live_acquire (absurd · hother) s]
    cases s <;> rfl
  · rw [LedgerEvent.takesId, hnumbered]
    rfl

theorem Sound.released {r : Resource} (h : l.Sound) (hheld : r = .library → l.library = true) :
    (l.release r).Sound := by
  refine h.concat (l.events_release r) (live_release r) ?_ ?_
  · rintro rfl
    rw [h.libraryTurn_eq, hheld rfl]
    rfl
  · rw [lastId_release]
    exact (UInt32.add_zero _).symm

theorem Sound.enters (h : l.Sound) (hstep : l.Enters failed id l') : l'.Sound := by
  cases hstep with
  | nothing => exact h
  | acquired hplain hfree => exact h.acquired hplain hfree
  | numbered hnumbered size => exact h.numbered hnumbered size
  | released hheld => exact h.released hheld
  | undone => exact (h.acquired (r := .task) rfl nofun).released nofun

theorem Enters.taken_le (hstep : l.Enters failed id l') : taken l.events ≤ taken l'.events := by
  cases hstep with
  | nothing => exact Nat.le_refl _
  | @acquired r =>
    rw [events_acquire]
    exact taken_le_concat _ _
  | @numbered r =>
    change taken l.events ≤ taken (l.acquire r).events
    rw [events_acquire]
    exact taken_le_concat _ _
  | @released r =>
    rw [events_release]
    exact taken_le_concat _ _
  | undone =>
    rw [events_release, events_acquire]
    exact Nat.le_trans (taken_le_concat _ _) (taken_le_concat _ _)

/-- An identifier that is given out is one more that was taken. -/
theorem Enters.identified {given : UInt32} (hstep : l.Enters failed (some given) l') :
    given = l'.lastId ∧ taken l'.events = taken l.events + 1 := by
  cases hstep with
  | @numbered r hnumbered size =>
    refine ⟨rfl, ?_⟩
    change taken (l.acquire r).events = taken l.events + 1
    rw [events_acquire, taken_concat, LedgerEvent.takesId, hnumbered, Bool.toNat_true]

end Ledger

/-- The number of a handle. That of a block is signed, and is taken as a word here. -/
def Handle.identifier? : Handle → Option UInt32
  | .block ⟨uid, _⟩ => some uid.toUInt32
  | .decoder ⟨raw⟩ => some raw
  | .texture t => some t.id
  | .library | .task _ => none

namespace DeviceEvent

def failed : DeviceEvent → Bool
  | ⟨.decode _ _ _, (.error _, _)⟩ => true
  | ⟨.awaitDone _ _, .timedOut⟩ => true
  | ⟨.join _, true⟩ => true
  | e => (refusal? e).isSome

def identifier? (e : DeviceEvent) : Option UInt32 :=
  (acquired? e).bind Handle.identifier?

end DeviceEvent

namespace Device

/-- What happens to a device. A task may end at any time, or panic. -/
inductive Move where
  | call (c : DeviceCall)
  | taskExit (task : TaskHandle)
  | taskPanic (task : TaskHandle)
  | incident (i : Incident)
  deriving DecidableEq, Repr

def move (o : Overflow) (d : Device) : Move → Device
  | .call c => (d.attempt o c).2
  | .taskExit task => if (d.task? task).any fun t => !t.panicked then d.endTask task else d
  | .taskPanic task => d.changeTask task fun t => { t with panicked := true }
  | .incident i => d.undergo i

def after (o : Overflow) (d : Device) (moves : List Move) : Device :=
  moves.foldl (move o) d

def hosts (d : Device) : DeviceCall → Bool
  | .spawn _ _ _ => d.faults.threadError?.isNone
  | _ => true

variable (d : Device) (o : Overflow)

theorem enters_answerDevice (c : DeviceCall) :
    let e : DeviceEvent := ⟨c, (d.answerDevice c).1⟩
    d.ledger.Enters (e.failed && d.hosts c) e.identifier? (d.answerDevice c).2.ledger := by
  cases c with
  | initLibrary info =>
    simp only [answerDevice]
    split
    next => exact .nothing
    next hgranted =>
      rw [Bool.or_eq_true, not_or, Bool.not_eq_true, Bool.not_eq_true] at hgranted
      exact .acquired (r := .library) rfl fun _ => hgranted.2
  | termLibrary =>
    simp only [answerDevice]
    split
    next hheld => exact .released (r := .library) fun _ => hheld
    next => exact .nothing
  | queryMemory info =>
    simp only [answerDevice]
    split <;> exact .nothing
  | allocate name size =>
    simp only [answerDevice]
    split
    next => exact .nothing
    next => exact .numbered (r := .memoryBlock) rfl size
  | createDecoder memory info =>
    simp only [answerDevice]
    split
    next => exact .nothing
    next => exact .numbered (r := .decoder) rfl _
  | decode decoder unit target =>
    simp only [answerDevice, decode]
    split <;> exact .nothing
  | createTexture width height format =>
    simp only [answerDevice]
    split
    next => exact .nothing
    next => exact .numbered (r := .texture) rfl _
  | spawn name stackSize body =>
    simp only [answerDevice, Device.spawn]
    split
    next => exact .nothing
    next =>
      split
      next hthread =>
        rw [hosts, hthread, Option.isNone_some, Bool.and_false]
        exact .undone
      next => exact .acquired (r := .task) rfl nofun
  | awaitDone receiver timeout =>
    simp only [answerDevice, awaitDone]
    split
    next => exact .nothing
    next => split <;> exact .nothing
  | join task =>
    simp only [answerDevice, join]
    split
    next => exact .nothing
    next =>
      split
      next => exact .nothing
      next => exact .released (r := .task) nofun
  | free block => exact .released (r := .memoryBlock) nofun
  | deleteDecoder decoder => exact .released (r := .decoder) nofun
  | freeTexture texture => exact .released (r := .texture) nofun
  | _ => exact .nothing

variable {d o} {c : DeviceCall} {e : DeviceEvent}

theorem enters_endTask (task : TaskHandle) (ends : Bool) : ∃ failed id,
    d.ledger.Enters failed id (if ends then d.endTask task else d).ledger := by
  cases ends with
  | true => exact ⟨_, _, .released (r := .task) nofun⟩
  | false => exact ⟨false, _, .nothing⟩

theorem enters_undergo (i : Incident) :
    ∃ failed id, d.ledger.Enters failed id (d.undergo i).ledger := by
  cases i with
  | lateExit task =>
    change ∃ failed id, d.ledger.Enters failed id (d.exitTask task).ledger
    unfold exitTask
    split
    · exact enters_endTask task _
    · exact ⟨false, _, .nothing⟩
  | _ => exact ⟨false, _, .nothing⟩

end Device
end AvcPipeline

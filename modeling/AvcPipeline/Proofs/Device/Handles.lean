import AvcPipeline.Device.Call
import AvcPipeline.Proofs.Program
import AvcPipeline.Session.Error

/-!
# Handles acquired and released

What a session holds of a device, by the handles that it was given. The calls of a run and their
replies tell which handles were acquired, which were released, and where a setup was refused.
`BreaksOff` is what the calls of a refused setup look like: requests in order, all granted but the
last, and then the release of everything held, newest first.
-/

namespace AvcPipeline

inductive Handle where
  | texture (texture : Texture)
  | library
  | block (block : MemoryBlock)
  | decoder (decoder : DecoderHandle)
  | task (task : TaskHandle)
  deriving DecidableEq, Repr

def Handle.release : Handle → DeviceCall
  | .texture t => .freeTexture t
  | .library => .termLibrary
  | .block b => .free b
  | .decoder d => .deleteDecoder d
  | .task t => .join t

inductive Request where
  | buffer
  | texture
  | library
  | memorySize
  | block
  | blockBase
  | decoder
  | task
  deriving DecidableEq, Repr

abbrev DeviceEvent := Program.Event DeviceCall DeviceCall.Reply

abbrev CallEvent := Program.Event Call Call.Reply

namespace CallEvent

def device? : CallEvent → Option DeviceEvent
  | ⟨.device c, reply⟩ => some ⟨c, reply⟩
  | _ => none

def counter? : CallEvent → Option CounterOp
  | ⟨.counter op, _⟩ => some op
  | _ => none

def deviceCalls (events : List CallEvent) : List DeviceEvent := events.filterMap device?

def counterSteps (events : List CallEvent) : List CounterOp := events.filterMap counter?

def ofDevice (e : DeviceEvent) : CallEvent := ⟨.device e.1, e.2⟩

def ofLog (record : LogRecord) : CallEvent := ⟨.log record, ()⟩

section

variable (calls : List DeviceEvent) (records : List LogRecord)

theorem deviceCalls_ofDevice : deviceCalls (calls.map ofDevice) = calls := by
  rw [deviceCalls, List.filterMap_map]
  exact List.filterMap_some

theorem deviceCalls_ofLog : deviceCalls (records.map ofLog) = [] := by
  rw [deviceCalls, List.filterMap_map]
  exact List.filterMap_eq_nil_iff.mpr fun _ _ => rfl

end

variable (events more : List CallEvent)

theorem deviceCalls_append :
    deviceCalls (events ++ more) = deviceCalls events ++ deviceCalls more :=
  List.filterMap_append

theorem counterSteps_append :
    counterSteps (events ++ more) = counterSteps events ++ counterSteps more :=
  List.filterMap_append

def countersAfter (c : Counters) : Counters :=
  (counterSteps events).foldl (fun c op => (op.step c).2) c

variable (record : LogRecord) (reply : (Call.log record).Reply)

theorem deviceCalls_concat_log :
    deviceCalls (events ++ [⟨.log record, reply⟩]) = deviceCalls events := by
  rw [deviceCalls_append]
  exact List.append_nil _

theorem countersAfter_append (c : Counters) :
    countersAfter (events ++ more) c = countersAfter more (countersAfter events c) := by
  rw [countersAfter, counterSteps_append, List.foldl_append]
  rfl

theorem countersAfter_concat_log (c : Counters) :
    countersAfter (events ++ [⟨.log record, reply⟩]) c = countersAfter events c := by
  rw [countersAfter_append]
  rfl

theorem countersAfter_trace {σ α : Type} (device : AbstractDevice σ) (p : Action α) (c : Counters)
    (d : σ) :
    let done := p.trace (Call.interpreter device) (c, d)
    done.2.1 = countersAfter done.1.2 c := by
  induction p generalizing c d with
  | done a => rfl
  | call call next ih =>
    rw [Program.trace_call]
    cases call with
    | device call => exact ih _ c _
    | counter op => exact ih _ _ d
    | log record => exact ih _ c d

theorem replays_deviceCalls {σ : Type} {device : AbstractDevice σ} {events : List CallEvent}
    {x x' : Counters × σ} (h : Program.Replays (Call.interpreter device) events x x') :
    Program.Replays device (deviceCalls events) x.2 x'.2 := by
  induction events generalizing x with
  | nil => exact congrArg Prod.snd h
  | cons e events ih =>
    obtain ⟨c, reply⟩ := e
    have hrest := ih h.2
    cases c with
    | device c => exact ⟨h.1, hrest⟩
    | counter op => exact hrest
    | log record => exact hrest

end CallEvent

namespace DeviceEvent

def request? : DeviceEvent → Option Request
  | ⟨.reserve _, _⟩ => some .buffer
  | ⟨.createTexture _ _ _, _⟩ => some .texture
  | ⟨.initLibrary _, _⟩ => some .library
  | ⟨.queryMemory _, _⟩ => some .memorySize
  | ⟨.allocate _ _, _⟩ => some .block
  | ⟨.blockBase _, _⟩ => some .blockBase
  | ⟨.createDecoder _ _, _⟩ => some .decoder
  | ⟨.spawn _ _ _, _⟩ => some .task
  | _ => none

/-- The error that a setup makes of a refused request. -/
def refusal? : DeviceEvent → Option SetupError
  | ⟨.reserve _, false⟩ => some .noBuffer
  | ⟨.createTexture _ _ _, none⟩ => some .noTexture
  | ⟨.initLibrary _, .error e⟩ => some (.initLibrary e)
  | ⟨.queryMemory _, .error e⟩ => some (.queryMemory e)
  | ⟨.allocate _ size, .error e⟩ => some (.allocate size e)
  | ⟨.blockBase _, .error e⟩ => some (.blockBase e)
  | ⟨.createDecoder _ _, .error e⟩ => some (.createDecoder e)
  | ⟨.spawn _ _ _, .error e⟩ => some (.startPacer e)
  | _ => none

def acquired? : DeviceEvent → Option Handle
  | ⟨.createTexture _ _ _, some texture⟩ => some (.texture texture)
  | ⟨.initLibrary _, .ok ()⟩ => some .library
  | ⟨.allocate _ _, .ok block⟩ => some (.block block)
  | ⟨.createDecoder _ _, .ok decoder⟩ => some (.decoder decoder)
  | ⟨.spawn _ _ _, .ok task⟩ => some (.task task)
  | _ => none

def released? : DeviceEvent → Option Handle
  | ⟨.freeTexture texture, _⟩ => some (.texture texture)
  | ⟨.termLibrary, _⟩ => some .library
  | ⟨.free block, _⟩ => some (.block block)
  | ⟨.deleteDecoder decoder, _⟩ => some (.decoder decoder)
  | ⟨.join task, _⟩ => some (.task task)
  | _ => none

theorem call_of_released {e : DeviceEvent} {h : Handle} (he : released? e = some h) :
    e.1 = h.release := by
  unfold released? at he
  split at he
  all_goals cases he
  all_goals rfl

def acquired (calls : List DeviceEvent) : List Handle :=
  (calls.filterMap acquired?).reverse

theorem acquired_append (calls more : List DeviceEvent) :
    acquired (calls ++ more) = acquired more ++ acquired calls := by
  rw [acquired, List.filterMap_append, List.reverse_append]
  rfl

end DeviceEvent

open DeviceEvent

/-- The calls make these requests in order, and each is granted. -/
structure Grants (requests : List Request) (calls : List DeviceEvent) : Prop where
  requests : calls.map request? = requests.map some
  granted : ∀ call ∈ calls, refusal? call = none

/-- The calls release these handles in order and do nothing else. -/
def Releases (handles : List Handle) (calls : List DeviceEvent) : Prop :=
  calls.map released? = handles.map some

/-- The calls make these requests in order until one is refused with the error `e`. Then they
release what they acquired, newest first, and after that what was held before. -/
def BreaksOff (requests : List Request) (held : List Handle) (calls : List DeviceEvent)
    (e : SetupError) : Prop :=
  ∃ asked refused undone, calls = asked ++ refused :: undone ∧
    (asked ++ [refused]).map request? <+: requests.map some ∧
    (∀ call ∈ asked, refusal? call = none) ∧ refusal? refused = some e ∧
    Releases (acquired asked ++ held) undone

/-- The calls make these requests in order, and each is granted, as far as the memory size, which is
reported to be `required`. -/
def StopsAt (requests : List Request) (calls : List DeviceEvent) (required : UInt64) : Prop :=
  ∃ asked later earlier info, requests = asked ++ later ∧ Grants asked calls ∧
    calls = earlier ++ [⟨.queryMemory info, .ok required⟩]

variable {requests more : List Request} {held : List Handle} {calls calls' : List DeviceEvent}
  {e : SetupError}

theorem grants_nil : Grants [] [] :=
  ⟨rfl, nofun⟩

theorem grants_one {request : Request} {call : DeviceEvent}
    (hrequest : request? call = some request) (hgranted : refusal? call = none) :
    Grants [request] [call] where
  requests := congrArg ([·]) hrequest
  granted := by
    intro other hother
    rw [List.mem_singleton.mp hother]
    exact hgranted

theorem Grants.append (h : Grants requests calls) (h' : Grants more calls') :
    Grants (requests ++ more) (calls ++ calls') where
  requests := by rw [List.map_append, List.map_append, h.requests, h'.requests]
  granted := by
    intro call hcall
    rcases List.mem_append.mp hcall with hcall | hcall
    · exact h.granted call hcall
    · exact h'.granted call hcall

theorem Releases.append {handles handles' : List Handle} (h : Releases handles calls)
    (h' : Releases handles' calls') : Releases (handles ++ handles') (calls ++ calls') := by
  rw [Releases, List.map_append, List.map_append, h, h']

theorem Releases.map_call {handles : List Handle} (h : Releases handles calls) :
    calls.map (·.1) = handles.map Handle.release := by
  induction handles generalizing calls with
  | nil => rw [List.map_eq_nil_iff.mp h]; rfl
  | cons handle handles ih =>
    obtain ⟨call, rest, rfl, hcall, hrest⟩ := List.map_eq_cons_iff.mp h
    rw [List.map_cons, List.map_cons, call_of_released hcall, ih hrest]

theorem breaksOff_first {request : Request} {call : DeviceEvent}
    (hrequest : request? call = some request) (hrefused : refusal? call = some e) :
    BreaksOff (request :: requests) [] [call] e := by
  refine ⟨[], call, [], rfl, ?_, nofun, hrefused, rfl⟩
  exact List.cons_prefix_cons.mpr ⟨hrequest, List.nil_prefix⟩

theorem BreaksOff.release (h : BreaksOff requests [] calls e) (hheld : Releases held calls')
    (more : List Request) : BreaksOff (requests ++ more) held (calls ++ calls') e := by
  obtain ⟨asked, refused, undone, rfl, hrequests, hgranted, hrefused, hundone⟩ := h
  rw [List.append_nil] at hundone
  have hmore : requests.map some <+: (requests ++ more).map some :=
    (List.prefix_append requests more).map some
  exact ⟨asked, refused, undone ++ calls', by simp only [List.append_assoc, List.cons_append],
    hrequests.trans hmore, hgranted, hrefused, hundone.append hheld⟩

theorem BreaksOff.after (hfirst : Grants more calls')
    (h : BreaksOff requests (acquired calls' ++ held) calls e) :
    BreaksOff (more ++ requests) held (calls' ++ calls) e := by
  obtain ⟨asked, refused, undone, rfl, hrequests, hgranted, hrefused, hundone⟩ := h
  refine ⟨calls' ++ asked, refused, undone, by simp only [List.append_assoc], ?_, ?_, hrefused, ?_⟩
  · have hasked : (calls' ++ asked ++ [refused]).map request? =
        more.map some ++ (asked ++ [refused]).map request? := by
      rw [List.append_assoc, List.map_append, hfirst.requests]
    have hmore : (more ++ requests).map some = more.map some ++ requests.map some :=
      List.map_append
    rw [hasked, hmore]
    exact (List.prefix_append_right_inj _).mpr hrequests
  · intro call hcall
    rcases List.mem_append.mp hcall with hcall | hcall
    · exact hfirst.granted call hcall
    · exact hgranted call hcall
  · rw [acquired_append, List.append_assoc]
    exact hundone

theorem StopsAt.after {required : UInt64} (hfirst : Grants more calls')
    (h : StopsAt requests calls required) :
    StopsAt (more ++ requests) (calls' ++ calls) required := by
  obtain ⟨asked, later, earlier, info, rfl, hgrants, rfl⟩ := h
  refine ⟨more ++ asked, later, calls' ++ earlier, info, ?_, hfirst.append hgrants, ?_⟩
  · rw [List.append_assoc]
  · rw [List.append_assoc]

theorem StopsAt.append {required : UInt64} (h : StopsAt requests calls required)
    (more : List Request) : StopsAt (requests ++ more) calls required := by
  obtain ⟨asked, later, earlier, info, rfl, hgrants, hcalls⟩ := h
  exact ⟨asked, later ++ more, earlier, info, List.append_assoc _ _ _, hgrants, hcalls⟩

theorem StopsAt.memorySize_mem {required : UInt64} (h : StopsAt requests calls required) :
    .memorySize ∈ requests := by
  obtain ⟨asked, later, earlier, info, rfl, hgrants, rfl⟩ := h
  have hlast : some Request.memorySize ∈ asked.map some := by
    rw [← hgrants.requests, List.map_append]
    exact List.mem_append_right _ List.mem_cons_self
  obtain ⟨request, hmem, hrequest⟩ := List.mem_map.mp hlast
  cases hrequest
  exact List.mem_append_left _ hmem

end AvcPipeline

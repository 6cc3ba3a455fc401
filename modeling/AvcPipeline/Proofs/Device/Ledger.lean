import AvcPipeline.Device.Simulated

/-!
# The ledger as a stack

`unmatched` replays the events of a ledger on a stack, where every release has to be of the resource
acquired last. `Holds` says that the replay ends with a stack and that the counts of the ledger are
the ones of that stack.
-/

namespace AvcPipeline

/-- What one event does to the stack of what is acquired and not released, newest first. -/
def settle : List Resource → LedgerEvent → Option (List Resource)
  | stack, .acquire r => some (r :: stack)
  | top :: stack, .release r => if top = r then some stack else none
  | [], .release _ => none

def unmatched (events : List LedgerEvent) : Option (List Resource) :=
  events.foldlM settle []

theorem unmatched_append_singleton (events : List LedgerEvent) (e : LedgerEvent) :
    unmatched (events ++ [e]) = (unmatched events).bind fun stack => settle stack e := by
  simp only [unmatched, List.foldlM_append, List.foldlM_cons, List.foldlM_nil, bind_pure]
  rfl

namespace Ledger

/-- The library is held at most once, the other resources any number of times. -/
def Holds (l : Ledger) (stack : List Resource) : Prop :=
  unmatched l.events = some stack ∧
    l.library = decide (.library ∈ stack) ∧ l.memoryBlocks = stack.count .memoryBlock ∧
    l.decoders = stack.count .decoder ∧ l.textures = stack.count .texture ∧
    l.tasks = stack.count .task

variable {l : Ledger} {stack : List Resource}

theorem holds_nil : ({} : Ledger).Holds [] :=
  ⟨rfl, rfl, rfl, rfl, rfl, rfl⟩

theorem events_acquire (l : Ledger) (r : Resource) :
    (l.acquire r).events = l.events ++ [.acquire r] := by
  cases r <;> exact List.reverse_cons

theorem events_release (l : Ledger) (r : Resource) :
    (l.release r).events = l.events ++ [.release r] := by
  cases r <;> exact List.reverse_cons

theorem Holds.acquire (h : l.Holds stack) (r : Resource) : (l.acquire r).Holds (r :: stack) := by
  obtain ⟨hevents, hlibrary, hblocks, hdecoders, htextures, htasks⟩ := h
  refine ⟨?_, ?_⟩
  · rw [events_acquire, unmatched_append_singleton, hevents]
    rfl
  · cases r <;> simp [Ledger.acquire, hlibrary, hblocks, hdecoders, htextures, htasks]

theorem Holds.release {r : Resource} (h : l.Holds (r :: stack))
    (honce : r = .library → .library ∉ stack) : (l.release r).Holds stack := by
  obtain ⟨hevents, hlibrary, hblocks, hdecoders, htextures, htasks⟩ := h
  refine ⟨?_, ?_⟩
  · rw [events_release, unmatched_append_singleton, hevents]
    exact if_pos rfl
  · cases r <;> simp_all [Ledger.release]

theorem Holds.isClean (h : l.Holds []) : l.isClean = true := by
  obtain ⟨-, hlibrary, hblocks, hdecoders, htextures, htasks⟩ := h
  simp [Ledger.isClean, hlibrary, hblocks, hdecoders, htextures, htasks]

end Ledger
end AvcPipeline

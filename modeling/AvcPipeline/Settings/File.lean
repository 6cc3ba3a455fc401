import AvcPipeline.Settings.Value

/-!
# The settings file

A settings file may give a value for each setting or leave it out. Keys that are not settings make
the file unreadable, as do keys given twice and values of the wrong type or range.
-/

namespace AvcPipeline.Settings

open Yaml

structure File where
  fps : Option UInt32 := none
  pacing : Option Bool := none
  showRate : Option Bool := none
  intervalMillis : Option UInt64 := none
  timeoutMillis : Option UInt64 := none
  deliveryFps : Option UInt32 := none
  deriving DecidableEq, Repr

abbrev Group := List (String × Node Nat)

/-- The text of a key, which is a scalar or stands for one. -/
def key? (d : Document) (node : Node Nat) : Option String := do
  match ← d.follow? node with
  | .scalar _ s => some s.text
  | _ => none

/-- The nodes of a mapping in which each of these keys stands at most once and no other does.
Nothing at all is an empty mapping. -/
def group? (d : Document) (keys : List String) (node : Node Nat) : Option Group := do
  match ← d.follow? node with
  | .mapping _ entries =>
    let named ← entries.mapM fun (key, node) => return (← key? d key, node)
    let found := named.map (·.1)
    if found.all (· ∈ keys) && found.Nodup then some named else none
  | .scalar _ ⟨.plain, ""⟩ => some []
  | _ => none

def subgroup? (d : Document) (keys : List String) (s : Group) (key : String) :
    Option Group :=
  group? d keys ((s.lookup key).getD .empty)

/-- The value under a key. It is absent if the key is left out or its node says so, and the whole
result is `none` if the node cannot be read. -/
def value? {α : Type} (d : Document) (read : Node Nat → Option α) (s : Group) (key : String) :
    Option (Option α) :=
  match s.lookup key with
  | none => some none
  | some node => do
    let node ← d.follow? node
    if ← isAbsent? node then some none else (read node).map some

def File.ofDocument? (d : Document) : Option File := do
  let top ← group? d ["video", "pacer", "delivery_fps"] d.root
  let video ← subgroup? d ["fps", "enable_frame_pacer", "show_fps"] top "video"
  let pacer ← subgroup? d ["interval_ms", "shutdown_timeout_ms"] top "pacer"
  return {
    fps := ← value? d word32? video "fps"
    pacing := ← value? d bool? video "enable_frame_pacer"
    showRate := ← value? d bool? video "show_fps"
    intervalMillis := ← value? d word64? pacer "interval_ms"
    timeoutMillis := ← value? d word64? pacer "shutdown_timeout_ms"
    deliveryFps := ← value? d word32? top "delivery_fps" }

def File.ofText? (text : String) : Option File :=
  (Document.ofText? text).bind File.ofDocument?

end AvcPipeline.Settings

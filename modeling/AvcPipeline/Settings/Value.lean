import AvcPipeline.Text.Number
import AvcPipeline.Yaml.Document

/-!
# Values of settings

How the scalars of a document are read as numbers and truth values, and which of them leave a
setting out. A plain scalar is read whatever its tag is; a block of lines only if its tag says what
it is.
-/

namespace AvcPipeline.Settings

open Yaml

def nullTexts : List String := ["~", "null", "Null", "NULL"]

/-- Whether a node leaves a setting out, and `none` if its tag says so and its text does not. -/
def isAbsent? : Node Nat → Option Bool
  | .scalar properties ⟨.plain, text⟩ =>
    match properties.tag with
    | none => some (text = "" || text ∈ nullTexts)
    | some tag =>
      if tag ≠ .standard "null" then some false else if text ∈ nullTexts then some true else none
  | _ => some false

def readable? (name : String) : Node Nat → Option String
  | .scalar _ ⟨.plain, text⟩ => some text
  | .scalar properties ⟨.literal, text⟩ =>
    if properties.tag = some (.standard name) then some text else none
  | _ => none

def bool? (node : Node Nat) : Option Bool := do
  let text ← readable? "bool" node
  if text ∈ ["true", "True", "TRUE"] then some true
  else if text ∈ ["false", "False", "FALSE"] then some false
  else none

/-- The number in a text: decimal without leading zeros, or after `0x`, `0o` or `0b`. A plus sign
may stand before it. -/
def numberIn? (text : String) : Option Nat :=
  let chars := match text.toList with
    | '+' :: rest => rest
    | chars => chars
  match chars with
  | '0' :: 'x' :: rest => Text.digits? 16 rest
  | '0' :: 'o' :: rest => Text.digits? 8 rest
  | '0' :: 'b' :: rest => Text.digits? 2 rest
  | '0' :: _ :: _ => none
  | chars => Text.digits? 10 chars

def numberBelow? (limit : Nat) (node : Node Nat) : Option Nat :=
  ((readable? "int" node).bind numberIn?).filter (· < limit)

def word32? (node : Node Nat) : Option UInt32 := (numberBelow? UInt32.size node).map UInt32.ofNat

def word64? (node : Node Nat) : Option UInt64 := (numberBelow? UInt64.size node).map UInt64.ofNat

end AvcPipeline.Settings

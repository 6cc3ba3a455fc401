import AvcPipeline.Yaml.Node

/-!
# Aliases

An anchor gets the number of anchor names known in front of it. A name that is given again is known
already, so its new number may be one that another name takes as well. An alias stands for the last
node with the number that its name has where the alias is written; that node may come after it.
-/

namespace AvcPipeline.Yaml

abbrev AnchorNumbers := List (String × Nat)

def AnchorNumbers.give (known : AnchorNumbers) (name : String) : AnchorNumbers :=
  (name, known.length) :: known.filter (·.1 ≠ name)

def Properties.number (known : AnchorNumbers) (p : Properties String) :
    Properties Nat × AnchorNumbers :=
  match p.anchor with
  | none => (⟨none, p.tag⟩, known)
  | some name => (⟨some known.length, p.tag⟩, known.give name)

namespace Node

mutual

/-- Numbers the anchors of a node, if all its aliases are known. -/
def number? (known : AnchorNumbers) : Node String → Option (Node Nat × AnchorNumbers)
  | .alias name => (known.lookup name).map fun n => (.alias n, known)
  | .scalar properties s =>
    let (properties, known) := properties.number known
    some (.scalar properties s, known)
  | .mapping properties entries => do
    let (properties, known) := properties.number known
    let (entries, known) ← numberAll? known entries
    return (.mapping properties entries, known)

def numberAll? (known : AnchorNumbers) : Entries String → Option (Entries Nat × AnchorNumbers)
  | [] => some ([], known)
  | (key, value) :: rest => do
    let (key, known) ← number? known key
    let (value, known) ← number? known value
    let (rest, known) ← numberAll? known rest
    return ((key, value) :: rest, known)

end

def properties {Name : Type} : Node Name → Properties Name
  | .alias _ => {}
  | .scalar properties _ | .mapping properties _ => properties

mutual

def anchored : Node Nat → List (Nat × Node Nat)
  | .alias _ => []
  | .scalar properties s =>
    properties.anchor.toList.map fun n => (n, .scalar properties s)
  | .mapping properties entries =>
    properties.anchor.toList.map (fun n => (n, .mapping properties entries)) ++ anchoredAll entries

def anchoredAll : Entries Nat → List (Nat × Node Nat)
  | [] => []
  | (key, value) :: rest => anchored key ++ anchored value ++ anchoredAll rest

end
end Node

structure Document where
  root : Node Nat
  deriving Repr

namespace Document

def ofText? (text : String) : Option Document := do
  let tokens ← Token.ofText? text
  let (root, _) ← (← Node.ofTokens? tokens).number? []
  return ⟨root⟩

/-- The node that an alias stands for; any other node stands for itself. -/
def follow? (d : Document) : Node Nat → Option (Node Nat)
  | .alias n => d.root.anchored.reverse.lookup n
  | node => some node

end Document
end AvcPipeline.Yaml

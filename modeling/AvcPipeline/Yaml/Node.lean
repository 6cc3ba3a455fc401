import AvcPipeline.Yaml.Token

/-!
# Documents

A document is a tree of mappings with scalars and aliases at its leaves. What is left out is an
empty plain scalar, and so is an empty document. A text holds one document at most.
-/

namespace AvcPipeline.Yaml

structure Properties (Name : Type) where
  anchor : Option Name := none
  tag : Option Tag := none
  deriving DecidableEq, Repr

/-- A node, whose anchors are told apart by `Name`. -/
inductive Node (Name : Type) where
  | alias (anchor : Name)
  | scalar (properties : Properties Name) (scalar : Scalar)
  | mapping (properties : Properties Name) (entries : List (Node Name × Node Name))
  deriving Repr

abbrev Entries (Name : Type) := List (Node Name × Node Name)

namespace Node

def emptyWith {Name : Type} (properties : Properties Name) : Node Name :=
  .scalar properties ⟨.plain, ""⟩

def empty {Name : Type} : Node Name := emptyWith {}

/-! ## Reading tokens -/

/-- Takes the properties in front of a node, an anchor and a tag in any order. -/
def takeProperties? (p : Prologue) : List Token → Option (Properties String × List Token)
  | .anchor name :: .tag tag :: rest | .tag tag :: .anchor name :: rest => do
    return (⟨some name, ← p.tag? tag⟩, rest)
  | .anchor name :: rest => some (⟨some name, none⟩, rest)
  | .tag tag :: rest => do return (⟨none, ← p.tag? tag⟩, rest)
  | tokens => some ({}, tokens)

mutual

def take? (p : Prologue) (fuel : Nat) (tokens : List Token) :
    Option (Node String × List Token) :=
  match fuel, tokens with
  | 0, _ => none
  | _, .alias name :: rest => some (.alias name, rest)
  | fuel + 1, tokens => do
    let (properties, rest) ← takeProperties? p tokens
    match rest with
    | .scalar s :: rest => some (.scalar properties s, rest)
    | .blockStart :: rest =>
      let (entries, rest) ← takeBlock? p fuel [] rest
      some (.mapping properties entries, rest)
    | .flowStart :: rest =>
      let (entries, rest) ← takeFlow? p fuel [] rest
      some (.mapping properties entries, rest)
    | rest => if properties = {} then none else some (emptyWith properties, rest)

/-- Takes a node that may be left out in front of these tokens. -/
def takeUnless? (p : Prologue) (fuel : Nat) (ends tokens : List Token) :
    Option (Node String × List Token) :=
  match fuel with
  | 0 => none
  | fuel + 1 => if tokens.head?.any (· ∈ ends) then some (empty, tokens) else take? p fuel tokens

def takeBlock? (p : Prologue) (fuel : Nat) (done : Entries String) (tokens : List Token) :
    Option (Entries String × List Token) :=
  match fuel, tokens with
  | _, .blockEnd :: rest => some (done.reverse, rest)
  | fuel + 1, .key :: rest => do
    let (key, rest) ← takeUnless? p fuel [.key, .value, .blockEnd] rest
    let (value, rest) ← match rest with
      | .value :: rest => takeUnless? p fuel [.key, .value, .blockEnd] rest
      | rest => some (empty, rest)
    takeBlock? p fuel ((key, value) :: done) rest
  | _, _ => none

/-- Takes the entries of a flow mapping up to its end. A value follows only where a key has been
marked as one. -/
def takeFlow? (p : Prologue) (fuel : Nat) (done : Entries String) (tokens : List Token) :
    Option (Entries String × List Token) :=
  match fuel, tokens with
  | _, .flowEnd :: rest => some (done.reverse, rest)
  | 0, _ => none
  | fuel + 1, tokens => do
    let (entry, rest) ← match tokens with
      | .key :: rest => do
        let (key, rest) ← takeUnless? p fuel [.value, .comma, .flowEnd] rest
        let (value, rest) ← match rest with
          | .value :: rest => takeUnless? p fuel [.comma, .flowEnd] rest
          | rest => some (empty, rest)
        some ((key, value), rest)
      | tokens => do
        let (key, rest) ← take? p fuel tokens
        some ((key, empty), rest)
    match rest with
    | .comma :: rest => takeFlow? p fuel (entry :: done) rest
    | .flowEnd :: rest => some ((entry :: done).reverse, rest)
    | _ => none

end

def takePrologue? (p : Prologue) : List Token → Option (Prologue × List Token)
  | .directive directive :: rest => do takePrologue? (← p.add? directive) rest
  | .documentStart :: rest => some (p, rest)
  | _ => none

def leavesDocument : List Token → Bool
  | [] | .directive _ :: _ | .documentStart :: _ | .documentEnd :: _ => true
  | _ => false

/-- The document of these tokens. Without a mark at its start it cannot end before it has begun.
Twice as many steps as there are tokens are enough for it. -/
def ofTokens? (tokens : List Token) : Option (Node String) := do
  let fuel := 2 * tokens.length + 2
  let (node, rest) ← match tokens with
    | [] => some (empty, [])
    | .directive _ :: _ | .documentStart :: _ => do
      let (p, rest) ← takePrologue? {} tokens
      if leavesDocument rest then some (empty, rest) else take? p fuel rest
    | tokens => take? {} fuel tokens
  if rest.all (· = .documentEnd) then some node else none

end Node
end AvcPipeline.Yaml

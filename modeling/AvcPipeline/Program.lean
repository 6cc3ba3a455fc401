/-!
# Programs that call their surroundings

A `Program` either is done or makes a call and goes on with the reply. What the calls do is left to
an `Interpreter` over a state of its own, so the same program can be run against a simulation, or
reasoned about for arbitrary replies. `trace` keeps the calls and their replies beside the result.
-/

namespace AvcPipeline

/-- A program over the calls `C`, where `R c` is the type of the reply to `c`. -/
inductive Program (C : Type) (R : C → Type) (α : Type) : Type where
  | done (result : α)
  | call (c : C) (next : R c → Program C R α)

structure Interpreter (C : Type) (R : C → Type) (σ : Type) where
  answer : (c : C) → σ → R c × σ

namespace Program

variable {C : Type} {R : C → Type} {α β σ : Type}

def bind : Program C R α → (α → Program C R β) → Program C R β
  | .done a, f => f a
  | .call c next, f => .call c fun r => (next r).bind f

instance : Monad (Program C R) where
  pure := .done
  bind := Program.bind

def perform (c : C) : Program C R (R c) :=
  .call c .done

def run (i : Interpreter C R σ) : Program C R α → σ → α × σ
  | .done a, s => (a, s)
  | .call c next, s =>
    let reply := i.answer c s
    run i (next reply.1) reply.2

abbrev Event (C : Type) (R : C → Type) := (c : C) × R c

def traceFrom (i : Interpreter C R σ) (done : List (Event C R)) :
    Program C R α → σ → (α × List (Event C R)) × σ
  | .done a, s => ((a, done.reverse), s)
  | .call c next, s =>
    let reply := i.answer c s
    traceFrom i (⟨c, reply.1⟩ :: done) (next reply.1) reply.2

def trace (i : Interpreter C R σ) (p : Program C R α) (s : σ) : (α × List (Event C R)) × σ :=
  traceFrom i [] p s

end Program
end AvcPipeline

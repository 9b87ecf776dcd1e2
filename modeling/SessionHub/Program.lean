/-!
# Programs that wait

A node does many things at once, and each of them is a **program**: a tree whose leaves are results
and whose inner nodes are what the program does next. It may look at the state it shares with the
others, or put another state in its place; both happen at once, and nothing else happens in
between. Or it may `call` — ask a question and wait for the answer. While it waits the state may
change under it.

So a *stretch* of a program, from one call to the next, is atomic by construction, and the calls
are the only points where programs interleave. Who answers a call, and when, is not part of the
program: a scheduler answers it in running, and a theorem may let it be answered in any way.
-/

namespace SessionHub

/-- A program over a state `σ` that asks questions `Q` with answers `A`. -/
inductive Program (σ Q : Type) (A : Q → Type) (α : Type) : Type where
  /-- The program is over. -/
  | done (result : α)
  /-- Goes on as the state demands. -/
  | look (next : σ → Program σ Q A α)
  /-- Puts another state in place. -/
  | put (state : σ) (next : Program σ Q A α)
  /-- Asks and waits. -/
  | call (question : Q) (resume : A question → Program σ Q A α)

namespace Program

variable {σ τ Q R : Type} {A : Q → Type} {B : R → Type} {α β : Type}

/-- One program, then another that knows the first one's result. -/
def bind : Program σ Q A α → (α → Program σ Q A β) → Program σ Q A β
  | .done a, f => f a
  | .look next, f => .look fun s => (next s).bind f
  | .put s next, f => .put s (next.bind f)
  | .call q resume, f => .call q fun a => (resume a).bind f

instance : Monad (Program σ Q A) where
  pure := .done
  bind := bind

/-- The state as it is now. -/
def get : Program σ Q A σ := .look .done

/-- A view of the state as it is now. -/
def view (f : σ → α) : Program σ Q A α := .look fun s => .done (f s)

/-- Changes the state. -/
def modify (f : σ → σ) : Program σ Q A Unit := .look fun s => .put (f s) (.done ())

/-- Changes the state and takes a result from it. -/
def update (f : σ → α × σ) : Program σ Q A α :=
  .look fun s => .put (f s).2 (.done (f s).1)

/-- Asks, and gives the answer. -/
def ask (q : Q) : Program σ Q A (A q) := .call q .done

/-- Runs a program over one part of a larger state, its questions answered by other programs. -/
def embed (part : τ → σ) (replace : σ → τ → τ) (answer : (q : Q) → Program τ R B (A q)) :
    Program σ Q A α → Program τ R B α
  | .done a => .done a
  | .look next => .look fun t => embed part replace answer (next (part t))
  | .put s next => .look fun t => .put (replace s t) (embed part replace answer next)
  | .call q resume => (answer q).bind fun a => embed part replace answer (resume a)

/-- The same program where other questions may be asked too. -/
def among (question : Q → R) (back : (q : Q) → B (question q) → A q) :
    Program σ Q A α → Program σ R B α
  | .done a => .done a
  | .look next => .look fun s => among question back (next s)
  | .put s next => .put s (among question back next)
  | .call q resume => .call (question q) fun b => among question back (resume (back q b))

/-- Does something for each of several things in turn. -/
def forEach (act : α → Program σ Q A Unit) : List α → Program σ Q A Unit
  | [] => .done ()
  | x :: rest => (act x).bind fun _ => forEach act rest

end Program

end SessionHub

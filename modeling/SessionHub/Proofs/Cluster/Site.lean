import SessionHub.Proofs.Cluster.Duties
import SessionHub.Proofs.Program.Pool
import SessionHub.Store.Memory

/-!
# A node and its store

Between a node and its store lies a way that every call takes twice: some time after it is made the
store gets to it, and some time after that the node is answered. So a call that waits may have taken
effect already or not, and calls that are made in one order may take effect in another.

A **site** is a node, its store and the clock, and what became of the calls so far: those that took
effect and when, and those that never did. `Node.afar` makes a program of the node one of the site.
All that such a program can see of the site is its node; so whatever conduct it keeps to at its node,
it keeps to afar.
-/

namespace SessionHub

/-- A call that took effect, and when. -/
structure Landing where
  time : Nat
  call : StoreCall
  deriving Repr, DecidableEq

/-- A node, its store and the clock, and what became of the calls, the earliest first. -/
structure Site where
  node : Node
  store : Store := {}
  now : Nat := 0
  landed : List Landing := []
  /-- The calls that came to nothing. -/
  lost : List StoreCall := []

namespace Site

/-- Changes the node. -/
def setNode (n : Node) (s : Site) : Site := { s with node := n }

/-- A call takes effect. -/
def land (call : StoreCall) (s : Site) : Site :=
  { s with
    store := (s.store.perform s.now call).2
    landed := s.landed ++ [⟨s.now, call⟩] }

/-- What a call is answered with that takes effect. -/
def reply (call : StoreCall) (s : Site) : call.Reply := (s.store.perform s.now call).1

/-- A call comes to nothing. -/
def lose (call : StoreCall) (s : Site) : Site := { s with lost := s.lost ++ [call] }

end Site

/-- A question on its way: out to whoever answers it, and the answer on its way back. -/
inductive Passage where
  | out (question : ClusterAsk)
  | back
  deriving Repr

/-- The answer is given before it is on its way back. -/
def Passage.Answer : Passage → Type
  | .out q => q.Answer
  | .back => Unit

/-- A store that does whatever it is asked. -/
def Site.oblige : (q : Passage) → Site → q.Answer × Site
  | .out (.store call), s => (.ok (s.reply call), s.land call)
  | .out (.together work), s => (work.length, s)
  | .back, s => ((), s)

/-- A program of a site. -/
abbrev SiteProgram (α : Type) := Program Site Passage Passage.Answer α

/-- A program of a node whose questions have some way to go. -/
def Node.afar {α : Type} (p : ClusterProgram α) : SiteProgram α :=
  p.embed Site.node Site.setNode fun q => .call (.out q) fun a => .call .back fun _ => .done a

theorem Node.afar_bind {α β : Type} (p : ClusterProgram α) (f : α → ClusterProgram β) :
    Node.afar (p >>= f) = Node.afar p >>= fun a => Node.afar (f a) :=
  Program.embed_bind p f

/-! ## Conduct -/

/-- Where a program of a site stands: as a program of the node does, and maybe with a question out. -/
inductive Station (γ : Type) where
  | here (g : γ)
  | away (g : γ)

/-- Where a program stands, wherever its question is. -/
def Station.stand {γ : Type} : Station γ → γ
  | .here g | .away g => g

/-- The conduct of programs of a site that keep to a conduct at the node. -/
def Conduct.afar {γ : Type} (C : Conduct Node ClusterAsk γ) : Conduct Site Passage (Station γ) where
  finds
    | .here g, s => C.finds g s.node
    | .away _, _ => True
  puts
    | .here g, s, s', .here g' => s' = s.setNode s'.node ∧ C.puts g s.node s'.node g'
    | _, _, _, _ => False
  asks
    | .here g, s, .out q, .away g' => C.asks g s.node q g'
    | .away g, _, .back, .here g' => g' = g
    | _, _, _, _ => False

/-- **A program keeps to its conduct afar.** -/
theorem Program.Heeds.afar {γ α : Type} {C : Conduct Node ClusterAsk γ}
    {ending : γ → Node → α → Prop} {p : ClusterProgram α} {g : γ} {s : Site}
    (h : p.Heeds C ending g s.node) :
    (Node.afar p).Heeds C.afar (fun x s a => ∃ g, x = .here g ∧ ending g s.node a) (.here g) s := by
  induction p generalizing g s with
  | done a => exact ⟨g, rfl, h⟩
  | look next ih => exact ih s.node h
  | put n next ih =>
    obtain ⟨g', put, rest⟩ := h
    exact ⟨.here g', ⟨rfl, put⟩, ih (s := s.setNode n) rest⟩
  | call q resume ih =>
    obtain ⟨g', ask, rest⟩ := h
    refine ⟨.away g', ask, fun a s₁ _ => ⟨.here g', rfl, fun _ s₂ found => ?_⟩⟩
    exact ih a (rest a s₂.node found)

end SessionHub

import SessionHub.Proofs.Hub.House

/-!
# The conduct of a hub's programs

Where a program of a hub *stands* is told by what it still owes: a session that it has let in has to
be told to the handler once, and so has a session whose end it has claimed. The conduct says what
may be put in place and asked on each stand. Nothing else separates the programs of a hub, so each
function of it is proved to keep to the conduct, and what follows for whole runs follows from the
conduct alone.
-/

namespace SessionHub

/-- Where a program of a hub stands. -/
structure Standing where
  /-- The session whose reader it serves. -/
  reads : Option SessionRef := none
  /-- The session that it has let in. -/
  hosts : Option SessionRef := none
  /-- Whether the handler has still to be told of the session that was let in. -/
  due : Bool := false
  /-- The session whose end it has claimed and has still to tell. -/
  owes : Option SessionRef := none
  /-- Whether that session's connection has been counted back. -/
  counted : Bool := false
  /-- The sessions that it has still to tear down. -/
  left : List SessionRef := []
  /-- Whether these are the last sessions of the node. -/
  last : Bool := false

namespace Node

/-- The node after the connection of a torn-down session was counted back. -/
def countBack (n : Node) : Node :=
  n.record fun j => (j.count .connectionsClosed).discount .connectionsActive

/-- A change that a program makes, and where it stands afterwards. -/
inductive Move (hs : Handlers) : Standing → Node → Node → Standing → Prop
  | aside {g : Standing} {n n' : Node} (c : Aside n n') : Move hs g n n' g
  | enrolled {g : Standing} {n n' : Node} {path : String} (free : g.hosts = none)
    (admits : n.closing.begun = false) (handled : hs.hasPath path) (e : Enrolled path n n') :
    Move hs g n n' { g with hosts := some n.floor.sessions.size, due := true }
  | began {g : Standing} {n : Node} (tracked : List JobRef) :
    Move hs g n { n with closing := { begun := true, tracked } } g
  | claimed {g : Standing} {n n' : Node} {r : SessionRef} (free : g.owes = none)
    (there : r < n.floor.sessions.size) (first : (n.session r).finished = false)
    (c : Claimed r n n') : Move hs g n n' { g with owes := some r, counted := false }
  | counted {g : Standing} {n : Node} {r : SessionRef} (owes : g.owes = some r)
    (uncounted : g.counted = false) : Move hs g n n.countBack { g with counted := true }

/-- A question that a program asks, and where it stands while it waits. -/
inductive Question (keys : KeyLayout) : Standing → Node → HubAsk → Standing → Prop
  | cluster {g : Standing} {n : Node} (ask : ClusterAsk) (free : g.owes = none) :
    Question keys g n (.cluster ask) g
  | jobs {g : Standing} {n : Node} (limit : Nat) (all : List JobRef) (free : g.owes = none) :
    Question keys g n (.jobs limit all) g
  | forget {g : Standing} {n : Node} {r : SessionRef} (owes : g.owes = some r)
    (uncounted : g.counted = false) : Question keys g n
      (.cluster (.store (.delete (keys.routeKey (n.session r).path (n.session r).id)))) g
  | opened {g : Standing} {n : Node} {r : SessionRef} (h : Handler) (limit : Nat)
    (free : g.owes = none) (hosts : g.hosts = some r) (due : g.due = true) :
    Question keys g n (.callback h limit r .opened) { g with due := false }
  | message {g : Standing} {n : Node} {r : SessionRef} (h : Handler) (limit : Nat) (text : String)
    (free : g.owes = none) (reads : g.reads = some r) :
    Question keys g n (.callback h limit r (.message text)) g
  | closed {g : Standing} {n : Node} {r : SessionRef} (h : Handler) (limit : Nat)
    (owes : g.owes = some r) (counted : g.counted = true) :
    Question keys g n (.callback h limit r .closed) { g with owes := none, counted := false }
  | error {g : Standing} {n : Node} (h : Handler) (limit : Nat) (r : SessionRef)
    (f : SessionFault) (free : g.owes = none) : Question keys g n (.callback h limit r (.error f)) g

/-- What a program counts on, where it stands. -/
structure Finds (hs : Handlers) (keys : KeyLayout) (g : Standing) (n : Node) : Prop where
  sound : Sound hs keys n
  reader : ∀ r, g.reads = some r → r < n.floor.sessions.size
  host : ∀ r, g.hosts = some r → r < n.floor.sessions.size
  debt : ∀ r, g.owes = some r → r < n.floor.sessions.size ∧ (n.session r).finished = true
  left : ∀ r ∈ g.left, r < n.floor.sessions.size
  last : g.last = true → n.closing.begun = true ∧ ∀ e ∈ n.floor.roster, e.2 ∈ g.left

/-- **The conduct of a hub's programs.** With a change a program may also go over to other sessions
that are left. -/
def conduct (hs : Handlers) (keys : KeyLayout) : Conduct Node HubAsk Standing where
  finds := Finds hs keys
  puts g n n' g' := Finds hs keys g' n' ∧
    ∃ g₁, Move hs g n n' g₁ ∧ g' = { g₁ with left := g'.left, last := g'.last }
  asks g n q g' := Finds hs keys g' n ∧ Question keys g n q g'

variable {hs : Handlers} {keys : KeyLayout} {g g' : Standing} {n n' : Node}

/-! ## What others do meanwhile -/

/-- What may be counted on of any change: sessions stay, ends stay claimed, and a node that stops
admits nobody. -/
structure Onward (n n' : Node) : Prop where
  size : n.floor.sessions.size ≤ n'.floor.sessions.size
  id : ∀ r < n.floor.sessions.size, (n'.session r).id = (n.session r).id
  path : ∀ r < n.floor.sessions.size, (n'.session r).path = (n.session r).path
  finished : ∀ r < n.floor.sessions.size, (n.session r).finished = true →
    (n'.session r).finished = true
  begun : n.closing.begun = true → n'.closing.begun = true
  roster : n.closing.begun = true → ∀ e ∈ n'.floor.roster, e ∈ n.floor.roster

theorem Aside.onward (c : Aside n n') : Onward n n' where
  size := Nat.le_of_eq c.floor.size.symm
  id r _ := c.floor.id r
  path r _ := c.floor.path r
  finished r _ done := (c.floor.finished r).trans done
  begun done := c.begun.trans done
  roster _ _ he := c.floor.roster.subset he

theorem Move.onward (m : Move hs g n n' g') : Onward n n' := by
  cases m with
  | aside c => exact c.onward
  | enrolled _ admits _ e =>
    refine ⟨?_, fun r there => ?_, fun r there => ?_, fun r there done => ?_, fun done => ?_,
      fun done => ?_⟩
    · rw [e.size]
      exact Nat.le_succ _
    · rw [e.others r there]
    · rw [e.others r there]
    · rw [e.others r there]
      exact done
    · exact e.begun.trans done
    · rw [admits] at done
      nomatch done
  | began tracked => exact ⟨Nat.le_refl _, fun _ _ => rfl, fun _ _ => rfl, fun _ _ done => done,
      fun _ => rfl, fun _ _ he => he⟩
  | @claimed _ r _ _ _ c =>
    refine ⟨Nat.le_of_eq c.size.symm, fun r' _ => c.id r', fun r' _ => c.path r', fun r' _ done => ?_,
      fun done => c.begun.trans done, fun _ _ he => c.roster.subset he⟩
    by_cases same : r' = r
    · rw [same]
      exact c.here
    · exact (c.others r' same).trans done
  | counted _ _ => exact ⟨Nat.le_refl _, fun _ _ => rfl, fun _ _ => rfl, fun _ _ done => done,
      fun done => done, fun _ _ he => he⟩

theorem Move.sound (m : Move hs g n n' g') (h : Sound hs keys n) : Sound hs keys n' := by
  cases m with
  | aside c => exact h.aside c
  | enrolled _ _ handled e => exact h.enrolled e handled
  | began tracked => exact ⟨h.handlers, h.keys, h.listed, h.fresh, h.distinct, h.handled⟩
  | claimed _ _ _ c => exact h.claimed c
  | counted _ _ => exact ⟨h.handlers, h.keys, h.listed, h.fresh, h.distinct, h.handled⟩

/-- **What a program counts on is kept by all changes** of others. -/
theorem Finds.onward (f : Finds hs keys g n) (o : Onward n n') (sound : Sound hs keys n') :
    Finds hs keys g n' where
  sound := sound
  reader r here := Nat.lt_of_lt_of_le (f.reader r here) o.size
  host r here := Nat.lt_of_lt_of_le (f.host r here) o.size
  debt r here := by
    obtain ⟨there, done⟩ := f.debt r here
    exact ⟨Nat.lt_of_lt_of_le there o.size, o.finished r there done⟩
  left r here := Nat.lt_of_lt_of_le (f.left r here) o.size
  last here := by
    obtain ⟨begun, all⟩ := f.last here
    exact ⟨o.begun begun, fun e he => all e (o.roster begun e he)⟩

theorem Finds.aside (f : Finds hs keys g n) (c : Aside n n') : Finds hs keys g n' :=
  f.onward c.onward (f.sound.aside c)

/-- A change aside is allowed on every stand. -/
theorem Finds.puts_aside (f : Finds hs keys g n) (c : Aside n n') :
    (conduct hs keys).puts g n n' g :=
  ⟨f.aside c, g, .aside c, rfl⟩

/-! ## The cluster's side -/

theorem asHub_bind {α β : Type} (p : ClusterProgram α) (f : α → ClusterProgram β) :
    asHub (p >>= f) = asHub p >>= fun a => asHub (f a) :=
  Program.among_bind p f

/-- The work that a hub's program does in the cluster is aside, unless it owes something. -/
theorem asHub_heeds {α : Type} {p : ClusterProgram α} (f : Finds hs keys g n)
    (free : g.owes = none) (h : p.ChangesBy Aside n) :
    (asHub p).Heeds (conduct hs keys) (fun g' n' _ => g' = g ∧ Finds hs keys g n') g n :=
  h.heeds_among (C := conduct hs keys) (I := Finds hs keys g)
    (fun _ _ f c => ⟨f.puts_aside c, f.aside c⟩) (fun _ ask f => ⟨f, .cluster ask free⟩)
    (fun _ f => f) f

theorem asHub_heeds_tended {α : Type} {p : ClusterProgram α} (f : Finds hs keys g n)
    (free : g.owes = none) (h : p.ChangesBy Tended n) :
    (asHub p).Heeds (conduct hs keys) (fun g' n' _ => g' = g ∧ Finds hs keys g n') g n :=
  asHub_heeds f free (h.mono fun _ _ => Tended.aside)

/-! ## Callbacks -/

theorem runCallback_heeds {h : Handler} {limit : Nat} {r : SessionRef} {o : Occasion}
    (f : Finds hs keys g' n) (ask : Question keys g n (.callback h limit r o) g') :
    (runCallback h limit r o).Heeds (conduct hs keys)
      (fun g'' n' _ => g'' = g' ∧ Finds hs keys g' n') g n := by
  refine ⟨g', ⟨f, ask⟩, fun ending n' f => ?_⟩
  refine ⟨g', f.puts_aside ?counted, rfl, f.aside ?counted⟩
  refine aside_record ?_
  dsimp only
  split <;> simp

theorem tellError_heeds {h : Handler} {limit : Nat} {r : SessionRef} {fault : SessionFault}
    (f : Finds hs keys g n) (free : g.owes = none) : (tellError h limit r fault).Heeds
      (conduct hs keys) (fun g' n' _ => g' = g ∧ Finds hs keys g n') g n := by
  unfold tellError
  rw [Program.heeds_view_bind]
  apply (runCallback_heeds f (.error h limit r fault free)).bind
  intro g' n' outcome after
  obtain ⟨rfl, f⟩ := after
  cases outcome with
  | ok => exact ⟨rfl, f⟩
  | error failure =>
    have noted : Aside n' (n'.record (·.complain "on_error handler failed"
        [("session_id", (n.session r).id.text), ("path", (n.session r).path),
          ("error", failure.message)])) := aside_record (by simp)
    exact ⟨g', f.puts_aside noted, rfl, f.aside noted⟩

/-- **A dispatch asks the handler**, for the path of the session has one. -/
theorem dispatch_heeds {handlers : Handlers} (same : handlers = hs) {limit : Nat} {r : SessionRef}
    {o : Occasion} (f : Finds hs keys g n) (there : r < n.floor.sessions.size)
    (f' : Finds hs keys g' n) (free : g'.owes = none)
    (ask : ∀ h, Question keys g n (.callback h limit r o) g') : (dispatch handlers limit r o).Heeds
      (conduct hs keys) (fun g'' n' _ => g'' = g' ∧ Finds hs keys g' n') g n := by
  subst same
  unfold dispatch handlerFor
  obtain ⟨h, found⟩ := Option.isSome_iff_exists.mp (f.sound.handled r there)
  rw [Program.heeds_bind, Program.heeds_view_bind, found, Program.heeds_pure]
  apply (runCallback_heeds f' (ask h)).bind
  intro g'' n' outcome after
  obtain ⟨rfl, f'⟩ := after
  cases outcome with
  | ok => exact ⟨rfl, f'⟩
  | error failure =>
    have noted : Aside n' (n'.record (·.warn "handler failed"
        [("session_id", (n'.session r).id.text), ("path", (n'.session r).path),
          ("event", o.event.text), ("error", failure.message)])) := aside_record (by simp)
    rw [Program.heeds_modify_bind]
    refine ⟨g'', f'.puts_aside noted, ?_⟩
    exact (tellError_heeds (f'.aside noted) free).bind fun _ _ _ h => h

theorem dispatchError_heeds {handlers : Handlers} {limit : Nat} {r : SessionRef}
    {fault : SessionFault} (f : Finds hs keys g n) (free : g.owes = none) :
    (dispatchError handlers limit r fault).Heeds (conduct hs keys)
      (fun g' n' _ => g' = g ∧ Finds hs keys g n') g n := by
  unfold dispatchError handlerFor
  rw [Program.heeds_bind, Program.heeds_view_bind]
  cases handlers.handler? (n.session r).path with
  | some h => exact tellError_heeds f free
  | none =>
    have noted : Aside n (n.record (·.warn "no handler for path"
        [("session_id", (n.session r).id.text), ("path", (n.session r).path)])) :=
      aside_record (by simp)
    exact ⟨g, f.puts_aside noted, rfl, f.aside noted⟩

/-! ## Ends -/

/-- Whoever owes a session may have its route deleted. -/
theorem forgetRoute_heeds {r : SessionRef} (f : Finds hs keys g n) (owes : g.owes = some r)
    (uncounted : g.counted = false) :
    (asHub (forgetRoute (n.session r).path (n.session r).id)).Heeds (conduct hs keys)
      (fun g' n' _ => g' = g ∧ Finds hs keys g n') g n := by
  refine ⟨g, ⟨f, ?_⟩, fun answer n' f => ?_⟩
  · rw [f.sound.keys]
    exact .forget owes uncounted
  · cases answer with
    | ok reply => exact ⟨g, f.puts_aside (aside_storeSucceeded n'), rfl, f.aside (aside_storeSucceeded n')⟩
    | error fault =>
      have failed := aside_storeFailed "delete_route" fault n'
      exact ⟨g, f.puts_aside failed, rfl, f.aside failed⟩

/-- The connection of the session that is owed is counted back, and the handler is told. -/
theorem tellClosed_heeds {handlers : Handlers} (same : handlers = hs) {limit : Nat}
    {r : SessionRef} (f : Finds hs keys g n) (owes : g.owes = some r) (uncounted : g.counted = false) :
    (do
      Program.modify countBack
      discard (dispatch handlers limit r .closed) : HubProgram Unit).Heeds (conduct hs keys)
        (fun g' n' _ => g' = { g with owes := none, counted := false } ∧ Finds hs keys g' n') g n := by
  have there := (f.debt r owes).1
  have m : Move hs g n n.countBack { g with counted := true } := .counted owes uncounted
  have f₁ : Finds hs keys { g with counted := true } n.countBack :=
    ⟨m.sound f.sound, f.reader, f.host, f.debt, f.left, f.last⟩
  have f₂ : Finds hs keys { g with owes := none, counted := false } n.countBack :=
    ⟨f₁.sound, f.reader, f.host, nofun, f.left, f.last⟩
  rw [Program.heeds_modify_bind]
  refine ⟨_, ⟨f₁, _, m, rfl⟩, ?_⟩
  refine (dispatch_heeds same f₁ there f₂ rfl fun h => .closed h limit owes rfl).discard ?_
  intro g' n' _ after
  obtain ⟨rfl, f⟩ := after
  exact ⟨rfl, f⟩

/-- What is left to do for whoever has claimed a session's end. -/
theorem tearDown_heeds {r : SessionRef} (f : Finds hs keys g n) (owes : g.owes = some r)
    (uncounted : g.counted = false) :
    (do
      let n ← Program.get
      let s := n.session r
      if n.inCluster then discard (asHub (forgetRoute s.path s.id))
      Program.modify countBack
      discard (dispatch n.handlers n.config.handlerTimeout r .closed) : HubProgram Unit).Heeds
        (conduct hs keys)
        (fun g' n' _ => g' = { g with owes := none, counted := false } ∧ Finds hs keys g' n') g n := by
  rw [Program.heeds_get_bind]
  dsimp only
  split
  · refine (forgetRoute_heeds f owes uncounted).discard_bind ?_
    intro g' n' _ after
    obtain ⟨rfl, f'⟩ := after
    exact tellClosed_heeds f.sound.handlers f' owes uncounted
  · exact tellClosed_heeds f.sound.handlers f owes uncounted

/-- **Tearing a session down** leaves nothing owed. On the way a program may go over to the sessions
that are left. -/
theorem disconnect_heeds {r : SessionRef} {left : List SessionRef} {last : Bool}
    (f : Finds hs keys g n) (free : g.owes = none) (uncounted : g.counted = false)
    (there : r < n.floor.sessions.size) (known : ∀ r' ∈ left, r' < n.floor.sessions.size)
    (only : last = true → n.closing.begun = true ∧ ∀ e ∈ n.floor.roster, e.2 = r ∨ e.2 ∈ left) :
    (disconnect r).Heeds (conduct hs keys)
      (fun g' n' _ => g' = { g with left, last } ∧ Finds hs keys g' n') g n := by
  unfold disconnect
  rw [Program.heeds_update_bind]
  cases done : (n.session r).finished with
  | true =>
    rw [claim_of_finished done]
    have f' : Finds hs keys { g with left, last } n := by
      refine ⟨f.sound, f.reader, f.host, f.debt, known, fun here => ?_⟩
      obtain ⟨begun, all⟩ := only here
      refine ⟨begun, fun e he => (all e he).resolve_left fun same => ?_⟩
      have unclaimed := (f.sound.listed e he).2.2
      rw [same, done] at unclaimed
      nomatch unclaimed
    exact ⟨_, ⟨f', g, .aside (.refl n), rfl⟩, rfl, f'⟩
  | false =>
    obtain ⟨wins, c⟩ := f.sound.claim there done
    rw [wins]
    have f₁ : Finds hs keys { g with owes := some r, counted := false, left, last } (n.claim r).2 := by
      refine ⟨f.sound.claimed c, fun r' here => ?_, fun r' here => ?_, fun r' here => ?_,
        fun r' here => ?_, fun here => ?_⟩
      · exact c.size ▸ f.reader r' here
      · exact c.size ▸ f.host r' here
      · obtain rfl := Option.some.inj here
        exact ⟨c.size ▸ there, c.here⟩
      · exact c.size ▸ known r' here
      · obtain ⟨begun, all⟩ := only here
        exact ⟨c.begun.trans begun, fun e he =>
          (all e (c.roster.subset he)).resolve_left (c.off e he)⟩
    refine ⟨_, ⟨f₁, _, .claimed free there done c, rfl⟩, ?_⟩
    refine (tearDown_heeds f₁ rfl rfl).mono ?_
    intro g' n' _ after
    obtain ⟨rfl, f'⟩ := after
    refine ⟨?_, f'⟩
    rw [← free, ← uncounted]

end Node

end SessionHub

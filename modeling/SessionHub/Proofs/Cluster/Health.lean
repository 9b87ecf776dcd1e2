import SessionHub.Proofs.Cluster.Duties
import SessionHub.Proofs.Program.Pool

/-!
# What observers are told of the store

Whatever a node does calls the store, and many calls wait side by side; their outcomes come in any order.
Of all this the node keeps one flag, and its observers are told when the flag goes up and when it goes
down. These **bulletins** come in turn, bad news first, and the flag is up exactly if the last outcome was
a failure (`bulletins_in_turn`).

To say so, the outcomes have to be known. A **chart** is a node together with the outcomes of its calls
so far, and `Node.charted` makes a program of the node one of the chart: it enters each outcome as it
comes, and goes on as before. What is proved of a program is that the node registers the outcome then and
there, before anything else happens, and that it touches the flag and the bulletins at no other time.
-/

namespace SessionHub

/-- What came of a call: the fault, if there was one. -/
def faultOf? {α : Type} : Except StoreFault α → Option StoreFault
  | .ok _ => none
  | .error fault => some fault

/-- A node, and how its store calls came out, the earliest first. -/
structure Chart where
  node : Node
  outcomes : List (Option StoreFault) := []

namespace Chart

/-- Changes the node. -/
def setNode (n : Node) (c : Chart) : Chart := { c with node := n }

/-- Enters an outcome. -/
def enter (outcome : Option StoreFault) (c : Chart) : Chart :=
  { c with outcomes := c.outcomes ++ [outcome] }

/-- Whether the last call of all that came out has failed. -/
def LastFailed (c : Chart) : Prop := ∃ fault, c.outcomes.getLast? = some (some fault)

end Chart

/-- A program of a node, with the outcomes of its store calls entered on the chart. -/
def Node.charted {α : Type} (p : ClusterProgram α) : Program Chart ClusterAsk ClusterAsk.Answer α :=
  p.embed Chart.node Chart.setNode fun
    | .store call => .call (.store call) fun a => .look fun c => .put (c.enter (faultOf? a)) (.done a)
    | .together work => .call (.together work) .done

/-- Whether bulletins come in turn, bad news first. -/
def InTurn (told : List ClusterEvent) : Prop :=
  ∀ i e, told[i]? = some e → if i % 2 = 0 then ∃ reason, e = .degraded reason else e = .recovered

theorem inTurn_snoc {told : List ClusterEvent} {e : ClusterEvent} (h : InTurn told)
    (next : if told.length % 2 = 0 then ∃ reason, e = .degraded reason else e = .recovered) :
    InTurn (told ++ [e]) := by
  intro i e' here
  rcases Nat.lt_trichotomy i told.length with before | rfl | behind
  · rw [List.getElem?_append_left before] at here
    exact h i e' here
  · rw [List.getElem?_concat_length] at here
    obtain rfl := Option.some.inj here
    exact next
  · rw [List.getElem?_eq_none (by rw [List.length_append]; exact behind)] at here
    nomatch here

/-- Of bulletins in turn the last one is bad news if they are odd in number. -/
theorem InTurn.last {told : List ClusterEvent} (h : InTurn told) :
    told.length % 2 = 1 ↔ ∃ reason, told.getLast? = some (.degraded reason) := by
  rw [List.getLast?_eq_getElem?]
  constructor
  · intro odd
    have there : told.length - 1 < told.length := by omega
    have last := h _ _ (List.getElem?_eq_getElem there)
    rw [if_pos (by omega)] at last
    obtain ⟨reason, last⟩ := last
    exact ⟨reason, by rw [List.getElem?_eq_getElem there, last]⟩
  · rintro ⟨reason, last⟩
    obtain ⟨there, _⟩ := List.getElem?_eq_some_iff.mp last
    have parity := h _ _ last
    split at parity
    · omega
    · nomatch parity

namespace Node

/-- What observers have been told of the store, the earliest first. -/
def bulletins (n : Node) : List ClusterEvent := n.membership.events.filter (·.node?.isNone)

/-! ## Changes that leave the health alone -/

/-- A change that leaves the flag and the bulletins as they are. -/
structure Hale (n n' : Node) : Prop where
  degraded : n'.membership.degraded = n.membership.degraded
  bulletins : n'.bulletins = n.bulletins

theorem Hale.trans {n n' n'' : Node} (h : Hale n n') (h' : Hale n' n'') : Hale n n'' :=
  ⟨h'.degraded.trans h.degraded, h'.bulletins.trans h.bulletins⟩

/-- What names a node is no bulletin. -/
theorem Hale.emit {n n' : Node} (h : Hale n n') {e : ClusterEvent} {b : NodeId}
    (named : e.node? = some b) : Hale n (n'.emit e) := by
  refine ⟨h.degraded, Eq.trans ?_ h.bulletins⟩
  show (n'.membership.events ++ [e]).filter _ = _
  rw [List.filter_append, List.filter_singleton, named, Option.isNone_some]
  exact List.append_nil _

theorem hale_meet (b : Beacon) (n : Node) : Hale n (n.meet b) := by
  unfold meet
  dsimp only
  split
  · exact ⟨rfl, rfl⟩
  · refine Hale.emit ?_ rfl
    exact ⟨rfl, rfl⟩

theorem hale_bury (b : NodeId) (n : Node) : Hale n (n.bury b) := by
  unfold bury
  refine Hale.emit ?_ rfl
  exact ⟨rfl, rfl⟩

theorem hale_bury_all (dead : List NodeId) (n : Node) :
    Hale n (dead.foldl (fun n p => n.bury p) n) :=
  dead.foldlRecOn _ ⟨rfl, rfl⟩ fun n' so p _ => so.trans (hale_bury p n')

theorem hale_startRefresh (n : Node) : Hale n n.startRefresh := by
  rcases n.startRefresh_cases with same | same <;> rw [same] <;> exact ⟨rfl, rfl⟩

/-- **No deed touches the health.** -/
theorem Deed.hale {n n' : Node} (h : Deed n n') : Hale n n' := by
  cases h with
  | warned message fields => exact ⟨rfl, rfl⟩
  | pruned now => exact ⟨rfl, rfl⟩
  | met b other present => exact hale_meet b n
  | buried dead => exact hale_bury_all dead n
  | listening broadcasts control => unfold listenTo; dsimp only; split <;> exact ⟨rfl, rfl⟩
  | givenUp sub => exact ⟨rfl, rfl⟩
  | refreshing => exact hale_startRefresh n
  | leaving => unfold beginLeave; dsimp only; split <;> split <;> exact ⟨rfl, rfl⟩
  | published => exact ⟨rfl, rfl⟩
  | sent path session payload => exact ⟨rfl, rfl⟩

/-- Nor does what is heard of another node. -/
theorem hale_hear (a : Announcement) (n : Node) : Hale n (n.hear a) := by
  obtain ⟨b⟩ := a
  unfold hear
  dsimp only
  split
  · exact ⟨rfl, rfl⟩
  · split
    · refine Hale.emit ?_ rfl
      exact ⟨rfl, rfl⟩
    · exact ⟨rfl, rfl⟩

theorem hale_hearControl (m : Message) (n : Node) : Hale n (n.hearControl m) := by
  unfold hearControl
  split
  · exact ⟨rfl, rfl⟩
  · exact hale_hear _ n

/-! ## Outcomes that are registered -/

/-- A change by which a node registers an outcome. -/
def Registers : Option StoreFault → Node → Node → Prop
  | none, n, n' => n' = n.storeSucceeded
  | some fault, n, n' => ∃ op, n' = n.storeFailed op fault

theorem bulletins_emit {e : ClusterEvent} (unnamed : e.node? = none) (n : Node) :
    (n.emit e).bulletins = n.bulletins ++ [e] := by
  show (n.membership.events ++ [e]).filter _ = _
  rw [List.filter_append, List.filter_singleton, unnamed]
  rfl

/-- **What a node that registers an outcome tells**: nothing, if the flag was as it has to be, and else
the one thing that there is to tell. -/
theorem Registers.news {outcome : Option StoreFault} {n n' : Node} (h : Registers outcome n n') :
    n'.membership.degraded = outcome.isSome ∧
      ∃ e, (if outcome.isSome then ∃ reason, e = .degraded reason else e = .recovered) ∧
        n'.bulletins = n.bulletins ++ if n.membership.degraded = outcome.isSome then [] else [e] := by
  cases outcome with
  | none =>
    obtain rfl := h
    unfold storeSucceeded
    cases degraded : n.membership.degraded with
    | true => exact ⟨rfl, .recovered, rfl, bulletins_emit rfl _⟩
    | false => exact ⟨degraded, .recovered, rfl, (List.append_nil _).symm⟩
  | some fault =>
    obtain ⟨op, rfl⟩ := h
    unfold storeFailed
    cases degraded : n.membership.degraded with
    | true =>
      simp only [record, degraded, if_true]
      exact ⟨rfl, .degraded fault.message, ⟨_, rfl⟩, (List.append_nil _).symm⟩
    | false =>
      simp only [record, degraded]
      exact ⟨rfl, _, ⟨_, rfl⟩, bulletins_emit rfl _⟩

/-- **What is kept**: the bulletins come in turn, and the flag is up when they are odd in number, and
when the last outcome was a failure. -/
structure Told (c : Chart) : Prop where
  turn : InTurn c.node.bulletins
  odd : c.node.membership.degraded = true ↔ c.node.bulletins.length % 2 = 1
  last : c.node.membership.degraded = true ↔ c.LastFailed

theorem Told.hale {c c' : Chart} (h : Told c) (same : c'.outcomes = c.outcomes)
    (hale : Hale c.node c'.node) : Told c' where
  turn := hale.bulletins ▸ h.turn
  odd := by rw [hale.degraded, hale.bulletins]; exact h.odd
  last := by rw [hale.degraded, Chart.LastFailed, same]; exact h.last

/-- **An outcome that is registered** is told if it is news, and the flag shows it. -/
theorem Told.registered {c : Chart} (h : Told c) {outcome : Option StoreFault} {n : Node}
    (registers : Registers outcome c.node n) : Told ((c.enter outcome).setNode n) := by
  obtain ⟨flag, e, kind, told⟩ := registers.news
  have parity := h.odd
  refine ⟨?_, ?_, ?_⟩
  · show InTurn n.bulletins
    rw [told]
    split
    · rw [List.append_nil]
      exact h.turn
    · rename_i news
      refine inTurn_snoc h.turn ?_
      cases bad : outcome.isSome with
      | true =>
        rw [bad] at news kind
        rwa [if_pos (by have := mt parity.mpr news; omega)]
      | false =>
        rw [bad] at news kind
        rwa [if_neg (by rw [parity.mp (Bool.not_eq_false _ ▸ news)]; decide)]
  · show n.membership.degraded = true ↔ n.bulletins.length % 2 = 1
    rw [flag, told]
    cases bad : outcome.isSome <;> cases degraded : c.node.membership.degraded <;>
      simp [degraded] at parity ⊢ <;> omega
  · show n.membership.degraded = true ↔ _
    rw [flag, Option.isSome_iff_exists]
    simp [Chart.LastFailed, Chart.enter, Chart.setNode]

/-! ## The programs -/

/-- What a charted program owes where it stands: nothing, or that the node registers an outcome that
has been entered. -/
inductive Owed where
  | nothing
  | outcome (o : Option StoreFault)

/-- The conduct of charted programs: an outcome that is entered is registered next, and at no other time
are the outcomes and the health touched. -/
def charting : Conduct Chart ClusterAsk Owed where
  finds _ _ := True
  puts
    | .nothing, c, c', .nothing => c'.outcomes = c.outcomes ∧ Hale c.node c'.node
    | .nothing, c, c', .outcome o => c' = c.enter o
    | .outcome o, c, c', .nothing => ∃ n, c' = c.setNode n ∧ Registers o c.node n
    | .outcome _, _, _, .outcome _ => False
  asks g _ _ g' := g = .nothing ∧ g' = .nothing

/-- **What is made as a duty is keeps to that conduct**, whatever it is answered. -/
theorem Dutiful.charted {α : Type} {p : ClusterProgram α} {n : Node} (h : Dutiful p n) {c : Chart}
    (here : c.node = n) :
    (Node.charted p).Heeds charting (fun g _ _ => g = .nothing) .nothing c := by
  induction h generalizing c with
  | done => exact rfl
  | look _ ih =>
    subst here
    exact ih rfl
  | put deed _ ih =>
    subst here
    exact ⟨.nothing, ⟨rfl, deed.hale⟩, ih rfl⟩
  | together _ ih => exact ⟨.nothing, ⟨rfl, rfl⟩, fun k c' _ => ih k c'.node rfl⟩
  | guarded op call _ ih =>
    rw [guarded_bind]
    refine ⟨.nothing, ⟨rfl, rfl⟩, fun a c' _ => ⟨.outcome (faultOf? a), rfl, ?_⟩⟩
    cases a with
    | ok reply => exact ⟨.nothing, ⟨_, rfl, rfl⟩, ih (some reply) _ rfl⟩
    | error fault => exact ⟨.nothing, ⟨_, rfl, op, rfl⟩, ih none _ rfl⟩

/-! ## Runs -/

/-- A node on its chart, with everything that it has to do in its cluster, any number of things side by
side. Every call may be answered by any reply or fault, that of a call that took too long among them, and
each duty may be dropped where it waits. In between anything may happen to the node that leaves its
health alone. -/
def ward : System Chart ClusterAsk ClusterAsk.Answer Unit Duty where
  program d := charted (attend d)
  admits _ _ _ _ := True
  serves _ c _ c' := c' = c
  mayDrop _ := True
  turns c c' := c'.outcomes = c.outcomes ∧ Hale c.node c'.node

/-- A message of the control channel is one of those things. -/
theorem ward_hears (m : Message) (c : Chart) : ward.turns c (c.setNode (c.node.hearControl m)) :=
  ⟨rfl, hale_hearControl m c.node⟩

/-- What is known of a chart, by where the program stands that runs just now. -/
def Owed.Told : Owed → Chart → Prop
  | .nothing, c => Node.Told c
  | .outcome o, c => ∃ before, Node.Told before ∧ c = before.enter o

/-- The discipline of charted duties. -/
def warded : Discipline ward Owed where
  toConduct := charting
  start _ := .nothing
  ending _ g _ _ := g = .nothing
  holds c _ cur W _ := ((cur.map Prod.snd).getD Owed.nothing).Told c ∧ ∀ w ∈ W, w.standing = .nothing
  heeds {d c _ _ _} _ _ := (attend_dutiful d c.node).charted rfl
  called h _ := h
  answered {_ _ _ w _ _ _ _} h served := by
    obtain ⟨told, settled⟩ := h
    have here : w.standing = .nothing := settled w (by simp)
    refine ⟨trivial, ?_, fun v hv => settled v (by rw [List.mem_append] at hv; simp; tauto)⟩
    rw [Option.map_some, Option.getD_some, here, served]
    exact told
  put {_ _ _ g _ _ _ g'} h put := by
    obtain ⟨told, settled⟩ := h
    refine ⟨?_, settled⟩
    match g, g', put with
    | .nothing, .nothing, put => exact Node.Told.hale told put.1 put.2
    | .nothing, .outcome o, put => exact ⟨_, told, put⟩
    | .outcome o, .nothing, put =>
      obtain ⟨n, rfl, registers⟩ := put
      obtain ⟨before, told, rfl⟩ := told
      exact told.registered registers
  asked h ask := by
    obtain ⟨told, settled⟩ := h
    obtain ⟨rfl, rfl⟩ := ask
    refine ⟨told, fun v hv => ?_⟩
    rcases List.mem_append.mp hv with hv | last
    · exact settled v hv
    · rw [List.mem_singleton.mp last]
  returned h ending := by
    subst ending
    exact h
  dropped h _ := ⟨h.1, fun v hv => h.2 v (by rw [List.mem_append] at hv; simp; tauto)⟩
  turned h turned := ⟨Node.Told.hale h.1 turned.1 turned.2, h.2⟩

/-- **Bulletins come in turn and follow the last call.** From a node that is well and has told nothing of
its store, at every moment of every run: the bulletins come in turn, bad news first; the flag is up
exactly if some call has come out and the last one that did has failed; and that is so exactly if the
last bulletin was bad news. -/
theorem bulletins_in_turn {n : Node} (well : n.membership.degraded = false) (untold : n.bulletins = [])
    {p : Pool Chart ClusterAsk ClusterAsk.Answer Unit Duty} (run : ward.Reaches { node := n } p) :
    InTurn p.state.node.bulletins ∧
      (p.state.node.membership.degraded = true ↔ p.state.LastFailed) ∧
      (p.state.node.membership.degraded = true ↔
        ∃ reason, p.state.node.bulletins.getLast? = some (.degraded reason)) := by
  have first : Told { node := n } := by
    refine ⟨?_, ?_, ?_⟩
    · rw [untold]
      exact fun i e here => by simp at here
    · simp [well, untold]
    · simp [well, Chart.LastFailed]
  obtain ⟨_, _, _, _, told, _⟩ := warded.sound ⟨first, by simp⟩ run
  have h : Told p.state := told
  exact ⟨h.turn, h.last, h.odd.trans h.turn.last⟩

/-! ## A store that wavers -/

/-- A node that has just been made. -/
def fledgling : Node where
  id := ⟨"a"⟩
  clustered := true
  membership := { ttl := 1000, opTimeout := 2000 }

/-- A store that answers no call in time. -/
def sluggish : (q : ClusterAsk) → q.Answer
  | .store _ => .error (.timedOut (.ofMillis 2000))
  | .together _ => (0 : Nat)

/-- A store that is not there. -/
def unreachable : (q : ClusterAsk) → q.Answer
  | .store _ => .error (.unavailable "down")
  | .together _ => (0 : Nat)

/-- A heartbeat, a sweep and a broadcast side by side, and the broadcast takes too long. -/
def faltering : Pool Chart ClusterAsk ClusterAsk.Answer Unit Duty :=
  Pool.answer sluggish 2 (Pool.call ward (.publish "/chat" "hello" ⟨"a"⟩)
    (Pool.call ward .sweep (Pool.call ward .heartbeat { state := { node := fledgling } })))

/-- A leave is heard, and the sweep fails too. -/
def failing : Pool Chart ClusterAsk ClusterAsk.Answer Unit Duty :=
  let notice : Message := ⟨"control", Announcement.encode (.leave ⟨"b"⟩)⟩
  (faltering.turn (faltering.state.setNode (faltering.state.node.hearControl notice))).answer unreachable 1

/-- The heartbeat's first call succeeds, and its second one takes too long. -/
def wavering : Pool Chart ClusterAsk ClusterAsk.Answer Unit Duty :=
  (failing.answer (obliging []) 0).answer sluggish 0

theorem faltering_reached : ward.Reaches { node := fledgling } faltering :=
  .answer (.call (.call (.call .init trivial) trivial) trivial) (fun _ => rfl) 2

theorem failing_reached : ward.Reaches { node := fledgling } failing :=
  .answer (.turn faltering_reached (ward_hears _ _)) (fun _ => rfl) 1

theorem wavering_reached : ward.Reaches { node := fledgling } wavering :=
  .answer (.answer failing_reached (fun _ => rfl) 0) (fun _ => rfl) 0

/-- Of four outcomes three are news. -/
theorem wavering_in_turn :
    fledgling.membership.degraded = false ∧ fledgling.bulletins = [] ∧
      ward.Reaches { node := fledgling } wavering ∧
      InTurn wavering.state.node.bulletins ∧
      (wavering.state.node.membership.degraded = true ↔ wavering.state.LastFailed) ∧
      (wavering.state.node.membership.degraded = true ↔
        ∃ reason, wavering.state.node.bulletins.getLast? = some (.degraded reason)) ∧
      wavering.state.outcomes = [some (.timedOut (.ofMillis 2000)), some (.unavailable "down"), none,
        some (.timedOut (.ofMillis 2000))] ∧
      wavering.state.node.membership.events =
        [.degraded "coordination store call timed out after 2s", .left ⟨"b"⟩, .recovered,
          .degraded "coordination store call timed out after 2s"] := by
  obtain ⟨turn, last, told⟩ := bulletins_in_turn rfl rfl wavering_reached
  exact ⟨rfl, rfl, wavering_reached, turn, last, told, by decide +kernel, by decide +kernel⟩

end Node

end SessionHub

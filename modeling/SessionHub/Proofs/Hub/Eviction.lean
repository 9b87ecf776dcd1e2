import SessionHub.Proofs.Activity
import SessionHub.Proofs.Cluster.Sweep
import SessionHub.Proofs.Program.History
import SessionHub.Proofs.Program.Pool

/-!
# Whom a tick evicts

A round of liveness work ticks: it beats and sweeps the cluster, if there is one, and then evicts the
sessions that are stale. A round of a job that runs hands them over afterwards. Its calls to the cluster
take time, and meanwhile sessions begin, send and receive, are closed and leave, and the node may be told
to stop.

A **watch** is a node with a log of when its sessions carried something. The log is kept by incidents
alone, beside the clocks that the node itself goes by, and `Watch.Clocked` says that they agree. So it can
be said of an eviction, by the log and not by the clocks, that it takes just those who are *due*
(`Watch.Evicts`): whose connection is gone, or who has carried nothing for longer than the timeout. The
moment that counts is that of the eviction, and not the one when the round began.

A round comes to one `Point` after another, and what is known at each carries the rest: it sweeps once and,
having swept, neither waits nor does anything else before it hands over whom it has evicted.
-/

namespace SessionHub

/-- A node, and two logs with the earliest entries first: when its sessions carried something, and whom
rounds of liveness work have taken off the roster. -/
structure Watch where
  node : Node
  carried : List (SessionRef × Nat) := []
  taken : List SessionRef := []

/-- What a round of liveness work asks: its cluster, and whoever is told of evictions. -/
inductive Inquiry where
  | cluster (q : ClusterAsk)
  | evicted (sessions : List SessionRef)

/-- What it is answered. -/
def Inquiry.Answer : Inquiry → Type
  | .cluster q => q.Answer
  | .evicted _ => Unit

/-- Nothing is done about it. -/
def Inquiry.shrug : (q : Inquiry) → q.Answer
  | .cluster (.store _) => .error (.timedOut (.ofMillis 0))
  | .cluster (.together _) => (0 : Nat)
  | .evicted _ => ()

/-- A tick: which one, the session timeout, and whether it belongs to a job that runs. -/
structure Beat where
  number : Nat
  timeout : Nat
  runs : Bool
  deriving DecidableEq

namespace Node

/-- **A round of a liveness job**: a tick, and those whom it evicted are handed over, if there are any. -/
def round {Q : Type} {A : Q → Type} (question : ClusterAsk → Q)
    (back : (q : ClusterAsk) → A (question q) → q.Answer)
    (handOver : List SessionRef → Program Node Q A Unit) (timeout : Nat) : Program Node Q A Tick := do
  let report ← (tick timeout).among question back
  if report.evicted = [] then return report
  handOver report.evicted
  return report

/-- The hub's round hands over to the hub, which tears the sessions down. -/
theorem livenessRound_eq : livenessRound = (do
    let n ← Program.get
    discard (round HubAsk.cluster (fun _ answer => answer) (Program.forEach disconnect)
      n.config.sessionTimeout)) := by
  refine congrArg Program.look (funext fun n => ?_)
  refine Eq.trans ?_ (Program.bind_assoc (asHub (tick n.config.sessionTimeout)) _ _).symm
  refine congrArg (Program.bind (asHub (tick n.config.sessionTimeout))) (funext fun report => ?_)
  by_cases nobody : report.evicted = []
  · rw [if_pos nobody, nobody]
    rfl
  · rw [if_neg nobody]
    refine Eq.trans ?_ (Program.bind_assoc _ _ _).symm
    exact (Program.bind_done _).symm

end Node

namespace Watch

/-- A round changes the node. Whom it takes off the roster is logged. -/
def setNode (n : Node) (w : Watch) : Watch :=
  { w with
    node := n
    taken := w.taken ++ w.node.floor.registered.filter (· ∉ n.floor.registered) }

/-- Something happens to the sessions, and is logged. What becomes of the node besides is left open: among
other things it may be told to stop. -/
def Passes (w w' : Watch) : Prop :=
  ∃ i : Floor.Incident, i.Possible w.node.floor ∧ w'.node.floor = i.after w.node.floor ∧
    w'.carried = w.carried ++ (i.carriers w.node.floor).map (fun r => (r, w.node.floor.now)) ∧
      w'.taken = w.taken

/-- The sessions and the logs are as they were. -/
def Unaffected (w w' : Watch) : Prop :=
  w.node.Unaffected w'.node ∧ w'.carried = w.carried ∧ w'.taken = w.taken

/-- **A session is due**: its connection is gone, or more than the timeout has elapsed since whenever it
has carried something. -/
def Due (timeout : Nat) (w : Watch) (r : SessionRef) : Prop :=
  (w.node.session r).isActive = false ∨ ∀ t, (r, t) ∈ w.carried → t + timeout < w.node.floor.now

/-- **An eviction**: of the registered sessions just those that are due are unregistered and closed, and
nobody else is affected. -/
structure Evicts (timeout : Nat) (rs : List SessionRef) (w w' : Watch) : Prop where
  once : rs.Nodup
  due : ∀ r, r ∈ rs ↔ r ∈ w.node.floor.registered ∧ w.Due timeout r
  gone : ∀ r ∈ rs, r ∉ w'.node.floor.registered ∧ w'.node.session r = (w.node.session r).close
  others : ∀ r ∉ rs, w'.node.session r = w.node.session r ∧
    (r ∈ w'.node.floor.registered ↔ r ∈ w.node.floor.registered)
  carried : w'.carried = w.carried
  taken : w'.taken = w.taken ++ rs

/-- **The clocks of the sessions agree with the log.** -/
structure Clocked (w : Watch) : Prop where
  listed : w.node.floor.Listed
  past : ∀ r < w.node.floor.sessions.size, (w.node.session r).lastActive ≤ w.node.floor.now
  last : ∀ r < w.node.floor.sessions.size, (r, (w.node.session r).lastActive) ∈ w.carried
  latest : ∀ r t, (r, t) ∈ w.carried →
    r < w.node.floor.sessions.size ∧ t ≤ (w.node.session r).lastActive

variable {w w' : Watch} {rs : List SessionRef} {timeout : Nat}

/-- What happens keeps the clocks in agreement with the log. -/
theorem Clocked.kept (h : w.Clocked) (activity : w.node.floor.Activity rs w'.node.floor)
    (logged : w'.carried = w.carried ++ rs.map fun r => (r, w.node.floor.now)) : w'.Clocked where
  listed := activity.listed
  past r there := by
    by_cases carries : r ∈ rs
    · exact (activity.carried r carries).2.trans_le activity.now
    · have before : r < w.node.floor.sessions.size := by
        by_contra new
        exact carries (activity.begun r there (Nat.le_of_not_lt new))
      exact (activity.others r before carries).trans_le ((h.past r before).trans activity.now)
  last r there := by
    rw [logged]
    by_cases carries : r ∈ rs
    · refine List.mem_append_right _ (List.mem_map.mpr ⟨r, carries, ?_⟩)
      exact congrArg (Prod.mk r) (activity.carried r carries).2.symm
    · have before : r < w.node.floor.sessions.size := by
        by_contra new
        exact carries (activity.begun r there (Nat.le_of_not_lt new))
      refine List.mem_append_left _ ?_
      rw [show (w'.node.session r).lastActive = _ from activity.others r before carries]
      exact h.last r before
  latest r t entry := by
    rw [logged] at entry
    rcases List.mem_append.mp entry with former | new
    · obtain ⟨there, early⟩ := h.latest r t former
      refine ⟨Nat.lt_of_lt_of_le there activity.size, ?_⟩
      by_cases carries : r ∈ rs
      · exact (early.trans (h.past r there)).trans_eq (activity.carried r carries).2.symm
      · exact early.trans_eq (activity.others r there carries).symm
    · obtain ⟨r', carries, same⟩ := List.mem_map.mp new
      obtain ⟨rfl, rfl⟩ := Prod.mk.inj same
      obtain ⟨there, now⟩ := activity.carried r' carries
      exact ⟨there, now.ge⟩

theorem Clocked.passes (h : w.Clocked) (passes : w.Passes w') : w'.Clocked := by
  obtain ⟨i, possible, after, logged, _⟩ := passes
  exact h.kept (after ▸ i.activity h.listed possible) logged

/-- By the clock a session is stale just when it is due by the log. -/
theorem Clocked.isStale (h : w.Clocked) {r : SessionRef} (here : r ∈ w.node.floor.registered) :
    w.node.floor.isStale timeout r = true ↔ w.Due timeout r := by
  have there := h.listed.lt here
  rw [Floor.isStale, Bool.or_eq_true, Bool.not_eq_true', decide_eq_true_eq]
  apply or_congr_right
  rw [Session.idleAt]
  constructor
  · intro idle t entry
    have early : t ≤ (w.node.floor.session r).lastActive := (h.latest r t entry).2
    omega
  · intro silent
    have last := silent _ (h.last r there)
    rw [Node.session] at last
    omega

/-- **A sweep of a node evicts**, and keeps the clocks in agreement with the log. -/
theorem Clocked.evicts (h : w.Clocked) (timeout : Nat) :
    let swept := w.setNode (Node.onFloor (Floor.sweepIdle timeout) w.node).2
    swept.Clocked ∧ Evicts timeout (w.node.floor.sweepIdle timeout).1 w swept := by
  intro swept
  obtain ⟨whom, dismissed⟩ := h.listed.sweepIdle timeout
  rw [whom]
  have left : ∀ r ∈ w.node.floor.registered,
      decide (r ∉ swept.node.floor.registered) = w.node.floor.isStale timeout r := by
    intro r here
    cases stale : w.node.floor.isStale timeout r with
    | true =>
      exact decide_eq_true (dismissed.gone r (List.mem_filter.mpr ⟨here, stale⟩)).1
    | false =>
      have stays : r ∉ w.node.floor.registered.filter (w.node.floor.isStale timeout) := by
        simp [stale]
      exact decide_eq_false (not_not.mpr ((dismissed.others r stays).2.mpr here))
  refine ⟨h.kept (Floor.activity_sweepIdle h.listed timeout) (List.append_nil _).symm, ?_⟩
  constructor
  · exact h.listed.nodup.filter _
  · intro r
    rw [List.mem_filter]
    exact and_congr_right h.isStale
  · exact dismissed.gone
  · exact dismissed.others
  · rfl
  · exact congrArg (w.taken ++ ·) (List.filter_congr left)

/-- A change of the node that leaves its sessions alone. -/
theorem unaffected_setNode {n : Node} (same : w.node.Unaffected n) : w.Unaffected (w.setNode n) := by
  have nobody : w.node.floor.registered.filter (· ∉ n.floor.registered) = [] := by
    rw [Floor.registered, Floor.registered, same.still.2, List.filter_eq_nil_iff]
    intro r here gone
    exact of_decide_eq_true gone here
  refine ⟨same, rfl, ?_⟩
  rw [setNode, nobody, List.append_nil]

/-- Where the sessions are left alone the clocks stay in agreement with the log. -/
theorem Clocked.unaffected (h : w.Clocked) (same : w.Unaffected w') : w'.Clocked := by
  obtain ⟨⟨still, now⟩, logged, _⟩ := same
  have stands : w.node.floor.Activity [] w'.node.floor := by
    apply Floor.activity_of_standing (h.listed.of_still still)
    · rw [still.1]
    · exact now.ge
    · intro r
      rw [Floor.session, still.1]
      rfl
  exact h.kept stands (logged.trans (List.append_nil _).symm)

end Watch

/-! ## A round -/

/-- A program of a node that tells of evictions. -/
abbrev RoundProgram (α : Type) := Program Node Inquiry Inquiry.Answer α

/-- A program of the cluster's side, inside a round. -/
def Node.inRound {α : Type} (p : ClusterProgram α) : RoundProgram α :=
  p.among Inquiry.cluster fun _ answer => answer

/-- What a tick does: by itself, or with its evictions handed over. -/
def Beat.work (b : Beat) : RoundProgram Node.Tick :=
  if b.runs then
    Node.round Inquiry.cluster (fun _ answer => answer)
      (fun rs => Program.ask (Inquiry.evicted rs)) b.timeout
  else Node.inRound (Node.tick b.timeout)

/-- The same under watch. -/
def Beat.program (b : Beat) : Program Watch Inquiry Inquiry.Answer Node.Tick :=
  b.work.embed Watch.node Watch.setNode Program.ask

/-- How far a round has come. -/
inductive Point where
  /-- It has not evicted anybody. -/
  | before (b : Beat)
  | swept (b : Beat) (rs : List SessionRef)
  /-- Those whom it evicted are handed over. -/
  | told (b : Beat) (rs : List SessionRef)

namespace Point

/-- Whose point it is. -/
def beat : Point → Beat
  | .before b | .swept b _ | .told b _ => b

/-- What a round may put in place. -/
inductive Puts : Point → Node → Node → Point → Prop
  | works {b : Beat} {n n' : Node} (same : n.Unaffected n') : Puts (.before b) n n' (.before b)
  | sweeps (b : Beat) (n : Node) :
    Puts (.before b) n (Node.onFloor (Floor.sweepIdle b.timeout) n).2
      (.swept b (n.floor.sweepIdle b.timeout).1)

/-- What it may ask. -/
inductive Asks : Point → Inquiry → Point → Prop
  | cluster (b : Beat) (q : ClusterAsk) : Asks (.before b) (.cluster q) (.before b)
  | tells {b : Beat} {rs : List SessionRef} (runs : b.runs = true) (some' : rs ≠ []) :
    Asks (.swept b rs) (.evicted rs) (.told b rs)

/-- Where it may end, and with which report. -/
inductive Ends : Point → Node.Tick → Prop
  | silent {b : Beat} {report : Node.Tick} (nobody : b.runs = true → report.evicted = []) :
    Ends (.swept b report.evicted) report
  | told {b : Beat} {report : Node.Tick} : Ends (.told b report.evicted) report

end Point

/-- The conduct of rounds. -/
def rounds : Conduct Node Inquiry Point where
  finds _ _ := True
  puts := Point.Puts
  asks g _ q g' := g.Asks q g'

namespace Node

variable {b : Beat} {n : Node}

theorem guarded_unaffected (op : String) (call : StoreCall) (n : Node) :
    (guarded op call).ChangesBy Unaffected n :=
  (guarded_changesBy_swept op call n).mono fun _ _ => Swept.unaffected

theorem ensureSubscribed_unaffected (n : Node) : ensureSubscribed.ChangesBy Unaffected n := by
  unfold ensureSubscribed
  rw [Program.changesBy_get_bind]
  split
  · exact trivial
  · refine (guarded_unaffected ..).bind fun first n => ?_
    cases first with
    | none => exact trivial
    | some broadcasts =>
      refine (guarded_unaffected ..).bind fun second n => ?_
      cases second with
      | none => exact Program.changesBy_modify (.of_floor rfl)
      | some control => exact Program.changesBy_modify (.of_floor (floor_listenTo ..))

/-- Whatever a heartbeat is answered, it leaves the sessions alone. -/
theorem heartbeat_unaffected (n : Node) : heartbeat.ChangesBy Unaffected n := by
  unfold heartbeat
  rw [Program.changesBy_get_bind]
  split
  · exact trivial
  · refine (ensureSubscribed_unaffected _).bind fun _ n => ?_
    have written : writeRecord.ChangesBy Unaffected n := (guarded_unaffected ..).bind fun _ _ => trivial
    refine written.bind fun written n => ?_
    split
    · exact Program.changesBy_modify_bind (.of_floor (floor_startRefresh n)) trivial
    · exact trivial

theorem inRound_bind {α β : Type} (p : ClusterProgram α) (f : α → ClusterProgram β) :
    inRound (p >>= f) = inRound p >>= fun a => inRound (f a) :=
  Program.among_bind p f

/-- Work in the cluster that leaves the sessions alone is done before anybody is evicted. -/
theorem inRound_heeds {α : Type} {p : ClusterProgram α} (h : p.ChangesBy Unaffected n) :
    (inRound p).Heeds rounds (fun g _ _ => g = .before b) (.before b) n := by
  refine (h.heeds_among (C := rounds) (I := fun _ => True) ?_ ?_ ?_ trivial).mono fun _ _ _ => And.left
  · exact fun _ _ _ same => ⟨.works same, trivial⟩
  · exact fun _ q _ => .cluster b q
  · exact fun _ _ => trivial

/-- **A tick evicts once**, at its end, and reports whom. -/
theorem tick_rounds : (inRound (tick b.timeout)).Heeds rounds
    (fun g _ report => g = .swept b report.evicted) (.before b) n := by
  have evicts : ∀ (report : Tick) (n : Node), (inRound (do
      let evicted ← Program.update (onFloor (Floor.sweepIdle b.timeout))
      return { report with evicted })).Heeds rounds
        (fun g _ report => g = .swept b report.evicted) (.before b) n :=
    fun _ n => ⟨_, .sweeps b n, rfl⟩
  show Program.Heeds _ _ (inRound (tick b.timeout)) _ n
  unfold tick
  rw [inRound_bind]
  show Program.Heeds _ _ (inRound (if n.inCluster then _ else _)) _ n
  split
  · rw [inRound_bind]
    apply (inRound_heeds (heartbeat_unaffected n)).bind
    rintro _ n written rfl
    rw [inRound_bind]
    apply (inRound_heeds ((sweep_changesBy_swept n).mono fun _ _ => Swept.unaffected)).bind
    rintro _ n dead rfl
    exact evicts _ n
  · exact evicts _ n

/-- **A round hands over whom it has evicted**, at once and all together, if there are any. -/
theorem work_rounds : b.work.Heeds rounds (fun g _ report => g.Ends report) (.before b) n := by
  unfold Beat.work
  split
  · rename_i runs
    apply Program.Heeds.bind (p := inRound (tick b.timeout)) tick_rounds
    rintro _ n report rfl
    split
    · rename_i nobody
      exact .silent fun _ => nobody
    · rename_i some'
      exact ⟨_, .tells runs some', fun _ _ _ => .told⟩
  · rename_i alone
    apply tick_rounds.mono
    rintro _ _ report rfl
    exact .silent fun runs => absurd runs alone

theorem program_rounds (w : Watch) : b.program.Heeds (rounds.embed Watch.node Watch.setNode)
    (fun g _ report => g.Ends report) (.before b) w :=
  work_rounds.embed fun _ _ => rfl

end Node

/-! ## Rounds under watch -/

/-- **What goes on under watch**: ticks and rounds, each of them called once. Their questions are answered
in any way and at any time, a job may be aborted where it waits, and anything happens to the sessions. -/
def watching : System Watch Inquiry Inquiry.Answer Node.Tick Beat where
  program := Beat.program
  admits b _ h _ := .called b ∉ h
  serves _ w _ w' := w' = w
  mayDrop _ := True
  turns := Watch.Passes

namespace Beat

/-- What is noted of a run. -/
abbrev Entry := Note Watch Inquiry Node.Tick Beat

/-- Those whom an entry says that a round hands over. -/
def handover? (b : Beat) : Entry → Option (List SessionRef)
  | .asked b' (.evicted rs) => if b' = b then some rs else none
  | _ => none

/-- Whom a round has handed over, each time that it did. -/
def handovers (b : Beat) (h : List Entry) : List (List SessionRef) := h.filterMap b.handover?

/-- Whether an entry says that a round is called. -/
def isCalled (b : Beat) : Entry → Bool
  | .called b' => b' = b
  | _ => false

/-- Whether an entry begins a stretch of a round. -/
def starts (b : Beat) : Entry → Prop
  | .called b' | .answered b' _ => b' = b
  | _ => False

/-- Whether an entry ends a stretch of a round. -/
def stops : Entry → Prop
  | .asked .. | .returned .. | .dropped .. => True
  | _ => False

/-- A round is running: it has been called or answered, and has not asked or returned since. -/
def Running (b : Beat) (h : List Entry) : Prop := Since b.starts stops h

/-- Those whom an entry names as evicted: they are handed over, or reported by a tick by itself. -/
def named : Entry → List SessionRef
  | .asked _ (.evicted rs) => rs
  | .returned b report => if b.runs then [] else report.evicted
  | _ => []

/-- A round has evicted some sessions just now. -/
def HasEvicted (b : Beat) (rs : List SessionRef) (h : List Entry) : Prop :=
  ∃ pre w w', h = pre ++ [.changed w w'] ∧ w.Evicts b.timeout rs w'

/-- **What every entry of a run says.** A change that a round makes leaves the sessions alone, or evicts
just those that are due; any other change is an incident. Who is handed over has been evicted just now, and
it is somebody. A round that is over has handed over those whom it reports, once; a tick by itself, or one
that evicted nobody, has handed over nobody, and those whom it reports it has evicted just now. -/
def Exact (before : List Entry) : Entry → Prop
  | .changed w w' =>
    (∀ b : Beat, b.Running before → w.Unaffected w' ∨ ∃ rs, w.Evicts b.timeout rs w') ∧
      ((∀ b : Beat, ¬ b.Running before) → w.Passes w')
  | .asked b (.evicted rs) => b.runs = true ∧ rs ≠ [] ∧ b.HasEvicted rs before
  | .returned b report =>
    if b.runs = true ∧ report.evicted ≠ [] then b.handovers before = [report.evicted]
    else b.handovers before = [] ∧ b.HasEvicted report.evicted before
  | _ => True

variable {b : Beat} {h : List Entry} {x : Entry} {rs : List SessionRef}

/-- Another entry that hands over nobody. -/
theorem handovers_snoc (silent : b.handover? x = none) : b.handovers (h ++ [x]) = b.handovers h := by
  rw [handovers, filterMap_snoc, silent, Option.toList_none, List.append_nil]
  rfl

/-- A change neither begins a stretch of a round nor ends one. -/
theorem running_changed {w w' : Watch} : b.Running (h ++ [.changed w w']) ↔ b.Running h := by
  rw [Running, since_snoc]
  constructor
  · rintro (starts | ⟨runs, _⟩)
    · exact starts.elim
    · exact runs
  · exact fun runs => .inr ⟨runs, id⟩

theorem handovers_later (handed : rs ∈ b.handovers h) : rs ∈ b.handovers (h ++ [x]) := by
  rw [handovers, filterMap_snoc]
  exact List.mem_append_left _ handed

end Beat

namespace Point

/-- Whether a round has yet to hand over whom it evicts. -/
def owes (b : Beat) : Point → Bool
  | .before b' | .swept b' _ => b' = b
  | .told _ _ => false

/-- What is known at a point. -/
def Knows (h : List Beat.Entry) : Point → Prop
  | .before _ => True
  | .swept b rs => b.HasEvicted rs h
  | .told b rs => b.runs = true ∧ rs ≠ [] ∧ rs ∈ b.handovers h

/-- What is known where a round waits. Nobody waits who has yet to hand over those whom it has evicted. -/
def Waits (h : List Beat.Entry) : Point → Prop
  | .swept _ _ => False
  | g => g.Knows h

/-- Those whom the round that runs just now has evicted and not named yet. -/
def unnamed : Option (Beat × Point) → List SessionRef
  | some (_, .swept _ rs) => rs
  | _ => []

variable {g : Point} {b b' : Beat} {rs : List SessionRef} {h : List Beat.Entry} {x : Beat.Entry}

/-- A round that hands over what it evicted has done what it owed. -/
theorem handovers_told : b.handovers (h ++ [.asked b' (.evicted rs)])
    = b.handovers h ++ if (Point.swept b' rs).owes b then [rs] else [] := by
  have told : b.handover? (.asked b' (.evicted rs)) = if b' = b then some rs else none := rfl
  rw [Beat.handovers, filterMap_snoc, told]
  simp only [Point.owes, decide_eq_true_eq]
  split <;> rfl

/-- What is known stays known. -/
theorem Waits.later (waits : g.Waits h) : g.Waits (h ++ [x]) := by
  cases g with
  | before b => trivial
  | swept b rs => exact waits
  | told b rs =>
    obtain ⟨runs, some', handed⟩ := waits
    exact ⟨runs, some', Beat.handovers_later handed⟩

/-- Whoever waits has named whom it has evicted. -/
theorem Waits.unnamed {b : Beat} (waits : g.Waits h) : unnamed (some (b, g)) = [] := by
  cases g with
  | before b => rfl
  | swept b rs => exact waits.elim
  | told b rs => rfl

theorem Waits.knows (waits : g.Waits h) : g.Knows h := by
  cases g with
  | before b => trivial
  | swept b rs => exact waits.elim
  | told b rs => exact waits

end Point

/-- **What rounds under watch keep true.** -/
structure Rounded (w : Watch) (h : List Beat.Entry) (cur : Option (Beat × Point))
    (W G : List (Stance Inquiry Beat Point)) : Prop where
  clocked : w.Clocked
  exact : Always Beat.Exact h
  running : ∀ b g, cur = some (b, g) → g.beat = b ∧ g.Knows h
  waiting : ∀ x ∈ W, x.standing.beat = x.call ∧ x.standing.Waits h
  inside : ∀ b : Beat, b.Running h ↔ ∃ g, cur = some (b, g)
  taken : w.taken = h.flatMap Beat.named ++ Point.unnamed cur
  /-- A round that was called and has yet to hand over somebody has not done so before. -/
  once : ∀ b, (Beat.handovers b h).length + tally (Point.owes b) cur W G ≤ h.countP b.isCalled
  called : ∀ b : Beat, h.countP b.isCalled ≤ 1

namespace Rounded

variable {w w' : Watch} {h : List Beat.Entry} {b : Beat} {g g' : Point} {e : Beat.Entry}
  {cur cur' : Option (Beat × Point)} {W W' G G' l₁ l₂ : List (Stance Inquiry Beat Point)}
  {x : Stance Inquiry Beat Point} {q : Inquiry}

/-- An entry that neither calls a round nor hands anybody over. -/
theorem noted (k : Rounded w h cur W G) (exact : Beat.Exact h e)
    (silent : ∀ b : Beat, b.handover? e = none ∧ b.isCalled e = false) (clocked : w'.Clocked)
    (running : ∀ b g, cur' = some (b, g) → g.beat = b ∧ g.Knows (h ++ [e]))
    (waiting : ∀ x ∈ W', x.standing.beat = x.call ∧ x.standing.Waits h)
    (inside : ∀ b : Beat, b.Running (h ++ [e]) ↔ ∃ g, cur' = some (b, g))
    (taken : w'.taken = h.flatMap Beat.named ++ (Beat.named e ++ Point.unnamed cur'))
    (fewer : ∀ b, tally (Point.owes b) cur' W' G' ≤ tally (Point.owes b) cur W G) :
    Rounded w' (h ++ [e]) cur' W' G' where
  clocked := clocked
  exact := always_snoc.mpr ⟨k.exact, exact⟩
  running := running
  waiting x hx := ⟨(waiting x hx).1, (waiting x hx).2.later⟩
  inside := inside
  taken := by rw [taken, List.flatMap_append, List.flatMap_singleton, List.append_assoc]
  once b := by
    have before := k.once b
    have less := fewer b
    rw [Beat.handovers_snoc (silent b).1, List.countP_append, List.countP_singleton, (silent b).2,
      if_neg Bool.false_ne_true]
    omega
  called b := by
    rw [List.countP_append, List.countP_singleton, (silent b).2]
    exact k.called b

/-- A stretch of a round begins. -/
theorem inside_starts (k : Rounded w h none W G) (starts : ∀ b', Beat.starts b' e ↔ b' = b) (b' : Beat) :
    b'.Running (h ++ [e]) ↔ ∃ g', some (b, g) = some (b', g') := by
  have nobody : ¬ b'.Running h := by simp [k.inside]
  rw [Beat.Running, since_snoc, starts]
  constructor
  · rintro (rfl | ⟨runs, _⟩)
    · exact ⟨g, rfl⟩
    · exact absurd runs nobody
  · rintro ⟨_, ⟨⟩⟩
    exact .inl rfl

/-- A stretch of a round ends. -/
theorem inside_stops (stops : ∀ b', ¬ Beat.starts b' e) (stopped : Beat.stops e) (b' : Beat) :
    b'.Running (h ++ [e]) ↔ ∃ g', (none : Option (Beat × Point)) = some (b', g') := by
  rw [Beat.Running, since_snoc]
  constructor
  · rintro (begins | ⟨_, runs⟩)
    · exact absurd begins (stops b')
    · exact absurd stopped runs
  · exact nofun

theorem call (k : Rounded w h none W G) (new : .called b ∉ h) :
    Rounded w (h ++ [.called b]) (some (b, .before b)) W G where
  clocked := k.clocked
  exact := always_snoc.mpr ⟨k.exact, trivial⟩
  running := by
    rintro _ _ ⟨⟩
    exact ⟨rfl, trivial⟩
  waiting x hx := ⟨(k.waiting x hx).1, (k.waiting x hx).2.later⟩
  inside := k.inside_starts fun _ => eq_comm
  taken := by
    rw [k.taken, List.flatMap_append, List.append_assoc]
    rfl
  once b' := by
    have before := k.once b'
    have owes : Point.owes b' (.before b) = b'.isCalled (.called b) := rfl
    rw [Beat.handovers_snoc rfl, tally_called, List.countP_append, List.countP_singleton, owes]
    omega
  called b' := by
    rw [List.countP_append, List.countP_singleton]
    by_cases same : b = b'
    · subst same
      have uncalled : h.countP b.isCalled = 0 := by
        rw [List.countP_eq_zero]
        intro e he called
        unfold Beat.isCalled at called
        split at called
        · obtain rfl := of_decide_eq_true called
          exact new he
        · nomatch called
      rw [uncalled]
      split <;> omega
    · have other : b'.isCalled (.called b) = false := decide_eq_false same
      rw [other]
      exact k.called b'

/-- What is known of those that wait is known of the others among them. -/
theorem others (k : Rounded w h cur (l₁ ++ x :: l₂) G) :
    ∀ y ∈ l₁ ++ l₂, y.standing.beat = y.call ∧ y.standing.Waits h :=
  fun y here => k.waiting y (((List.sublist_cons_self x l₂).append_left l₁).subset here)

theorem answer (k : Rounded w h none (l₁ ++ x :: l₂) G) :
    Rounded w (h ++ [.answered x.call x.question]) (some (x.call, x.standing)) (l₁ ++ l₂) G := by
  obtain ⟨same, waits⟩ := k.waiting x (by simp)
  refine k.noted (e := .answered x.call x.question) trivial (fun _ => ⟨rfl, rfl⟩) k.clocked ?_
    k.others (k.inside_starts fun _ => eq_comm) ?_ fun _ => tally_answered.le
  · rintro _ _ ⟨⟩
    exact ⟨same, waits.later.knows⟩
  · rw [waits.unnamed]
    exact k.taken

/-- Who goes on owes what it owed. -/
theorem tally_put (puts : ∀ b', Point.owes b' g' = Point.owes b' g) (b' : Beat) :
    tally (Point.owes b') (some (b, g')) W G ≤ tally (Point.owes b') (some (b, g)) W G := by
  rw [tally_called, tally_called, puts]

/-- A round makes a change, and goes on. -/
theorem inside_changed (k : Rounded w h (some (b, g)) W G) (b' : Beat) :
    b'.Running (h ++ [.changed w w']) ↔ ∃ g'', some (b, g') = some (b', g'') := by
  rw [Beat.running_changed, k.inside]
  constructor
  · rintro ⟨_, ⟨⟩⟩
    exact ⟨g', rfl⟩
  · rintro ⟨_, ⟨⟩⟩
    exact ⟨g, rfl⟩

/-- What a round that runs may say of a change. -/
theorem exact_changed (k : Rounded w h (some (b, g)) W G)
    (change : w.Unaffected w' ∨ ∃ rs, w.Evicts b.timeout rs w') : Beat.Exact h (.changed w w') := by
  refine ⟨fun b' runs => ?_, fun nobody => ?_⟩
  · obtain ⟨g', same⟩ := (k.inside b').mp runs
    obtain ⟨rfl, _⟩ := Prod.mk.inj (Option.some.inj same)
    exact change
  · exact absurd ((k.inside b).mpr ⟨g, rfl⟩) (nobody b)

theorem put (k : Rounded w h (some (b, g)) W G)
    (puts : (rounds.embed Watch.node Watch.setNode).puts g w w' g') :
    Rounded w' (h ++ [.changed w w']) (some (b, g')) W G := by
  obtain ⟨n, rfl, puts⟩ := puts
  obtain ⟨same, _⟩ := k.running b g rfl
  have taken := k.taken
  cases puts with
  | works alone =>
    have unaffected := Watch.unaffected_setNode alone
    refine k.noted (k.exact_changed (.inl unaffected)) (fun _ => ⟨rfl, rfl⟩)
      (k.clocked.unaffected unaffected) ?_ k.waiting k.inside_changed ?_ fun _ => le_rfl
    · rintro _ _ ⟨⟩
      exact ⟨same, trivial⟩
    · exact unaffected.2.2.trans taken
  | sweeps b' =>
    obtain rfl : b' = b := same
    obtain ⟨clocked, evicts⟩ := k.clocked.evicts b'.timeout
    refine k.noted (k.exact_changed (.inr ⟨_, evicts⟩)) (fun _ => ⟨rfl, rfl⟩) clocked ?_ k.waiting
      k.inside_changed ?_ (tally_put fun _ => rfl)
    · rintro _ _ ⟨⟩
      exact ⟨rfl, h, w, _, rfl, evicts⟩
    · rw [evicts.taken, taken]
      simp [Point.unnamed, Beat.named]

theorem ask (k : Rounded w h (some (b, g)) W G)
    (asks : (rounds.embed Watch.node Watch.setNode).asks g w q g') :
    Rounded w (h ++ [.asked b q]) none (W ++ [⟨b, q, g'⟩]) G := by
  obtain ⟨same, knows⟩ := k.running b g rfl
  have inside : ∀ b' : Beat, b'.Running (h ++ [.asked b q]) ↔ ∃ g, none = some (b', g) :=
    inside_stops (fun _ => id) trivial
  cases asks with
  | cluster b' q =>
    refine k.noted (e := .asked b (.cluster q)) trivial (fun _ => ⟨rfl, rfl⟩) k.clocked nofun ?_
      inside k.taken fun _ => tally_asked.le
    intro x hx
    rcases List.mem_append.mp hx with hx | hx
    · exact k.waiting x hx
    · obtain rfl := List.mem_singleton.mp hx
      exact ⟨same, trivial⟩
  | @tells b' rs runs some' =>
    obtain rfl : b' = b := same
    constructor
    · exact k.clocked
    · exact always_snoc.mpr ⟨k.exact, runs, some', knows⟩
    · exact nofun
    · intro x hx
      rcases List.mem_append.mp hx with hx | hx
      · exact ⟨(k.waiting x hx).1, (k.waiting x hx).2.later⟩
      · obtain rfl := List.mem_singleton.mp hx
        refine ⟨rfl, runs, some', ?_⟩
        have owed : (Point.swept b' rs).owes b' = true := decide_eq_true rfl
        rw [Point.handovers_told, if_pos owed]
        exact List.mem_append_right _ (List.mem_singleton_self _)
    · exact inside
    · rw [k.taken, List.flatMap_append]
      simp [Point.unnamed, Beat.named]
    · intro b
      have before := k.once b
      have paid : Point.owes b (.told b' rs) = false := rfl
      have silent : b.isCalled (.asked b' (.evicted rs)) = false := rfl
      rw [tally_called] at before
      rw [Point.handovers_told, tally_asked, tally_called, paid, List.countP_append,
        List.countP_singleton, silent, List.length_append, apply_ite List.length, List.length_singleton,
        List.length_nil]
      simp only [Bool.false_eq_true, if_false]
      omega
    · intro b
      rw [List.countP_append, List.countP_singleton]
      exact k.called b

/-- A round that was called once hands over at most once. -/
theorem handovers_le (k : Rounded w h cur W G) (b : Beat) : (b.handovers h).length ≤ 1 :=
  (Nat.le_add_right ..).trans ((k.once b).trans (k.called b))

theorem finish (k : Rounded w h (some (b, g)) W G) {report : Node.Tick} (ends : g.Ends report) :
    Rounded w (h ++ [.returned b report]) none W G := by
  obtain ⟨same, knows⟩ := k.running b g rfl
  have inside : ∀ b' : Beat, b'.Running (h ++ [.returned b report]) ↔ ∃ g, none = some (b', g) :=
    inside_stops (fun _ => id) trivial
  have fewer : ∀ b', tally (Point.owes b') none W G ≤ tally (Point.owes b') (some (b, g)) W G :=
    fun b' => by
      rw [tally_called]
      exact Nat.le_add_right ..
  have taken := k.taken
  refine k.noted (e := .returned b report) ?_ (fun _ => ⟨rfl, rfl⟩) k.clocked nofun k.waiting inside ?_
    fewer
  · cases ends with
    | @silent b' _ nobody =>
      obtain rfl : b' = b := same
      have once := k.once b'
      have called := k.called b'
      have owed : Point.owes b' (.swept b' report.evicted) = true := decide_eq_true rfl
      rw [tally_called, owed, if_pos rfl] at once
      have none' : b'.handovers h = [] := List.length_eq_zero_iff.mp (by omega)
      rw [Beat.Exact, if_neg fun both => both.2 (nobody both.1)]
      exact ⟨none', knows⟩
    | @told b' _ =>
      obtain rfl : b' = b := same
      obtain ⟨runs, some', handed⟩ := knows
      rw [Beat.Exact, if_pos ⟨runs, some'⟩]
      obtain ⟨rs, only⟩ : ∃ rs, b'.handovers h = [rs] :=
        List.length_eq_one_iff.mp ((k.handovers_le b').antisymm (List.length_pos_of_mem handed))
      rw [only] at handed ⊢
      rw [List.mem_singleton.mp handed]
  · cases ends with
    | silent nobody =>
      obtain rfl := same
      rw [Beat.named, taken]
      split
      · rename_i runs
        exact congrArg _ (nobody runs)
      · exact congrArg _ (List.append_nil _).symm
    | @told b' _ =>
      obtain rfl : b' = b := same
      rw [Beat.named, if_pos knows.1]
      exact taken

theorem drop (k : Rounded w h none (l₁ ++ x :: l₂) G) :
    Rounded w (h ++ [.dropped x.call x.question]) none (l₁ ++ l₂) (G ++ [x]) :=
  k.noted (e := .dropped x.call x.question) trivial (fun _ => ⟨rfl, rfl⟩) k.clocked nofun k.others
    (inside_stops (fun _ => id) trivial) k.taken fun _ => tally_dropped.le

theorem turn (k : Rounded w h none W G) (passes : w.Passes w') :
    Rounded w' (h ++ [.changed w w']) none W G := by
  have nobody : ∀ b : Beat, ¬ b.Running h := by simp [k.inside]
  refine k.noted ⟨fun b runs => absurd runs (nobody b), fun _ => passes⟩ (fun _ => ⟨rfl, rfl⟩)
    (k.clocked.passes passes) nofun k.waiting ?_ ?_ fun _ => le_rfl
  · exact fun b => Beat.running_changed.trans (k.inside b)
  · obtain ⟨_, _, _, _, taken⟩ := passes
    exact taken.trans k.taken

end Rounded

/-- The discipline of rounds under watch. -/
def rounded : Discipline watching Point where
  toConduct := rounds.embed Watch.node Watch.setNode
  start := .before
  ending _ g _ report := g.Ends report
  holds := Rounded
  heeds _ _ := Node.program_rounds _
  called k new := k.call new
  answered k served := ⟨trivial, served ▸ k.answer⟩
  put k puts := k.put puts
  asked k asks := k.ask asks
  returned k ends := k.finish ends
  dropped k _ := k.drop
  turned k passes := k.turn passes

/-- **Eviction is exact.** Nobody is there at first. Sessions begin, send and receive, are closed and
leave; meanwhile ticks and rounds are under way, in a cluster or out of it, and the node may be told to
stop at any time. Then every eviction takes just the sessions that are due in that moment, and what is
reported and handed over is what was evicted (`Beat.Exact`). Whoever a round takes off the roster is named,
no round hands over twice, and one that is not aborted comes to its end. -/
theorem evicts_exactly {start : Watch} (nobody : start.node.floor.sessions = #[])
    (empty : start.node.floor.roster = []) (nothing : start.carried = []) (untaken : start.taken = [])
    {p : Pool Watch Inquiry Inquiry.Answer Node.Tick Beat} (run : watching.Reaches start p) :
    Always Beat.Exact p.notes ∧ p.state.taken = p.notes.flatMap Beat.named ∧
      (∀ b : Beat, (b.handovers p.notes).length ≤ 1) ∧
      ∀ f ∈ p.strands, ∃ p' report, Relation.ReflTransGen watching.Step p p' ∧
        .returned f.call report ∈ p'.notes := by
  have clocked : start.Clocked := by
    have nowhere : ∀ r, ¬ r < start.node.floor.sessions.size := by simp [nobody]
    constructor
    · exact ⟨by simp [empty], by simp [empty]⟩
    · exact fun r there => absurd there (nowhere r)
    · exact fun r there => absurd there (nowhere r)
    · simp [nothing]
  have first : Rounded start [] none [] [] :=
    { clocked
      exact := by simp
      running := nofun
      waiting := by simp
      inside := fun b => by simp [Beat.Running]
      taken := untaken
      once := fun _ => Nat.le_refl 0
      called := fun _ => Nat.zero_le 1 }
  obtain ⟨W, G, _, _, kept⟩ := rounded.sound first run
  refine ⟨kept.exact, kept.taken.trans (List.append_nil _), kept.handovers_le, fun f waits => ?_⟩
  refine System.exists_ended ?_ waits
  intro q w
  exact ⟨Inquiry.shrug q, w, rfl⟩

/-! ## An eviction behind the node's end -/

namespace Watch

/-- Something happens to the sessions. -/
def happen (i : Floor.Incident) (w : Watch) : Watch :=
  { w with
    node := { w.node with floor := i.after w.node.floor }
    carried := w.carried ++ (i.carriers w.node.floor).map fun r => (r, w.node.floor.now) }

theorem passes_happen {w : Watch} {i : Floor.Incident} (possible : i.Possible w.node.floor) :
    w.Passes (w.happen i) :=
  ⟨i, possible, rfl, rfl, rfl⟩

/-- The node is told to stop. -/
def stop (w : Watch) : Watch := { w with node := { w.node with closing := { begun := true } } }

theorem passes_stop (w : Watch) : w.Passes w.stop :=
  ⟨.noted id, trivial, rfl, (List.append_nil _).symm, rfl⟩

/-- A node in a cluster, with nobody there. -/
def lounge : Watch where
  node := { id := ⟨"n"⟩, clustered := true }

/-- Two sessions begin. The first is sent a frame, which fills its queue. Later the second sends
something, and the first is sent a frame in vain. -/
def chatter : List Floor.Incident :=
  [.opened ⟨"a"⟩ "/x" ⟨"n"⟩ {} (.ofCapacity 1), .registered 0,
    .opened ⟨"b"⟩ "/x" ⟨"n"⟩ {} (.ofCapacity 1), .registered 1, .sent 0 "hello", .passed 6,
    .received 1, .sent 0 "again"]

/-- All of it happens. -/
def chatted : Pool Watch Inquiry Inquiry.Answer Node.Tick Beat :=
  chatter.foldl (fun p i => p.turn (p.state.happen i)) { state := lounge }

theorem chatted_reached : watching.Reaches lounge chatted := by
  have outset : watching.Reaches lounge { state := lounge } := .init
  have first := outset.turn
    (passes_happen (i := .opened ⟨"a"⟩ "/x" ⟨"n"⟩ {} (.ofCapacity 1)) trivial)
  have both := (first.turn (passes_happen (i := .registered 0) (show 0 < 1 by decide))).turn
    (passes_happen (i := .opened ⟨"b"⟩ "/x" ⟨"n"⟩ {} (.ofCapacity 1)) trivial)
  have sent := (both.turn (passes_happen (i := .registered 1) (show 1 < 2 by decide))).turn
    (passes_happen (i := .sent 0 "hello") (show 0 < 2 by decide))
  have received := (sent.turn (passes_happen (i := .passed 6) trivial)).turn
    (passes_happen (i := .received 1) (show 1 < 2 by decide))
  exact received.turn (passes_happen (i := .sent 0 "again") (show 0 < 2 by decide))

/-- A round begins, with a timeout of ten. While it waits for the cluster time passes, and the node is told
to stop. -/
def stopped : Pool Watch Inquiry Inquiry.Answer Node.Tick Beat :=
  let called := chatted.call watching ⟨0, 10, true⟩
  let later := called.turn (called.state.happen (.passed 5))
  later.turn later.state.stop

theorem stopped_reached : watching.Reaches lounge stopped := by
  have uncalled : (.called ⟨0, 10, true⟩ : Beat.Entry) ∉ chatted.notes := by
    simp [chatted, chatter, Pool.turn]
  have called := chatted_reached.call (c := ⟨0, 10, true⟩) uncalled
  exact (called.turn (passes_happen (i := .passed 5) trivial)).turn (passes_stop _)

/-- The round is answered, and whom it evicts is taken care of. -/
def dismissed : Pool Watch Inquiry Inquiry.Answer Node.Tick Beat :=
  (List.replicate 4 0).foldl (fun p k => p.answer Inquiry.shrug k) stopped

theorem dismissed_reached : watching.Reaches lounge dismissed := by
  have shrugged : ∀ {p}, watching.Reaches lounge p →
      watching.Reaches lounge (p.answer Inquiry.shrug 0) := fun run => run.answer (fun _ => rfl) 0
  have swept := shrugged (shrugged (shrugged stopped_reached))
  exact shrugged swept

/-- Whoever has carried nothing for longer than the timeout, but for a frame in vain, is evicted and handed
over though the node is stopping; the other session stays. -/
theorem evicts_exactly_lounge : watching.Reaches lounge dismissed ∧
    dismissed.state.node.closing.begun = true ∧ dismissed.state.node.floor.registered = [1] ∧
    Beat.handovers ⟨0, 10, true⟩ dismissed.notes = [[0]] ∧
    dismissed.state.taken = dismissed.notes.flatMap Beat.named ∧ Always Beat.Exact dismissed.notes := by
  obtain ⟨exact', taken, _, _⟩ := evicts_exactly rfl rfl rfl rfl dismissed_reached
  exact ⟨dismissed_reached, rfl, by decide +kernel, by decide +kernel, taken, exact'⟩

end Watch

end SessionHub

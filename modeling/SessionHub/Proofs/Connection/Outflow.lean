import SessionHub.Connection.Writer
import SessionHub.Proofs.Outbox
import SessionHub.Proofs.Program.Alone

/-!
# What a session is sent reaches the socket

Two parties meet at an outbox. Others send to the session and close it whenever they like; the writer
takes what is queued and writes it, and may be overtaken by the others at each of its two questions. On
a socket that takes every frame, the socket has in the end what the outbox has accepted, each frame
once and in order, and then one closing frame.

The writer is simpler than its program looks: wherever it waits, it stands at one of five points
(`Pen`), and each of its steps is one of six strokes (`Stroke`). `Stands.own` reads them off the
program, and `Stands.exists_own` says that it goes on as long as there is something to do. What holds
of a line and its traffic (`Ledger`) is then proved stroke by stroke; that nothing stays behind in the
queue is proved from the strokes the writer still has before it (`work`).

A writer needs an interval to ping at, and panics without one (`panics_without_interval`). Settings that
are accepted always give one (`Settings.heartbeatInterval_pos`).
-/

namespace SessionHub.Connection

/-! ## A line and what comes of it -/

/-- A line, with what was sent to it and what was written from it. -/
structure Traffic where
  line : Line
  /-- The frames that the outbox has accepted. -/
  accepted : List String := []
  /-- What was written to the socket. -/
  written : List Frame := []
  /-- How the writer's last round has ended; the first is to come. -/
  last : Round := .again

namespace Traffic

/-- The line of an outbox that is new. -/
def fresh (capacity now nextPing : Nat) : Traffic :=
  { line := { outbox := .ofCapacity capacity, now, nextPing } }

def setLine (line : Line) (t : Traffic) : Traffic := { t with line }

/-- Somebody sends a frame. -/
def send (text : String) (t : Traffic) : Traffic :=
  { t with
    line := t.line.modifyOutbox fun o => (o.send text).2
    accepted := if (t.line.outbox.send text).1.isOk then t.accepted ++ [text] else t.accepted }

/-- What others do, and the time. -/
inductive Turn (t : Traffic) : Traffic → Prop where
  | send (text : String) : t.Turn (t.send text)
  | close : t.Turn { t with line := t.line.modifyOutbox .close }
  | pass (d : Nat) : t.Turn { t with line := { t.line with now := t.line.now + d } }

end Traffic

/-- A program of the writer, with its traffic. -/
def onTraffic {α : Type} (p : WriterProgram α) : Program Traffic WriterAsk WriterAsk.Answer α :=
  p.embed Traffic.line Traffic.setLine fun q => .ask q

/-- How a round has ended. -/
def conclude (ended : Round) : Program Traffic WriterAsk WriterAsk.Answer Unit :=
  .modify fun t => { t with last := ended }

/-- The writer at a socket that takes every frame, and those who send to the session. -/
def writer (interval : Nat) : System Traffic WriterAsk WriterAsk.Answer Unit Unit where
  program _ := onTraffic (writerRound interval) >>= conclude
  admits _ t _ under := under = [] ∧ t.last = .again
  serves
    | .wake, t, _, t' => t.line.isDue = true ∧ t' = t
    | .write f, t, written, t' => written = true ∧ t' = { t with written := t.written ++ [f] }
  mayDrop _ := False
  turns := Traffic.Turn

/-- The same where nobody but the writer does anything. -/
def soleWriter (interval : Nat) : System Traffic WriterAsk WriterAsk.Answer Unit Unit :=
  { writer interval with turns := fun _ _ => False }

/-! ## Where the writer stands -/

/-- Where the writer stands when it waits, and between its rounds. -/
inductive Pen where
  /-- The next round is to begin. -/
  | away
  /-- There is nothing to do. -/
  | waiting
  /-- A frame is being written. -/
  | writing (f : Frame)
  /-- The closing frame is being written. -/
  | closing
  /-- It is over. -/
  | ended
  deriving DecidableEq

namespace Pen

/-- What is left of the writer's program. -/
def strands (interval : Nat) : Pen → List (Strand Traffic WriterAsk WriterAsk.Answer Unit Unit)
  | away | ended => []
  | waiting => [⟨(), .wake, fun _ => onTraffic (goOn interval) >>= conclude⟩]
  | writing f => [⟨(), .write f, fun (written : Bool) =>
      onTraffic (if written then return .again else endWriter) >>= conclude⟩]
  | closing => [⟨(), .write (.close (some .normal)), fun _ => onTraffic (do
      Program.modify (Line.modifyOutbox Outbox.abandon)
      return .finished .null) >>= conclude⟩]

/-- How the last round has ended. -/
def last : Pen → Round
  | ended => .finished .null
  | _ => .again

end Pen

variable {interval capacity : Nat} {pen pen' : Pen} {t t' : Traffic}

/-- One step of the writer. -/
inductive Stroke (interval : Nat) : Pen → Traffic → Pen → Traffic → Prop where
  | begin {t : Traffic} : Stroke interval .away t .waiting t
  | take {t : Traffic} {text : String} {rest : List String} (queued : t.line.outbox.queue = text :: rest) :
      Stroke interval .waiting t (.writing (.text text))
        (t.setLine (t.line.modifyOutbox fun o => { o with queue := rest }))
  | ping {t : Traffic} (none : t.line.outbox.queue = []) (unclosed : t.line.outbox.closed = false)
      (due : t.line.nextPing ≤ t.line.now) :
      Stroke interval .waiting t (.writing (.ping []))
        (t.setLine { t.line with nextPing := t.line.nextPing + interval })
  | stop {t : Traffic} (none : t.line.outbox.queue = []) (closed : t.line.outbox.closed = true) :
      Stroke interval .waiting t .closing (t.setLine (t.line.modifyOutbox .close))
  | write {t : Traffic} (f : Frame) :
      Stroke interval (.writing f) t .away { t with written := t.written ++ [f], last := .again }
  | close {t : Traffic} :
      Stroke interval .closing t .ended { t with
        line := t.line.modifyOutbox .abandon
        written := t.written ++ [.close (some .normal)]
        last := .finished .null }

/-- Where the writer of a pool stands. -/
structure Stands (interval : Nat) (pen : Pen) (p : Pool Traffic WriterAsk WriterAsk.Answer Unit Unit) :
    Prop where
  strands : p.strands = pen.strands interval
  last : p.state.last = pen.last

variable {p p' : Pool Traffic WriterAsk WriterAsk.Answer Unit Unit}

/-- **What the writer can do is a stroke.** -/
theorem Stands.own (h : Stands interval pen p) (valid : 0 < interval)
    (next : (soleWriter interval).Step p p') :
    ∃ pen', Stands interval pen' p' ∧ Stroke interval pen p.state pen' p'.state := by
  obtain ⟨strands, last⟩ := h
  cases next with
  | @call c admitted =>
    obtain ⟨none, goesOn⟩ := admitted
    have none : p.strands = [] := List.map_eq_nil_iff.mp none
    have round : (soleWriter interval).program c
        = onTraffic (wake >>= fun _ => goOn interval) >>= conclude := by
      show onTraffic (writerRound interval) >>= conclude = _
      rw [writerRound, if_neg (Nat.pos_iff_ne_zero.mp valid)]
    rw [round]
    cases pen with
    | away => exact ⟨.waiting, ⟨congrArg (· ++ _) none, last⟩, .begin⟩
    | ended => exact absurd (goesOn.symm.trans last) (by simp [Pen.last])
    | waiting | writing | closing => exact absurd (none.symm.trans strands) (by simp [Pen.strands])
  | @answer l₁ l₂ f a s split served =>
    rw [strands] at split
    cases pen with
    | away | ended => exact absurd split (by simp [Pen.strands])
    | waiting =>
      obtain ⟨rfl, rfl, rfl⟩ := System.only_of_split split
      obtain ⟨due, rfl⟩ := served
      rcases p with ⟨⟨⟨⟨capacity, queue, closed, received, refused⟩, now, nextPing⟩, accepted, written, ended⟩,
        waiting, gone, notes⟩
      cases queue with
      | cons text rest => exact ⟨.writing (.text text), ⟨rfl, last⟩, .take rfl⟩
      | nil =>
        cases closed with
        | true => exact ⟨.closing, ⟨rfl, last⟩, .stop rfl rfl⟩
        | false =>
          have due : nextPing ≤ now := by simpa [Line.isDue] using due
          exact ⟨.writing (.ping []), ⟨rfl, last⟩, .ping rfl rfl due⟩
    | writing f =>
      obtain ⟨rfl, rfl, rfl⟩ := System.only_of_split split
      obtain ⟨rfl, rfl⟩ := served
      exact ⟨.away, ⟨rfl, rfl⟩, .write f⟩
    | closing =>
      obtain ⟨rfl, rfl, rfl⟩ := System.only_of_split split
      obtain ⟨_, rfl⟩ := served
      exact ⟨.ended, ⟨rfl, rfl⟩, .close⟩
  | drop _ droppable => exact droppable.elim
  | turn turned => exact turned.elim

/-- **The writer goes on** until it is over, or until there is nothing to do. -/
theorem Stands.exists_own (h : Stands interval pen p) :
    (∃ p', (soleWriter interval).Step p p') ∨ pen = .ended ∨
      pen = .waiting ∧ p.state.line.isDue = false := by
  obtain ⟨strands, last⟩ := h
  cases pen with
  | ended => exact .inr (.inl rfl)
  | away => exact .inl ⟨_, .call (c := ()) ⟨congrArg (List.map Strand.tag) strands, last⟩⟩
  | waiting =>
    cases due : p.state.line.isDue with
    | false => exact .inr (.inr ⟨rfl, rfl⟩)
    | true => exact .inl ⟨_, .answer (a := ()) (show p.strands = [] ++ [_] from strands) ⟨due, rfl⟩⟩
  | writing f => exact .inl ⟨_, .answer (a := true) (show p.strands = [] ++ [_] from strands) ⟨rfl, rfl⟩⟩
  | closing => exact .inl ⟨_, .answer (a := true) (show p.strands = [] ++ [_] from strands) ⟨rfl, rfl⟩⟩

/-- What others do leaves the writer where it stands. -/
theorem Stands.turn (h : Stands interval pen p) (turn : p.state.Turn t') :
    Stands interval pen (p.turn t') := by
  refine ⟨h.strands, Eq.trans ?_ h.last⟩
  cases turn <;> rfl

theorem own_or_turn (next : (writer interval).Step p p') :
    (soleWriter interval).Step p p' ∨ ∃ t', p.state.Turn t' ∧ p' = p.turn t' := by
  cases next with
  | call admitted => exact .inl (.call admitted)
  | answer split served => exact .inl (.answer split served)
  | drop _ droppable => exact droppable.elim
  | turn turned => exact .inr ⟨_, turned, rfl⟩

/-! ## The ledger -/

/-- What a frame carries for the client. -/
def carried : Frame → Option String
  | .text text => some text
  | _ => none

/-- The messages among some frames. -/
def texts (frames : List Frame) : List String := frames.filterMap carried

/-- A frame of a connection that goes on. -/
def IsCurrent (f : Frame) : Prop := f = .ping [] ∨ ∃ text, f = .text text

/-- The message that was taken from the queue and is not written yet. -/
def Pen.inHand : Pen → List String
  | writing f => texts [f]
  | _ => []

/-- What was written when the connection did not go on. -/
def Pen.farewell : Pen → List Frame
  | ended => [.close (some .normal)]
  | _ => []

/-- What holds of a line and its traffic while the writer stands somewhere. -/
structure Ledger (capacity : Nat) (pen : Pen) (t : Traffic) : Prop where
  room : t.line.outbox.capacity = max capacity 1
  received : pen ≠ .ended → t.line.outbox.received = true
  balance : t.accepted = texts t.written ++ pen.inHand ++ t.line.outbox.queue
  current : ∃ current, t.written = current ++ pen.farewell ∧ ∀ f ∈ current, IsCurrent f
  hand : ∀ f, pen = .writing f → IsCurrent f
  shut : pen = .closing ∨ pen = .ended → t.line.outbox.closed = true ∧ t.line.outbox.queue = []

theorem texts_append (before after : List Frame) : texts (before ++ after) = texts before ++ texts after :=
  List.filterMap_append

theorem ledger_fresh (capacity now nextPing : Nat) :
    Ledger capacity .away (.fresh capacity now nextPing) where
  room := rfl
  received _ := rfl
  balance := rfl
  current := ⟨[], rfl, fun f among => absurd among List.not_mem_nil⟩
  hand f stands := absurd stands (by simp)
  shut stands := absurd stands (by simp)

/-- Before a session is closed, the writer is not about to leave. -/
theorem Ledger.stays (h : Ledger capacity pen t) (unclosed : t.line.outbox.closed = false) :
    ¬ (pen = .closing ∨ pen = .ended) := fun stands => by
  rw [(h.shut stands).1] at unclosed
  exact absurd unclosed (by simp)

theorem Ledger.attended (h : Ledger capacity pen t) (unclosed : t.line.outbox.closed = false) :
    t.line.outbox.received = true :=
  h.received fun ended => h.stays unclosed (.inr ended)

/-- Where nothing is queued or in hand, everything is written. -/
theorem Ledger.complete (h : Ledger capacity pen t) (none : t.line.outbox.queue = [])
    (free : pen.inHand = []) : texts t.written = t.accepted := by
  rw [h.balance, none, free]
  simp

theorem Ledger.stroke (h : Ledger capacity pen t) (stroke : Stroke interval pen t pen' t') :
    Ledger capacity pen' t' := by
  obtain ⟨room, received, balance, ⟨current, written, flows⟩, hand, shut⟩ := h
  cases stroke with
  | begin =>
    exact ⟨room, fun _ => received (by simp), balance, ⟨current, written, flows⟩, by simp, by simp⟩
  | @take _ text rest queued =>
    refine ⟨room, fun _ => received (by simp), ?_, ⟨current, written, flows⟩, ?_, by simp⟩
    · show t.accepted = texts t.written ++ [text] ++ rest
      rw [balance, queued]
      simp [Pen.inHand]
    · intro f stands
      exact .inr ⟨text, (Pen.writing.inj stands).symm⟩
  | ping none _ _ =>
    refine ⟨room, fun _ => received (by simp), balance, ⟨current, written, flows⟩, ?_, by simp⟩
    intro f stands
    exact .inl (Pen.writing.inj stands).symm
  | stop none closed =>
    exact ⟨room, fun _ => received (by simp), balance, ⟨current, written, flows⟩, by simp,
      fun _ => ⟨rfl, none⟩⟩
  | write f =>
    refine ⟨room, fun _ => received (by simp), ?_, ⟨current ++ [f], ?_, ?_⟩, by simp, by simp⟩
    · show t.accepted = texts (t.written ++ [f]) ++ [] ++ t.line.outbox.queue
      rw [balance, texts_append]
      simp [Pen.inHand]
    · show t.written ++ [f] = current ++ [f] ++ []
      rw [written]
      simp [Pen.farewell]
    · intro g among
      rcases List.mem_append.mp among with among | last
      · exact flows g among
      · rw [List.mem_singleton.mp last]
        exact hand f rfl
  | close =>
    obtain ⟨closed, none⟩ := shut (.inl rfl)
    refine ⟨room, by simp, ?_, ⟨current, ?_, flows⟩, by simp, fun _ => ⟨closed, rfl⟩⟩
    · show t.accepted = texts (t.written ++ [.close (some .normal)]) ++ [] ++ []
      rw [balance, none, texts_append]
      simp [Pen.inHand, texts, carried]
    · show t.written ++ [.close (some .normal)] = current ++ [.close (some .normal)]
      rw [written]
      simp [Pen.farewell]

theorem Ledger.send (h : Ledger capacity pen t) (text : String) : Ledger capacity pen (t.send text) := by
  have refused : ∀ o, (t.line.outbox.send text).2 = o → (t.line.outbox.send text).1.isOk = false →
      o.capacity = t.line.outbox.capacity → o.received = t.line.outbox.received →
      o.queue = t.line.outbox.queue → (t.line.outbox.closed = true → o.closed = true) →
      Ledger capacity pen (t.send text) := by
    rintro _ rfl failed capacity received queue closed
    have same : (t.send text).accepted = t.accepted := if_neg (by simp [failed])
    refine ⟨capacity.trans h.room, fun stands => received.trans (h.received stands), ?_, h.current, h.hand,
      fun stands => ⟨closed (h.shut stands).1, queue.trans (h.shut stands).2⟩⟩
    rw [same, h.balance]
    exact congrArg (_ ++ ·) queue.symm
  cases shut : t.line.outbox.closed with
  | true =>
    have sent := Outbox.send_of_closed text shut
    exact refused _ (congrArg Prod.snd sent) (by rw [sent]; rfl) rfl rfl rfl fun _ => shut
  | false =>
    have there := h.attended shut
    by_cases full : t.line.outbox.capacity ≤ t.line.outbox.queue.length
    · have sent := Outbox.send_of_full text shut there full
      exact refused _ (congrArg Prod.snd sent) (by rw [sent]; rfl) rfl rfl rfl id
    · have sent := Outbox.send_of_room text shut there (Nat.not_le.mp full)
      have queue : (t.send text).line.outbox = { t.line.outbox with queue := t.line.outbox.queue ++ [text] } :=
        congrArg Prod.snd sent
      have accepted : (t.send text).accepted = t.accepted ++ [text] := if_pos (by rw [sent]; rfl)
      refine ⟨?_, ?_, ?_, h.current, h.hand, fun stands => absurd stands (h.stays shut)⟩
      · rw [queue]
        exact h.room
      · rw [queue]
        exact h.received
      · rw [queue, accepted, h.balance, List.append_assoc _ _ [text]]
        rfl

theorem Ledger.turn (h : Ledger capacity pen t) (turn : t.Turn t') : Ledger capacity pen t' := by
  cases turn with
  | send text => exact h.send text
  | close => exact ⟨h.room, h.received, h.balance, h.current, h.hand, fun stands => ⟨rfl, (h.shut stands).2⟩⟩
  | pass d => exact ⟨h.room, h.received, h.balance, h.current, h.hand, h.shut⟩

/-- A writer does nothing but write: it accepts no frame, and it closes no session that is open. -/
theorem Stroke.keeps (stroke : Stroke interval pen t pen' t') :
    t'.accepted = t.accepted ∧ t'.line.outbox.closed = t.line.outbox.closed := by
  cases stroke with
  | stop none closed => exact ⟨rfl, closed.symm⟩
  | begin | take | ping | write | close => exact ⟨rfl, rfl⟩

/-! ## What a line owes -/

/-- What is right of a line with room for `capacity` frames, and for one in any case. -/
structure Traffic.Faithful (capacity : Nat) (t : Traffic) : Prop where
  /-- A frame is accepted if there is room for it and the session is not closed, -/
  accepts : ∀ text, t.line.outbox.closed = false → t.line.outbox.queue.length < max capacity 1 →
    t.line.outbox.send text = (.ok (), { t.line.outbox with queue := t.line.outbox.queue ++ [text] })
  /-- and refused otherwise, with the queue as it was. -/
  refuses : ∀ text, t.line.outbox.closed = true ∨ max capacity 1 ≤ t.line.outbox.queue.length →
    (t.line.outbox.send text).1 = .error (if t.line.outbox.closed then .closed else .queueFull) ∧
      (t.line.outbox.send text).2.queue = t.line.outbox.queue
  /-- The messages that were written are the first that were accepted. -/
  inTurn : texts t.written <+: t.accepted
  /-- Nothing but messages and pings is written before the end, -/
  current : t.last = .again → ∀ f ∈ t.written, IsCurrent f
  /-- and at the end, when every message that was accepted was written, one closing frame. -/
  ended : t.last ≠ .again → t.line.outbox.closed = true ∧ texts t.written = t.accepted ∧
    ∃ current, t.written = current ++ [.close (some .normal)] ∧ ∀ f ∈ current, IsCurrent f

theorem Pen.last_eq_again_iff : pen.last = .again ↔ pen ≠ .ended := by
  cases pen <;> simp [Pen.last]

theorem Ledger.faithful (h : Ledger capacity pen t) (last : t.last = pen.last) : t.Faithful capacity where
  accepts text unclosed room := by
    rw [← h.room] at room
    exact Outbox.send_of_room text unclosed (h.attended unclosed) room
  refuses text cause := by
    cases shut : t.line.outbox.closed with
    | true => simp [Outbox.send_of_closed text shut]
    | false =>
      rw [shut, ← h.room] at cause
      have full : t.line.outbox.capacity ≤ t.line.outbox.queue.length := cause.resolve_left (by simp)
      simp [Outbox.send_of_full text shut (h.attended shut) full]
  inTurn := by
    rw [h.balance, List.append_assoc]
    exact List.prefix_append _ _
  current again := by
    obtain ⟨current, written, flows⟩ := h.current
    rw [written]
    have unfinished := Pen.last_eq_again_iff.mp (last.symm.trans again)
    cases pen with
    | ended => exact absurd rfl unfinished
    | away | waiting | writing | closing => simpa [Pen.farewell] using flows
  ended unlike := by
    have ended : pen = .ended := by
      by_contra unfinished
      exact unlike (last.trans (Pen.last_eq_again_iff.mpr unfinished))
    subst ended
    obtain ⟨closed, none⟩ := h.shut (.inr rfl)
    exact ⟨closed, h.complete none rfl, h.current⟩

/-! ## The writer comes to rest -/

/-- How many frames the writer may still begin to write, if nothing is sent and no time passes. -/
def Line.owed (l : Line) : Nat := l.outbox.queue.length + (l.now + 1 - l.nextPing)

/-- What the writer has before it: three strokes for every frame, and the rest of the round. -/
def Pen.work (t : Traffic) : Pen → Nat
  | writing _ => 3 * t.line.owed + 4
  | away => 3 * t.line.owed + 3
  | waiting => 3 * t.line.owed + 2
  | closing => 1
  | ended => 0

/-- **Each stroke uses up some of the work.** -/
theorem Stroke.work_lt (valid : 0 < interval) (stroke : Stroke interval pen t pen' t') :
    pen'.work t' < pen.work t := by
  cases stroke with
  | begin => simp [Pen.work]
  | @take _ text rest queued =>
    simp only [Pen.work, Line.owed, Traffic.setLine, Line.modifyOutbox, queued, List.length_cons]
    omega
  | ping none unclosed due =>
    simp only [Pen.work, Line.owed, Traffic.setLine]
    omega
  | stop none closed =>
    simp only [Pen.work]
    omega
  | write f => simp [Pen.work]
  | close => simp [Pen.work]

theorem exists_rest (valid : 0 < interval) {pen : Pen}
    {p : Pool Traffic WriterAsk WriterAsk.Answer Unit Unit} (h : Stands interval pen p) :
    ∃ q, Relation.ReflTransGen (soleWriter interval).Step p q ∧ ∀ r, ¬ (soleWriter interval).Step q r := by
  by_cases goesOn : ∃ q, (soleWriter interval).Step p q
  · obtain ⟨q, step⟩ := goesOn
    obtain ⟨pen', stands, stroke⟩ := h.own valid step
    have less := stroke.work_lt valid
    obtain ⟨r, later, rests⟩ := exists_rest valid stands
    exact ⟨r, .head step later, rests⟩
  · exact ⟨p, .refl, fun q step => goesOn ⟨q, step⟩⟩
termination_by pen.work p.state

/-- A writer that has come to rest has written everything, and is over if the session is closed. -/
theorem Ledger.settled (h : Ledger capacity pen p.state) (stands : Stands interval pen p)
    (rests : ∀ q, ¬ (soleWriter interval).Step p q) : texts p.state.written = p.state.accepted ∧
      (p.state.line.outbox.closed = true → p.state.last ≠ .again) := by
  rcases stands.exists_own with ⟨q, step⟩ | rfl | ⟨rfl, idle⟩
  · exact absurd step (rests q)
  · obtain ⟨_, none⟩ := h.shut (.inr rfl)
    refine ⟨h.complete none rfl, fun _ => ?_⟩
    rw [stands.last]
    simp [Pen.last]
  · simp only [Line.isDue, Bool.or_eq_false_iff, Bool.not_eq_false', List.isEmpty_iff] at idle
    obtain ⟨⟨unclosed, none⟩, _⟩ := idle
    exact ⟨h.complete none rfl, fun closed => absurd (unclosed.symm.trans closed) (by simp)⟩

/-! ## Every run -/

theorem exists_pen (valid : 0 < interval) {now nextPing : Nat}
    (run : (writer interval).Reaches (.fresh capacity now nextPing) p) :
    ∃ pen, Stands interval pen p ∧ Ledger capacity pen p.state := by
  induction run with
  | init => exact ⟨.away, ⟨rfl, rfl⟩, ledger_fresh ..⟩
  | step _ next ih =>
    obtain ⟨pen, stands, ledger⟩ := ih
    rcases own_or_turn next with own | ⟨t', turn, rfl⟩
    · obtain ⟨pen', stands, stroke⟩ := stands.own valid own
      exact ⟨pen', stands, ledger.stroke stroke⟩
    · exact ⟨pen, stands.turn turn, ledger.turn turn⟩

/-- What the writer does by itself adds nothing to what is to be written. -/
theorem Stands.sole (h : Stands interval pen p) (ledger : Ledger capacity pen p.state)
    (valid : 0 < interval) {q : Pool Traffic WriterAsk WriterAsk.Answer Unit Unit}
    (later : Relation.ReflTransGen (soleWriter interval).Step p q) :
    ∃ pen', Stands interval pen' q ∧ Ledger capacity pen' q.state ∧
      q.state.accepted = p.state.accepted ∧
      q.state.line.outbox.closed = p.state.line.outbox.closed := by
  induction later with
  | refl => exact ⟨pen, h, ledger, rfl, rfl⟩
  | tail _ step ih =>
    obtain ⟨pen', stands, ledger, accepted, closed⟩ := ih
    obtain ⟨pen'', stands, stroke⟩ := stands.own valid step
    obtain ⟨accepted', closed'⟩ := stroke.keeps
    exact ⟨pen'', stands, ledger.stroke stroke, accepted'.trans accepted, closed'.trans closed⟩

/-- The writer by itself does not go on for ever. -/
theorem Stands.exists_stop (h : Stands interval pen p) (valid : 0 < interval)
    {later : Nat → Pool Traffic WriterAsk WriterAsk.Answer Unit Unit} (first : later 0 = p) :
    ∃ n, ¬ (soleWriter interval).Step (later n) (later (n + 1)) := by
  refine Classical.not_forall.mp fun goesOn => ?_
  have descends : ∀ n, ∃ pen', Stands interval pen' (later n) ∧
      pen'.work (later n).state + n ≤ pen.work p.state := by
    intro n
    induction n with
    | zero =>
      rw [first]
      exact ⟨pen, h, Nat.le_refl _⟩
    | succ n ih =>
      obtain ⟨pen', stands, bound⟩ := ih
      obtain ⟨pen'', stands, stroke⟩ := stands.own valid (goesOn n)
      have less := stroke.work_lt valid
      exact ⟨pen'', stands, by omega⟩
  obtain ⟨_, _, bound⟩ := descends (pen.work p.state + 1)
  omega

/-- **What a session is sent reaches the socket.** Take any run of a writer at a socket that takes every
frame, in which others send and close as they like. At every point of it the line is faithful: a frame
is accepted exactly if the session is not closed and fewer frames are queued than there is room for,
and the socket has the first of the accepted messages, in order and each once, with nothing but pings
between them; once the writer is over, it has them all, and behind them one closing frame. From there
the writer by itself comes to rest, in whatever way it goes on; then every message that was accepted
by then is written, and if the session was closed the writer is over. -/
theorem outflow_faithful (valid : 0 < interval) {now nextPing : Nat}
    (run : (writer interval).Reaches (.fresh capacity now nextPing) p) :
    p.state.Faithful capacity ∧
      (∃ q, Relation.ReflTransGen (soleWriter interval).Step p q ∧
        ∀ r, ¬ (soleWriter interval).Step q r) ∧
      (∀ q, Relation.ReflTransGen (soleWriter interval).Step p q →
        (∀ r, ¬ (soleWriter interval).Step q r) →
        q.state.Faithful capacity ∧ texts q.state.written = p.state.accepted ∧
          (p.state.line.outbox.closed = true → q.state.last ≠ .again)) ∧
      ∀ later : Nat → Pool Traffic WriterAsk WriterAsk.Answer Unit Unit, later 0 = p →
        ∃ n, ¬ (soleWriter interval).Step (later n) (later (n + 1)) := by
  obtain ⟨pen, stands, ledger⟩ := exists_pen valid run
  refine ⟨ledger.faithful stands.last, exists_rest valid stands, fun q later rests => ?_,
    fun later first => stands.exists_stop valid first⟩
  obtain ⟨pen', stands', ledger', accepted, closed⟩ := stands.sole ledger valid later
  obtain ⟨written, ended⟩ := ledger'.settled stands' rests
  exact ⟨ledger'.faithful stands'.last, written.trans accepted, fun shut => ended (closed.trans shut)⟩

/-- In an outbox with room for one frame, a second is refused; the first is still written when the session
is closed. -/
theorem outflow_last_frame : ∃ p q, (writer 10).Reaches (.fresh 1 0 10) p ∧
    Relation.ReflTransGen (soleWriter 10).Step p q ∧ q.state.last ≠ .again ∧
    texts q.state.written = ["one"] := by
  have opened : (writer 10).Reaches (.fresh 1 0 10) { state := .fresh 1 0 10 } := .init
  have sent := ((opened.call (c := ()) ⟨rfl, rfl⟩).turn (.send "one")).turn (.send "two")
  have run := sent.turn .close
  obtain ⟨_, ⟨q, later, rests⟩, settled, _⟩ := outflow_faithful (by decide) run
  obtain ⟨_, written, ended⟩ := settled q later rests
  exact ⟨_, q, run, later, ended rfl, written⟩

/-! ## The interval -/

/-- A writer without an interval panics in its first round, and what is queued is lost. -/
theorem panics_without_interval (t : Traffic) :
    ((⟨t, [], [], []⟩ : Pool Traffic WriterAsk WriterAsk.Answer Unit Unit).call (writer 0) ()).state
      = { t with line := t.line.modifyOutbox .abandon, last := .panicked } := rfl

end SessionHub.Connection

import Mathlib.Logic.Relation
import SessionHub.Remote.Follower

/-!
# A subscription outlives its connections

What a subscription hands on does not depend on how its connections end, on how many attempts are
refused in between, or on how far the receiver has fallen behind. It is what the connections have
carried, one connection after the other, less the payloads that are no text.

The server's part is a script: what the first connection carries, and for every attempt after it
whether it is refused or what the new connection carries. When something arrives, when a connection is
lost, when the subscription goes on, when an attempt is made and when the receiver takes something is
left open (`Feed.Step`). Three things are proved of every run (`Feed.unbroken`). Nothing is lost, repeated
or moved: what has been handed over, what is queued and what is still to come are together what the
script carries. Only the receiver's going ends the subscription. And a run that has come to rest has
handed everything over; every run does come to rest, as each step uses up some of the work that the
script leaves (`Feed.Step.work_lt`).
-/

namespace SessionHub.Remote

/-! ## How a subscription goes on by itself -/

/-- What one step of a subscription by itself can be. -/
inductive Follower.Advance (f : Follower) : Follower → Prop where
  /-- Nobody listens. -/
  | leave (unwanted : f.wanted = false) (unclosed : f.link ≠ .closed) :
      f.Advance { f with link := .closed }
  /-- A message is handed on. -/
  | handOn {a rest m} (wanted : f.wanted = true) (live : f.link = .live) (next : f.arrived = a :: rest)
      (text : a.message? = some m) (room : f.queue.length < queueCapacity) :
      f.Advance { f with arrived := rest, queue := f.queue ++ [m] }
  /-- A payload that is no text is skipped. -/
  | skip {a rest} (wanted : f.wanted = true) (live : f.link = .live) (next : f.arrived = a :: rest)
      (noText : a.message? = none) : f.Advance { f with arrived := rest }
  /-- The connection has ended, and everything on it was dealt with. -/
  | retry (backoff : Backoff) (wanted : f.wanted = true) (live : f.link = .live) (none : f.arrived = [])
      (lost : f.lost = true) :
      f.Advance { f with link := .waiting, arrived := [], lost := false, backoff }

namespace Follower

variable {f : Follower} {jitter : Float} {j : Journal}

/-- To wait for another attempt changes nothing of what is queued, or of who listens. -/
theorem exists_retry_eq (jitter : Float) (complaint : String) (fault : StoreFault) (f : Follower)
    (j : Journal) : ∃ backoff, (f.retry jitter complaint fault j).1
      = { f with link := .waiting, arrived := [], lost := false, backoff } := by
  unfold retry delay
  cases f.backoff.next jitter with
  | some drawn => exact ⟨drawn.2, rfl⟩
  | none => exact ⟨f.backoff, rfl⟩

theorem advance_step (jitter : Float) (j : Journal) (can : f.canStep = true) : f.Advance (f.step jitter j).1 := by
  unfold step
  rw [if_neg (by simp [can])]
  by_cases wanted : f.wanted = true
  · have live : f.link = .live := by
      cases link : f.link <;> simp [canStep, link, wanted] at can ⊢
    rw [if_neg (by simp [wanted])]
    split
    · rename_i arrived
      have lost : f.lost = true := by simpa [canStep, live, wanted, arrived] using can
      obtain ⟨backoff, same⟩ := exists_retry_eq jitter "pub/sub connection lost"
        (.unavailable "pub/sub stream ended") f j
      rw [same]
      exact .retry backoff wanted live arrived lost
    · rename_i a rest arrived
      split
      · rename_i m text
        have room : f.queue.length < queueCapacity := by
          simpa [canStep, live, wanted, arrived, text] using can
        exact .handOn wanted live arrived text room
      · rename_i noText
        exact .skip wanted live arrived noText
  · rw [if_pos (by simp [wanted])]
    refine .leave (Bool.eq_false_iff.mpr wanted) fun closed => ?_
    simp [canStep, closed] at can

theorem canStep_of_lost (live : f.link = .live) (none : f.arrived = []) (lost : f.lost = true) :
    f.canStep = true := by
  simp [canStep, live, none, lost]

theorem canStep_of_arrived {a : Arrival} {rest : List Arrival} (live : f.link = .live)
    (next : f.arrived = a :: rest) (room : f.queue.length < queueCapacity) : f.canStep = true := by
  simp [canStep, live, next, room]

/-- An attempt that is accepted begins another connection. -/
theorem attempt_ok (waits : f.link = .waiting) :
    (f.attempt (.ok ()) jitter j).1 = { f with link := .live, backoff := f.backoff.restart } := by
  simp [attempt, waits]

/-- After an attempt that is refused, the subscription waits as before. -/
theorem exists_attempt_error_eq (jitter : Float) (j : Journal) (waits : f.link = .waiting)
    (fault : StoreFault) :
    ∃ backoff, (f.attempt (.error fault) jitter j).1
      = { f with link := .waiting, arrived := [], lost := false, backoff } := by
  unfold attempt
  rw [if_neg (by simp [waits])]
  exact exists_retry_eq jitter _ fault f j

end Follower

/-! ## A subscription and its server -/

/-- What comes of an attempt to connect. -/
inductive Attempt where
  | refused (fault : StoreFault)
  /-- A connection on which this arrives before it is lost. -/
  | accepted (arrivals : List Arrival)
  deriving Repr, DecidableEq

namespace Attempt

/-- What arrives on the connection that comes of an attempt. -/
def arrivals : Attempt → List Arrival
  | refused _ => []
  | accepted arrivals => arrivals

/-- An attempt as the subscription is told of it. -/
def outcome : Attempt → Except StoreFault Unit
  | refused fault => .error fault
  | accepted _ => .ok ()

variable {fault : StoreFault} {coming : List Arrival}

@[simp] theorem arrivals_refused : arrivals (.refused fault) = [] := rfl

@[simp] theorem arrivals_accepted : arrivals (.accepted coming) = coming := rfl

@[simp] theorem outcome_refused : outcome (.refused fault) = .error fault := rfl

@[simp] theorem outcome_accepted : outcome (.accepted coming) = .ok () := rfl

end Attempt

/-- A subscription, its receiver, and what the server has in store for it. -/
structure Feed where
  follower : Follower
  journal : Journal := {}
  /-- What will still arrive on the connection before it is lost. -/
  coming : List Arrival
  /-- What will come of the next attempts. -/
  ahead : List Attempt
  /-- What the receiver has been handed. -/
  handed : List Message := []

namespace Feed

/-- A subscription that has its first connection. -/
def opened (pattern : String) (first : List Arrival) (script : List Attempt) : Feed :=
  { follower := { pattern }, coming := first, ahead := script }

/-- What may happen while the receiver is there. -/
inductive Move (x : Feed) : Feed → Prop where
  | arrive {a rest} (live : x.follower.link = .live) (next : x.coming = a :: rest) :
      x.Move { x with follower := x.follower.arrive a, coming := rest }
  | lose (live : x.follower.link = .live) (unlost : x.follower.lost = false) (emptied : x.coming = []) :
      x.Move { x with follower := x.follower.lose }
  | advance (jitter : Float) (can : x.follower.canStep = true) :
      x.Move { x with
        follower := (x.follower.step jitter x.journal).1
        journal := (x.follower.step jitter x.journal).2 }
  | attempt {a rest} (jitter : Float) (waits : x.follower.link = .waiting) (next : x.ahead = a :: rest) :
      x.Move { x with
        follower := (x.follower.attempt a.outcome jitter x.journal).1
        journal := (x.follower.attempt a.outcome jitter x.journal).2
        coming := a.arrivals
        ahead := rest }
  | take {m rest} (next : x.follower.queue = m :: rest) :
      x.Move { x with follower := x.follower.take.2, handed := x.handed ++ [m] }

/-- What may happen. -/
inductive Step (x : Feed) : Feed → Prop where
  | move {y} (move : x.Move y) : x.Step y
  | leave (wanted : x.follower.wanted = true) : x.Step { x with follower := x.follower.leave }

/-- The messages that the connections of a script carry. -/
def carried (first : List Arrival) (script : List Attempt) : List Message :=
  (first ++ script.flatMap Attempt.arrivals).filterMap Arrival.message?

/-- The messages that were not handed on yet, or did not arrive yet. -/
def outstanding (x : Feed) : List Message :=
  (x.follower.arrived ++ (x.coming ++ x.ahead.flatMap Attempt.arrivals)).filterMap Arrival.message?

/-! ## Nothing is lost -/

/-- What holds of a subscription that is to hand over `all`. -/
structure Sound (all : List Message) (x : Feed) : Prop where
  waiting : x.follower.link = .waiting →
    x.follower.arrived = [] ∧ x.coming = [] ∧ x.follower.lost = false
  lost : x.follower.lost = true → x.coming = []
  room : x.follower.queue.length ≤ queueCapacity
  handed : x.handed ++ x.follower.queue <+: all
  unclosed : x.follower.wanted = true → x.follower.link ≠ .closed
  whole : x.follower.wanted = true → x.handed ++ x.follower.queue ++ x.outstanding = all

variable {all : List Message} {x y : Feed}

theorem sound_opened (pattern : String) (first : List Arrival) (script : List Attempt) :
    Sound (carried first script) (opened pattern first script) where
  waiting waits := absurd waits (by simp [opened])
  lost lost := absurd lost (by simp [opened])
  room := Nat.zero_le _
  handed := List.nil_prefix
  unclosed _ := by simp [opened]
  whole _ := rfl

theorem Sound.arrive (h : Sound all x) {a : Arrival} {rest : List Arrival}
    (live : x.follower.link = .live) (next : x.coming = a :: rest) :
    Sound all { x with follower := x.follower.arrive a, coming := rest } := by
  have unlost : x.follower.lost = false := by
    refine Bool.eq_false_iff.mpr fun lost => ?_
    rw [h.lost lost] at next
    exact absurd next (by simp)
  have arrived : x.follower.arrive a = { x.follower with arrived := x.follower.arrived ++ [a] } := by
    simp [Follower.arrive, live, unlost]
  rw [arrived]
  refine ⟨fun waits => ?_, fun lost => ?_, h.room, h.handed, h.unclosed, fun wanted => ?_⟩
  · exact absurd (live.symm.trans waits) (by simp)
  · exact absurd (unlost.symm.trans lost) (by simp)
  · rw [← h.whole wanted, outstanding, outstanding, next]
    simp

theorem Sound.lose (h : Sound all x) (live : x.follower.link = .live) (emptied : x.coming = []) :
    Sound all { x with follower := x.follower.lose } := by
  have ended : x.follower.lose = { x.follower with lost := true } := by
    simp [Follower.lose, live]
  rw [ended]
  exact ⟨fun waits => absurd (live.symm.trans waits) (by simp), fun _ => emptied, h.room, h.handed,
    h.unclosed, h.whole⟩

theorem Sound.advance (h : Sound all x) {f : Follower} (j : Journal) (advance : x.follower.Advance f) :
    Sound all { x with follower := f, journal := j } := by
  cases advance with
  | leave unwanted _ =>
    refine ⟨fun waits => absurd waits (by simp), h.lost, h.room, h.handed, fun wanted => ?_, fun wanted => ?_⟩
    all_goals exact absurd (unwanted.symm.trans wanted) (by simp)
  | @handOn a rest m wanted live next text room =>
    have whole : x.handed ++ (x.follower.queue ++ [m])
        ++ outstanding { x with follower := { x.follower with arrived := rest } } = all := by
      rw [← h.whole wanted, outstanding, outstanding, next]
      simp [text]
    refine ⟨fun waits => absurd (live.symm.trans waits) (by simp), h.lost, ?_, ⟨_, whole⟩, h.unclosed,
      fun _ => whole⟩
    rw [List.length_append]
    exact room
  | @skip a rest wanted live next noText =>
    refine ⟨fun waits => absurd (live.symm.trans waits) (by simp), h.lost, h.room, h.handed, h.unclosed,
      fun _ => ?_⟩
    rw [← h.whole wanted, outstanding, outstanding, next]
    simp [noText]
  | retry backoff wanted live none lost =>
    refine ⟨fun _ => ⟨rfl, h.lost lost, rfl⟩, fun lost => absurd lost (by simp), h.room, h.handed,
      fun _ => by simp, fun _ => ?_⟩
    rw [← h.whole wanted, outstanding, outstanding, none]

theorem Sound.attempt (h : Sound all x) {a : Attempt} {rest : List Attempt} (jitter : Float)
    (j : Journal) (waits : x.follower.link = .waiting) (next : x.ahead = a :: rest) :
    Sound all { x with
      follower := (x.follower.attempt a.outcome jitter x.journal).1
      journal := j, coming := a.arrivals, ahead := rest } := by
  obtain ⟨arrived, coming, unlost⟩ := h.waiting waits
  have unchanged : ∀ f : Follower, f.arrived = [] →
      outstanding { x with follower := f, journal := j, coming := a.arrivals, ahead := rest }
        = x.outstanding := by
    intro f none
    rw [outstanding, outstanding, none, arrived, coming, next]
    simp
  cases a with
  | refused fault =>
    obtain ⟨backoff, same⟩ := Follower.exists_attempt_error_eq jitter x.journal waits fault
    rw [Attempt.outcome_refused, same]
    refine ⟨fun _ => ⟨rfl, rfl, rfl⟩, fun _ => rfl, h.room, h.handed, fun _ => by simp, fun wanted => ?_⟩
    rw [unchanged _ rfl]
    exact h.whole wanted
  | accepted arrivals =>
    rw [Attempt.outcome_accepted, Follower.attempt_ok waits]
    refine ⟨fun waits => absurd waits (by simp), fun lost => absurd (unlost.symm.trans lost) (by simp),
      h.room, h.handed, fun _ => by simp, fun wanted => ?_⟩
    rw [unchanged]
    · exact h.whole wanted
    · exact arrived

theorem Sound.take (h : Sound all x) {m : Message} {rest : List Message}
    (next : x.follower.queue = m :: rest) :
    Sound all { x with follower := x.follower.take.2, handed := x.handed ++ [m] } := by
  have taken : x.follower.take.2 = { x.follower with queue := rest } := by
    rw [Follower.take, next]
  have moved : x.handed ++ [m] ++ rest = x.handed ++ x.follower.queue := by
    rw [next, List.append_assoc]
    rfl
  rw [taken]
  refine ⟨h.waiting, h.lost, ?_, ?_, h.unclosed, fun wanted => ?_⟩
  · have room := h.room
    rw [next, List.length_cons] at room
    exact Nat.le_of_succ_le room
  · rw [moved]
    exact h.handed
  · rw [moved]
    exact h.whole wanted

theorem Sound.leave (h : Sound all x) : Sound all { x with follower := x.follower.leave } :=
  ⟨h.waiting, h.lost, Nat.zero_le _, by
    rw [show x.follower.leave.queue = [] from rfl, List.append_nil]
    exact (List.prefix_append _ _).trans h.handed, fun wanted => absurd wanted (by simp [Follower.leave]),
    fun wanted => absurd wanted (by simp [Follower.leave])⟩

/-- **One step** of a subscription loses nothing. -/
theorem Sound.step (h : Sound all x) (step : x.Step y) : Sound all y := by
  cases step with
  | leave _ => exact h.leave
  | move move =>
    cases move with
    | arrive live next => exact h.arrive live next
    | lose live _ emptied => exact h.lose live emptied
    | advance jitter can => exact h.advance _ (Follower.advance_step _ _ can)
    | attempt jitter waits next => exact h.attempt jitter _ waits next
    | take next => exact h.take next

theorem Sound.run (h : Sound all x) (run : Relation.ReflTransGen Step x y) : Sound all y := by
  induction run with
  | refl => exact h
  | tail _ step ih => exact ih.step step

/-! ## Every run comes to rest -/

/-- What a subscription can still lose: its connection, and then itself. -/
def atStake (f : Follower) : Nat :=
  match f.link with
  | .live => if f.lost then 2 else 3
  | .waiting => 1
  | .closed => 0

theorem atStake_le (f : Follower) : atStake f ≤ 3 := by
  unfold atStake
  split
  · split <;> omega
  · omega
  · omega

theorem atStake_pos {f : Follower} (unclosed : f.link ≠ .closed) : 0 < atStake f := by
  unfold atStake
  split
  · split <;> omega
  · omega
  · contradiction

/-- What attempts may yet set off. -/
def scripted : List Attempt → Nat
  | [] => 0
  | a :: rest => 3 + 3 * a.arrivals.length + scripted rest

/-- What a subscription has before it: its receiver's going, its connection's end, and all that is
underway. -/
def work (x : Feed) : Nat :=
  (if x.follower.wanted then 1 else 0) + atStake x.follower + x.follower.queue.length
    + 2 * x.follower.arrived.length + 3 * x.coming.length + scripted x.ahead

theorem work_advance_lt {f : Follower} (j : Journal) (advance : x.follower.Advance f) :
    work { x with follower := f, journal := j } < x.work := by
  cases advance with
  | leave unwanted unclosed =>
    have unclosed := atStake_pos unclosed
    have closed : atStake { x.follower with link := .closed } = 0 := rfl
    simp only [work, closed]
    omega
  | handOn wanted live next text room =>
    have same : ∀ arrived queue, atStake { x.follower with arrived, queue } = atStake x.follower :=
      fun _ _ => rfl
    simp only [work, next, same, List.length_append, List.length_cons, List.length_nil]
    omega
  | @skip a rest wanted live next noText =>
    have same : atStake { x.follower with arrived := rest } = atStake x.follower := rfl
    simp only [work, next, same, List.length_cons]
    omega
  | retry backoff wanted live none lost => simp [work, atStake, live, none, lost]

theorem work_attempt_lt {a : Attempt} {rest : List Attempt} (jitter : Float) (j : Journal)
    (waits : x.follower.link = .waiting) (next : x.ahead = a :: rest) :
    work { x with
      follower := (x.follower.attempt a.outcome jitter x.journal).1
      journal := j, coming := a.arrivals, ahead := rest } < x.work := by
  have waiting : atStake x.follower = 1 := by rw [atStake, waits]
  cases a with
  | refused fault =>
    obtain ⟨backoff, same⟩ := Follower.exists_attempt_error_eq jitter x.journal waits fault
    have still : atStake (x.follower.attempt (.error fault) jitter x.journal).1 = 1 := by
      rw [same]
      rfl
    rw [Attempt.outcome_refused]
    rw [same] at still ⊢
    simp only [work, waiting, still, next, Attempt.arrivals_refused, scripted, List.length_nil]
    omega
  | accepted arrivals =>
    have live := atStake_le (x.follower.attempt (.ok ()) jitter x.journal).1
    rw [Attempt.outcome_accepted]
    rw [Follower.attempt_ok waits] at live ⊢
    simp only [work, waiting, next, Attempt.arrivals_accepted, scripted]
    omega

/-- **Each step uses up some of the work**: there is only so much that a script can set off. -/
theorem Step.work_lt (step : x.Step y) : y.work < x.work := by
  cases step with
  | leave wanted =>
    have same : atStake x.follower.leave = atStake x.follower := rfl
    simp only [work, same]
    simp only [Follower.leave, wanted, List.length_nil, if_true, Bool.false_eq_true, if_false]
    omega
  | move move =>
    cases move with
    | @arrive a rest live next =>
      simp only [work, next, List.length_cons, Follower.arrive]
      split
      · have same : atStake { x.follower with arrived := x.follower.arrived ++ [a] } = atStake x.follower :=
          rfl
        simp only [same, List.length_append, List.length_cons, List.length_nil]
        omega
      · omega
    | lose live unlost emptied => simp [work, atStake, Follower.lose, live, unlost]
    | advance jitter can => exact work_advance_lt _ (Follower.advance_step _ _ can)
    | attempt jitter waits next => exact work_attempt_lt jitter _ waits next
    | @take m rest next =>
      have same : atStake { x.follower with queue := rest } = atStake x.follower := rfl
      simp only [work, Follower.take, next, same, List.length_cons]
      omega

/-- A subscription whose receiver is there moves on until everything was handed over. -/
theorem Sound.complete (h : Sound all x) (wanted : x.follower.wanted = true) (rests : ∀ y, ¬ x.Move y) :
    x.handed = all ∧ x.follower.link = .waiting ∧ x.ahead = [] := by
  have taken : x.follower.queue = [] := by
    cases queue : x.follower.queue with
    | nil => rfl
    | cons m rest => exact absurd (.take queue) (rests _)
  have waits : x.follower.link = .waiting := by
    cases link : x.follower.link with
    | closed => exact absurd link (h.unclosed wanted)
    | waiting => rfl
    | live =>
      exfalso
      cases arrived : x.follower.arrived with
      | cons a rest =>
        have room : x.follower.queue.length < queueCapacity := by
          rw [taken]
          decide
        exact rests _ (.advance 1 (Follower.canStep_of_arrived link arrived room))
      | nil =>
        cases lost : x.follower.lost with
        | true => exact rests _ (.advance 1 (Follower.canStep_of_lost link arrived lost))
        | false =>
          cases coming : x.coming with
          | cons a rest => exact rests _ (.arrive link coming)
          | nil => exact rests _ (.lose link lost coming)
  have made : x.ahead = [] := by
    cases ahead : x.ahead with
    | nil => rfl
    | cons a rest => exact absurd (.attempt 1 waits ahead) (rests _)
  obtain ⟨arrived, coming, _⟩ := h.waiting waits
  have whole := h.whole wanted
  rw [outstanding, taken, arrived, coming, made] at whole
  exact ⟨by simpa using whole, waits, made⟩

/-- Nothing that happens while the receiver is there makes it go. -/
theorem Move.wanted_eq (move : x.Move y) : y.follower.wanted = x.follower.wanted := by
  cases move with
  | arrive live next =>
    simp only [Follower.arrive]
    split <;> rfl
  | lose live unlost emptied =>
    simp only [Follower.lose]
    split <;> rfl
  | advance jitter can =>
    have advance := Follower.advance_step jitter x.journal can
    generalize (x.follower.step jitter x.journal).1 = f at advance
    cases advance <;> rfl
  | @attempt a rest jitter waits next =>
    cases a with
    | refused fault =>
      obtain ⟨backoff, same⟩ :=
        Follower.exists_attempt_error_eq jitter x.journal waits fault
      exact (congrArg Follower.wanted same).trans rfl
    | accepted arrivals => exact (congrArg Follower.wanted (Follower.attempt_ok waits)).trans rfl
  | take next =>
    simp only [Follower.take, next]

theorem wanted_eq (run : Relation.ReflTransGen Move x y) : y.follower.wanted = x.follower.wanted := by
  induction run with
  | refl => rfl
  | tail _ move ih => exact move.wanted_eq.trans ih

/-- A subscription whose receiver stays can come to rest. -/
theorem exists_rest (x : Feed) : ∃ y, Relation.ReflTransGen Move x y ∧ ∀ z, ¬ y.Move z := by
  by_cases moves : ∃ y, x.Move y
  · obtain ⟨y, move⟩ := moves
    have less : y.work < x.work := (Step.move move).work_lt
    obtain ⟨z, later, rests⟩ := exists_rest y
    exact ⟨z, .head move later, rests⟩
  · exact ⟨x, .refl, fun y move => moves ⟨y, move⟩⟩
termination_by x.work

theorem steps_of_moves (run : Relation.ReflTransGen Move x y) : Relation.ReflTransGen Step x y :=
  Relation.ReflTransGen.mono (fun _ _ => Step.move) x y run

/-- **A subscription outlives its connections.** Whatever the first connection and those after it carry,
however many attempts are refused between them, and in whatever order things happen, what the receiver
has been handed is always a beginning of what the connections carry, one connection after the other,
less the payloads that are no text. As long as the receiver is there, the subscription is not over,
and what is queued and what is still to come follow without a gap; it can always come to rest, and
where nothing moves any more, everything was handed over, every attempt was made, and the subscription
waits for the next. And no run goes on for ever. -/
theorem unbroken {pattern : String} {first : List Arrival} {script : List Attempt} {x : Feed}
    (run : Relation.ReflTransGen Step (opened pattern first script) x) :
    x.handed <+: carried first script ∧
      (x.follower.wanted = true → x.follower.link ≠ .closed ∧
        x.handed ++ x.follower.queue ++ x.outstanding = carried first script ∧
        (∃ y, Relation.ReflTransGen Move x y ∧ ∀ z, ¬ y.Move z) ∧
        ∀ y, Relation.ReflTransGen Move x y → (∀ z, ¬ y.Move z) →
          y.handed = carried first script ∧ y.follower.link = .waiting ∧ y.ahead = []) ∧
      ∀ later : Nat → Feed, later 0 = x → ∃ n, ¬ (later n).Step (later (n + 1)) := by
  have sound := (sound_opened pattern first script).run run
  refine ⟨(List.prefix_append _ _).trans sound.handed, fun wanted => ?_,
    fun later _ => Classical.not_forall.mp fun goesOn => ?_⟩
  · exact ⟨sound.unclosed wanted, sound.whole wanted, exists_rest x, fun y moved rests =>
      (sound.run (steps_of_moves moved)).complete ((wanted_eq moved).trans wanted) rests⟩
  · have descends : ∀ n, (later n).work + n ≤ (later 0).work := by
      intro n
      induction n with
      | zero => exact Nat.le_refl _
      | succ n ih =>
        have less := (goesOn n).work_lt
        omega
    have bounded := descends ((later 0).work + 1)
    omega

/-- The first connection carries a message and something that is no text, one attempt is refused, and
the next connection carries another message. -/
theorem unbroken_refused :
    let first : List Arrival := [⟨"node:n1", [104, 105]⟩, ⟨"node:n1", [255]⟩]
    let script : List Attempt := [.refused (.unavailable "down"), .accepted [⟨"node:n1", [121, 111]⟩]]
    ∃ x, Relation.ReflTransGen Step (opened "node:*" first script) x ∧ x.ahead = [] ∧
      x.handed = [⟨"node:n1", "hi"⟩, ⟨"node:n1", "yo"⟩] := by
  intro first script
  obtain ⟨x, moved, rests⟩ := exists_rest (opened "node:*" first script)
  obtain ⟨_, staying, _⟩ := unbroken (steps_of_moves moved)
  obtain ⟨_, _, _, complete⟩ := staying (wanted_eq moved)
  obtain ⟨handed, _, made⟩ := complete x .refl rests
  refine ⟨x, steps_of_moves moved, made, handed.trans ?_⟩
  decide

end Feed

end SessionHub.Remote

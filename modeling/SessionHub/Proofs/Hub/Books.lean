import SessionHub.Proofs.Hub.Programs
import SessionHub.Proofs.Program.History
import SessionHub.Proofs.Program.Pool

/-!
# What a hub has begun, and what it still owes

A hub runs beside connections that are made, send frames and go, beside sends and broadcasts that
fail, and beside its own liveness job, which is dropped when it does not stop in time. Its runs are
those of the `hub` below.

The **books** of a run balance what handlers were told against what programs still owe. Every
session that was let in has one host, until the host has returned it; its opening was begun or is
still due; and its end, once claimed, was told or is owed by whoever claimed it. The gauge of active
connections shows how many ends have not been told.
-/

namespace SessionHub

/-! ## Runs -/

/-- What a hub is called for. -/
inductive HubCall where
  | accept (path : String) (handshake : Handshake) (outbox : Outbox)
  | message (r : SessionRef) (text : String)
  | fault (r : SessionRef) (f : SessionFault)
  /-- The reader of a session has read its last frame. -/
  | hangUp (r : SessionRef)
  | disconnect (r : SessionRef)
  | broadcast (path payload : String)
  | send (path : String) (id : SessionId) (payload : String)
  | start
  | liveness
  | shutdown
  deriving Repr, DecidableEq

namespace HubCall

/-- The session whose reader has read something. -/
def speaker? : HubCall → Option SessionRef
  | .message r _ | .fault r _ => some r
  | _ => none

/-- The session whose reader calls. -/
def reader? : HubCall → Option SessionRef
  | .hangUp r => some r
  | c => c.speaker?

/-- What is run for a call. The session that was let in is its result, if it lets one in. -/
def program : HubCall → HubProgram (Option SessionRef)
  | .accept path handshake outbox => do return (← Node.accept path handshake outbox).toOption
  | .message r text => do
    Node.message r text
    return none
  | .fault r f => do
    Node.fault r f
    return none
  | .hangUp r | .disconnect r => do
    Node.disconnect r
    return none
  | .broadcast path payload => do
    discard (Node.asHub (Node.broadcast path payload))
    return none
  | .send path id payload => do
    discard (Node.asHub (Node.sendTo path id payload))
    return none
  | .start => do
    Node.run
    return none
  | .liveness => do
    Node.livenessRound
    return none
  | .shutdown => do
    Node.shutdown
    return none

end HubCall

/-- What is observed of a hub. -/
abbrev HubNote := Note Node HubAsk (Option SessionRef) HubCall

/-- A hub, and what is under way in it. -/
abbrev HubPool := Pool Node HubAsk HubAsk.Answer (Option SessionRef) HubCall

/-- Whether a note says that a session was let in. -/
def HubNote.admits (r : SessionRef) : HubNote → Bool
  | .returned _ a => a == some r
  | _ => false

/-- A session's reader begins once the session was let in, makes one call at a time, and none after
its last. Whatever else is called may be called at any time, of sessions that there are. -/
def hub : System Node HubAsk HubAsk.Answer (Option SessionRef) HubCall where
  program := HubCall.program
  admits c n h tags :=
    (∀ r, c.reader? = some r → (∃ x ∈ h, HubNote.admits r x) ∧
      (∀ t ∈ tags, t.1.reader? ≠ some r) ∧ .called (.hangUp r) ∉ h) ∧
    ∀ r, c = .disconnect r → r < n.floor.sessions.size
  serves _ n _ n' := n' = n
  mayDrop c := c = .liveness
  turns := Node.Aside

/-! ## Callbacks in the notes -/

/-- Whether a question runs a session's callback. -/
def HubAsk.tells (e : Event) (r : SessionRef) : HubAsk → Bool
  | .callback _ _ r' o => r' == r && o.event == e
  | _ => false

namespace HubNote

/-- Whether a note says that a session's callback begins. -/
def begins (e : Event) (r : SessionRef) : HubNote → Bool
  | .asked _ q => q.tells e r
  | _ => false

/-- Whether a note says that a session's callback is over: it was answered, or dropped. -/
def ends (e : Event) (r : SessionRef) : HubNote → Bool
  | .answered _ q | .dropped _ q => q.tells e r
  | _ => false

end HubNote

/-- How often a session's callback was begun. -/
def begun (e : Event) (r : SessionRef) (h : List HubNote) : Nat := h.countP (HubNote.begins e r)

/-- How often a session's callback has come to its end. -/
def ended (e : Event) (r : SessionRef) (h : List HubNote) : Nat := h.countP (HubNote.ends e r)

namespace HubNote

variable {h : List HubNote} {x : HubNote} {e : Event} {r : SessionRef}

theorem begun_snoc : begun e r (h ++ [x]) = begun e r h + if begins e r x then 1 else 0 := by
  rw [begun, List.countP_append, List.countP_singleton]
  rfl

theorem admits_snoc :
    (h ++ [x]).countP (admits r) = h.countP (admits r) + if admits r x then 1 else 0 := by
  rw [List.countP_append, List.countP_singleton]

/-- A note that says nothing of a session's life. -/
def Silent (x : HubNote) : Prop := (∀ r, admits r x = false) ∧ ∀ e r, begins e r x = false

theorem Silent.begun (silent : Silent x) : begun e r (h ++ [x]) = begun e r h := by
  rw [begun_snoc, silent.2, if_neg Bool.false_ne_true, Nat.add_zero]

theorem Silent.admits (silent : Silent x) :
    (h ++ [x]).countP (admits r) = h.countP (admits r) := by
  rw [admits_snoc, silent.1, if_neg Bool.false_ne_true, Nat.add_zero]

end HubNote

/-! ## Stands in the books -/

namespace Standing

/-- Whether a program has let a session in and has not returned it. -/
def isHost (r : SessionRef) (g : Standing) : Bool := g.hosts == some r

/-- Whether a program has still to tell that a session is open. -/
def isDue (r : SessionRef) (g : Standing) : Bool := g.hosts == some r && g.due

/-- Whether a program has still to tell that a session is closed. -/
def isDebtor (r : SessionRef) (g : Standing) : Bool := g.owes == some r

/-- Where a program stands that is called. -/
def ofCall (c : HubCall) : Standing := { reads := c.speaker? }

end Standing

/-- What a program of a hub is doing, and where it stands. -/
abbrev HubStance := Stance HubAsk HubCall Standing

namespace Node

/-- How many of the sessions on a floor have not been told to be closed. -/
def untold (n : Node) (h : List HubNote) : Nat :=
  (List.range n.floor.sessions.size).countP fun r => begun .closed r h == 0

theorem untold_silent {h : List HubNote} {x : HubNote} (silent : x.Silent) (n : Node) :
    untold n (h ++ [x]) = untold n h := by
  simp only [untold, silent.begun]

/-- The question of whoever still has to tell that a session is closed. -/
def routeDeletion (keys : KeyLayout) (n : Node) (r : SessionRef) : HubAsk :=
  .cluster (.store (.delete (keys.routeKey (n.session r).path (n.session r).id)))

/-- **The books of a run.** -/
structure Books (hs : Handlers) (keys : KeyLayout) (n : Node) (h : List HubNote)
    (cur : Option (HubCall × Standing)) (W G : List HubStance) : Prop where
  sound : Sound hs keys n
  finds : ∀ w ∈ W, Finds hs keys w.standing n
  hosted : ∀ r, h.countP (HubNote.admits r) + tally (Standing.isHost r) cur W G
    = if r < n.floor.sessions.size then 1 else 0
  opened : ∀ r, begun .opened r h + tally (Standing.isDue r) cur W G
    = if r < n.floor.sessions.size then 1 else 0
  closed : ∀ r, begun .closed r h + tally (Standing.isDebtor r) cur W G
    = if r < n.floor.sessions.size ∧ (n.session r).finished = true then 1 else 0
  active : n.floor.journal.active + tally Standing.counted cur W G = untold n h
  counting : ∀ c g, cur = some (c, g) → g.counted = true → g.owes ≠ none
  quiet : ∀ w ∈ W ++ G, w.standing.counted = false
  debts : ∀ w ∈ W ++ G, ∀ r, w.standing.owes = some r → w.question = routeDeletion keys n r
  nobody : ∀ a, h.getLast? = some (.returned .shutdown a) → n.floor.roster = []

variable {hs : Handlers} {keys : KeyLayout} {n n' : Node} {h : List HubNote} {c : HubCall}
  {g g' : Standing} {W G l₁ l₂ : List HubStance} {w : HubStance}

/-- A note that says nothing keeps the books. -/
theorem Books.silent {cur : Option (HubCall × Standing)} (l : Books hs keys n h cur W G)
    {x : HubNote} (silent : x.Silent) (open' : ∀ a, x ≠ .returned .shutdown a) :
    Books hs keys n (h ++ [x]) cur W G where
  sound := l.sound
  finds := l.finds
  hosted r := by
    rw [silent.admits]
    exact l.hosted r
  opened r := by
    rw [silent.begun]
    exact l.opened r
  closed r := by
    rw [silent.begun]
    exact l.closed r
  active := by
    rw [untold_silent silent]
    exact l.active
  counting := l.counting
  quiet := l.quiet
  debts := l.debts
  nobody a last := absurd (by simpa using last) (open' a)

/-- Nobody that waits or was dropped has counted a connection back and not told of it. -/
theorem Books.uncounted {cur : Option (HubCall × Standing)} (l : Books hs keys n h cur W G) :
    tally Standing.counted (none : Option (HubCall × Standing)) W G = 0 := by
  by_contra some'
  obtain ⟨w, hw, counted⟩ := exists_of_tally_pos (Nat.pos_of_ne_zero some')
  rw [l.quiet w hw] at counted
  exact absurd counted Bool.false_ne_true

theorem Books.called (l : Books hs keys n h none W G) :
    Books hs keys n (h ++ [.called c]) (some (c, .ofCall c)) W G := by
  have silent : HubNote.Silent (.called c) := ⟨fun _ => rfl, fun _ _ => rfl⟩
  have l' := l.silent silent (by simp)
  refine ⟨l'.sound, l'.finds, fun r => ?_, fun r => ?_, fun r => ?_, ?_, ?_, l'.quiet, l'.debts,
    l'.nobody⟩
  · rw [tally_called]
    exact l'.hosted r
  · rw [tally_called]
    exact l'.opened r
  · rw [tally_called]
    exact l'.closed r
  · rw [tally_called]
    exact l'.active
  · intro _ _ same counted
    obtain ⟨rfl, rfl⟩ := Prod.mk.inj (Option.some.inj same)
    nomatch counted

theorem Books.answered (l : Books hs keys n h none (l₁ ++ w :: l₂) G) {x : HubNote}
    (silent : x.Silent) (open' : ∀ a, x ≠ .returned .shutdown a) :
    Books hs keys n (h ++ [x]) (some (w.call, w.standing)) (l₁ ++ l₂) G := by
  have l' := l.silent silent open'
  have fewer : (l₁ ++ l₂).Sublist (l₁ ++ w :: l₂) := (List.sublist_cons_self w l₂).append_left l₁
  have sub := (fewer.append_right G).subset
  refine ⟨l'.sound, fun w' hw => l'.finds w' (fewer.subset hw), fun r => ?_, fun r => ?_, fun r => ?_,
    ?_, ?_, fun w' hw => l'.quiet w' (sub hw), fun w' hw => l'.debts w' (sub hw), l'.nobody⟩
  · rw [tally_answered]
    exact l'.hosted r
  · rw [tally_answered]
    exact l'.opened r
  · rw [tally_answered]
    exact l'.closed r
  · rw [tally_answered]
    exact l'.active
  · intro _ _ same counted
    obtain ⟨rfl, rfl⟩ := Prod.mk.inj (Option.some.inj same)
    rw [l.quiet w (by simp)] at counted
    nomatch counted

/-- Whoever owes a session, the session is there and its end was claimed. -/
theorem Books.debtor_there {cur : Option (HubCall × Standing)} (l : Books hs keys n h cur W G)
    {r : SessionRef} (hw : w ∈ W ++ G) (owes : w.standing.owes = some r) :
    r < n.floor.sessions.size ∧ (n.session r).finished = true := by
  have owed : Standing.isDebtor r w.standing = true := by simp [Standing.isDebtor, owes]
  have some' : 0 < tally (Standing.isDebtor r) cur W G := tally_pos hw owed
  have balance := l.closed r
  by_contra absent
  rw [if_neg absent] at balance
  omega

/-- What is aside is no concern of the books. -/
theorem Books.aside {cur : Option (HubCall × Standing)} (l : Books hs keys n h cur W G)
    (a : Aside n n') : Books hs keys n' (h ++ [.changed n n']) cur W G := by
  have silent : HubNote.Silent (.changed n n') := ⟨fun _ => rfl, fun _ _ => rfl⟩
  have l' := l.silent silent (by simp)
  have sound := l.sound.aside a
  have finished : ∀ r, (n'.session r).finished = (n.session r).finished := a.floor.finished
  constructor
  · exact sound
  · exact fun w hw => (l.finds w hw).aside a
  · rw [a.floor.size]
    exact l'.hosted
  · rw [a.floor.size]
    exact l'.opened
  · simp only [a.floor.size, finished]
    exact l'.closed
  · rw [a.floor.active, untold, a.floor.size]
    exact l'.active
  · exact l.counting
  · exact l.quiet
  · intro w hw r owes
    obtain ⟨there, _⟩ := l.debtor_there hw owes
    rw [l.debts w hw r owes, routeDeletion, routeDeletion, a.onward.path r there, a.onward.id r there]
  · intro b last
    simp at last

/-- What a change has to come to for the books to be kept: what it does to the balances of each
session and to the gauge. -/
theorem Books.moved (l : Books hs keys n h (some (c, g)) W G) (o : Onward n n')
    (sound : Sound hs keys n')
    (hosted : ∀ r, (if r < n'.floor.sessions.size then 1 else 0) +
        (if Standing.isHost r g then 1 else 0)
      = (if r < n.floor.sessions.size then 1 else 0) + if Standing.isHost r g' then 1 else 0)
    (opened : ∀ r, (if r < n'.floor.sessions.size then 1 else 0) +
        (if Standing.isDue r g then 1 else 0)
      = (if r < n.floor.sessions.size then 1 else 0) + if Standing.isDue r g' then 1 else 0)
    (closed : ∀ r, (if r < n'.floor.sessions.size ∧ (n'.session r).finished = true then 1 else 0) +
        (if Standing.isDebtor r g then 1 else 0)
      = (if r < n.floor.sessions.size ∧ (n.session r).finished = true then 1 else 0) +
        if Standing.isDebtor r g' then 1 else 0)
    (active : n'.floor.journal.active + ((if g'.counted then 1 else 0 : Nat) : Int) + untold n h
      = n.floor.journal.active + ((if g.counted then 1 else 0 : Nat) : Int) + untold n' h)
    (counting : g'.counted = true → g'.owes ≠ none) :
    Books hs keys n' (h ++ [.changed n n']) (some (c, g')) W G := by
  have silent : HubNote.Silent (.changed n n') := ⟨fun _ => rfl, fun _ _ => rfl⟩
  have l' := l.silent silent (by simp)
  constructor
  · exact sound
  · exact fun w hw => (l.finds w hw).onward o sound
  · intro r
    have before := l'.hosted r
    have change := hosted r
    rw [tally_called] at before ⊢
    omega
  · intro r
    have before := l'.opened r
    have change := opened r
    rw [tally_called] at before ⊢
    omega
  · intro r
    have before := l'.closed r
    have change := closed r
    rw [tally_called] at before ⊢
    omega
  · have before := l.active
    rw [tally_called] at before ⊢
    rw [untold_silent silent]
    omega
  · intro _ _ same
    obtain ⟨rfl, rfl⟩ := Prod.mk.inj (Option.some.inj same)
    exact counting
  · exact l.quiet
  · intro w hw r owes
    obtain ⟨there, _⟩ := l.debtor_there hw owes
    rw [l.debts w hw r owes, routeDeletion, routeDeletion, o.path r there, o.id r there]
  · intro a last
    simp at last

/-- Nobody is told of a session, lets it in or owes it before it is there. -/
theorem Books.unborn {cur : Option (HubCall × Standing)} (l : Books hs keys n h cur W G)
    {r : SessionRef} (absent : n.floor.sessions.size ≤ r) : begun .closed r h = 0 := by
  have balance := l.closed r
  rw [if_neg fun there => absurd there.1 (Nat.not_lt.mpr absent)] at balance
  omega

/-- What sessions are left is no concern of the books. -/
theorem Books.shifted (l : Books hs keys n h (some (c, g)) W G) {left : List SessionRef}
    {last : Bool} : Books hs keys n h (some (c, { g with left, last })) W G where
  sound := l.sound
  finds := l.finds
  hosted := l.hosted
  opened := l.opened
  closed := l.closed
  active := l.active
  counting := by
    intro _ _ same
    obtain ⟨rfl, rfl⟩ := Prod.mk.inj (Option.some.inj same)
    exact l.counting c g rfl
  quiet := l.quiet
  debts := l.debts
  nobody := l.nobody

/-- A place below the next size is below this one, or is the next. -/
theorem next_place (size r : Nat) : (if r < size + 1 then 1 else 0) + 0
    = (if r < size then 1 else 0) + if size = r then 1 else 0 := by
  split <;> split <;> split <;> omega

/-- **Every change of a program keeps the books.** -/
theorem Books.put (l : Books hs keys n h (some (c, g)) W G)
    (put : (conduct hs keys).puts g n n' g') :
    Books hs keys n' (h ++ [.changed n n']) (some (c, g')) W G := by
  obtain ⟨f', g₁, m, same⟩ := put
  rw [same]
  cases m with
  | aside a => exact (l.aside a).shifted
  | enrolled free admits handled e =>
    have m : Move hs g n n' _ := .enrolled free admits handled e
    refine l.moved m.onward f'.sound (fun r => ?_) (fun r => ?_) (fun r => ?_) ?_ (l.counting c g rfl)
    · have host : Standing.isHost r g = false := by simp [Standing.isHost, free]
      rw [host, e.size]
      simp only [Standing.isHost, beq_iff_eq, Option.some.injEq, Bool.false_eq_true, if_false]
      exact next_place _ r
    · have due : Standing.isDue r g = false := by simp [Standing.isDue, free]
      rw [due, e.size]
      simp only [Standing.isDue, Bool.and_true, beq_iff_eq, Option.some.injEq, Bool.false_eq_true,
        if_false]
      exact next_place _ r
    · have open' : (r < n'.floor.sessions.size ∧ (n'.session r).finished = true) ↔
          (r < n.floor.sessions.size ∧ (n.session r).finished = true) := by
        rw [e.size]
        by_cases there : r < n.floor.sessions.size
        · rw [e.others r there]
          simp [there, Nat.lt_succ_of_lt there]
        · simp only [there, false_and, iff_false, not_and, Bool.not_eq_true]
          intro there'
          obtain rfl : r = n.floor.sessions.size := by omega
          exact e.finished
      simp only [open']
      rfl
    · have fresh : begun .closed n.floor.sessions.size h = 0 := l.unborn (Nat.le_refl _)
      have grown : untold n' h = untold n h + 1 := by
        rw [untold, untold, e.size, List.range_succ, List.countP_append, List.countP_singleton, fresh]
        rfl
      rw [e.active, grown]
      push_cast
      omega
  | began tracked =>
    have m : Move hs g n _ g := .began tracked
    exact l.moved m.onward f'.sound (fun _ => rfl) (fun _ => rfl) (fun _ => rfl) rfl
      (l.counting c g rfl)
  | @claimed _ r free there first e =>
    have m : Move hs g n n' _ := .claimed free there first e
    refine l.moved m.onward f'.sound (fun r' => ?_) (fun r' => ?_) (fun r' => ?_) ?_ (by simp)
    · rw [e.size]
      rfl
    · rw [e.size]
      rfl
    · have debtor : Standing.isDebtor r' g = false := by simp [Standing.isDebtor, free]
      rw [debtor, e.size]
      simp only [Standing.isDebtor, beq_iff_eq, Option.some.injEq, Bool.false_eq_true, if_false]
      by_cases same : r = r'
      · subst same
        simp [there, first, e.here]
      · simp [same, e.others r' (Ne.symm same)]
    · have uncounted : g.counted = false := by
        cases counted : g.counted with
        | false => rfl
        | true => exact absurd free (l.counting c g rfl counted)
      rw [e.active, untold, untold, e.size, uncounted]
  | counted owes uncounted =>
    have m : Move hs g n _ _ := .counted owes uncounted
    refine l.moved m.onward f'.sound (fun _ => rfl) (fun _ => rfl) (fun _ => rfl) ?_ fun _ => ?_
    · have back : n.countBack.floor.journal.active = n.floor.journal.active - 1 := by
        simp [countBack, Node.record, Floor.record]
        rfl
      rw [back, uncounted]
      show _ + (1 : Int) + _ = _ + (0 : Int) + untold n h
      omega
    · rw [owes]
      exact Option.some_ne_none _

/-- Of the numbers below a bound one less has a property when one has lost it. -/
theorem countP_range_except {P P' : Nat → Bool} {r : Nat} (was : P r = true) (now : P' r = false)
    (others : ∀ i, i ≠ r → P' i = P i) {size : Nat} (there : r < size) :
    (List.range size).countP P' + 1 = (List.range size).countP P := by
  induction size with
  | zero => nomatch there
  | succ size ih =>
    simp only [List.range_succ, List.countP_append, List.countP_singleton]
    by_cases last : r = size
    · have former : (List.range size).countP P' = (List.range size).countP P := by
        refine List.countP_congr fun i hi => ?_
        rw [others i (by have := List.mem_range.mp hi; omega)]
      subst last
      rw [former, was, now]
      rfl
    · have := ih (by omega)
      rw [others size (Ne.symm last)]
      omega

/-- **Every question of a program keeps the books.** -/
theorem Books.asked (l : Books hs keys n h (some (c, g)) W G) {q : HubAsk}
    (ask : (conduct hs keys).asks g n q g') :
    Books hs keys n (h ++ [.asked c q]) none (W ++ [⟨c, q, g'⟩]) G := by
  obtain ⟨f', question⟩ := ask
  have counting : g.owes = none → g.counted = false := fun free => by
    cases counted : g.counted with
    | false => rfl
    | true => exact absurd free (l.counting c g rfl counted)
  have hosts : g'.hosts = g.hosts := by cases question <;> rfl
  have due : ∀ r, (if q.tells .opened r then 1 else 0) + (if Standing.isDue r g' then 1 else 0)
      = if Standing.isDue r g then 1 else 0 := by
    intro r
    cases question with
    | opened _ _ _ host due => simp [HubAsk.tells, Standing.isDue, Occasion.event, host, due]
    | _ => simp [HubAsk.tells, Standing.isDue, Occasion.event]
  have debt : ∀ r, (if q.tells .closed r then 1 else 0) + (if Standing.isDebtor r g' then 1 else 0)
      = if Standing.isDebtor r g then 1 else 0 := by
    intro r
    cases question with
    | closed _ _ owes _ => simp [HubAsk.tells, Standing.isDebtor, Occasion.event, owes]
    | _ => simp [HubAsk.tells, Standing.isDebtor, Occasion.event]
  have owed : ∀ r, g'.owes = some r → q = routeDeletion keys n r := by
    intro r owes
    cases question with
    | forget owes' _ =>
      obtain rfl := Option.some.inj (owes'.symm.trans owes)
      rfl
    | closed => nomatch owes
    | cluster _ free | jobs _ _ free | opened _ _ free | message _ _ _ free | error _ _ _ _ free =>
      exact absurd owes (by simp [free])
  have uncounted : g'.counted = false := by
    cases question with
    | forget _ uncounted => exact uncounted
    | closed => rfl
    | cluster _ free | jobs _ _ free | opened _ _ free | message _ _ _ free | error _ _ _ _ free =>
      exact counting free
  have shown : (if g.counted then 1 else 0) + untold n (h ++ [.asked c q]) = untold n h := by
    have nobody : (∀ r, q.tells .closed r = false) → g.counted = false →
        (if g.counted then 1 else 0) + untold n (h ++ [.asked c q]) = untold n h := by
      intro silent uncounted
      simp [untold, HubNote.begun_snoc, HubNote.begins, silent, uncounted]
    cases question with
    | @closed r _ _ owes counted =>
      have balance := l.closed r
      rw [tally_called, if_pos (show Standing.isDebtor r g = true by simp [Standing.isDebtor, owes])]
        at balance
      have there : r < n.floor.sessions.size ∧ (n.session r).finished = true := by
        by_contra absent
        rw [if_neg absent] at balance
        omega
      rw [if_pos there] at balance
      rw [counted, if_pos rfl, Nat.add_comm]
      refine countP_range_except ?_ ?_ (fun i other => ?_) there.1
      · exact beq_iff_eq.mpr (by omega)
      · simp [HubNote.begun_snoc, HubNote.begins, HubAsk.tells, Occasion.event]
      · simp [HubNote.begun_snoc, HubNote.begins, HubAsk.tells, Occasion.event, Ne.symm other]
    | forget _ uncounted => exact nobody (fun _ => rfl) uncounted
    | cluster _ free | jobs _ _ free => exact nobody (fun _ => rfl) (counting free)
    | opened _ _ free | message _ _ _ free | error _ _ _ _ free =>
      exact nobody (fun _ => by simp [HubAsk.tells, Occasion.event]) (counting free)
  constructor
  · exact l.sound
  · intro w hw
    cases List.mem_append.mp hw with
    | inl hw => exact l.finds w hw
    | inr hw =>
      obtain rfl := List.mem_singleton.mp hw
      exact f'
  · intro r
    have before := l.hosted r
    rw [tally_called] at before
    rw [HubNote.admits_snoc, tally_asked, tally_called, Standing.isHost, hosts]
    exact before
  · intro r
    have before := l.opened r
    have change := due r
    rw [tally_called] at before
    rw [HubNote.begun_snoc, tally_asked, tally_called, HubNote.begins]
    omega
  · intro r
    have before := l.closed r
    have change := debt r
    rw [tally_called] at before
    rw [HubNote.begun_snoc, tally_asked, tally_called, HubNote.begins]
    omega
  · have before := l.active
    rw [tally_called, ← shown] at before
    rw [tally_asked, tally_called, uncounted, if_neg Bool.false_ne_true, Nat.add_zero]
    omega
  · exact fun _ _ same => nomatch same
  · intro w hw
    rw [List.mem_append, List.mem_append, List.mem_singleton] at hw
    rcases hw with (hw | rfl) | hw
    · exact l.quiet w (by simp [hw])
    · exact uncounted
    · exact l.quiet w (by simp [hw])
  · intro w hw
    rw [List.mem_append, List.mem_append, List.mem_singleton] at hw
    rcases hw with (hw | rfl) | hw
    · exact l.debts w (by simp [hw])
    · exact owed
    · exact l.debts w (by simp [hw])
  · intro a last
    simp at last

/-- With what a program may end. -/
structure Over (c : HubCall) (g : Standing) (n : Node) (a : Option SessionRef) : Prop where
  told : g.due = false
  free : g.owes = none
  result : g.hosts = a
  nobody : c = .shutdown → n.floor.roster = []

/-- **Whoever ends owes nothing**, so that the books are kept. -/
theorem Books.returned (l : Books hs keys n h (some (c, g)) W G) {a : Option SessionRef}
    (ending : Over c g n a) : Books hs keys n (h ++ [.returned c a]) none W G := by
  have uncounted : g.counted = false := by
    cases counted : g.counted with
    | false => rfl
    | true => exact absurd ending.free (l.counting c g rfl counted)
  have begun' : ∀ e r, begun e r (h ++ [.returned c a]) = begun e r h := fun e r => by
    rw [HubNote.begun_snoc]
    rfl
  constructor
  · exact l.sound
  · exact l.finds
  · intro r
    have before := l.hosted r
    rw [tally_called, Standing.isHost, ending.result] at before
    rw [HubNote.admits_snoc, HubNote.admits]
    omega
  · intro r
    have before := l.opened r
    rw [tally_called, Standing.isDue, ending.told, Bool.and_false] at before
    rw [begun']
    exact before
  · intro r
    have before := l.closed r
    rw [tally_called, Standing.isDebtor, ending.free] at before
    rw [begun']
    exact before
  · have before := l.active
    rw [tally_called, uncounted] at before
    simp only [untold, begun']
    exact before
  · exact fun _ _ same => nomatch same
  · exact l.quiet
  · exact l.debts
  · intro b last
    have same : (Note.returned c a : HubNote) = .returned .shutdown b := by simpa using last
    exact ending.nobody (Note.returned.inj same).1

theorem Books.dropped (l : Books hs keys n h none (l₁ ++ w :: l₂) G) :
    Books hs keys n (h ++ [.dropped w.call w.question]) none (l₁ ++ l₂) (G ++ [w]) := by
  have silent : HubNote.Silent (.dropped w.call w.question) := ⟨fun _ => rfl, fun _ _ => rfl⟩
  have l' := l.silent silent (by simp)
  have fewer : (l₁ ++ l₂).Sublist (l₁ ++ w :: l₂) := (List.sublist_cons_self w l₂).append_left l₁
  have sub : ∀ {w'}, w' ∈ l₁ ++ l₂ ++ (G ++ [w]) → w' ∈ l₁ ++ w :: l₂ ++ G := by simp; tauto
  refine ⟨l'.sound, fun w' hw => l'.finds w' (fewer.subset hw), fun r => ?_, fun r => ?_, fun r => ?_,
    ?_, (fun _ _ same => nomatch same), fun w' hw => l'.quiet w' (sub hw),
    fun w' hw => l'.debts w' (sub hw), l'.nobody⟩
  · rw [tally_dropped]
    exact l'.hosted r
  · rw [tally_dropped]
    exact l'.opened r
  · rw [tally_dropped]
    exact l'.closed r
  · rw [tally_dropped]
    exact l'.active

end Node

end SessionHub

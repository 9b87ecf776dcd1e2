import Mathlib.Data.List.Nodup
import SessionHub.Proofs.Hub.Aside
import SessionHub.Proofs.Tables

/-!
# Delivery

What a payload that is delivered on a path comes to for every session of a floor. A registered session
of the path that is active and has room takes it, once, and stays registered; one that does not is
closed and taken off the roster, and its queue is what it was. Nothing changes for anybody else.

And what the operations that take sessions off the roster come to: whoever is **dismissed** is closed and
registered no more, and nothing changes for the others. A sweep of the cluster is no concern of any
session.

This holds of every floor whose roster is a table of its sessions: no name twice, and each session
under its own.
-/

namespace SessionHub

/-- Whether a session takes the next frame. -/
def Session.hasRoom (s : Session) : Bool := s.isActive && s.outbox.queue.length < s.outbox.capacity

/-- A session that has taken a frame. -/
def Session.taking (now : Nat) (text : String) (s : Session) : Session :=
  { s with outbox := { s.outbox with queue := s.outbox.queue ++ [text] }, lastActive := now }

theorem Session.send_of_hasRoom {s : Session} (room : s.hasRoom = true) (now : Nat) (text : String) :
    s.send now text = (.ok (), s.taking now text) := by
  obtain ⟨active, short⟩ := Bool.and_eq_true_iff.mp room
  obtain ⟨unclosed, there⟩ := Bool.and_eq_true_iff.mp active
  have sent : s.outbox.send text = (.ok (), { s.outbox with queue := s.outbox.queue ++ [text] }) := by
    rw [Outbox.send, if_neg (by simpa using unclosed), if_neg (by simp [there]),
      if_neg (Nat.not_le.mpr (of_decide_eq_true short))]
  rw [Session.send, sent]
  rfl

/-- A send in vain is an error and queues nothing. -/
theorem Session.send_of_not_hasRoom {s : Session} (full : s.hasRoom = false) (now : Nat)
    (text : String) : ∃ fault s', s.send now text = (.error fault, s') ∧
      s'.outbox.queue = s.outbox.queue ∧ s'.id = s.id ∧ s'.path = s.path ∧
      s'.finished = s.finished := by
  unfold Session.send Outbox.send
  by_cases closed : s.outbox.closed = true
  · rw [if_pos closed]
    exact ⟨.closed, _, rfl, rfl, rfl, rfl, rfl⟩
  · by_cases gone : s.outbox.received = true
    · have long : s.outbox.queue.length ≥ s.outbox.capacity := by
        simpa [Session.hasRoom, Session.isActive, Outbox.isActive, closed, gone] using full
      rw [if_neg closed, if_neg (by simp [gone]), if_pos long]
      exact ⟨.queueFull, _, rfl, rfl, rfl, rfl, rfl⟩
    · rw [if_neg closed, if_pos (by simpa using gone)]
      exact ⟨.closed, _, rfl, rfl, rfl, rfl, rfl⟩

namespace Floor

/-! ## Rosters -/

/-- The roster of a floor is a table of its sessions. -/
structure Listed (f : Floor) : Prop where
  distinct : (f.roster.map (·.1)).Nodup
  named : ∀ e ∈ f.roster, e.2 < f.sessions.size ∧ (f.session e.2).id = e.1

variable {f f' f'' : Floor} {path payload : String} {r r' : SessionRef}

theorem Listed.aside (h : Listed f) (c : Aside f f') : Listed f' where
  distinct := h.distinct.sublist (c.roster.map _)
  named e he := by
    obtain ⟨there, id⟩ := h.named e (c.roster.subset he)
    exact ⟨c.size ▸ there, (c.id e.2).trans id⟩

/-- Neither a session nor the roster changes. -/
def Still (f f' : Floor) : Prop := f'.sessions = f.sessions ∧ f'.roster = f.roster

theorem Still.trans (h : Still f f') (h' : Still f' f'') : Still f f'' :=
  ⟨h'.1.trans h.1, h'.2.trans h.2⟩

theorem Listed.of_still (h : Listed f) (still : Still f f') : Listed f' where
  distinct := still.2 ▸ h.distinct
  named e he := by
    rw [session, still.1]
    exact h.named e (still.2 ▸ he)

theorem Listed.place (h : Listed f) (s : Session) : Listed (f.place s).2 where
  distinct := h.distinct
  named e he := by
    obtain ⟨there, id⟩ := h.named e he
    refine ⟨by simpa [Floor.place] using Nat.lt_succ_of_lt there, ?_⟩
    rw [session_place s there]
    exact id

/-- Whoever is registered gets a place of its own on the roster, or none. -/
theorem Listed.register (h : Listed f) (there : r < f.sessions.size) :
    Listed (f.register r).2 := by
  unfold Floor.register
  dsimp only
  split
  · exact ⟨h.distinct, h.named⟩
  · rename_i unknown
    constructor
    · have absent : (f.session r).id ∉ f.roster.map (·.1) := mt (isSome_lookup ..).mpr unknown
      rw [List.map_append]
      exact h.distinct.append (List.nodup_singleton _) (List.disjoint_singleton.mpr absent)
    · intro e he
      cases List.mem_append.mp he with
      | inl he => exact h.named e he
      | inr he =>
        obtain rfl := List.mem_singleton.mp he
        exact ⟨there, rfl⟩

theorem mem_registered : r ∈ f.registered ↔ ∃ id, (id, r) ∈ f.roster := by
  simp [registered]

theorem mem_onPath : r ∈ f.onPath path ↔ r ∈ f.registered ∧ (f.session r).path = path := by
  simp [onPath]

/-- A registered session stands on the roster under its name. -/
theorem Listed.mem (h : Listed f) (here : r ∈ f.registered) : ((f.session r).id, r) ∈ f.roster := by
  obtain ⟨id, he⟩ := mem_registered.mp here
  rwa [(h.named _ he).2]

theorem Listed.lt (h : Listed f) (here : r ∈ f.registered) : r < f.sessions.size :=
  (h.named _ (h.mem here)).1

/-- Registered sessions have different names. -/
theorem Listed.inj (h : Listed f) (here : r ∈ f.registered) (here' : r' ∈ f.registered)
    (same : (f.session r).id = (f.session r').id) : r = r' := by
  have one := lookup_of_mem h.distinct (h.mem here)
  have other := lookup_of_mem h.distinct (h.mem here')
  dsimp only at one other
  rw [same, other] at one
  exact (Option.some.inj one).symm

theorem Listed.nodup (h : Listed f) : f.registered.Nodup := by
  have byName : f.registered.map (fun r => (f.session r).id) = f.roster.map (·.1) := by
    rw [registered, List.map_map]
    exact List.map_congr_left fun e he => (h.named e he).2
  exact List.Nodup.of_map _ (byName ▸ h.distinct)

/-- A registered session is found by its path and its name, and by nothing else. -/
theorem Listed.get?_eq_some (h : Listed f) {id : SessionId} :
    f.get? path id = some r ↔
      r ∈ f.registered ∧ (f.session r).path = path ∧ (f.session r).id = id := by
  rw [get?, Option.filter_eq_some_iff, beq_iff_eq]
  constructor
  · intro found
    obtain ⟨listed, onPath⟩ := found
    have entry := mem_of_lookup listed
    exact ⟨mem_registered.mpr ⟨id, entry⟩, onPath, (h.named _ entry).2⟩
  · intro found
    obtain ⟨here, onPath, rfl⟩ := found
    exact ⟨lookup_of_mem h.distinct (h.mem here), onPath⟩

/-- To remove a registered session takes its entry off the roster and closes it. -/
theorem Listed.remove (h : Listed f) (here : r ∈ f.registered) :
    f.remove (f.session r).path (f.session r).id
      = (some r, { f with roster := f.roster.filter (·.1 != (f.session r).id) }.close r) := by
  rw [Floor.remove, h.get?_eq_some.mpr ⟨here, rfl, rfl⟩]

/-! ## Removal -/

/-- **What becomes of sessions that are removed**: they are off the roster and closed, and nothing
changes for the others. -/
structure Dismissed (rs : List SessionRef) (f f' : Floor) : Prop where
  gone : ∀ r ∈ rs, r ∉ f'.registered ∧ f'.session r = (f.session r).close
  others : ∀ r ∉ rs, f'.session r = f.session r ∧ (r ∈ f'.registered ↔ r ∈ f.registered)

theorem Dismissed.nil (f : Floor) : Dismissed [] f f := ⟨nofun, fun _ _ => ⟨rfl, Iff.rfl⟩⟩

/-- Who has been removed is not concerned by the removal of others. -/
theorem Dismissed.cons {rest : List SessionRef} (first : Dismissed [r] f f')
    (next : Dismissed rest f' f'') (new : r ∉ rest) : Dismissed (r :: rest) f f'' := by
  constructor
  · intro r' here
    cases List.mem_cons.mp here with
    | inl same =>
      subst same
      obtain ⟨gone, closed⟩ := first.gone r' (List.mem_singleton_self r')
      obtain ⟨same, registered⟩ := next.others r' new
      exact ⟨mt registered.mp gone, same.trans closed⟩
    | inr here =>
      have other : r' ∉ [r] := fun same => new (List.mem_singleton.mp same ▸ here)
      rw [← (first.others r' other).1]
      exact next.gone r' here
  · intro r' away
    obtain ⟨other, away⟩ := not_or.mp (mt List.mem_cons.mpr away)
    obtain ⟨same, registered⟩ := first.others r' (mt List.mem_singleton.mp other)
    obtain ⟨same', registered'⟩ := next.others r' away
    exact ⟨same'.trans same, registered'.trans registered⟩

theorem Listed.dismissed (h : Listed f) (here : r ∈ f.registered) :
    Dismissed [r] f (f.remove (f.session r).path (f.session r).id).2 := by
  rw [h.remove here]
  constructor
  · intro r' same
    obtain rfl := List.mem_singleton.mp same
    refine ⟨fun still => ?_, (session_modifySession ..).trans (if_pos ⟨rfl, h.lt here⟩)⟩
    obtain ⟨id, he⟩ := mem_registered.mp still
    obtain ⟨he, name⟩ := List.mem_filter.mp he
    exact bne_iff_ne.mp name (h.named _ he).2.symm
  · intro r' away
    have other : r' ≠ r := mt List.mem_singleton.mpr away
    refine ⟨(session_modifySession ..).trans (if_neg fun both => other both.1.symm), ?_⟩
    constructor
    · intro still
      obtain ⟨id, he⟩ := mem_registered.mp still
      exact mem_registered.mpr ⟨id, List.mem_of_mem_filter he⟩
    · intro here'
      refine mem_registered.mpr ⟨_, List.mem_filter.mpr ⟨h.mem here', bne_iff_ne.mpr fun same => ?_⟩⟩
      exact other (h.inj here' here same)

/-- **Who is registered and to be removed is removed**, one after another. -/
theorem Listed.removeAll {after : Floor → Floor} (noted : ∀ f, Still f (after f))
    {rs : List SessionRef} (h : Listed f) (distinct : rs.Nodup) (here : ∀ r ∈ rs, r ∈ f.registered) :
    (removeAll after rs f).1 = rs ∧ Dismissed rs f (removeAll after rs f).2 := by
  induction rs generalizing f with
  | nil => exact ⟨rfl, .nil f⟩
  | cons r rest ih =>
    obtain ⟨new, distinct⟩ := List.nodup_cons.mp distinct
    have registered := here r List.mem_cons_self
    let g := (f.remove (f.session r).path (f.session r).id).2
    have removed : f.remove (f.session r).path (f.session r).id = (some r, g) :=
      Prod.ext (by rw [h.remove registered]) rfl
    have first : Dismissed [r] f (after g) := by
      have dismissed := h.dismissed registered
      have same : ∀ r', (after g).session r' = g.session r' := fun r' => by
        rw [session, (noted g).1]
        rfl
      have roster : (after g).registered = g.registered := congrArg (List.map _) (noted g).2
      constructor
      · intro r' here
        rw [same, roster]
        exact dismissed.gone r' here
      · intro r' away
        rw [same, roster]
        exact dismissed.others r' away
    have listed : Listed (after g) := (h.aside (aside_remove ..)).of_still (noted g)
    have still : ∀ r' ∈ rest, r' ∈ (after g).registered := fun r' later =>
      (first.others r' fun same => new (List.mem_singleton.mp same ▸ later)).2.mpr
        (here r' (List.mem_cons_of_mem r later))
    obtain ⟨others, dismissed⟩ := ih listed distinct still
    rw [Floor.removeAll]
    dsimp only
    rw [removed]
    exact ⟨congrArg (r :: ·) others, first.cons dismissed new⟩

/-- A sweep removes those who are stale. -/
theorem Listed.sweepIdle (h : Listed f) (timeout : Nat) :
    (f.sweepIdle timeout).1 = f.registered.filter (f.isStale timeout) ∧
      Dismissed (f.registered.filter (f.isStale timeout)) f (f.sweepIdle timeout).2 := by
  apply h.removeAll
  · exact h.nodup.filter _
  · exact fun _ here => List.mem_of_mem_filter here
  · exact fun _ => ⟨rfl, rfl⟩

theorem Listed.closeAll (h : Listed f) :
    f.closeAll.1 = f.registered ∧ Dismissed f.registered f f.closeAll.2 := by
  apply h.removeAll
  · exact h.nodup
  · exact fun _ here => here
  · exact fun _ => ⟨rfl, rfl⟩

/-! ## One session after another -/

/-- **What a payload comes to** that is handed to some sessions. -/
structure Handed (payload : String) (rs : List SessionRef) (f f' : Floor) : Prop where
  /-- Who is active and has room takes it once, and stays. -/
  taken : ∀ r ∈ rs, (f.session r).hasRoom = true →
    f'.session r = (f.session r).taking f.now payload ∧ r ∈ f'.registered
  /-- Who is not is removed, without it. -/
  lost : ∀ r ∈ rs, (f.session r).hasRoom = false →
    r ∉ f'.registered ∧ (f'.session r).outbox.closed = true ∧
      (f'.session r).outbox.queue = (f.session r).outbox.queue
  /-- Nothing changes for the others. -/
  others : ∀ r ∉ rs, f'.session r = f.session r ∧ (r ∈ f'.registered ↔ r ∈ f.registered)
  now : f'.now = f.now

theorem Handed.nil (payload : String) (f : Floor) : Handed payload [] f f :=
  ⟨nofun, nofun, fun _ _ => ⟨rfl, Iff.rfl⟩, rfl⟩

theorem Handed.other (h : Handed payload [r] f f') (other : r' ≠ r) :
    f'.session r' = f.session r' ∧ (r' ∈ f'.registered ↔ r' ∈ f.registered) :=
  h.others r' (mt List.mem_singleton.mp other)

/-- Who has been handed a payload is not concerned by what is handed to others. -/
theorem Handed.cons {rest : List SessionRef} (first : Handed payload [r] f f')
    (next : Handed payload rest f' f'') (new : r ∉ rest) : Handed payload (r :: rest) f f'' := by
  have later : ∀ r' ∈ rest, r' ≠ r := fun r' here same => new (same ▸ here)
  constructor
  · intro r' here room
    cases List.mem_cons.mp here with
    | inl same =>
      subst same
      obtain ⟨took, stays⟩ := first.taken r' (List.mem_singleton_self r') room
      obtain ⟨same, registered⟩ := next.others r' new
      exact ⟨same.trans took, registered.mpr stays⟩
    | inr here =>
      obtain ⟨same, _⟩ := first.other (later r' here)
      rw [← same] at room ⊢
      rw [← first.now]
      exact next.taken r' here room
  · intro r' here full
    cases List.mem_cons.mp here with
    | inl same =>
      subst same
      obtain ⟨gone, closed, queue⟩ := first.lost r' (List.mem_singleton_self r') full
      obtain ⟨same, registered⟩ := next.others r' new
      rw [registered, same]
      exact ⟨gone, closed, queue⟩
    | inr here =>
      obtain ⟨same, _⟩ := first.other (later r' here)
      rw [← same] at full ⊢
      exact next.lost r' here full
  · intro r' away
    obtain ⟨other, away⟩ := not_or.mp (mt List.mem_cons.mpr away)
    obtain ⟨same, registered⟩ := first.other other
    obtain ⟨same', registered'⟩ := next.others r' away
    exact ⟨same'.trans same, registered'.trans registered⟩
  · exact next.now.trans first.now

/-- Who takes a frame stays, and nobody else is concerned. -/
theorem handed_of_taking (here : r ∈ f.registered) (there : r < f.sessions.size)
    (room : (f.session r).hasRoom = true) :
    Handed payload [r] f (f.modifySession r fun _ => (f.session r).taking f.now payload) where
  taken r' same _ := by
    obtain rfl := List.mem_singleton.mp same
    exact ⟨by rw [session_modifySession, if_pos ⟨rfl, there⟩], here⟩
  lost r' same full := by
    obtain rfl := List.mem_singleton.mp same
    exact absurd (room.symm.trans full) (by decide)
  others r' away := by
    have other : ¬ r = r' := fun same => away (List.mem_singleton.mpr same.symm)
    exact ⟨by rw [session_modifySession, if_neg fun both => other both.1], Iff.rfl⟩
  now := rfl

/-- Who is expelled is gone and closed, and nobody else is concerned. -/
theorem Listed.expel (h : Listed f) (here : r ∈ f.onPath path) (complaint : String)
    (fault : TransportFault) :
    let f' := f.expel path complaint r fault
    (r ∉ f'.registered ∧ f'.session r = (f.session r).close) ∧
      (∀ r', r' ≠ r → f'.session r' = f.session r' ∧ (r' ∈ f'.registered ↔ r' ∈ f.registered)) ∧
      f'.now = f.now := by
  obtain ⟨registered, onPath⟩ := mem_onPath.mp here
  let noted := f.record fun j =>
    (j.count (.sendFailures fault.message)).warn complaint
      [("session_id", (f.session r).id.text), ("path", path), ("error", fault.message)]
  have listed : Listed noted := ⟨h.distinct, h.named⟩
  have expelled : f.expel path complaint r fault
      = (noted.remove (noted.session r).path (noted.session r).id).2 := by
    rw [show (noted.session r).path = path from onPath]
    rfl
  have dismissed := listed.dismissed registered
  have now : (f.expel path complaint r fault).now = f.now := by
    rw [expelled, listed.remove registered]
    rfl
  rw [expelled] at now ⊢
  exact ⟨dismissed.gone r (List.mem_singleton_self r),
    fun r' other => dismissed.others r' (mt List.mem_singleton.mp other), now⟩

/-- Who did not take a frame is expelled without it. -/
theorem handed_of_expel (h : Listed f) (here : r ∈ f.onPath path)
    (full : (f.session r).hasRoom = false) {g : Floor} (tried : Aside f g)
    (roster : g.roster = f.roster) (now : g.now = f.now)
    (queue : (g.session r).outbox.queue = (f.session r).outbox.queue)
    (others : ∀ r', r' ≠ r → g.session r' = f.session r') (complaint : String)
    (fault : TransportFault) : Handed payload [r] f (g.expel path complaint r fault) := by
  have registered : g.registered = f.registered := by rw [Floor.registered, roster]; rfl
  obtain ⟨⟨gone, closed⟩, rest, still⟩ := (h.aside tried).expel
    (mem_onPath.mpr ⟨registered ▸ (mem_onPath.mp here).1, (tried.path r).trans (mem_onPath.mp here).2⟩)
    complaint fault
  constructor
  · intro r' same room
    obtain rfl := List.mem_singleton.mp same
    exact absurd (room.symm.trans full) (by decide)
  · intro r' same _
    obtain rfl := List.mem_singleton.mp same
    rw [closed]
    exact ⟨gone, rfl, queue⟩
  · intro r' away
    have other : r' ≠ r := mt List.mem_singleton.mpr away
    obtain ⟨same, listed⟩ := rest r' other
    exact ⟨same.trans (others r' other), registered ▸ listed⟩
  · exact still.trans now

/-- To send to a session either succeeds, or fails and is followed by its expulsion. -/
theorem handed_send (h : Listed f) (here : r ∈ f.onPath path) (payload : String) :
    (f.session r).hasRoom = true ∧ (∃ g, f.send r payload = (.ok (), g) ∧ Handed payload [r] f g) ∨
      (f.session r).hasRoom = false ∧ ∃ fault g, f.send r payload = (.error fault, g) ∧
        (g.session r).id = (f.session r).id ∧
        ∀ complaint, Handed payload [r] f (g.expel path complaint r fault) := by
  have registered := (mem_onPath.mp here).1
  have there := h.lt registered
  cases room : (f.session r).hasRoom with
  | true =>
    refine .inl ⟨rfl, _, ?_, handed_of_taking registered there room⟩
    rw [send, Session.send_of_hasRoom room]
  | false =>
    obtain ⟨fault, s', sent, queue, id, path', finished⟩ :=
      Session.send_of_not_hasRoom room f.now payload
    have tried : (f.modifySession r fun _ => s').session r = s' :=
      (session_modifySession ..).trans (if_pos ⟨rfl, there⟩)
    refine .inr ⟨rfl, fault, f.modifySession r fun _ => s', ?_, by rw [tried, id], fun complaint => ?_⟩
    · rw [send, sent]
    · refine handed_of_expel h here room (aside_modifySession id path' finished) rfl rfl ?_ ?_ _ _
      · rw [tried, queue]
      · intro r' other
        rw [session_modifySession, if_neg fun both => other both.1.symm]

/-- **One session of a broadcast**: it is handed the payload, and counted if it takes it or named if it
does not. -/
theorem handed_deliverTo (h : Listed f) (here : r ∈ f.onPath path) (payload : String)
    (report : Delivery) :
    Handed payload [r] f (deliverTo path payload f report r).1 ∧
      (deliverTo path payload f report r).2
        = if (f.session r).hasRoom then { report with delivered := report.delivered + 1 }
          else { report with removed := report.removed ++ [(f.session r).id] } := by
  unfold deliverTo
  rcases handed_send h here payload with ⟨room, g, sent, handed⟩ | ⟨room, fault, g, sent, id, handed⟩
  · have active : (f.session r).isActive = true := (Bool.and_eq_true_iff.mp room).1
    rw [if_pos active, if_pos room, sent]
    exact ⟨handed, rfl⟩
  · have full : ¬ (f.session r).hasRoom = true := Bool.eq_false_iff.mp room
    rw [if_neg full]
    by_cases active : (f.session r).isActive = true
    · rw [if_pos active, sent]
      dsimp only
      rw [id]
      exact ⟨handed _, rfl⟩
    · rw [if_neg active]
      exact ⟨handed_of_expel h here room (.refl f) rfl rfl rfl (fun _ _ => rfl) _ _, rfl⟩

/-- A payload for one name is handed to whoever has it on the path, and what is said is whether it was
taken. -/
theorem handed_sendTo (h : Listed f) {id : SessionId} (found : f.get? path id = some r)
    (payload : String) :
    (f.sendTo path id payload).1 = (f.session r).hasRoom ∧
      Handed payload [r] f (f.sendTo path id payload).2 := by
  obtain ⟨registered, onPath, _⟩ := h.get?_eq_some.mp found
  have here := mem_onPath.mpr ⟨registered, onPath⟩
  unfold sendTo
  rw [found]
  dsimp only
  rcases handed_send h here payload with ⟨room, g, sent, handed⟩ | ⟨room, fault, g, sent, _, handed⟩
  · rw [sent]
    exact ⟨room.symm, handed⟩
  · rw [sent]
    exact ⟨room.symm, handed _⟩

/-! ## Everybody on a path -/

section

variable {rs : List SessionRef}

/-- What is left of some sessions to be handed a payload, when the first of them has been handed it. -/
theorem Listed.handed_rest {rest : List SessionRef} (h : Listed f) (new : r ∉ rest)
    (here : ∀ r' ∈ r :: rest, r' ∈ f.onPath path) (payload : String) (report : Delivery) :
    let f' := (deliverTo path payload f report r).1
    Listed f' ∧ (∀ r' ∈ rest, r' ∈ f'.onPath path) ∧ ∀ r' ∈ rest, f'.session r' = f.session r' := by
  have first : Handed payload [r] f (deliverTo path payload f report r).1 :=
    (handed_deliverTo h (here r List.mem_cons_self) payload report).1
  have aside := aside_deliverTo path payload f report r
  have later : ∀ r' ∈ rest, r' ≠ r := fun r' here same => new (same ▸ here)
  refine ⟨h.aside aside, fun r' rests => ?_, fun r' rests => (first.other (later r' rests)).1⟩
  obtain ⟨registered, onPath⟩ := mem_onPath.mp (here r' (List.mem_cons_of_mem r rests))
  exact mem_onPath.mpr
    ⟨(first.other (later r' rests)).2.mpr registered, (aside.path r').trans onPath⟩

theorem handed_deliverAll (h : Listed f) (distinct : rs.Nodup)
    (here : ∀ r ∈ rs, r ∈ f.onPath path) (report : Delivery) :
    Handed payload rs f (deliverAll path payload rs f report).1 := by
  induction rs generalizing f report with
  | nil => exact .nil payload f
  | cons r rest ih =>
    obtain ⟨new, distinct⟩ := List.nodup_cons.mp distinct
    have first : Handed payload [r] f (deliverTo path payload f report r).1 :=
      (handed_deliverTo h (here r List.mem_cons_self) payload report).1
    obtain ⟨listed, still, _⟩ := h.handed_rest new here payload report
    exact first.cons (ih listed distinct still _) new

theorem report_deliverAll (h : Listed f) (distinct : rs.Nodup)
    (here : ∀ r ∈ rs, r ∈ f.onPath path) (payload : String) (report : Delivery) :
    (deliverAll path payload rs f report).2 =
      { delivered := report.delivered + (rs.filter fun r => (f.session r).hasRoom).length
        removed := report.removed ++
          (rs.filter fun r => !(f.session r).hasRoom).map fun r => (f.session r).id } := by
  induction rs generalizing f report with
  | nil => simp [deliverAll]
  | cons r rest ih =>
    obtain ⟨new, distinct⟩ := List.nodup_cons.mp distinct
    obtain ⟨listed, still, same⟩ := h.handed_rest new here payload report
    have first := (handed_deliverTo h (here r List.mem_cons_self) payload report).2
    let f' := (deliverTo path payload f report r).1
    have room : ∀ r' ∈ rest, (f'.session r').hasRoom = (f.session r').hasRoom :=
      fun r' here => congrArg Session.hasRoom (same r' here)
    have taking : (rest.filter fun r => (f'.session r).hasRoom)
        = rest.filter fun r => (f.session r).hasRoom := List.filter_congr room
    have refusing : ((rest.filter fun r => !(f'.session r).hasRoom).map fun r => (f'.session r).id)
        = (rest.filter fun r => !(f.session r).hasRoom).map fun r => (f.session r).id := by
      rw [List.filter_congr fun r' here => congrArg not (room r' here)]
      exact List.map_congr_left fun r' here =>
        congrArg Session.id (same r' (List.mem_of_mem_filter here))
    rw [deliverAll]
    dsimp only
    rw [ih listed distinct still, taking, refusing, first]
    cases room : (f.session r).hasRoom with
    | true => simp [room, Nat.add_assoc, Nat.add_comm 1]
    | false => simp [room]

/-- **A payload that is delivered on a path is handed to the registered sessions of the path that are
admitted**, to each of them once, and to nobody else. -/
theorem handed_deliver_to (h : Listed f) (path payload : String) (admits : Session → Bool) :
    Handed payload ((f.onPath path).filter fun r => admits (f.session r)) f
      (f.deliver path payload admits).1 :=
  handed_deliverAll h ((h.nodup.filter _).filter _) (fun _ here => List.mem_of_mem_filter here) {}

/-- Who took it is counted, and who did not is named. -/
theorem report_deliver (h : Listed f) (path payload : String) (admits : Session → Bool) :
    let targets := (f.onPath path).filter fun r => admits (f.session r)
    (f.deliver path payload admits).2 =
      { delivered := (targets.filter fun r => (f.session r).hasRoom).length
        removed := (targets.filter fun r => !(f.session r).hasRoom).map fun r => (f.session r).id } := by
  intro targets
  have here : ∀ r ∈ targets, r ∈ f.onPath path := fun _ here => List.mem_of_mem_filter here
  have report := report_deliverAll h ((h.nodup.filter _).filter _) here payload {}
  rw [Nat.zero_add, List.nil_append] at report
  exact report

/-- A payload for everybody on a path. -/
theorem handed_deliver (h : Listed f) (path payload : String) :
    Handed payload (f.onPath path) f (f.deliver path payload fun _ => true).1 := by
  have everybody : (f.onPath path).filter (fun _ => true) = f.onPath path :=
    List.filter_eq_self.mpr fun _ _ => rfl
  have handed := handed_deliver_to h path payload fun _ => true
  rwa [everybody] at handed

end

end Floor

/-! ## What is no concern of the sessions -/

namespace Node

variable {n n' : Node}

/-- The sessions of a node, its roster and its clock are as they were. -/
structure Unaffected (n n' : Node) : Prop where
  still : n.floor.Still n'.floor
  now : n'.floor.now = n.floor.now

/-- A change that does not reach the floor. -/
theorem Unaffected.of_floor (same : n'.floor = n.floor) : n.Unaffected n' := by
  refine ⟨?_, congrArg Floor.now same⟩
  rw [same]
  exact ⟨rfl, rfl⟩

/-- **A sweep is no concern of the sessions**, whatever it finds. -/
theorem Swept.unaffected (h : Swept n n') : n.Unaffected n' := by
  cases h with
  | succeeded =>
    unfold storeSucceeded
    split <;> exact ⟨⟨rfl, rfl⟩, rfl⟩
  | failed op fault =>
    unfold storeFailed
    dsimp only
    split <;> exact ⟨⟨rfl, rfl⟩, rfl⟩
  | warned message fields => exact ⟨⟨rfl, rfl⟩, rfl⟩
  | pruned now => exact ⟨⟨rfl, rfl⟩, rfl⟩
  | met b other present => exact .of_floor (floor_meet b n)
  | buried dead =>
    induction dead generalizing n with
    | nil => exact ⟨⟨rfl, rfl⟩, rfl⟩
    | cons p rest ih =>
      obtain ⟨⟨sessions, roster⟩, now⟩ := ih (n := n.bury p)
      exact ⟨⟨sessions, roster⟩, now⟩

end Node

end SessionHub

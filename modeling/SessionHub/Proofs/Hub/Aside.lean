import SessionHub.Node.Hub
import SessionHub.Proofs.Cluster.Duties
import SessionHub.Proofs.Journal
import SessionHub.Proofs.Tables

/-!
# What is no concern of a session's life

Sessions come to a floor by being enrolled, and their ends are claimed. Everything else that happens
on a floor is **aside**: it may send, touch, close and write down, and it may take sessions off the
roster, as a send in vain does; but it lets nobody in, claims nobody's end, renames nobody and leaves
the gauge of active connections alone. The whole of a node's work in its cluster is of this kind.
-/

namespace SessionHub

namespace Floor

/-- A change of a floor that concerns nobody's admission and nobody's end. -/
structure Aside (f f' : Floor) : Prop where
  size : f'.sessions.size = f.sessions.size
  id : ∀ r, (f'.session r).id = (f.session r).id
  path : ∀ r, (f'.session r).path = (f.session r).path
  finished : ∀ r, (f'.session r).finished = (f.session r).finished
  roster : f'.roster.Sublist f.roster
  active : f'.journal.active = f.journal.active

theorem Aside.refl (f : Floor) : Aside f f :=
  ⟨rfl, fun _ => rfl, fun _ => rfl, fun _ => rfl, .refl _, rfl⟩

theorem Aside.trans {f f' f'' : Floor} (h : Aside f f') (h' : Aside f' f'') : Aside f f'' where
  size := h'.size.trans h.size
  id r := (h'.id r).trans (h.id r)
  path r := (h'.path r).trans (h.path r)
  finished r := (h'.finished r).trans (h.finished r)
  roster := h'.roster.trans h.roster
  active := h'.active.trans h.active

/-- The session in a place after one of them was changed. -/
theorem session_modifySession (f : Floor) (r r' : SessionRef) (change : Session → Session) :
    (f.modifySession r change).session r'
      = if r = r' ∧ r < f.sessions.size then change (f.session r') else f.session r' :=
  getD_modify ..

/-- Who stood on the floor still stands there when somebody comes. -/
theorem session_place {f : Floor} {r : SessionRef} (s : Session) (there : r < f.sessions.size) :
    (f.place s).2.session r = f.session r :=
  getD_push_of_lt s there

@[simp] theorem size_modifySession (f : Floor) (r : SessionRef) (change : Session → Session) :
    (f.modifySession r change).sessions.size = f.sessions.size := by
  simp [modifySession]

theorem aside_record {change : Journal → Journal} {f : Floor}
    (active : (change f.journal).active = f.journal.active) : Aside f (f.record change) :=
  ⟨rfl, fun _ => rfl, fun _ => rfl, fun _ => rfl, .refl _, active⟩

/-- A session may change in anything but its name, its path and whether its end was claimed. -/
theorem aside_modifySession {r : SessionRef} {change : Session → Session} {f : Floor}
    (id : (change (f.session r)).id = (f.session r).id)
    (path : (change (f.session r)).path = (f.session r).path)
    (finished : (change (f.session r)).finished = (f.session r).finished) :
    Aside f (f.modifySession r change) where
  size := size_modifySession f r change
  id r' := by
    rw [session_modifySession]
    split
    · rename_i here
      rw [← here.1, id]
    · rfl
  path r' := by
    rw [session_modifySession]
    split
    · rename_i here
      rw [← here.1, path]
    · rfl
  finished r' := by
    rw [session_modifySession]
    split
    · rename_i here
      rw [← here.1, finished]
    · rfl
  roster := .refl _
  active := rfl

theorem aside_close (r : SessionRef) (f : Floor) : Aside f (f.close r) :=
  aside_modifySession rfl rfl rfl

theorem aside_touch (r : SessionRef) (f : Floor) : Aside f (f.touch r) :=
  aside_modifySession rfl rfl rfl

theorem aside_send (r : SessionRef) (text : String) (f : Floor) : Aside f (f.send r text).2 := by
  have kept : ∀ s : Session, (s.send f.now text).2.id = s.id ∧ (s.send f.now text).2.path = s.path ∧
      (s.send f.now text).2.finished = s.finished := by
    intro s
    unfold Session.send
    split <;> exact ⟨rfl, rfl, rfl⟩
  obtain ⟨id, path, finished⟩ := kept (f.session r)
  exact aside_modifySession id path finished

theorem aside_remove (path : String) (id : SessionId) (f : Floor) :
    Aside f (f.remove path id).2 := by
  unfold remove
  split
  · exact .refl f
  · rename_i r _
    have listed : Aside f { f with roster := f.roster.filter (·.1 != id) } :=
      ⟨rfl, fun _ => rfl, fun _ => rfl, fun _ => rfl, List.filter_sublist, rfl⟩
    exact listed.trans (aside_close r _)

theorem aside_expel (path complaint : String) (r : SessionRef) (fault : TransportFault) (f : Floor) :
    Aside f (f.expel path complaint r fault) :=
  (aside_record (by simp)).trans (aside_remove ..)

/-! ## Delivery -/

theorem aside_deliverTo (path payload : String) (f : Floor) (report : Delivery) (r : SessionRef) :
    Aside f (deliverTo path payload f report r).1 := by
  have sent : Aside f (if (f.session r).isActive then f.send r payload
      else (.error .closed, f)).2 := by
    split
    · exact aside_send r payload f
    · exact .refl f
  unfold deliverTo
  dsimp only
  split
  · exact sent
  · exact sent.trans (aside_expel ..)

theorem aside_deliverAll (path payload : String) (rs : List SessionRef) (f : Floor)
    (report : Delivery) : Aside f (deliverAll path payload rs f report).1 := by
  induction rs generalizing f report with
  | nil => exact .refl f
  | cons r rest ih => exact (aside_deliverTo path payload f report r).trans (ih ..)

theorem aside_deliver (path payload : String) (admits : Session → Bool) (f : Floor) :
    Aside f (f.deliver path payload admits).1 :=
  aside_deliverAll ..

theorem aside_sendTo (path : String) (id : SessionId) (payload : String) (f : Floor) :
    Aside f (f.sendTo path id payload).2 := by
  unfold sendTo
  split
  · exact .refl f
  · rename_i r _
    have sent := aside_send r payload f
    split
    · rename_i outcome
      rw [outcome] at sent
      exact sent
    · rename_i outcome
      rw [outcome] at sent
      exact sent.trans (aside_expel ..)

/-! ## Removal of many -/

theorem aside_removeAll {after : Floor → Floor} (still : ∀ f, Aside f (after f))
    (rs : List SessionRef) (f : Floor) : Aside f (removeAll after rs f).2 := by
  induction rs generalizing f with
  | nil => exact .refl f
  | cons r rest ih =>
    have removed := aside_remove (f.session r).path (f.session r).id f
    unfold removeAll
    dsimp only
    split
    · rename_i outcome
      rw [outcome] at removed
      exact removed.trans (ih _)
    · rename_i outcome
      rw [outcome] at removed
      exact (removed.trans (still _)).trans (ih _)

/-- Who is removed was registered. -/
theorem mem_of_remove {path : String} {id : SessionId} {f : Floor} {r : SessionRef}
    (gone : (f.remove path id).1 = some r) : ∃ e ∈ f.roster, e.2 = r := by
  unfold remove at gone
  split at gone
  · nomatch gone
  · rename_i r' found
    obtain rfl := Option.some.inj gone
    obtain ⟨l₁, l₂, split, _⟩ := List.lookup_eq_some_iff.mp (Option.eq_some_of_filter_eq_some found)
    exact ⟨(id, r'), by simp [split], rfl⟩

theorem mem_of_mem_removeAll {after : Floor → Floor} (still : ∀ f, Aside f (after f))
    {r : SessionRef} (rs : List SessionRef) (f : Floor) (here : r ∈ (removeAll after rs f).1) :
    ∃ e ∈ f.roster, e.2 = r := by
  induction rs generalizing f with
  | nil => nomatch here
  | cons r' rest ih =>
    have removed := aside_remove (f.session r').path (f.session r').id f
    unfold removeAll at here
    dsimp only at here
    split at here
    · rename_i outcome
      rw [outcome] at removed
      obtain ⟨e, he, same⟩ := ih _ here
      exact ⟨e, removed.roster.subset he, same⟩
    · rename_i gone _ outcome
      rcases List.mem_cons.mp here with rfl | here
      · exact mem_of_remove (congrArg Prod.fst outcome)
      · rw [outcome] at removed
        obtain ⟨e, he, same⟩ := ih _ here
        exact ⟨e, removed.roster.subset ((still _).roster.subset he), same⟩

theorem aside_sweepIdle (timeout : Nat) (f : Floor) : Aside f (f.sweepIdle timeout).2 :=
  aside_removeAll (fun _ => aside_record (by simp)) _ f

end Floor

namespace Node

/-- A change of a node that is aside on its floor, and leaves alone its handlers, the names it has
given, where it keeps its routes and whether it has begun to stop. -/
structure Aside (n n' : Node) : Prop where
  floor : n.floor.Aside n'.floor
  handlers : n'.handlers = n.handlers
  named : n'.named = n.named
  begun : n'.closing.begun = n.closing.begun
  keys : n'.membership.keys = n.membership.keys

theorem Aside.refl (n : Node) : Aside n n := ⟨.refl _, rfl, rfl, rfl, rfl⟩

theorem Aside.trans {n n' n'' : Node} (h : Aside n n') (h' : Aside n' n'') : Aside n n'' where
  floor := h.floor.trans h'.floor
  handlers := h'.handlers.trans h.handlers
  named := h'.named.trans h.named
  begun := h'.begun.trans h.begun
  keys := h'.keys.trans h.keys

theorem aside_record {change : Journal → Journal} {n : Node}
    (active : (change n.floor.journal).active = n.floor.journal.active) :
    Aside n (n.record change) :=
  ⟨Floor.aside_record active, rfl, rfl, rfl, rfl⟩

theorem aside_modifyMembership {change : Membership → Membership} {n : Node}
    (keys : (change n.membership).keys = n.membership.keys) : Aside n (n.modifyMembership change) :=
  ⟨.refl _, rfl, rfl, rfl, keys⟩

theorem aside_emit (e : ClusterEvent) (n : Node) : Aside n (n.emit e) := aside_modifyMembership rfl

theorem aside_start (work : Work) (n : Node) : Aside n (n.start work).2 :=
  ⟨.refl _, rfl, rfl, rfl, rfl⟩

theorem aside_drop (job : JobRef) (n : Node) : Aside n (n.drop job) :=
  ⟨.refl _, rfl, rfl, rfl, rfl⟩

theorem aside_dropAll (jobs : List JobRef) (n : Node) :
    Aside n (jobs.foldl (fun n j => n.drop j) n) := by
  induction jobs generalizing n with
  | nil => exact .refl n
  | cons job rest ih => exact (aside_drop job n).trans (ih (n.drop job))

theorem aside_storeSucceeded (n : Node) : Aside n n.storeSucceeded := by
  unfold storeSucceeded
  split
  · exact ((aside_modifyMembership rfl).trans (aside_record (by simp))).trans (aside_emit ..)
  · exact .refl n

theorem aside_storeFailed (op : String) (fault : StoreFault) (n : Node) :
    Aside n (n.storeFailed op fault) := by
  have counted : Aside n (n.record (·.count (.storeErrors op fault.kind))) :=
    aside_record (by simp)
  unfold storeFailed
  dsimp only
  split
  · exact counted
  · exact ((counted.trans (aside_modifyMembership rfl)).trans (aside_record (by simp))).trans
      (aside_emit ..)

theorem aside_bury (peer : NodeId) (n : Node) : Aside n (n.bury peer) :=
  ((aside_modifyMembership rfl).trans (aside_record (by simp))).trans (aside_emit ..)

theorem aside_meet (b : Beacon) (n : Node) : Aside n (n.meet b) := by
  unfold meet
  dsimp only
  split
  · exact aside_modifyMembership rfl
  · exact (aside_modifyMembership rfl).trans (aside_emit ..)

/-- What a sweep changes is aside. -/
theorem Swept.aside {n n' : Node} (h : Swept n n') : Aside n n' := by
  cases h with
  | succeeded => exact aside_storeSucceeded n
  | failed op fault => exact aside_storeFailed op fault n
  | warned message fields => exact aside_record (by simp)
  | pruned now => exact aside_modifyMembership rfl
  | met b other present => exact aside_meet b n
  | buried dead =>
    induction dead generalizing n with
    | nil => exact .refl n
    | cons p rest ih => exact (aside_bury p n).trans (ih ..)

theorem aside_listenTo (broadcasts control : SubRef) (n : Node) :
    Aside n (n.listenTo broadcasts control) := by
  unfold listenTo
  dsimp only
  split
  · exact ((aside_start _ n).trans (aside_drop ..)).trans (aside_modifyMembership rfl)
  · exact (aside_start _ n).trans (aside_modifyMembership rfl)

theorem aside_startRefresh (n : Node) : Aside n n.startRefresh := by
  rcases n.startRefresh_cases with still | started
  · rw [still]
    exact .refl n
  · rw [started]
    exact (aside_start _ n).trans (aside_modifyMembership rfl)

theorem aside_beginLeave (n : Node) : Aside n n.beginLeave := by
  unfold beginLeave
  dsimp only
  split <;> split
  · exact ((aside_drop _ n).trans (aside_drop ..)).trans (aside_modifyMembership rfl)
  · exact (aside_drop _ n).trans (aside_modifyMembership rfl)
  · exact (aside_drop _ n).trans (aside_modifyMembership rfl)
  · exact aside_modifyMembership rfl

theorem aside_startLiveness (n : Node) : Aside n n.startLiveness := ⟨.refl _, rfl, rfl, rfl, rfl⟩

theorem aside_broadcastHere (path payload : String) (admits : Session → Bool) (n : Node) :
    Aside n (n.broadcastHere path payload admits).2 := by
  have counted : Aside n (n.record (·.count .localBroadcasts)) := aside_record (by simp)
  exact counted.trans ⟨Floor.aside_deliver .., rfl, rfl, rfl, rfl⟩

/-- **Whatever a node does in its cluster** is aside. -/
theorem Tended.aside {n n' : Node} (h : Tended n n') : Aside n n' := by
  cases h with
  | swept change => exact change.aside
  | listening broadcasts control => exact aside_listenTo ..
  | givenUp sub => exact aside_start _ n
  | refreshing => exact aside_startRefresh n
  | leaving => exact aside_beginLeave n
  | published => exact aside_record (by simp)
  | sent path id payload => exact ⟨Floor.aside_sendTo path id payload n.floor, rfl, rfl, rfl, rfl⟩

/-! ## What does not reach the floor -/

theorem floor_dropAll (jobs : List JobRef) (n : Node) :
    (jobs.foldl (fun n j => n.drop j) n).floor = n.floor := by
  induction jobs generalizing n with
  | nil => rfl
  | cons job rest ih => exact ih (n.drop job)

theorem floor_meet (b : Beacon) (n : Node) : (n.meet b).floor = n.floor := by
  unfold meet
  dsimp only
  split <;> rfl

theorem floor_listenTo (broadcasts control : SubRef) (n : Node) :
    (n.listenTo broadcasts control).floor = n.floor := by
  unfold listenTo
  dsimp only
  split <;> rfl

theorem floor_startRefresh (n : Node) : n.startRefresh.floor = n.floor := by
  unfold startRefresh
  dsimp only
  split <;> split <;> rfl

theorem floor_beginLeave (n : Node) : n.beginLeave.floor = n.floor := by
  unfold beginLeave
  dsimp only
  split <;> split <;> rfl

end Node

end SessionHub

import SessionHub.Proofs.Partition

/-!
# When something was last carried

The idle clock of a session starts with the session, and anew whenever a frame has gone out to it or has
come in from it. Nothing else moves it: no frame that is refused, no ping, nothing that becomes of the
connection, and no coming to the roster or going from it.

An **incident** is anything that happens on a floor. Of each it is said which sessions *carry* something
by it, those that begin among them, and this is read off what the operation replies. By
`Incident.activity` the clocks of these are the ones that start anew.
-/

namespace SessionHub

/-- What becomes of a session over whose connection nothing is carried. -/
inductive Stir where
  /-- The connection is closed. -/
  | closed
  /-- The receiving half goes. -/
  | abandoned
  /-- The writer takes what is next: a frame that was sent before, or the time for a ping. -/
  | written
  /-- The end of the session is claimed. -/
  | claimed
  /-- Something else is kept with it. -/
  | kept (attributes : List (String × Json))

/-- The session after it. -/
def Stir.perform (s : Session) : Stir → Session
  | .closed => s.close
  | .abandoned => { s with outbox := s.outbox.abandon }
  | .written => { s with outbox := s.outbox.receive.2 }
  | .claimed => { s with finished := true }
  | .kept attributes => { s with attributes }

/-- A send that succeeds starts the clock anew, and one that fails does not. -/
theorem Session.lastActive_send (s : Session) (now : Nat) (text : String) :
    (s.send now text).2.lastActive = match (s.send now text).1 with
      | .ok () => now
      | .error _ => s.lastActive := by
  unfold Session.send
  split <;> rfl

namespace Floor

/-- What happens on a floor. -/
inductive Incident where
  /-- A session begins. -/
  | opened (id : SessionId) (path : String) (owner : NodeId) (handshake : Handshake) (outbox : Outbox)
  | registered (r : SessionRef)
  | removed (path : String) (id : SessionId)
  | emptied
  /-- A frame is sent to a session, as its handler does. -/
  | sent (r : SessionRef) (text : String)
  /-- A payload is sent to whoever has a name on a path. -/
  | sentTo (path : String) (id : SessionId) (payload : String)
  | broadcast (path payload : String) (admits : Session → Bool)
  /-- A message has come from a session. -/
  | received (r : SessionRef)
  | stirred (r : SessionRef) (what : Stir)
  | noted (change : Journal → Journal)
  | passed (span : Nat)

namespace Incident

/-- What can happen: only to sessions of the floor. -/
def Possible (f : Floor) : Incident → Prop
  | .registered r | .sent r _ | .received r => r < f.sessions.size
  | _ => True

/-- The floor afterwards. -/
def after (f : Floor) : Incident → Floor
  | .opened id path owner handshake outbox =>
    (f.place (.opening id path owner handshake outbox f.now)).2
  | .registered r => (f.register r).2
  | .removed path id => (f.remove path id).2
  | .emptied => f.closeAll.2
  | .sent r text => (f.send r text).2
  | .sentTo path id payload => (f.sendTo path id payload).2
  | .broadcast path payload admits => (f.deliver path payload admits).1
  | .received r => f.touch r
  | .stirred r what => f.modifySession r what.perform
  | .noted change => f.record change
  | .passed span => { f with now := f.now + span }

/-- **The sessions that carry something**: the one that begins, who was sent something and took it, and
whose message has come. -/
def carriers (f : Floor) : Incident → List SessionRef
  | .opened .. => [f.sessions.size]
  | .sent r text =>
    match (f.send r text).1 with
    | .ok () => [r]
    | .error _ => []
  | .sentTo path id payload => if (f.sendTo path id payload).1 then (f.get? path id).toList else []
  | .broadcast path payload admits =>
    (f.addressees path admits).filter fun r =>
      (f.session r).id ∉ (f.deliver path payload admits).2.removed
  | .received r => [r]
  | _ => []

end Incident

/-- **What the clocks of a floor show** after some sessions have carried something. -/
structure Activity (rs : List SessionRef) (f f' : Floor) : Prop where
  listed : Listed f'
  now : f.now ≤ f'.now
  size : f.sessions.size ≤ f'.sessions.size
  carried : ∀ r ∈ rs, r < f'.sessions.size ∧ (f'.session r).lastActive = f.now
  others : ∀ r < f.sessions.size, r ∉ rs → (f'.session r).lastActive = (f.session r).lastActive
  begun : ∀ r < f'.sessions.size, f.sessions.size ≤ r → r ∈ rs

variable {f f' : Floor} {path payload : String} {r r' : SessionRef} {rs : List SessionRef}

/-! ## Clocks that stand -/

/-- A change of a session that leaves its clock alone. -/
theorem lastActive_modifySession {change : Session → Session}
    (stands : (change (f.session r)).lastActive = (f.session r).lastActive) :
    ((f.modifySession r change).session r').lastActive = (f.session r').lastActive := by
  rw [session_modifySession]
  split
  · rename_i here
    rw [← here.1, stands]
  · rfl

theorem lastActive_remove (path : String) (id : SessionId) (f : Floor) (r : SessionRef) :
    ((f.remove path id).2.session r).lastActive = (f.session r).lastActive := by
  unfold remove
  split
  · rfl
  · exact lastActive_modifySession (f := { f with roster := f.roster.filter (·.1 != id) }) rfl

theorem now_remove (path : String) (id : SessionId) (f : Floor) : (f.remove path id).2.now = f.now := by
  unfold remove
  split <;> rfl

theorem lastActive_expel (path complaint : String) (r : SessionRef) (fault : TransportFault) (f : Floor)
    (r' : SessionRef) :
    ((f.expel path complaint r fault).session r').lastActive = (f.session r').lastActive :=
  lastActive_remove path (f.session r).id _ r'

/-- A send in vain. -/
theorem lastActive_send (full : (f.session r).hasRoom = false) (text : String) :
    ∃ fault g, f.send r text = (.error fault, g) ∧ g.now = f.now ∧
      ∀ r', (g.session r').lastActive = (f.session r').lastActive := by
  obtain ⟨fault, s', refused, _⟩ := Session.send_of_not_hasRoom full f.now text
  have stands := (f.session r).lastActive_send f.now text
  rw [refused] at stands
  refine ⟨fault, f.modifySession r fun _ => s', by rw [send, refused], rfl, fun r' => ?_⟩
  exact lastActive_modifySession stands

theorem lastActive_sendTo {id : SessionId} (found : f.get? path id = some r)
    (full : (f.session r).hasRoom = false) (payload : String) :
    ((f.sendTo path id payload).2.session r).lastActive = (f.session r).lastActive := by
  obtain ⟨fault, g, refused, _, stands⟩ := lastActive_send full payload
  rw [sendTo, found]
  dsimp only
  rw [refused]
  exact (lastActive_expel ..).trans (stands r)

theorem now_removeAll (after : Floor → Floor) (same : ∀ f, (after f).now = f.now)
    (rs : List SessionRef) (f : Floor) : (removeAll after rs f).2.now = f.now := by
  induction rs generalizing f with
  | nil => rfl
  | cons r rest ih =>
    have removed := now_remove (f.session r).path (f.session r).id f
    unfold removeAll
    dsimp only
    split
    · rename_i outcome
      rw [outcome] at removed
      exact (ih _).trans removed
    · rename_i outcome
      rw [outcome] at removed
      exact ((ih _).trans (same _)).trans removed

/-- A session of a broadcast that does not take the payload. -/
theorem lastActive_deliverTo (full : (f.session r).hasRoom = false) (report : Delivery) :
    ((deliverTo path payload f report r).1.session r).lastActive = (f.session r).lastActive := by
  obtain ⟨fault, g, refused, _, stands⟩ := lastActive_send full payload
  unfold deliverTo
  by_cases active : (f.session r).isActive = true
  · rw [if_pos active, refused]
    exact (lastActive_expel ..).trans (stands r)
  · rw [if_neg active]
    exact lastActive_expel ..

/-- Who is gone through in a broadcast and does not take the payload: what comes to the others before
and after it is no matter. -/
theorem lastActive_deliverAll (h : Listed f) (distinct : rs.Nodup)
    (here : ∀ r ∈ rs, r ∈ f.onPath path) (member : r ∈ rs) (full : (f.session r).hasRoom = false)
    (payload : String) (report : Delivery) :
    ((deliverAll path payload rs f report).1.session r).lastActive = (f.session r).lastActive := by
  induction rs generalizing f report with
  | nil => nomatch member
  | cons first rest ih =>
    obtain ⟨new, apart⟩ := List.nodup_cons.mp distinct
    obtain ⟨listed, still, same⟩ := h.handed_rest new here payload report
    rw [deliverAll]
    rcases List.mem_cons.mp member with rfl | later
    · have expelled : ((deliverTo path payload f report r).1.session r).lastActive
          = (f.session r).lastActive := lastActive_deliverTo full report
      rw [← expelled]
      exact congrArg Session.lastActive ((handed_deliverAll listed apart still _).others r new).1
    · rw [← same r later] at full ⊢
      exact ih listed apart still later full _

/-! ## What clocks show -/

/-- A change after which the same sessions are there and their clocks show the same. -/
theorem activity_of_standing (listed : Listed f') (size : f'.sessions.size = f.sessions.size)
    (now : f.now ≤ f'.now) (stand : ∀ r, (f'.session r).lastActive = (f.session r).lastActive) :
    Activity [] f f' where
  listed := listed
  now := now
  size := size.ge
  carried := nofun
  others r _ _ := stand r
  begun _ there new := absurd there (Nat.not_lt.mpr (size ▸ new))

theorem Listed.modifySession {change : Session → Session} (h : Listed f)
    (id : (change (f.session r)).id = (f.session r).id) : Listed (f.modifySession r change) where
  distinct := h.distinct
  named e he := by
    obtain ⟨there, named⟩ := h.named e he
    rw [size_modifySession, session_modifySession]
    refine ⟨there, ?_⟩
    split
    · rename_i here
      rw [← here.1, id, here.1, named]
    · exact named

/-- A session carries something, and nothing becomes of the others. -/
theorem activity_of_carrier (h : Listed f) (there : r < f.sessions.size) {change : Session → Session}
    (id : (change (f.session r)).id = (f.session r).id)
    (carried : (change (f.session r)).lastActive = f.now) :
    Activity [r] f (f.modifySession r change) := by
  constructor
  · exact h.modifySession id
  · exact Nat.le_refl _
  · rw [size_modifySession]
  · intro r' here
    obtain rfl := List.mem_singleton.mp here
    rw [size_modifySession, session_modifySession, if_pos ⟨rfl, there⟩]
    exact ⟨there, carried⟩
  · intro r' _ away
    have other : ¬ (r = r' ∧ r < f.sessions.size) :=
      fun both => away (List.mem_singleton.mpr both.1.symm)
    rw [session_modifySession, if_neg other]
  · intro r' there' new
    rw [size_modifySession] at there'
    exact absurd there' (Nat.not_lt.mpr new)

/-- A session begins. -/
theorem activity_opened (h : Listed f) (s : Session) (begins : s.lastActive = f.now) :
    Activity [f.sessions.size] f (f.place s).2 := by
  have size : (f.place s).2.sessions.size = f.sessions.size + 1 := Array.size_push ..
  constructor
  · exact h.place s
  · exact Nat.le_refl _
  · omega
  · intro r here
    obtain rfl := List.mem_singleton.mp here
    have new : (f.place s).2.session f.sessions.size = s :=
      (getD_push ..).trans (if_pos rfl)
    rw [new, size]
    exact ⟨Nat.lt_succ_self _, begins⟩
  · intro r there _
    rw [session_place s there]
  · intro r there new
    apply List.mem_singleton.mpr
    omega

/-- A payload that is handed to some sessions is carried by those that have room. -/
theorem activity_of_handed (h : Listed f) (aside : Aside f f') (here : ∀ r ∈ rs, r ∈ f.registered)
    (handed : Handed payload rs f f')
    (stand : ∀ r ∈ rs, (f.session r).hasRoom = false →
      (f'.session r).lastActive = (f.session r).lastActive) :
    Activity (rs.filter fun r => (f.session r).hasRoom) f f' where
  listed := h.aside aside
  now := handed.now.ge
  size := aside.size.ge
  carried r carries := by
    obtain ⟨member, room⟩ := List.mem_filter.mp carries
    rw [(handed.taken r member room).1, aside.size]
    exact ⟨h.lt (here r member), rfl⟩
  others r there away := by
    by_cases member : r ∈ rs
    · refine stand r member (Bool.eq_false_iff.mpr fun room => away ?_)
      exact List.mem_filter.mpr ⟨member, room⟩
    · rw [(handed.others r member).1]
  begun r there new := absurd there (Nat.not_lt.mpr (aside.size ▸ new))

/-- A payload for one name is carried by whoever takes it. -/
theorem activity_sentTo (h : Listed f) (path : String) (id : SessionId) (payload : String) :
    Activity (Incident.carriers f (.sentTo path id payload)) f (f.sendTo path id payload).2 := by
  cases found : f.get? path id with
  | none =>
    have unsent : f.sendTo path id payload = (false, f) := by rw [sendTo, found]
    rw [Incident.carriers, unsent]
    exact activity_of_standing h rfl (Nat.le_refl _) fun _ => rfl
  | some r =>
    obtain ⟨taken, handed⟩ := handed_sendTo h found payload
    have here : ∀ r' ∈ [r], r' ∈ f.registered := fun r' same =>
      List.mem_singleton.mp same ▸ (h.get?_eq_some.mp found).1
    have carriers : Incident.carriers f (.sentTo path id payload)
        = [r].filter fun r => (f.session r).hasRoom := by
      rw [Incident.carriers, taken, found, List.filter_cons]
      rfl
    rw [carriers]
    apply activity_of_handed h (aside_sendTo ..) here handed
    intro r' same full
    obtain rfl := List.mem_singleton.mp same
    exact lastActive_sendTo found full payload

/-- **A broadcast is carried by those who are not reported**, of those it is addressed to. -/
theorem activity_broadcast (h : Listed f) (path payload : String) (admits : Session → Bool) :
    Activity (Incident.carriers f (.broadcast path payload admits)) f
      (f.deliver path payload admits).1 := by
  have onPath : ∀ r ∈ f.addressees path admits, r ∈ f.onPath path :=
    fun _ kept => List.mem_of_mem_filter kept
  have divides : Divides payload (f.addressees path admits) f (f.deliver path payload admits).1
      (f.deliver path payload admits).2 := h.divides ((h.nodup.filter _).filter _) onPath payload
  have here : ∀ r ∈ f.addressees path admits, r ∈ f.registered :=
    fun r member => (mem_onPath.mp (onPath r member)).1
  have carriers : Incident.carriers f (.broadcast path payload admits)
      = (f.addressees path admits).filter fun r => (f.session r).hasRoom := by
    apply List.filter_congr
    intro r member
    cases room : (f.session r).hasRoom with
    | true =>
      refine decide_eq_true fun removed => ?_
      obtain ⟨r', member', full, same⟩ := divides.named _ removed
      rw [h.inj (here r' member') (here r member) same, room] at full
      nomatch full
    | false =>
      obtain ⟨_, _, _, named⟩ := divides.dropped r member room
      refine decide_eq_false (not_not.mpr ?_)
      exact List.count_pos_iff.mp (named ▸ Nat.one_pos)
  rw [carriers]
  apply activity_of_handed h (aside_deliver ..) here (handed_deliver_to h path payload admits)
  intro r member full
  exact lastActive_deliverAll h ((h.nodup.filter _).filter _) onPath member full payload {}

/-- A session comes to the roster, or is refused there. -/
theorem activity_registered (h : Listed f) (there : r < f.sessions.size) :
    Activity [] f (f.register r).2 := by
  obtain ⟨sessions, now⟩ :
      (f.register r).2.sessions = f.sessions ∧ (f.register r).2.now = f.now := by
    unfold register
    dsimp only
    split <;> exact ⟨rfl, rfl⟩
  apply activity_of_standing (h.register there) (congrArg Array.size sessions) now.ge
  intro r'
  rw [session, sessions]
  rfl

/-- Sessions are removed. -/
theorem activity_of_dismissed (h : Listed f) (aside : Aside f f') (now : f'.now = f.now)
    (dismissed : Dismissed rs f f') : Activity [] f f' := by
  apply activity_of_standing (h.aside aside) aside.size now.ge
  intro r
  by_cases here : r ∈ rs
  · rw [(dismissed.gone r here).2]
    rfl
  · rw [(dismissed.others r here).1]

theorem activity_closeAll (h : Listed f) : Activity [] f f.closeAll.2 :=
  activity_of_dismissed h (aside_removeAll (fun f => .refl f) f.registered f)
    (now_removeAll id (fun _ => rfl) f.registered f) h.closeAll.2

theorem activity_sweepIdle (h : Listed f) (timeout : Nat) : Activity [] f (f.sweepIdle timeout).2 :=
  activity_of_dismissed h (aside_sweepIdle timeout f)
    (now_removeAll (·.record (·.count .idleEvictions)) (fun _ => rfl) _ f) (h.sweepIdle timeout).2

/-- A frame that is sent to a session is carried if it is taken. -/
theorem activity_sent (h : Listed f) (there : r < f.sessions.size) (text : String) :
    Activity (Incident.carriers f (.sent r text)) f (f.send r text).2 := by
  have aside := aside_send r text f
  cases room : (f.session r).hasRoom with
  | true =>
    have sent : f.send r text
        = (.ok (), f.modifySession r fun _ => (f.session r).taking f.now text) := by
      rw [send, Session.send_of_hasRoom room]
    rw [Incident.carriers, sent]
    exact activity_of_carrier h there rfl rfl
  | false =>
    obtain ⟨fault, g, refused, now, stands⟩ := lastActive_send room text
    rw [refused] at aside
    rw [Incident.carriers, refused]
    exact activity_of_standing (h.aside aside) aside.size now.ge stands

/-- **The clocks that start anew are those of the sessions that carry something**, whatever happens. -/
theorem Incident.activity (h : Listed f) (i : Incident) (possible : i.Possible f) :
    Activity (i.carriers f) f (i.after f) := by
  cases i with
  | opened id path owner handshake outbox => exact activity_opened h _ rfl
  | registered r => exact activity_registered h possible
  | removed path id =>
    have aside := aside_remove path id f
    exact activity_of_standing (h.aside aside) aside.size (now_remove ..).ge
      (lastActive_remove path id f)
  | emptied => exact activity_closeAll h
  | sent r text => exact activity_sent h possible text
  | sentTo path id payload => exact activity_sentTo h path id payload
  | broadcast path payload admits => exact activity_broadcast h path payload admits
  | received r => exact activity_of_carrier h possible rfl rfl
  | stirred r what =>
    have same : (what.perform (f.session r)).id = (f.session r).id ∧
        (what.perform (f.session r)).lastActive = (f.session r).lastActive := by
      cases what <;> exact ⟨rfl, rfl⟩
    exact activity_of_standing (h.modifySession same.1) (size_modifySession ..) (Nat.le_refl _)
      fun _ => lastActive_modifySession same.2
  | noted change => exact activity_of_standing (h.of_still ⟨rfl, rfl⟩) rfl (Nat.le_refl _) fun _ => rfl
  | passed span =>
    exact activity_of_standing (h.of_still ⟨rfl, rfl⟩) rfl (Nat.le_add_right ..) fun _ => rfl

end Floor

end SessionHub

import SessionHub.Handler.Script
import SessionHub.Proofs.Hub.Aftermath

/-!
# What happens around a hub

While the programs of a hub wait, other things happen to its node. Its duties in the cluster are done, it
hears what others send, handlers act within their callbacks, and the connections of sessions are
written from, closed and lost. All this happens **around** the hub: it is aside and tidy, and it is
**even**, which is to say that it moves what is shown as opened along with what is shown as closed and
as active.
-/

namespace SessionHub

namespace Floor

/-! ## What a floor shows -/

variable {f : Floor}

theorem journal_remove (path : String) (id : SessionId) (f : Floor) :
    (f.remove path id).2.journal = f.journal := by
  unfold remove
  split <;> rfl

theorem surplus_register (r : SessionRef) (f : Floor) :
    (f.register r).2.journal.surplus = f.journal.surplus := by
  unfold register
  dsimp only
  split <;> rfl

theorem surplus_expel (path complaint : String) (r : SessionRef) (fault : TransportFault) (f : Floor) :
    (f.expel path complaint r fault).journal.surplus = f.journal.surplus := by
  unfold expel
  dsimp only
  rw [journal_remove]
  simp [record]

theorem surplus_deliverTo (path payload : String) (f : Floor) (report : Delivery) (r : SessionRef) :
    (deliverTo path payload f report r).1.journal.surplus = f.journal.surplus := by
  have sent : (if (f.session r).isActive then f.send r payload
      else (.error .closed, f)).2.journal = f.journal := by
    split <;> rfl
  unfold deliverTo
  dsimp only
  split
  · rw [sent]
  · rw [surplus_expel, sent]

theorem surplus_deliverAll (path payload : String) (rs : List SessionRef) (f : Floor)
    (report : Delivery) :
    (deliverAll path payload rs f report).1.journal.surplus = f.journal.surplus := by
  induction rs generalizing f report with
  | nil => rfl
  | cons r rest ih => exact (ih ..).trans (surplus_deliverTo path payload f report r)

theorem surplus_deliver (path payload : String) (admits : Session → Bool) (f : Floor) :
    (f.deliver path payload admits).1.journal.surplus = f.journal.surplus :=
  surplus_deliverAll ..

theorem surplus_sendTo (path : String) (id : SessionId) (payload : String) (f : Floor) :
    (f.sendTo path id payload).2.journal.surplus = f.journal.surplus := by
  unfold sendTo
  split
  · rfl
  · rename_i r _
    have sent : (f.send r payload).2.journal = f.journal := rfl
    split
    · rename_i outcome
      rw [outcome] at sent
      exact congrArg Journal.surplus sent
    · rename_i outcome
      rw [outcome] at sent
      rw [surplus_expel]
      exact congrArg Journal.surplus sent

theorem surplus_removeAll {after : Floor → Floor}
    (even : ∀ f, (after f).journal.surplus = f.journal.surplus) (rs : List SessionRef) (f : Floor) :
    (removeAll after rs f).2.journal.surplus = f.journal.surplus := by
  induction rs generalizing f with
  | nil => rfl
  | cons r rest ih =>
    have removed := journal_remove (f.session r).path (f.session r).id f
    unfold removeAll
    dsimp only
    split
    · rename_i outcome
      rw [outcome] at removed
      exact (ih _).trans (congrArg Journal.surplus removed)
    · rename_i outcome
      rw [outcome] at removed
      exact ((ih _).trans (even _)).trans (congrArg Journal.surplus removed)

theorem surplus_sweepIdle (timeout : Nat) (f : Floor) :
    (f.sweepIdle timeout).2.journal.surplus = f.journal.surplus :=
  surplus_removeAll (fun _ => by simp [record]) _ f

end Floor

namespace Node

variable {n n' n'' : Node}

/-! ## Even changes -/

/-- A change is **even** if what was opened moves along with what was closed and what is active. -/
def Even (n n' : Node) : Prop := n'.floor.journal.surplus = n.floor.journal.surplus

theorem Even.trans (h : Even n n') (h' : Even n' n'') : Even n n'' := Eq.trans h' h

theorem even_of_floor (same : n'.floor = n.floor) : Even n n' :=
  congrArg (fun f : Floor => f.journal.surplus) same

theorem even_record {change : Journal → Journal}
    (surplus : (change n.floor.journal).surplus = n.floor.journal.surplus) :
    Even n (n.record change) := surplus

theorem even_gauge (m : Int) (n : Node) : Even n (n.record (·.gauge .degraded m)) :=
  Journal.surplus_gauge (by simp) (by simp) (by simp) ..

theorem Swept.even (swept : Swept n n') : Even n n' := by
  cases swept with
  | succeeded =>
    unfold storeSucceeded
    split
    · exact even_gauge 0 n
    · rfl
  | failed op fault =>
    have counted : Even n (n.record (·.count (.storeErrors op fault.kind))) := even_record (by simp)
    unfold storeFailed
    dsimp only
    split
    · exact counted
    · exact counted.trans (even_gauge 1 _)
  | warned message fields => exact even_record (by simp)
  | pruned now => rfl
  | met b other present => exact even_of_floor (floor_meet b n)
  | buried dead =>
    induction dead generalizing n with
    | nil => rfl
    | cons p rest ih =>
      have buried : Even n (n.bury p) := even_record (n := n.modifyMembership _) (by simp)
      exact buried.trans (ih (n := n.bury p))

/-- **Whatever a node does in its cluster** is even. -/
theorem Tended.even (tended : Tended n n') : Even n n' := by
  cases tended with
  | swept change => exact change.even
  | listening broadcasts control => exact even_of_floor (floor_listenTo ..)
  | givenUp sub => rfl
  | refreshing => exact even_of_floor (floor_startRefresh n)
  | leaving => exact even_of_floor (floor_beginLeave n)
  | published => exact even_record (by simp)
  | sent path session payload => exact Floor.surplus_sendTo ..

theorem even_broadcastHere (path payload : String) (admits : Session → Bool) (n : Node) :
    Even n (n.broadcastHere path payload admits).2 := by
  have counted : Even n (n.record (·.count .localBroadcasts)) := even_record (by simp)
  exact counted.trans (Floor.surplus_deliver path payload admits _)

/-! ## What happens around a hub -/

/-- What may happen to a node besides what its hub is called for: nobody comes and nobody's end is
claimed, whoever is taken off the roster is closed, and the change is even. -/
structure Around (n n' : Node) : Prop where
  aside : Aside n n'
  tidy : n.floor.Tidy n'.floor
  even : Even n n'

theorem around_record {change : Journal → Journal}
    (active : (change n.floor.journal).active = n.floor.journal.active)
    (surplus : (change n.floor.journal).surplus = n.floor.journal.surplus) :
    Around n (n.record change) :=
  ⟨aside_record active, Floor.tidy_of_still ⟨rfl, rfl⟩, surplus⟩

/-- A session may be sent to and written from, closed, touched, and given attributes. -/
theorem around_modifySession {r : SessionRef} {change : Session → Session}
    (id : (change (n.session r)).id = (n.session r).id)
    (path : (change (n.session r)).path = (n.session r).path)
    (finished : (change (n.session r)).finished = (n.session r).finished)
    (closed : (n.session r).outbox.closed = true → (change (n.session r)).outbox.closed = true) :
    Around n { n with floor := n.floor.modifySession r change } :=
  ⟨⟨Floor.aside_modifySession id path finished, rfl, rfl, rfl, rfl⟩,
    Floor.tidy_modifySession r change n.floor id closed, rfl⟩

theorem around_send (r : SessionRef) (text : String) (n : Node) :
    Around n (onFloor (Floor.send r text) n).2 := by
  have closed : ∀ s : Session, s.outbox.closed = true →
      (s.send n.floor.now text).2.outbox.closed = true := by
    intro s closed
    simp [Session.send, Outbox.send, closed]
  have sent := Floor.aside_send r text n.floor
  have id : ((n.session r).send n.floor.now text).2.id = (n.session r).id := by
    unfold Session.send
    split <;> rfl
  exact ⟨⟨sent, rfl, rfl, rfl, rfl⟩, Floor.tidy_modifySession r _ n.floor id (closed _), rfl⟩

/-- The duties of a node in its cluster are done beside its hub. -/
theorem Tended.around (tended : Tended n n') : Around n n' :=
  ⟨tended.aside, tended.tidy, tended.even⟩

theorem around_hearBroadcast (m : Message) (n : Node) : Around n (n.hearBroadcast m) := by
  obtain ⟨aside, tidy⟩ := turns_hearBroadcast m n
  refine ⟨aside, tidy, ?_⟩
  unfold hearBroadcast
  split
  · exact even_record (by simp)
  · rename_i e _
    split
    · unfold receiveEnvelope
      split
      · exact even_record (by simp)
      · have counted : Even n (n.record (·.count .receivedEnvelopes)) := even_record (by simp)
        exact counted.trans (Floor.surplus_deliver e.path e.payload (fun _ => true) _)
    · exact even_record (by simp)

theorem around_hearControl (m : Message) (n : Node) : Around n (n.hearControl m) := by
  unfold hearControl
  split
  · exact around_record (by simp) (by simp)
  · rename_i a _
    obtain ⟨peer⟩ := a
    unfold hear
    dsimp only
    split
    · exact ⟨.refl n, .refl _, rfl⟩
    · split
      · exact ⟨(aside_modifyMembership rfl).trans (aside_emit ..), .refl _, rfl⟩
      · exact ⟨aside_modifyMembership rfl, .refl _, rfl⟩

theorem around_broadcastHere (path payload : String) (admits : Session → Bool) (n : Node) :
    Around n (n.broadcastHere path payload admits).2 :=
  ⟨aside_broadcastHere .., tidy_broadcastHere .., even_broadcastHere ..⟩

end Node

namespace Handler

open Node

theorem write_around (line : String) (n : Node) : (write line).ChangesBy Around n :=
  Program.changesBy_modify (around_record rfl rfl)

theorem cast_around (path payload : String) (n : Node) : (cast path payload).ChangesBy Around n :=
  (broadcast_changesBy (around_broadcastHere ..) Tended.around).among.bind fun _ _ =>
    (write_around ..).bind fun _ _ => trivial

theorem onAttributes_around {verb : String} {r : SessionRef} {name : String}
    {change : Session → Session} (only : ∀ s, ∃ attributes, change s = { s with attributes })
    (n : Node) : (onAttributes verb r name change).ChangesBy Around n := by
  unfold onAttributes
  rw [Program.changesBy_view_bind]
  refine Program.changesBy_modify_bind ?_ ((write_around ..).bind fun _ _ => trivial)
  obtain ⟨attributes, same⟩ := only (n.session r)
  refine around_modifySession ?_ ?_ ?_ fun closed => ?_
  · rw [same]
  · rw [same]
  · rw [same]
  · rw [same]
    exact closed

/-- **Whatever a script does** happens around the hub. -/
theorem perform_around (r : SessionRef) (action : String) (n : Node) :
    (perform r action).ChangesBy Around n := by
  unfold perform
  rw [Program.changesBy_view_bind]
  dsimp only
  split
  · exact trivial
  · exact trivial
  · exact trivial
  · exact trivial
  · exact Program.changesBy_call fun _ n' => (write_around ..).bind fun _ _ => trivial
  · -- `echo`
    refine Program.changesBy_update_bind (around_send ..) ?_
    split <;> exact trivial
  · exact cast_around ..
  · exact cast_around ..
  · -- `dm`
    rw [Program.changesBy_view_bind]
    refine ((sendTo_tended ..).mono fun _ _ => Tended.around).among.bind fun _ _ => ?_
    exact (write_around ..).bind fun _ _ => trivial
  · exact onAttributes_around (fun s => ⟨_, rfl⟩) n
  · exact onAttributes_around (fun s => ⟨_, rfl⟩) n
  · exact onAttributes_around (fun s => ⟨_, rfl⟩) n
  · -- `close`
    exact Program.changesBy_modify_bind (around_modifySession rfl rfl rfl fun _ => rfl) trivial
  · exact trivial

/-- **Whatever a callback does**, it happens around the hub. -/
theorem callback_around (h : Handler) (r : SessionRef) (o : Occasion) (n : Node) :
    (h.callback r o).ChangesBy Around n := by
  cases h with
  | plain =>
    cases o with
    | message text =>
      unfold callback
      dsimp only
      rw [Program.changesBy_view_bind]
      exact (write_around _ n).bind fun _ _ => Program.changesBy_pure ..
    | opened | closed | error fault => exact trivial
  | scripted actions =>
    -- the script's action stands for itself from here on, or its text would be taken apart again
    have acts := @perform_around r (actionFor actions o)
    unfold callback
    dsimp only
    generalize perform r (actionFor actions o) = p at acts ⊢
    rw [Program.changesBy_view_bind]
    refine (write_around _ n).bind fun _ n' => ?_
    split
    · exact Program.changesBy_modify_bind (around_record rfl rfl) (acts _)
    · exact acts n'

end Handler

end SessionHub

import SessionHub.Proofs.Hub.Books

/-!
# What the programs of a hub change

Whatever a program of a hub is asked to do, and whatever it is answered, each change that it makes is
**worked**: it is one of a few kinds, of which two bring a session in or claim its end, one counts a
connection back, and one stops the node. All programs are taken apart here, once. What every change of
a hub keeps is then a matter of these kinds.
-/

namespace SessionHub.Node

/-- A change that a program of a hub makes. -/
inductive Worked (n : Node) : Node → Prop
  | tended {n' : Node} (change : Tended n n') : Worked n n'
  | delivered (path payload : String) : Worked n (n.broadcastHere path payload fun _ => true).2
  | evicted (timeout : Nat) : Worked n (onFloor (Floor.sweepIdle timeout) n).2
  | touched (r : SessionRef) : Worked n { n with floor := n.floor.touch r }
  /-- Something is written down that does not concern what is shown of connections. -/
  | noted {change : Journal → Journal}
    (other : (change n.floor.journal).surplus = n.floor.journal.surplus) : Worked n (n.record change)
  | enrolled (path : String) (handshake : Handshake) (outbox : Outbox)
    (admits : n.closing.begun = false) : Worked n (n.enrol path handshake outbox).2
  | claimed (r : SessionRef) : Worked n (n.claim r).2
  | countedBack : Worked n n.countBack
  | started : Worked n { n with started := true }
  | ticking : Worked n n.startLiveness
  | began (tracked : List JobRef) : Worked n { n with closing := { begun := true, tracked } }
  /-- Jobs that did not stop in time are dropped. -/
  | aborted (message : String) (fields : List (String × String)) (jobs : List JobRef) :
    Worked n (jobs.foldl (fun n j => n.drop j) (n.record (·.warn message fields)))

/-! ## The cluster's side -/

theorem asHub_worked {α : Type} {p : ClusterProgram α} {n : Node} (h : p.ChangesBy Tended n) :
    (asHub p).ChangesBy Worked n :=
  (h.mono fun _ _ => .tended).among

theorem tick_worked (timeout : Nat) (n : Node) : (tick timeout).ChangesBy Worked n := by
  have evict : ∀ (report : Tick) (n : Node), (do
      let evicted ← Program.update (onFloor (Floor.sweepIdle timeout))
      return { report with evicted } : ClusterProgram Tick).ChangesBy Worked n := fun report n =>
    Program.changesBy_update_bind (.evicted timeout) trivial
  unfold tick
  rw [Program.changesBy_get_bind]
  split
  · refine ((heartbeat_tended n).mono fun _ _ => .tended).bind fun written n' => ?_
    refine ((sweep_tended n').mono fun _ _ => .tended).bind fun dead n'' => ?_
    exact evict _ n''
  · exact evict _ n

/-! ## Callbacks -/

theorem runCallback_worked (h : Handler) (limit : Nat) (r : SessionRef) (o : Occasion) (n : Node) :
    (runCallback h limit r o).ChangesBy Worked n := by
  refine Program.changesBy_call fun ending n' => ⟨(), .noted ?_, trivial⟩
  dsimp only
  split <;> simp

theorem tellError_worked (h : Handler) (limit : Nat) (r : SessionRef) (fault : SessionFault)
    (n : Node) : (tellError h limit r fault).ChangesBy Worked n := by
  unfold tellError
  rw [Program.changesBy_view_bind]
  refine (runCallback_worked ..).bind fun outcome n' => ?_
  cases outcome with
  | ok => exact trivial
  | error failure => exact Program.changesBy_modify (.noted (by simp))

theorem handlerFor_worked (handlers : Handlers) (r : SessionRef) (n : Node) :
    (handlerFor handlers r).ChangesBy Worked n := by
  unfold handlerFor
  rw [Program.changesBy_view_bind]
  split
  · exact trivial
  · exact Program.changesBy_modify_bind (.noted (by simp)) trivial

theorem dispatch_worked (handlers : Handlers) (limit : Nat) (r : SessionRef) (o : Occasion)
    (n : Node) : (dispatch handlers limit r o).ChangesBy Worked n := by
  unfold dispatch
  refine (handlerFor_worked ..).bind fun handler n' => ?_
  cases handler with
  | none => exact trivial
  | some h =>
    refine (runCallback_worked ..).bind fun outcome n'' => ?_
    cases outcome with
    | ok => exact trivial
    | error failure =>
      refine Program.changesBy_modify_bind (.noted (by simp)) ?_
      exact (tellError_worked ..).bind fun _ _ => trivial

theorem dispatchError_worked (handlers : Handlers) (limit : Nat) (r : SessionRef)
    (fault : SessionFault) (n : Node) :
    (dispatchError handlers limit r fault).ChangesBy Worked n := by
  unfold dispatchError
  refine (handlerFor_worked ..).bind fun handler n' => ?_
  cases handler with
  | none => exact trivial
  | some h => exact tellError_worked ..

/-! ## The life of a session -/

theorem message_worked (r : SessionRef) (text : String) (n : Node) :
    (message r text).ChangesBy Worked n :=
  Program.changesBy_modify_bind (.touched r) (dispatch_worked ..).discard

theorem fault_worked (r : SessionRef) (f : SessionFault) (n : Node) :
    (Node.fault r f).ChangesBy Worked n :=
  Program.changesBy_modify_bind (.noted (by simp)) (dispatchError_worked ..)

theorem accept_worked (path : String) (handshake : Handshake) (outbox : Outbox) (n : Node) :
    (accept path handshake outbox).ChangesBy Worked n := by
  unfold accept
  rw [Program.changesBy_get_bind]
  cases refused : n.refusal? path with
  | some refusal => exact Program.changesBy_modify_bind (.noted (by simp)) trivial
  | none =>
    have admits := (refusal?_eq_none refused).1
    refine Program.changesBy_update_bind (.enrolled path handshake outbox admits) ?_
    generalize (n.enrol path handshake outbox).1 = outcome
    cases outcome with
    | error refusal => exact trivial
    | ok r =>
      dsimp only
      rw [Program.changesBy_get_bind]
      have told : ∀ (handlers : Handlers) (limit : Nat) (n' : Node), (do
          discard (dispatch handlers limit r .opened)
          return .ok r : HubProgram (Except Refusal SessionRef)).ChangesBy Worked n' :=
        fun handlers limit n' => (dispatch_worked ..).discard.bind fun _ _ => trivial
      split
      · exact (asHub_worked (writeRoute_tended ..)).discard.bind fun _ _ => told ..
      · exact told ..

theorem disconnect_worked (r : SessionRef) (n : Node) : (disconnect r).ChangesBy Worked n := by
  unfold disconnect
  refine Program.changesBy_update_bind (.claimed r) ?_
  split
  · exact trivial
  · rw [Program.changesBy_get_bind]
    have told : ∀ (handlers : Handlers) (limit : Nat) (n' : Node), (do
        Program.modify countBack
        discard (dispatch handlers limit r .closed) : HubProgram Unit).ChangesBy Worked n' :=
      fun handlers limit n' => Program.changesBy_modify_bind .countedBack (dispatch_worked ..).discard
    dsimp only
    split
    · exact (asHub_worked (forgetRoute_tended ..)).discard.bind fun _ _ => told ..
    · exact told ..

theorem disconnectAll_worked (rs : List SessionRef) (n : Node) :
    (Program.forEach disconnect rs).ChangesBy Worked n := by
  induction rs generalizing n with
  | nil => exact trivial
  | cons r rest ih => exact (disconnect_worked r n).bind fun _ n' => ih n'

/-! ## Start and end of a node -/

theorem run_worked (n : Node) : Node.run.ChangesBy Worked n := by
  unfold Node.run
  rw [Program.changesBy_get_bind]
  refine Program.changesBy_modify_bind .started ?_
  split
  · exact trivial
  · have ticking : ∀ n : Node, (Program.modify startLiveness : HubProgram Unit).ChangesBy Worked n :=
      fun n => Program.changesBy_modify .ticking
    split
    · exact (asHub_worked (join_tended _)).bind fun _ _ => ticking _
    · exact ticking _

theorem drain_worked (limit : Nat) (n : Node) : (drain limit).ChangesBy Worked n := by
  unfold drain
  rw [Program.changesBy_get_bind]
  refine Program.changesBy_modify_bind (.began []) ?_
  dsimp only
  split
  · exact trivial
  · refine Program.changesBy_call fun inTime n' => ?_
    cases inTime with
    | true => exact trivial
    | false => exact Program.changesBy_modify (.aborted _ _ n.closing.tracked)

/-- What a shutdown does after the jobs: it leaves the cluster and tears everybody down. -/
theorem closeDown_worked (clustered : Bool) (n : Node) : (do
    if clustered then asHub leave
    let n ← Program.get
    Program.forEach disconnect n.floor.registered : HubProgram Unit).ChangesBy Worked n := by
  have ends : ∀ n : Node, (do
      let n ← Program.get
      Program.forEach disconnect n.floor.registered : HubProgram Unit).ChangesBy Worked n :=
    fun n => disconnectAll_worked _ n
  split
  · exact (asHub_worked (leave_tended n)).bind fun _ _ => ends _
  · exact ends n

theorem shutdown_worked (n : Node) : shutdown.ChangesBy Worked n := by
  unfold shutdown
  rw [Program.changesBy_get_bind]
  split
  · exact trivial
  · exact (drain_worked _ n).bind fun _ n' => closeDown_worked n.clustered n'

theorem livenessRound_worked (n : Node) : livenessRound.ChangesBy Worked n := by
  unfold livenessRound
  rw [Program.changesBy_get_bind]
  exact (tick_worked ..).among.bind fun _ _ => disconnectAll_worked ..

/-- **Whatever a hub is called for**, it makes changes of these kinds only. -/
theorem program_worked (c : HubCall) (n : Node) : (HubCall.program c).ChangesBy Worked n := by
  cases c with
  | accept path handshake outbox => exact (accept_worked ..).bind fun _ _ => trivial
  | message r text => exact (message_worked ..).bind fun _ _ => trivial
  | fault r fault => exact (fault_worked ..).bind fun _ _ => trivial
  | hangUp r | disconnect r => exact (disconnect_worked r n).bind fun _ _ => trivial
  | broadcast path payload =>
    exact (broadcast_changesBy (.delivered path payload) .tended).among.discard.bind fun _ _ => trivial
  | send path id payload => exact (asHub_worked (sendTo_tended ..)).discard.bind fun _ _ => trivial
  | start => exact (run_worked n).bind fun _ _ => trivial
  | liveness => exact (livenessRound_worked n).bind fun _ _ => trivial
  | shutdown => exact (shutdown_worked n).bind fun _ _ => trivial

end SessionHub.Node

import SessionHub.Proofs.Cluster.Duties
import SessionHub.Proofs.Wire

/-!
# What a node writes and says

Whatever a node of a cluster asks of the store, it asks under the layout of its cluster. It writes
records of nodes under their keys and routes of sessions under theirs, and it publishes envelopes on
the channels of their paths and leaves on the channel of announcements. `written_of_writes` and
`spoken_of_publishes` say that this is all, whatever the store answers and whatever else happens to the
node while it waits.
-/

namespace SessionHub.Node

/-- A node of the cluster that uses a layout. Its clock shows times. -/
structure Under (keys : KeyLayout) (n : Node) : Prop where
  keys : n.membership.keys = keys
  wall : IsTime n.wall
  startedAt : IsTime n.membership.startedAt

/-- A call that a node of a cluster may make in doing its duties. -/
def Calls (keys : KeyLayout) (call : StoreCall) : Prop :=
  ∃ d n, Under keys n ∧ (attend d).MayAsk (Under keys) (.store call) n

/-- A value that a node of a cluster may write under a key. -/
def Writes (keys : KeyLayout) (key value : String) : Prop := ∃ ttl, Calls keys (.set key value ttl)

/-- A message that a node of a cluster may publish. -/
def Publishes (keys : KeyLayout) (m : Message) : Prop := Calls keys (.publish m.channel m.payload)

/-- What is written in a cluster: the record of a node, and who has a session. -/
inductive Written (keys : KeyLayout) : String → String → Prop
  | record (b : Beacon) (beat : IsTime b.lastBeat) (start : IsTime b.startedAt) :
    Written keys (keys.nodeKey b.node) b.encode
  | route (path : String) (session : SessionId) (owner : NodeId) :
    Written keys (keys.routeKey path session) owner.text

/-- What is said in a cluster: an envelope, on the channel of its path, and that a node leaves. -/
inductive Spoken (keys : KeyLayout) : Message → Prop
  | envelope (e : Envelope) (time : IsTime e.timestamp) :
    Spoken keys ⟨keys.broadcastChannel e.path, e.encode⟩
  | leave (node : NodeId) : Spoken keys ⟨keys.controlChannel, Announcement.encode (.leave node)⟩

/-- A question that, if it writes or publishes, does so as is done in the cluster. -/
def Proper (keys : KeyLayout) : ClusterAsk → Prop
  | .store (.set key value _) => Written keys key value
  | .store (.publish channel payload) => Spoken keys ⟨channel, payload⟩
  | _ => True

/-- The conduct of a node's duties as to what it writes and says. -/
def voice (keys : KeyLayout) : Conduct Node ClusterAsk Unit where
  finds _ n := Under keys n
  puts _ _ n' _ := Under keys n'
  asks _ _ q _ := Proper keys q

variable {keys : KeyLayout} {n n' : Node}

/-! ## What stays -/

/-- A change of a node that leaves alone its layout and its clock. -/
structure Rooted (n n' : Node) : Prop where
  keys : n'.membership.keys = n.membership.keys
  wall : n'.wall = n.wall
  startedAt : n'.membership.startedAt = n.membership.startedAt

theorem Under.of_rooted (h : Under keys n) (rooted : Rooted n n') : Under keys n' where
  keys := rooted.keys.trans h.keys
  wall := rooted.wall ▸ h.wall
  startedAt := rooted.startedAt ▸ h.startedAt

theorem rooted_meet (b : Beacon) (n : Node) : Rooted n (n.meet b) := by
  unfold meet
  dsimp only
  split <;> exact ⟨rfl, rfl, rfl⟩

theorem rooted_bury_all (dead : List NodeId) (n : Node) :
    Rooted n (dead.foldl (fun n p => n.bury p) n) := by
  induction dead generalizing n with
  | nil => exact ⟨rfl, rfl, rfl⟩
  | cons p rest ih =>
    obtain ⟨keys, wall, startedAt⟩ := ih (n.bury p)
    exact ⟨keys, wall, startedAt⟩

theorem Swept.rooted (h : Swept n n') : Rooted n n' := by
  cases h with
  | succeeded => unfold storeSucceeded; split <;> exact ⟨rfl, rfl, rfl⟩
  | failed op fault => unfold storeFailed; dsimp only; split <;> exact ⟨rfl, rfl, rfl⟩
  | warned message fields => exact ⟨rfl, rfl, rfl⟩
  | pruned now => exact ⟨rfl, rfl, rfl⟩
  | met b other present => exact rooted_meet b n
  | buried dead => exact rooted_bury_all dead n

theorem rooted_startRefresh (n : Node) : Rooted n n.startRefresh := by
  rcases n.startRefresh_cases with same | same <;> rw [same] <;> exact ⟨rfl, rfl, rfl⟩

/-- **No duty changes the layout or the clock.** -/
theorem Tended.rooted (h : Tended n n') : Rooted n n' := by
  cases h with
  | swept change => exact change.rooted
  | listening broadcasts control => unfold listenTo; dsimp only; split <;> exact ⟨rfl, rfl, rfl⟩
  | givenUp sub => exact ⟨rfl, rfl, rfl⟩
  | refreshing => exact rooted_startRefresh n
  | leaving => unfold beginLeave; dsimp only; split <;> split <;> exact ⟨rfl, rfl, rfl⟩
  | published => exact ⟨rfl, rfl, rfl⟩
  | sent path session payload => exact ⟨rfl, rfl, rfl⟩

theorem Under.tended (h : Under keys n) (change : Tended n n') : Under keys n' :=
  h.of_rooted change.rooted

/-! ## The duties -/

/-- A program that keeps to the conduct, and leaves its node in the cluster. -/
abbrev Speaks {α : Type} (keys : KeyLayout) (p : ClusterProgram α) (n : Node) : Prop :=
  p.Heeds (voice keys) (fun _ n _ => Under keys n) () n

theorem guarded_speaks (op : String) (call : StoreCall) (n : Node)
    (proper : Proper keys (.store call)) : Speaks keys (guarded op call) n := by
  refine ⟨(), proper, fun a s found => ?_⟩
  cases a with
  | ok reply =>
    have kept := found.tended (.swept .succeeded)
    exact ⟨(), kept, kept⟩
  | error fault =>
    have kept := found.tended (.swept (.failed op fault))
    exact ⟨(), kept, kept⟩

theorem together_speaks (work : List RouteWork) (n : Node) : Speaks keys (together work) n :=
  ⟨(), trivial, fun _ _ found => found⟩

theorem discard_speaks {α : Type} {p : ClusterProgram α} (h : Speaks keys p n) :
    Speaks keys (discard p) n :=
  h.discard fun _ _ _ kept => kept

theorem ensureSubscribed_speaks (h : Under keys n) : Speaks keys ensureSubscribed n := by
  unfold ensureSubscribed
  rw [Speaks, Program.heeds_get_bind]
  split
  · exact h
  · refine (guarded_speaks _ (.subscribe _) _ trivial).bind fun _ s first here => ?_
    cases first with
    | none => exact here
    | some broadcasts =>
      refine (guarded_speaks _ (.subscribe _) _ trivial).bind fun _ s second here => ?_
      cases second with
      | none => exact ⟨(), here.tended (.givenUp broadcasts), here.tended (.givenUp broadcasts)⟩
      | some control =>
        exact ⟨(), here.tended (.listening ..), here.tended (.listening ..)⟩

theorem writeRecord_speaks (h : Under keys n) : Speaks keys writeRecord n := by
  have record : Proper keys (.store (.set (n.membership.keys.nodeKey n.id) n.beacon.encode
      n.membership.ttl)) := by
    rw [h.keys]
    exact .record n.beacon h.wall h.startedAt
  exact (guarded_speaks _ _ _ record).bind fun _ _ _ kept => kept

theorem join_speaks (h : Under keys n) : Speaks keys join n :=
  (ensureSubscribed_speaks h).bind fun _ _ _ here => discard_speaks (writeRecord_speaks here)

theorem heartbeat_speaks (h : Under keys n) : Speaks keys heartbeat n := by
  unfold heartbeat
  rw [Speaks, Program.heeds_get_bind]
  split
  · exact h
  · refine (ensureSubscribed_speaks h).bind fun _ s _ here => ?_
    refine (writeRecord_speaks here).bind fun _ s written here => ?_
    split
    · exact ⟨(), here.tended .refreshing, here.tended .refreshing⟩
    · exact here

theorem inspect_speaks (now : Int) (records : List (String × String)) (seen dead : List NodeId)
    (h : Under keys n) : Speaks keys (inspect now records seen dead) n := by
  induction records generalizing seen dead n with
  | nil => exact h
  | cons record rest ih =>
    obtain ⟨key, text⟩ := record
    unfold inspect
    split
    · exact ⟨(), h.tended (.swept (.warned ..)), ih _ _ (h.tended (.swept (.warned ..)))⟩
    · rename_i b _
      rw [Speaks, Program.heeds_get_bind]
      split
      · exact ih _ _ h
      · split
        · refine (guarded_speaks _ (.delete key) _ trivial).discard_bind fun _ _ _ here => ?_
          exact ih _ _ here
        · have kept := h.of_rooted (rooted_meet b n)
          exact ⟨(), kept, ih _ _ kept⟩

theorem purgeRoutesOf_speaks (dead : List NodeId) (n : Node) : Speaks keys (purgeRoutesOf dead) n := by
  unfold purgeRoutesOf
  rw [Speaks, Program.heeds_get_bind]
  refine (guarded_speaks _ (.scan _) _ trivial).bind fun _ s reply here => ?_
  cases reply with
  | none => exact here
  | some routes => exact discard_speaks (together_speaks _ s)

theorem sweep_speaks (n : Node) : Speaks keys sweep n := by
  unfold sweep
  rw [Speaks, Program.heeds_get_bind]
  refine (guarded_speaks _ (.scan _) _ trivial).bind fun _ s reply here => ?_
  cases reply with
  | none => exact here
  | some records =>
    rw [Program.heeds_view_bind, Program.heeds_modify_bind]
    have pruned := here.tended (.swept (.pruned s.wall))
    refine ⟨(), pruned, (inspect_speaks _ _ _ _ pruned).bind fun _ s found here => ?_⟩
    refine (Program.heeds_update_bind ..).mpr ⟨(), here.tended (.swept (.buried _)), ?_⟩
    split
    · exact (purgeRoutesOf_speaks ..).bind fun _ _ _ here => here
    · exact here.tended (.swept (.buried _))

theorem leave_speaks (h : Under keys n) : Speaks keys leave n := by
  have last : Proper keys (.store (.publish n.membership.keys.controlChannel
      (Announcement.encode (.leave n.id)))) := by
    rw [h.keys]
    exact .leave n.id
  unfold leave
  rw [Speaks, Program.heeds_get_bind]
  split
  · exact h
  · refine (Program.heeds_modify_bind ..).mpr ⟨(), h.tended .leaving, ?_⟩
    refine (guarded_speaks _ (.delete _) _ trivial).discard_bind fun _ _ _ _ => ?_
    refine (guarded_speaks _ _ _ last).discard_bind fun _ s _ _ => ?_
    exact discard_speaks (together_speaks _ s)

theorem writeRoute_speaks (path : String) (session : SessionId) (h : Under keys n) :
    Speaks keys (writeRoute path session) n := by
  have route : Proper keys (.store (.set (n.membership.keys.routeKey path session) n.id.text
      n.membership.ttl)) := by
    rw [h.keys]
    exact .route path session n.id
  exact (guarded_speaks _ _ _ route).bind fun _ _ _ kept => kept

theorem forgetRoute_speaks (path : String) (session : SessionId) (n : Node) :
    Speaks keys (forgetRoute path session) n :=
  (guarded_speaks _ (.delete _) _ trivial).bind fun _ _ _ kept => kept

theorem refreshRoute_speaks (r : SessionRef) (h : Under keys n) : Speaks keys (refreshRoute r) n := by
  unfold refreshRoute
  rw [Speaks, Program.heeds_get_bind]
  dsimp only
  split
  · exact h
  · refine (writeRoute_speaks _ _ h).bind fun _ s written here => ?_
    cases written with
    | false => exact here
    | true =>
      rw [if_neg (by decide), Program.heeds_get_bind]
      split
      · exact here
      · exact (forgetRoute_speaks ..).discard_bind fun _ _ _ here => here

theorem publish_speaks (path payload : String) (source : NodeId) (h : Under keys n) :
    Speaks keys (publish path payload source) n := by
  have envelope : Proper keys (.store (.publish (n.membership.keys.broadcastChannel path)
      (Envelope.encode { path, payload, source, timestamp := n.wall }))) := by
    rw [h.keys]
    exact .envelope { path, payload, source, timestamp := n.wall } h.wall
  unfold publish
  rw [Speaks, Program.heeds_get_bind]
  refine (guarded_speaks _ _ _ envelope).bind fun _ s reply here => ?_
  dsimp only
  split
  · exact ⟨(), here.tended .published, here.tended .published⟩
  · exact here

theorem sendOrLookUp_speaks (path : String) (session : SessionId) (payload : String)
    (h : Under keys n) : Speaks keys (sendOrLookUp path session payload) n := by
  refine (Program.heeds_update_bind ..).mpr ⟨(), h.tended (.sent path session payload), ?_⟩
  split
  · exact h.tended (.sent path session payload)
  · rw [Program.heeds_get_bind]
    exact (guarded_speaks _ (.get _) _ trivial).discard_bind fun _ _ _ here => here

/-- **Every duty writes and says what is proper in the cluster.** -/
theorem attend_speaks (d : Duty) (h : Under keys n) : Speaks keys (attend d) n := by
  cases d with
  | join => exact join_speaks h
  | heartbeat => exact discard_speaks (heartbeat_speaks h)
  | sweep => exact discard_speaks (sweep_speaks n)
  | leave => exact leave_speaks h
  | refresh => exact discard_speaks (together_speaks _ n)
  | enter path session => exact discard_speaks (writeRoute_speaks path session h)
  | route work =>
    refine discard_speaks ?_
    cases work with
    | refresh r => exact refreshRoute_speaks r h
    | forget path session => exact forgetRoute_speaks path session n
    | purge key => exact (guarded_speaks _ (.delete key) _ trivial).bind fun _ _ _ kept => kept
  | publish path payload source => exact discard_speaks (publish_speaks path payload source h)
  | send path session payload => exact discard_speaks (sendOrLookUp_speaks path session payload h)

/-! ## What comes of it -/

theorem proper_of_calls {call : StoreCall} (h : Calls keys call) : Proper keys (.store call) := by
  obtain ⟨d, n, here, may⟩ := h
  obtain ⟨_, _, _, proper⟩ := (attend_speaks d here).of_mayAsk (fun _ _ found => found) may
  exact proper

/-- **What is written in a cluster** are records of nodes and routes of sessions. -/
theorem written_of_writes {key value : String} (h : Writes keys key value) : Written keys key value := by
  obtain ⟨ttl, calls⟩ := h
  exact proper_of_calls calls

/-- **What is published in a cluster** are envelopes and leaves. -/
theorem spoken_of_publishes {m : Message} (h : Publishes keys m) : Spoken keys m := proper_of_calls h

/-- And all of it may be written. -/
theorem Written.writes {key value : String} (h : Written keys key value) : Writes keys key value := by
  cases h with
  | record b beat start =>
    let n : Node := { id := b.node, wall := b.lastBeat,
                      membership := { keys, startedAt := b.startedAt, subscribed := true } }
    exact ⟨0, .join, n, ⟨rfl, beat, start⟩, .inl rfl⟩
  | route path session owner =>
    let n : Node := { id := owner, membership := { keys } }
    have midnight : IsTime 0 := ⟨by decide, by decide⟩
    exact ⟨0, .enter path session, n, ⟨rfl, midnight, midnight⟩, .inl rfl⟩

/-- And all of it may be said. -/
theorem Spoken.publishes {m : Message} (h : Spoken keys m) : Publishes keys m := by
  have midnight : IsTime 0 := ⟨by decide, by decide⟩
  cases h with
  | envelope e time =>
    let n : Node := { id := e.source, wall := e.timestamp, membership := { keys } }
    exact ⟨.publish e.path e.payload e.source, n, ⟨rfl, time, midnight⟩, .inl rfl⟩
  | leave node =>
    let n : Node := { id := node, membership := { keys } }
    have here : Under keys n := ⟨rfl, midnight, midnight⟩
    -- The leave is announced behind the deletion of the record, however that was answered.
    exact ⟨.leave, n, here, .inr ⟨.ok (), n, here, .inl rfl⟩⟩

end SessionHub.Node

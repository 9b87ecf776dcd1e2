import SessionHub.Proofs.Cluster.Duties
import SessionHub.Proofs.KeyLayout

/-!
# Who touches a node's record

A node's liveness record is kept up by joining and by beating, and it is deleted by leaving; nothing
else that a node does concerns it. This module says so as a conduct of the node's duties. Besides, who
keeps the record up begins to do so only while the node is not leaving; whether it still is not when
the record is written, nobody looks.

A sweep is left out: it deletes records, though never the node's own.
-/

namespace SessionHub

/-- Whether a call writes a key or deletes it. -/
def StoreCall.Concerns (key : String) : StoreCall → Prop
  | .set k .. | .delete k => k = key
  | _ => False

/-- Whether a question is a call that writes a key or deletes it. -/
def ClusterAsk.Concerns (key : String) : ClusterAsk → Prop
  | .store call => call.Concerns key
  | .together _ => False

namespace Node

/-- Where a node's record is kept. -/
def recordKey (n : Node) : String := n.membership.keys.nodeKey n.id

/-- A change that leaves alone where the record is kept, its lifetime, and whether the node leaves. -/
structure Steady (n n' : Node) : Prop where
  id : n'.id = n.id
  keys : n'.membership.keys = n.membership.keys
  ttl : n'.membership.ttl = n.membership.ttl
  destroyed : n'.membership.destroyed = n.membership.destroyed

theorem Steady.refl (n : Node) : Steady n n := ⟨rfl, rfl, rfl, rfl⟩

theorem Steady.recordKey {n n' : Node} (h : Steady n n') : n'.recordKey = n.recordKey := by
  rw [Node.recordKey, Node.recordKey, h.id, h.keys]

theorem steady_storeSucceeded (n : Node) : Steady n n.storeSucceeded := by
  unfold storeSucceeded
  split <;> exact ⟨rfl, rfl, rfl, rfl⟩

theorem steady_storeFailed (op : String) (fault : StoreFault) (n : Node) :
    Steady n (n.storeFailed op fault) := by
  unfold storeFailed
  dsimp only
  split <;> exact ⟨rfl, rfl, rfl, rfl⟩

theorem steady_listenTo (broadcasts control : SubRef) (n : Node) :
    Steady n (n.listenTo broadcasts control) := by
  unfold listenTo
  dsimp only
  split <;> exact ⟨rfl, rfl, rfl, rfl⟩

theorem steady_startRefresh (n : Node) : Steady n n.startRefresh := by
  rcases n.startRefresh_cases with same | same <;> rw [same] <;> exact ⟨rfl, rfl, rfl, rfl⟩

theorem steady_meet (r : Beacon) (n : Node) : Steady n (n.meet r) := by
  unfold meet
  dsimp only
  split <;> exact ⟨rfl, rfl, rfl, rfl⟩

theorem steady_bury_all (dead : List NodeId) (n : Node) :
    Steady n (dead.foldl (fun n p => n.bury p) n) := by
  induction dead generalizing n with
  | nil => exact .refl n
  | cons p rest ih =>
    obtain ⟨id, keys, ttl, destroyed⟩ := ih (n.bury p)
    exact ⟨id, keys, ttl, destroyed⟩

theorem destroyed_beginLeave (n : Node) : n.beginLeave.membership.destroyed = true := rfl

theorem beginLeave_same (n : Node) : n.beginLeave.recordKey = n.recordKey ∧
    n.beginLeave.membership.ttl = n.membership.ttl := by
  unfold beginLeave
  dsimp only
  split <;> split <;> exact ⟨rfl, rfl⟩

/-! ## The conduct -/

/-- The part that a program plays for the record. -/
inductive Part where
  /-- It does not concern it. -/
  | aside
  /-- It is about to keep it up. -/
  | fresh
  /-- It keeps it up. -/
  | keeping
  /-- It is about to begin the leave. -/
  | resolved
  | begun
  /-- It has asked for the deletion. -/
  | deleting
  | deleted
  deriving Repr, DecidableEq

/-- Whether a question, if it concerns the record at all, is to write it for its lifetime. -/
def KeepsUp (n : Node) (q : ClusterAsk) : Prop :=
  q.Concerns n.recordKey → ∃ text, q = .store (.set n.recordKey text n.membership.ttl)

/-- What a part allows to ask. -/
inductive Asks (n : Node) : Part → ClusterAsk → Part → Prop
  | aside {q : ClusterAsk} (other : ¬ q.Concerns n.recordKey) : Asks n .aside q .aside
  | first {q : ClusterAsk} (present : n.membership.destroyed = false) (own : n.KeepsUp q) :
    Asks n .fresh q .keeping
  | next {q : ClusterAsk} (own : n.KeepsUp q) : Asks n .keeping q .keeping
  | delete : Asks n .begun (.store (.delete n.recordKey)) .deleting
  | after {q : ClusterAsk} (other : ¬ q.Concerns n.recordKey) : Asks n .deleting q .deleted
  | last {q : ClusterAsk} (other : ¬ q.Concerns n.recordKey) : Asks n .deleted q .deleted

/-- What a part allows to change. -/
def Part.Puts (n n' : Node) : Part → Part → Prop
  | .resolved, g' => n' = n.beginLeave ∧ g' = .begun
  | g, g' => Steady n n' ∧ g' = g

/-- The conduct of a node's duties as to its record. -/
def upkeep : Conduct Node ClusterAsk Part where
  finds _ _ := True
  puts g n n' g' := g.Puts n n' g'
  asks g n q g' := n.Asks g q g'

/-- Part of all that goes on without beginning a leave. -/
theorem Part.puts_steady {n n' : Node} {g : Part} (h : Steady n n') (going : g ≠ .resolved) :
    g.Puts n n' g := by
  cases g with
  | resolved => exact absurd rfl going
  | _ => exact ⟨h, rfl⟩

theorem Asks.ne_resolved {n : Node} {g g' : Part} {q : ClusterAsk} (h : n.Asks g q g') :
    g' ≠ .resolved := by
  cases h <;> nofun

theorem guarded_upkeep {n : Node} {g g' : Part} {op : String} {call : StoreCall}
    (ask : n.Asks g (.store call) g') :
    (guarded op call).Heeds upkeep (fun x _ _ => x = g') g n := by
  refine ⟨g', ask, fun a s _ => ?_⟩
  cases a with
  | ok reply => exact ⟨g', Part.puts_steady (steady_storeSucceeded s) ask.ne_resolved, rfl⟩
  | error fault => exact ⟨g', Part.puts_steady (steady_storeFailed op fault s) ask.ne_resolved, rfl⟩

/-! ## Those who keep the record up -/

/-- Whether a part allows to keep the record up. -/
def MayKeep (g : Part) (n : Node) : Prop :=
  g = .keeping ∨ (g = .fresh ∧ n.membership.destroyed = false)

theorem MayKeep.asks {g : Part} {n : Node} (may : MayKeep g n) {q : ClusterAsk} (own : n.KeepsUp q) :
    n.Asks g q .keeping := by
  rcases may with rfl | ⟨rfl, present⟩
  · exact .next own
  · exact .first present own

theorem ensureSubscribed_upkeep {g : Part} {n : Node} (may : MayKeep g n) :
    ensureSubscribed.Heeds upkeep (fun g n _ => MayKeep g n) g n := by
  unfold ensureSubscribed
  rw [Program.heeds_get_bind]
  split
  · exact may
  · refine Program.Heeds.bind (guarded_upkeep (may.asks False.elim)) fun g s first same => ?_
    subst same
    cases first with
    | none => exact .inl rfl
    | some broadcasts =>
      refine Program.Heeds.bind (guarded_upkeep (.next False.elim)) fun g s second same => ?_
      subst same
      cases second with
      | none => exact ⟨.keeping, ⟨⟨rfl, rfl, rfl, rfl⟩, rfl⟩, .inl rfl⟩
      | some control => exact ⟨.keeping, ⟨steady_listenTo .., rfl⟩, .inl rfl⟩

theorem writeRecord_upkeep {g : Part} {n : Node} (may : MayKeep g n) :
    writeRecord.Heeds upkeep (fun g _ _ => g = .keeping) g n := by
  unfold writeRecord
  rw [Program.heeds_get_bind]
  exact (guarded_upkeep (may.asks fun _ => ⟨_, rfl⟩)).bind fun _ _ _ same => same

theorem join_upkeep {g : Part} {n : Node} (may : MayKeep g n) :
    join.Heeds upkeep (fun _ _ _ => True) g n :=
  (ensureSubscribed_upkeep may).bind fun _ _ _ may =>
    (writeRecord_upkeep may).discard fun _ _ _ _ => trivial

/-- A heartbeat begins nothing if the node is leaving. -/
theorem heartbeat_upkeep (n : Node) : heartbeat.Heeds upkeep (fun _ _ _ => True) .fresh n := by
  unfold heartbeat
  rw [Program.heeds_get_bind]
  split
  · exact trivial
  · rename_i present
    have may : MayKeep .fresh n := .inr ⟨rfl, Bool.eq_false_iff.mpr present⟩
    refine (ensureSubscribed_upkeep may).bind fun g s _ may => ?_
    refine (writeRecord_upkeep may).bind fun g s written same => ?_
    subst same
    split
    · exact ⟨.keeping, ⟨steady_startRefresh s, rfl⟩, trivial⟩
    · exact trivial

/-! ## Those whom the record does not concern -/

theorem routeKey_ne_recordKey (n : Node) (path : String) (session : SessionId) :
    n.membership.keys.routeKey path session ≠ n.recordKey :=
  (n.membership.keys.nodeKey_ne_routeKey n.id path session).symm

theorem writeRoute_upkeep (path : String) (session : SessionId) (n : Node) :
    (writeRoute path session).Heeds upkeep (fun g _ _ => g = .aside) .aside n := by
  unfold writeRoute
  rw [Program.heeds_get_bind]
  have other := n.routeKey_ne_recordKey path session
  exact Program.Heeds.bind (guarded_upkeep (.aside other)) fun _ _ _ same => same

theorem forgetRoute_upkeep (path : String) (session : SessionId) (n : Node) :
    (forgetRoute path session).Heeds upkeep (fun g _ _ => g = .aside) .aside n := by
  unfold forgetRoute
  rw [Program.heeds_get_bind]
  have other := n.routeKey_ne_recordKey path session
  exact Program.Heeds.bind (guarded_upkeep (.aside other)) fun _ _ _ same => same

theorem refreshRoute_upkeep (r : SessionRef) (n : Node) :
    (refreshRoute r).Heeds upkeep (fun g _ _ => g = .aside) .aside n := by
  unfold refreshRoute
  rw [Program.heeds_get_bind]
  dsimp only
  split
  · exact rfl
  · refine (writeRoute_upkeep ..).bind fun g s written same => ?_
    subst same
    cases written with
    | false => exact rfl
    | true =>
      rw [if_neg (by decide), Program.heeds_get_bind]
      split
      · exact rfl
      · exact (forgetRoute_upkeep ..).discard_bind fun _ _ _ same => same

theorem together_upkeep {n : Node} {g : Part} (settled : g = .aside ∨ g = .deleted)
    (work : List RouteWork) : (together work).Heeds upkeep (fun x _ _ => x = g) g n := by
  rcases settled with rfl | rfl
  · exact ⟨.aside, .aside False.elim, fun _ _ _ => rfl⟩
  · exact ⟨.deleted, .last False.elim, fun _ _ _ => rfl⟩

theorem publish_upkeep (path payload : String) (source : NodeId) (n : Node) :
    (publish path payload source).Heeds upkeep (fun _ _ _ => True) .aside n := by
  unfold publish
  rw [Program.heeds_get_bind]
  refine Program.Heeds.bind (guarded_upkeep (.aside False.elim)) fun g s reply same => ?_
  subst same
  dsimp only
  split
  · exact ⟨.aside, ⟨⟨rfl, rfl, rfl, rfl⟩, rfl⟩, trivial⟩
  · exact trivial

theorem sendOrLookUp_upkeep (path : String) (session : SessionId) (payload : String) (n : Node) :
    (sendOrLookUp path session payload).Heeds upkeep (fun _ _ _ => True) .aside n := by
  refine (Program.heeds_update_bind ..).mpr ⟨.aside, ⟨⟨rfl, rfl, rfl, rfl⟩, rfl⟩, ?_⟩
  split
  · exact trivial
  · rw [Program.heeds_get_bind]
    exact Program.Heeds.discard_bind (guarded_upkeep (.aside False.elim)) fun _ _ _ _ => trivial

/-! ## A leave -/

/-- **A leave that begins has the record deleted** before it does anything else. -/
theorem leave_upkeep {n : Node} (present : n.membership.destroyed = false) :
    leave.Heeds upkeep (fun g _ _ => g = .deleted) .resolved n := by
  unfold leave
  rw [Program.heeds_get_bind, if_neg (Bool.eq_false_iff.mp present)]
  refine (Program.heeds_modify_bind ..).mpr ⟨.begun, ⟨rfl, rfl⟩, ?_⟩
  have own : n.beginLeave.recordKey = n.membership.keys.nodeKey n.id := (beginLeave_same n).1
  rw [← own]
  refine (guarded_upkeep .delete).discard_bind fun g s _ same => ?_
  subst same
  refine Program.Heeds.discard_bind (guarded_upkeep (.after False.elim)) fun g s _ same => ?_
  subst same
  unfold forgetRoutes
  rw [Program.heeds_get_bind]
  exact (together_upkeep (.inr rfl) _).discard fun _ _ _ same => same

/-! ## All duties -/

/-- Whether a duty is one that keeps the record up. -/
def Keeper : Duty → Prop
  | .join | .heartbeat => True
  | _ => False

/-- The part that is played for a duty at its beginning. -/
def Part.ofDuty : Duty → Part
  | .join | .heartbeat => .fresh
  | .leave => .resolved
  | _ => .aside

/-- Whether a duty may be seen to here: joining and leaving need a node that is not leaving, and what
belongs to a sweep is left out. -/
def Timely (n : Node) : Duty → Prop
  | .join | .leave => n.membership.destroyed = false
  | .sweep | .route (.purge _) => False
  | _ => True

/-- **Every duty plays its part**, and a leave ends only when the record has been deleted. -/
theorem attend_upkeep {d : Duty} {n : Node} (timely : n.Timely d) :
    (attend d).Heeds upkeep (fun g _ _ => d = .leave → g = .deleted) (.ofDuty d) n := by
  cases d with
  | join => exact (join_upkeep (.inr ⟨rfl, timely⟩)).mono fun _ _ _ _ => nofun
  | heartbeat => exact (heartbeat_upkeep n).discard fun _ _ _ _ => nofun
  | sweep => exact timely.elim
  | leave => exact (leave_upkeep timely).mono fun _ _ _ same _ => same
  | refresh =>
    show (discard (together _)).Heeds upkeep _ _ _
    exact (together_upkeep (.inl rfl) _).discard fun _ _ _ _ => nofun
  | enter path session => exact (writeRoute_upkeep path session n).discard fun _ _ _ _ => nofun
  | route work =>
    cases work with
    | refresh r => exact (refreshRoute_upkeep r n).discard fun _ _ _ _ => nofun
    | forget path session => exact (forgetRoute_upkeep path session n).discard fun _ _ _ _ => nofun
    | purge key => exact timely.elim
  | publish path payload source =>
    exact (publish_upkeep path payload source n).discard fun _ _ _ _ => nofun
  | send path session payload =>
    exact (sendOrLookUp_upkeep path session payload n).discard fun _ _ _ _ => nofun

end Node

end SessionHub

import SessionHub.Node.Listen
import SessionHub.Proofs.Program.Conduct

/-!
# What a sweep and a notice change

A sweep waits at every call to the store, and between two of them a notice may be heard. Of the
tables that they share — the peers and the departed — and of what observers are told, a sweep makes
changes of three kinds only: it forgets departures that lie far back, it **meets** a node whose
record is fresh and which is not departed, and it **buries** the nodes that it holds for dead. What
it changes besides is *apart* from all this.
-/

namespace SessionHub

/-- The node that an event tells of. -/
def ClusterEvent.node? : ClusterEvent → Option NodeId
  | .joined b | .timedOut b | .left b => some b
  | .degraded _ | .recovered => none

namespace Node

/-! ## Changes apart -/

/-- A change that leaves the tables of other nodes as they are, and after which observers have been
told of no node. -/
structure Apart (n n' : Node) : Prop where
  id : n'.id = n.id
  peers : n'.membership.peers = n.membership.peers
  departed : n'.membership.departed = n.membership.departed
  news : ∃ news, n'.membership.events = n.membership.events ++ news ∧ ∀ e ∈ news, e.node? = none

theorem Apart.refl (n : Node) : Apart n n := ⟨rfl, rfl, rfl, [], (List.append_nil _).symm, by simp⟩

/-- A change of nothing but what is no table and tells observers nothing. -/
theorem Apart.of_eq {n n' : Node} (id : n'.id = n.id) (h : n'.membership = n.membership) :
    Apart n n' :=
  ⟨id, by rw [h], by rw [h], [], by rw [h, List.append_nil], by simp⟩

theorem apart_record (change : Journal → Journal) (n : Node) : Apart n (n.record change) :=
  .of_eq rfl rfl

theorem apart_storeSucceeded (n : Node) : Apart n n.storeSucceeded := by
  unfold storeSucceeded
  split
  · exact ⟨rfl, rfl, rfl, [.recovered], rfl, by simp [ClusterEvent.node?]⟩
  · exact .refl n

theorem apart_storeFailed (op : String) (fault : StoreFault) (n : Node) :
    Apart n (n.storeFailed op fault) := by
  unfold storeFailed
  dsimp only
  split
  · exact apart_record _ n
  · exact ⟨rfl, rfl, rfl, [.degraded fault.message], rfl, by simp [ClusterEvent.node?]⟩

/-! ## A sweep -/

/-- A change that a sweep makes. -/
inductive Swept (n : Node) : Node → Prop
  | succeeded : Swept n n.storeSucceeded
  | failed (op : String) (fault : StoreFault) : Swept n (n.storeFailed op fault)
  | warned (message : String) (fields : List (String × String)) :
    Swept n (n.record (·.warn message fields))
  | pruned (now : Int) : Swept n (n.pruneDeparted now)
  | met (b : Beacon) (other : b.node ≠ n.id)
    (present : n.membership.departed.lookup b.node = none) : Swept n (n.meet b)
  | buried (dead : List NodeId) : Swept n (dead.foldl (fun n p => n.bury p) n)

theorem guarded_changesBy_swept (op : String) (call : StoreCall) (n : Node) :
    (guarded op call).ChangesBy Swept n :=
  Program.changesBy_call fun a s => by
    cases a with
    | ok reply => exact ⟨(), .succeeded, trivial⟩
    | error fault => exact ⟨(), .failed op fault, trivial⟩

theorem inspect_changesBy_swept (now : Int) (records : List (String × String))
    (seen dead : List NodeId) (n : Node) : (inspect now records seen dead).ChangesBy Swept n := by
  induction records generalizing seen dead n with
  | nil => exact trivial
  | cons record rest ih =>
    obtain ⟨key, text⟩ := record
    unfold inspect
    split
    · exact Program.changesBy_modify_bind (.warned ..) (ih ..)
    · rename_i b _
      rw [Program.changesBy_get_bind]
      split
      · exact ih ..
      · rename_i concern
        rw [Bool.or_eq_true, not_or, decide_eq_true_eq] at concern
        split
        · exact (guarded_changesBy_swept ..).discard.bind fun _ _ => ih ..
        · refine Program.changesBy_modify_bind (.met b concern.1 ?_) (ih ..)
          exact Option.not_isSome_iff_eq_none.mp concern.2

theorem purgeRoutesOf_changesBy_swept (dead : List NodeId) (n : Node) :
    (purgeRoutesOf dead).ChangesBy Swept n := by
  unfold purgeRoutesOf
  rw [Program.changesBy_get_bind]
  refine (guarded_changesBy_swept ..).bind fun reply s => ?_
  cases reply with
  | none => exact trivial
  | some routes => exact Program.ChangesBy.discard (Program.changesBy_call fun _ _ => trivial)

/-- **Whatever a sweep is answered and whatever happens while it waits**, it makes changes of its
kinds only. -/
theorem sweep_changesBy_swept (n : Node) : sweep.ChangesBy Swept n := by
  unfold sweep
  rw [Program.changesBy_get_bind]
  refine (guarded_changesBy_swept ..).bind fun reply s => ?_
  cases reply with
  | none => exact trivial
  | some records =>
    rw [Program.changesBy_view_bind]
    refine Program.changesBy_modify_bind (.pruned _) ?_
    refine (inspect_changesBy_swept ..).bind fun found s => ?_
    refine Program.changesBy_update_bind (.buried _) ?_
    split
    · exact (purgeRoutesOf_changesBy_swept ..).bind fun _ _ => trivial
    · exact trivial

/-! ## A notice -/

/-- What handling a message of the control channel comes to: a leave, or nothing of concern. -/
theorem hearControl_cases (m : Message) (n : Node) :
    Apart n (n.hearControl m) ∨ ∃ b, b ≠ n.id ∧ n.hearControl m = n.hear (.leave b) := by
  unfold hearControl
  split
  · exact .inl (apart_record _ n)
  · rename_i a _
    obtain ⟨b⟩ := a
    by_cases own : b = n.id
    · exact .inl (by simp only [hear, if_pos own]; exact .refl n)
    · exact .inr ⟨b, own, rfl⟩

/-! ## A store for examples -/

/-- What a store says that holds some records and takes whatever it is told. -/
def obliging (records : List (String × String)) : (q : ClusterAsk) → q.Answer
  | .store (.set ..) | .store (.delete _) | .store (.publish ..) => .ok ()
  | .store (.get _) => .ok none
  | .store (.scan _) => .ok records
  | .store (.subscribe _) => .ok (0 : Nat)
  | .together work => work.length

end Node

end SessionHub

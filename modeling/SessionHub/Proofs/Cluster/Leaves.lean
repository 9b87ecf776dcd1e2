import Mathlib.Data.List.Induction
import SessionHub.Proofs.Cluster.Sweep
import SessionHub.Proofs.Program.History
import SessionHub.Proofs.Program.Pool
import SessionHub.Proofs.Tables

/-!
# Leaving is not dying

Whoever leaves a cluster says so, and observers are told that it left. That it also timed out is
what they should not be told, unless it joined again in between. This module is about one node whose
sweeps run side by side over any store, while notices are heard between any two of their stretches.

The rule is not kept by every run. A sweep that holds a node for dead waits for the deletion of its
record before it buries the node; if the node's notice is heard meanwhile, observers are told of
both. And a departure is forgotten after a time, while the record may still be there. These are the
only two ways: `graceful_iff_buriedInTime` says that a run keeps the rule exactly if whoever it
buries is a peer at that moment, or at least neither departed nor somebody whose departure was
**forgotten**.
-/

namespace SessionHub

namespace Node

/-! ## The tables -/

/-- Whether a node is a peer. -/
def IsPeer (b : NodeId) (n : Node) : Prop := b ∈ n.membership.peers.map (·.1)

/-- Whether a node is departed. -/
def IsDeparted (b : NodeId) (n : Node) : Prop := b ∈ n.membership.departed.map (·.1)

instance (b : NodeId) (n : Node) : Decidable (IsPeer b n) :=
  inferInstanceAs (Decidable (b ∈ n.membership.peers.map (·.1)))

instance (b : NodeId) (n : Node) : Decidable (IsDeparted b n) :=
  inferInstanceAs (Decidable (b ∈ n.membership.departed.map (·.1)))

/-- What observers are told by a change. -/
def news (n n' : Node) : List ClusterEvent :=
  n'.membership.events.drop n.membership.events.length

theorem news_eq {n n' : Node} {told : List ClusterEvent}
    (h : n'.membership.events = n.membership.events ++ told) : n.news n' = told := by
  rw [news, h, List.drop_left]

theorem not_isDeparted_iff {b : NodeId} {n : Node} :
    ¬ IsDeparted b n ↔ n.membership.departed.lookup b = none := by
  rw [IsDeparted, ← isSome_lookup, Option.not_isSome_iff_eq_none]

theorem isPeer_pruneDeparted (now : Int) (b : NodeId) (n : Node) :
    IsPeer b (n.pruneDeparted now) ↔ IsPeer b n := Iff.rfl

theorem IsDeparted.of_pruneDeparted {now : Int} {b : NodeId} {n : Node}
    (h : IsDeparted b (n.pruneDeparted now)) : IsDeparted b n := by
  obtain ⟨d, kept, rfl⟩ := List.mem_map.mp h
  exact List.mem_map.mpr ⟨d, List.mem_of_mem_filter kept, rfl⟩

theorem isPeer_meet (r : Beacon) (b : NodeId) (n : Node) :
    IsPeer b (n.meet r) ↔ b = r.node ∨ IsPeer b n := by
  have peers : (n.meet r).membership.peers
      = (r.node, r) :: n.membership.peers.filter (·.1 != r.node) := by
    unfold meet
    dsimp only
    split <;> rfl
  rw [IsPeer, IsPeer, peers]
  by_cases h : b = r.node
  · simp [h]
  · simp [h, List.mem_filter]

theorem departed_meet (r : Beacon) (n : Node) :
    (n.meet r).membership.departed = n.membership.departed := by
  unfold meet
  dsimp only
  split <;> rfl

theorem events_meet (r : Beacon) (n : Node) :
    (n.meet r).membership.events
      = n.membership.events ++ if IsPeer r.node n then [] else [.joined r.node] := by
  unfold meet
  dsimp only
  split
  · rename_i known
    rw [if_pos (show IsPeer r.node n from (isSome_lookup ..).mp known), List.append_nil]
    rfl
  · rename_i unknown
    rw [if_neg fun h : IsPeer r.node n => unknown ((isSome_lookup ..).mpr h)]
    rfl

/-- What burying some nodes comes to. -/
theorem bury_all (dead : List NodeId) (n : Node) :
    let n' := dead.foldl (fun n p => n.bury p) n
    (∀ b, IsPeer b n' ↔ IsPeer b n ∧ b ∉ dead) ∧
      n'.membership.departed = n.membership.departed ∧
      n'.membership.events = n.membership.events ++ dead.map .timedOut := by
  induction dead generalizing n with
  | nil => simp
  | cons p rest ih =>
    obtain ⟨peers, departed, events⟩ := ih (n.bury p)
    refine ⟨fun b => ?_, departed, ?_⟩
    · rw [List.foldl_cons, peers b, List.mem_cons, not_or, ← and_assoc]
      refine and_congr_left fun _ => ?_
      show b ∈ (n.membership.peers.filter (·.1 != p)).map (·.1) ↔ _
      simp only [IsPeer, List.mem_map, List.mem_filter, bne_iff_ne]
      constructor
      · intro found
        obtain ⟨d, ⟨known, other⟩, rfl⟩ := found
        exact ⟨⟨d, known, rfl⟩, other⟩
      · intro both
        obtain ⟨⟨d, known, rfl⟩, other⟩ := both
        exact ⟨d, ⟨known, other⟩, rfl⟩
    · rw [List.foldl_cons, events, List.map_cons, List.append_cons]
      rfl

theorem isPeer_hear {b peer : NodeId} {n : Node} (other : b ≠ n.id) :
    IsPeer peer (n.hear (.leave b)) ↔ IsPeer peer n ∧ peer ≠ b := by
  have peers : (n.hear (.leave b)).membership.peers
      = n.membership.peers.filter (·.1 != b) := by
    simp only [hear, if_neg other]
    split <;> rfl
  rw [IsPeer, IsPeer, peers]
  simp only [List.mem_map, List.mem_filter, bne_iff_ne]
  constructor
  · intro found
    obtain ⟨d, ⟨known, other⟩, rfl⟩ := found
    exact ⟨⟨d, known, rfl⟩, other⟩
  · intro both
    obtain ⟨⟨d, known, rfl⟩, other⟩ := both
    exact ⟨d, ⟨known, other⟩, rfl⟩

theorem isDeparted_hear {b peer : NodeId} {n : Node} (other : b ≠ n.id) :
    IsDeparted peer (n.hear (.leave b)) ↔ peer = b ∨ IsDeparted peer n := by
  have departed : (n.hear (.leave b)).membership.departed
      = (b, n.wall) :: n.membership.departed.filter (·.1 != b) := by
    simp only [hear, if_neg other]
    split <;> rfl
  rw [IsDeparted, IsDeparted, departed]
  by_cases h : peer = b
  · simp [h]
  · simp [h, List.mem_filter]

theorem events_hear {b : NodeId} {n : Node} (other : b ≠ n.id) :
    (n.hear (.leave b)).membership.events
      = n.membership.events ++ if IsDeparted b n then [] else [.left b] := by
  simp only [hear, if_neg other]
  split
  · rename_i first
    rw [if_neg (not_isDeparted_iff.mpr (Option.isNone_iff_eq_none.mp first))]
    rfl
  · rename_i again
    rw [if_pos]
    · simp [modifyMembership]
    · rw [IsDeparted, ← isSome_lookup]
      simpa using again

/-! ## What observers are told -/

/-- Observers were told that a node left, and not since then that it joined. -/
def HasLeft (b : NodeId) : List ClusterEvent → Prop := Since (· = .left b) (· = .joined b)

/-- **A graceful leave is never also a timeout**: observers are not told that a node timed out while
the last they heard of it was that it left. -/
def Graceful : List ClusterEvent → Prop :=
  Always fun told e => ∀ b, e = .timedOut b → ¬ HasLeft b told

theorem hasLeft_append {b : NodeId} {events told : List ClusterEvent}
    (silent : ∀ e ∈ told, e ≠ .left b ∧ e ≠ .joined b) :
    HasLeft b (events ++ told) ↔ HasLeft b events := by
  induction told using List.reverseRecOn with
  | nil => rw [List.append_nil]
  | append_singleton told e ih =>
    obtain ⟨noLeft, noJoin⟩ := silent e (by simp)
    rw [← List.append_assoc, HasLeft, since_snoc, or_iff_right noLeft, and_iff_left noJoin]
    exact ih fun e he => silent e (by simp [he])

theorem graceful_append {events told : List ClusterEvent}
    (silent : ∀ b, ClusterEvent.timedOut b ∉ told) :
    Graceful (events ++ told) ↔ Graceful events := by
  induction told using List.reverseRecOn with
  | nil => rw [List.append_nil]
  | append_singleton told e ih =>
    rw [← List.append_assoc, Graceful, always_snoc, and_iff_left]
    · exact ih fun b hb => silent b (by simp [hb])
    · rintro b rfl
      exact absurd (by simp) (silent b)

/-- To bury some nodes is graceful if none of them has left. -/
theorem graceful_append_timedOut (events : List ClusterEvent) (dead : List NodeId) :
    Graceful (events ++ dead.map .timedOut) ↔ Graceful events ∧ ∀ b ∈ dead, ¬ HasLeft b events := by
  induction dead using List.reverseRecOn with
  | nil => simp
  | append_singleton dead p ih =>
    have silent : ∀ e ∈ dead.map ClusterEvent.timedOut, e ≠ .left p ∧ e ≠ .joined p := by
      intro e he
      obtain ⟨q, _, rfl⟩ := List.mem_map.mp he
      exact ⟨nofun, nofun⟩
    rw [List.map_append, ← List.append_assoc, Graceful, List.map_singleton, always_snoc]
    constructor
    · intro both
      obtain ⟨former, last⟩ := both
      obtain ⟨graceful, none⟩ := ih.mp former
      refine ⟨graceful, fun b hb => ?_⟩
      cases List.mem_append.mp hb with
      | inl hb => exact none b hb
      | inr hb =>
        obtain rfl := List.mem_singleton.mp hb
        exact fun left => last b rfl ((hasLeft_append silent).mpr left)
    · intro both
      obtain ⟨graceful, none⟩ := both
      refine ⟨ih.mpr ⟨graceful, fun b hb => none b (by simp [hb])⟩, ?_⟩
      intro b same
      obtain rfl := ClusterEvent.timedOut.inj same
      exact fun left => none p (by simp) ((hasLeft_append silent).mp left)

/-! ## Runs -/

/-- A node whose sweeps run side by side. The store may answer them anything and fail at any time,
and a sweep may be dropped where it waits; in between messages of the control channel are handled,
and the node may change in what is no concern of a sweep. -/
def watch : System Node ClusterAsk ClusterAsk.Answer (List NodeId) Unit where
  program _ := sweep
  admits _ _ _ _ := True
  serves _ n _ n' := n' = n
  mayDrop _ := True
  turns n n' := Apart n n' ∨ ∃ m, n' = n.hearControl m

/-- What is observed of a node that sweeps. -/
abbrev WatchNote := Note Node ClusterAsk (List NodeId) Unit

/-- The departure of a node was forgotten, and observers have not been told since then that it
joined. -/
def Forgotten (b : NodeId) : List WatchNote → Prop :=
  Since (fun x => ∃ n n', x = .changed n n' ∧ IsDeparted b n ∧ ¬ IsDeparted b n')
    (fun x => ∃ n n', x = .changed n n' ∧ .joined b ∈ n.news n')

/-- Whoever is buried is a peer at that moment, or at least neither departed nor forgotten. -/
def BuriedInTime : List WatchNote → Prop :=
  Always fun past x => ∀ n n' b, x = .changed n n' → .timedOut b ∈ n.news n' →
    IsPeer b n ∨ (¬ IsDeparted b n ∧ ¬ Forgotten b past)

theorem forgotten_changed {b : NodeId} {h : List WatchNote} {n n' : Node} :
    Forgotten b (h ++ [.changed n n']) ↔
      (IsDeparted b n ∧ ¬ IsDeparted b n') ∨ (Forgotten b h ∧ .joined b ∉ n.news n') := by
  refine since_snoc.trans (or_congr ?_ (and_congr_right fun _ => not_congr ?_)) <;> simp

theorem buriedInTime_changed {h : List WatchNote} {n n' : Node} :
    BuriedInTime (h ++ [.changed n n']) ↔ BuriedInTime h ∧ ∀ b, .timedOut b ∈ n.news n' →
      IsPeer b n ∨ (¬ IsDeparted b n ∧ ¬ Forgotten b h) := by
  rw [BuriedInTime, always_snoc]
  refine and_congr_right fun _ => ⟨fun last b => last n n' b rfl, ?_⟩
  intro last m m' b same
  obtain ⟨rfl, rfl⟩ := Note.changed.inj same
  exact last b

/-! ## What is kept -/

/-- **What is kept** of a node's tables and of what was observed: nobody is a peer and departed at
once; no peer has left, as observers know it; and who has left is departed or forgotten. -/
structure Ledger (n : Node) (h : List WatchNote) : Prop where
  apart : ∀ b, IsDeparted b n → ¬ IsPeer b n
  here : ∀ b, IsPeer b n → ¬ HasLeft b n.membership.events
  gone : ∀ b, HasLeft b n.membership.events ↔ IsDeparted b n ∨ Forgotten b h
  graceful : Graceful n.membership.events ↔ BuriedInTime h

/-- What is no change is of no concern. -/
theorem Ledger.note {n : Node} {h : List WatchNote} (l : Ledger n h) {x : WatchNote}
    (still : ∀ n n', x ≠ .changed n n') : Ledger n (h ++ [x]) where
  apart := l.apart
  here := l.here
  gone b := by
    rw [l.gone b]
    refine or_congr_right (Iff.trans ?_ since_snoc.symm)
    simp [still, Forgotten]
  graceful := by
    rw [l.graceful]
    refine Iff.trans ?_ always_snoc.symm
    simp [still, BuriedInTime]

/-- A change of which observers are told nothing, by which nobody becomes or ceases to be a peer and
nobody becomes departed. -/
theorem Ledger.quiet {n n' : Node} {h : List WatchNote} (l : Ledger n h)
    (peer : ∀ b, IsPeer b n' ↔ IsPeer b n) (departed : ∀ b, IsDeparted b n' → IsDeparted b n)
    {told : List ClusterEvent} (events : n'.membership.events = n.membership.events ++ told)
    (silent : ∀ e ∈ told, e.node? = none) : Ledger n' (h ++ [.changed n n']) := by
  have news : n.news n' = told := news_eq events
  have noWord : ∀ b, ∀ e ∈ told, e ≠ .left b ∧ e ≠ .joined b := by
    intro b e he
    have := silent e he
    constructor <;> rintro rfl <;> cases this
  have noJoin : ∀ b, ClusterEvent.joined b ∉ told := fun b hb => nomatch silent _ hb
  have noTimeout : ∀ b, ClusterEvent.timedOut b ∉ told := fun b hb => nomatch silent _ hb
  constructor
  · intro b gone
    rw [peer]
    exact l.apart b (departed b gone)
  · intro b
    rw [peer, events, hasLeft_append (noWord b)]
    exact l.here b
  · intro b
    rw [events, hasLeft_append (noWord b), l.gone, forgotten_changed, news]
    by_cases kept : IsDeparted b n'
    · simp [kept, departed b kept]
    · simp [kept, noJoin]
  · rw [events, graceful_append noTimeout, l.graceful, buriedInTime_changed, news]
    simp [noTimeout]

theorem Ledger.apart_change {n n' : Node} {h : List WatchNote} (l : Ledger n h) (c : Apart n n') :
    Ledger n' (h ++ [.changed n n']) := by
  obtain ⟨told, events, silent⟩ := c.news
  refine l.quiet (fun b => ?_) (fun b departed => ?_) events silent
  · rw [IsPeer, IsPeer, c.peers]
  · rwa [IsDeparted, c.departed] at departed

theorem Ledger.pruned {n : Node} {h : List WatchNote} (l : Ledger n h) (now : Int) :
    Ledger (n.pruneDeparted now) (h ++ [.changed n (n.pruneDeparted now)]) :=
  l.quiet (fun b => isPeer_pruneDeparted now b n) (fun _ => IsDeparted.of_pruneDeparted)
    (List.append_nil _).symm nofun

theorem Ledger.met {n : Node} {h : List WatchNote} (l : Ledger n h) (r : Beacon)
    (present : ¬ IsDeparted r.node n) : Ledger (n.meet r) (h ++ [.changed n (n.meet r)]) := by
  have departed : ∀ b, IsDeparted b (n.meet r) ↔ IsDeparted b n := fun b => by
    rw [IsDeparted, IsDeparted, departed_meet]
  have events := events_meet r n
  by_cases known : IsPeer r.node n
  · rw [if_pos known] at events
    refine l.quiet (fun b => ?_) (fun b => (departed b).mp) events nofun
    rw [isPeer_meet, or_iff_right_of_imp]
    rintro rfl
    exact known
  · rw [if_neg known] at events
    have news : n.news (n.meet r) = [.joined r.node] := news_eq events
    have left : ∀ b, HasLeft b (n.meet r).membership.events ↔
        HasLeft b n.membership.events ∧ b ≠ r.node := by
      intro b
      rw [events, HasLeft, since_snoc]
      simp [eq_comm]
    constructor
    · intro b gone peer
      rw [departed] at gone
      rcases (isPeer_meet r b n).mp peer with rfl | peer
      · exact present gone
      · exact l.apart b gone peer
    · intro b peer
      rw [left]
      rcases (isPeer_meet r b n).mp peer with rfl | peer
      · exact fun gone => gone.2 rfl
      · exact fun gone => l.here b peer gone.1
    · intro b
      rw [left, l.gone, forgotten_changed, departed, news]
      by_cases same : b = r.node
      · subst same
        simp [present]
      · simp [same]
    · rw [events, graceful_append (by simp), l.graceful, buriedInTime_changed, news]
      simp

/-- **To bury is graceful exactly in time**: who is buried has not left, as observers know it, if it
is a peer, or neither departed nor forgotten. -/
theorem Ledger.buried {n : Node} {h : List WatchNote} (l : Ledger n h) (dead : List NodeId) :
    let n' := dead.foldl (fun n p => n.bury p) n
    Ledger n' (h ++ [.changed n n']) := by
  intro n'
  obtain ⟨peer, departed, events⟩ := bury_all dead n
  have news : n.news n' = dead.map .timedOut := news_eq events
  have noWord : ∀ b, ∀ e ∈ dead.map ClusterEvent.timedOut, e ≠ .left b ∧ e ≠ .joined b := by
    intro b e he
    obtain ⟨q, _, rfl⟩ := List.mem_map.mp he
    exact ⟨nofun, nofun⟩
  have gone : ∀ b, IsDeparted b n' ↔ IsDeparted b n := fun b => by
    rw [IsDeparted, IsDeparted, departed]
  constructor
  · intro b hb
    rw [gone] at hb
    exact fun peers => l.apart b hb ((peer b).mp peers).1
  · intro b hb
    rw [events, hasLeft_append (noWord b)]
    exact l.here b ((peer b).mp hb).1
  · intro b
    rw [events, hasLeft_append (noWord b), l.gone, forgotten_changed, gone, news]
    simp
  · rw [events, graceful_append_timedOut, l.graceful, buriedInTime_changed, news]
    refine and_congr_right fun _ => ?_
    simp only [List.mem_map, ClusterEvent.timedOut.injEq, exists_eq_right]
    refine forall₂_congr fun b _ => ?_
    rw [l.gone, not_or]
    refine (or_iff_right_of_imp fun peers => ?_).symm
    exact not_or.mp ((l.gone b).not.mp (l.here b peers))

theorem Ledger.heard {n : Node} {h : List WatchNote} (l : Ledger n h) {b : NodeId}
    (other : b ≠ n.id) :
    Ledger (n.hear (.leave b)) (h ++ [.changed n (n.hear (.leave b))]) := by
  have events := events_hear other
  have left : ∀ p, HasLeft p (n.hear (.leave b)).membership.events ↔
      HasLeft p n.membership.events ∨ p = b := by
    intro p
    rw [events]
    split
    · rename_i again
      rw [List.append_nil, or_iff_left_of_imp]
      rintro rfl
      exact (l.gone p).mpr (.inl again)
    · rw [HasLeft, since_snoc]
      simp [or_comm, eq_comm]
  have noJoin : ∀ p, .joined p ∉ n.news (n.hear (.leave b)) := by
    intro p
    rw [news_eq events]
    split <;> simp
  have noTimeout : ∀ p, .timedOut p ∉ n.news (n.hear (.leave b)) := by
    intro p
    rw [news_eq events]
    split <;> simp
  constructor
  · intro p gone peer
    rw [isPeer_hear other] at peer
    cases (isDeparted_hear other).mp gone with
    | inl same => exact peer.2 same
    | inr gone => exact l.apart p gone peer.1
  · intro p peer
    rw [isPeer_hear other] at peer
    rw [left]
    exact fun gone => gone.elim (l.here p peer.1) peer.2
  · intro p
    rw [left, l.gone, forgotten_changed, isDeparted_hear other]
    by_cases same : p = b
    · simp [same]
    · simp only [same, or_false, false_or, noJoin, not_false_eq_true, and_true, and_not_self]
  · rw [buriedInTime_changed, events]
    simp only [noTimeout, false_imp_iff, implies_true, and_true]
    rw [graceful_append, l.graceful]
    intro p
    split <;> simp

/-- The discipline of a node's sweeps. -/
def watched : Discipline watch Unit where
  toConduct := .within Swept
  start _ := ()
  ending _ _ _ _ := True
  holds n h _ _ _ := Ledger n h
  heeds {_ n _ _ _} _ _ := sweep_changesBy_swept n
  called l _ := l.note (by simp)
  answered l served := by
    obtain rfl := served
    exact ⟨trivial, l.note (by simp)⟩
  put l swept := by
    cases swept with
    | succeeded => exact l.apart_change (apart_storeSucceeded _)
    | failed op fault => exact l.apart_change (apart_storeFailed op fault _)
    | warned message fields => exact l.apart_change (apart_record _ _)
    | pruned now => exact l.pruned now
    | met r other present => exact l.met r (not_isDeparted_iff.mpr present)
    | buried dead => exact l.buried dead
  asked l _ := l.note (by simp)
  returned l _ := l.note (by simp)
  dropped l _ := l.note (by simp)
  turned {n _ _ _ _} l turned := by
    rcases turned with c | ⟨m, rfl⟩
    · exact l.apart_change c
    · rcases hearControl_cases m n with c | ⟨b, other, heard⟩
      · exact l.apart_change c
      · rw [heard]
        exact l.heard other

/-- **The events of a node are graceful exactly if its sweeps bury in time**, in every run from a
node that knows of no other. -/
theorem graceful_iff_buriedInTime {n : Node} (peers : n.membership.peers = [])
    (departed : n.membership.departed = []) (events : n.membership.events = [])
    {p : Pool Node ClusterAsk ClusterAsk.Answer (List NodeId) Unit} (run : watch.Reaches n p) :
    Graceful p.state.membership.events ↔ BuriedInTime p.notes := by
  have first : Ledger n [] := by
    constructor
    · simp [IsDeparted, departed]
    · simp [IsPeer, peers]
    · simp [events, IsDeparted, departed, HasLeft, Forgotten]
    · simp [events, Graceful, BuriedInTime]
  obtain ⟨_, _, _, _, ledger⟩ := watched.sound first run
  exact ledger.graceful

/-! ## A verdict that is overtaken -/

/-- A node that knows of no other. -/
def lone : Node where
  id := ⟨"a"⟩
  wall := 1000
  clustered := true
  membership := { ttl := 1000 }

/-- The record of another node, and where it is kept. -/
def vestige : String × String :=
  ("b", Beacon.encode { node := ⟨"b"⟩, lastBeat := 1000, startedAt := 0 })

/-- After a first sweep the node has met the other. -/
def acquainted : Pool Node ClusterAsk ClusterAsk.Answer (List NodeId) Unit :=
  Pool.answer (obliging [vestige]) 0 (Pool.call watch () { state := lone })

/-- A second sweep, later, finds the record too old and has it deleted. -/
def doomed : Pool Node ClusterAsk ClusterAsk.Answer (List NodeId) Unit :=
  Pool.answer (obliging [vestige]) 0
    (Pool.call watch () (acquainted.turn { acquainted.state with wall := 3000 }))

/-- The other's notice is heard meanwhile, and then the deletion is done. -/
def overtaken : Pool Node ClusterAsk ClusterAsk.Answer (List NodeId) Unit :=
  Pool.answer (obliging [vestige]) 0 (doomed.turn
    (doomed.state.hearControl ⟨"control", Announcement.encode (.leave ⟨"b"⟩)⟩))

theorem acquainted_reached : watch.Reaches lone acquainted :=
  .answer (.call .init trivial) (fun _ => rfl) 0

theorem doomed_reached : watch.Reaches lone doomed := by
  have later : watch.turns acquainted.state { acquainted.state with wall := 3000 } :=
    .inl (.of_eq rfl rfl)
  exact .answer (.call (acquainted_reached.turn later) trivial) (fun _ => rfl) 0

theorem overtaken_reached : watch.Reaches lone overtaken :=
  .answer (doomed_reached.turn (.inr ⟨_, rfl⟩)) (fun _ => rfl) 0

/-- Observers are told that the other joined, that it left, and that it timed out. -/
theorem not_graceful_overtaken : ¬ Graceful overtaken.state.membership.events := by
  have events : overtaken.state.membership.events
      = [.joined ⟨"b"⟩] ++ [.left ⟨"b"⟩] ++ [.timedOut ⟨"b"⟩] := by decide +kernel
  rw [events, Graceful, always_snoc]
  intro both
  obtain ⟨_, last⟩ := both
  exact last ⟨"b"⟩ rfl (since_snoc.mpr (.inl rfl))

/-- **Not every run is graceful**: a verdict can be overtaken by the notice. -/
theorem exists_not_graceful :
    ∃ p, watch.Reaches lone p ∧ ¬ Graceful p.state.membership.events :=
  ⟨overtaken, overtaken_reached, not_graceful_overtaken⟩

/-- In that run somebody is buried too late. -/
theorem not_buriedInTime_overtaken :
    lone.membership.peers = [] ∧ lone.membership.departed = [] ∧ lone.membership.events = [] ∧
      watch.Reaches lone overtaken ∧ ¬ BuriedInTime overtaken.notes :=
  ⟨rfl, rfl, rfl, overtaken_reached, fun inTime =>
    not_graceful_overtaken ((graceful_iff_buriedInTime rfl rfl rfl overtaken_reached).mpr inTime)⟩

end Node

end SessionHub

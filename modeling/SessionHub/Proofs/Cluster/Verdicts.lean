import Mathlib.Data.List.Count
import Mathlib.Data.List.Nodup
import SessionHub.Proofs.Cluster.Roll
import SessionHub.Proofs.Cluster.Site
import SessionHub.Proofs.Cluster.Upkeep
import SessionHub.Proofs.Entries
import SessionHub.Proofs.Program.Alone

/-!
# How often a node times out

When a sweep finds the record of a node too old it has the record deleted and holds the node for dead,
whether the deletion succeeds or not. So a record whose deletion comes to nothing is found again by the
next sweep, and observers are told of the same death once more.

That is all that can happen: `timedOut_le` says that observers are told of a node's timeout at most
once, and once more for every deletion of its record that came to nothing, as long as the record is not
written again. The store may do what it likes, fail with effect and without, and take its time.

What carries the proof is a balance. A node that is on the table of peers, or has a record in the
store, may time out once more, and every verdict takes the node off both, or a deletion was lost.
-/

namespace SessionHub

/-- Whether a text is the record of a node. -/
def Beacon.isOf (b : NodeId) (text : String) : Bool :=
  match Beacon.decode text with
  | .ok r => r.node = b
  | .error _ => false

theorem Beacon.isOf_of_decode {b : NodeId} {text : String} {r : Beacon}
    (read : Beacon.decode text = .ok r) : Beacon.isOf b text = decide (r.node = b) := by
  rw [Beacon.isOf, read]

namespace Site

/-- How often observers have been told that a node timed out. -/
def timeouts (b : NodeId) (s : Site) : Nat := s.node.membership.events.count (.timedOut b)

/-- How often a deletion of a key came to nothing. -/
def failures (key : String) (s : Site) : Nat := s.lost.count (.delete key)

/-- Whether a scan of the records would find one of a node. -/
def Shows (b : NodeId) (s : Site) : Prop :=
  ∃ e ∈ s.store.entries, e.2.isLive s.now = true ∧
    Store.startsWith e.1 s.node.membership.keys.nodeStart = true ∧ Beacon.isOf b e.2.value = true

/-- What is taken for granted of another node: it is not both a peer and departed, it stands on the
table of peers once at most, and its record is kept under one key. -/
structure Plain (b : NodeId) (key : String) (s : Site) : Prop where
  other : b ≠ s.node.id
  apart : Node.IsDeparted b s.node → ¬ Node.IsPeer b s.node
  single : (s.node.membership.peers.map (·.1)).Nodup
  keyed : s.store.Keyed
  filed : ∀ e ∈ s.store.entries, Beacon.isOf b e.2.value = true → e.1 = key

/-- A step on which no timeout of a node is told and nothing that might lead to one comes up. -/
structure Lessens (b : NodeId) (key : String) (s s' : Site) : Prop where
  plain : Plain b key s → Plain b key s'
  layout : s'.node.membership.keys = s.node.membership.keys
  time : s.now ≤ s'.now
  peer : Node.IsPeer b s'.node → Node.IsPeer b s.node
  records : ∀ e ∈ s'.store.entries, Beacon.isOf b e.2.value = true → e ∈ s.store.entries
  timeouts : s'.timeouts b = s.timeouts b
  failures : s.failures key ≤ s'.failures key

variable {b : NodeId} {key : String} {s s' : Site} {t k : Nat}

theorem Lessens.shows (h : Lessens b key s s') (shows' : s'.Shows b) : s.Shows b := by
  obtain ⟨e, he, live, under, of⟩ := shows'
  exact ⟨e, h.records e he of, Store.isLive_later h.time live, h.layout ▸ under, of⟩

/-- Whether the balance allows some more timeouts of a node. -/
def Allows (b : NodeId) (key : String) (t k : Nat) (s : Site) : Prop :=
  s.timeouts b + k ≤ t + s.failures key + 1

theorem Lessens.allows (h : Lessens b key s s') (allows : Allows b key t k s) :
    Allows b key t k s' := by
  have timeouts := h.timeouts
  have failures := h.failures
  unfold Allows at allows ⊢
  omega

/-- **The balance**: a node that is a peer, or has a record that a scan would find, may time out
once more. -/
structure Balance (b : NodeId) (key : String) (t : Nat) (s : Site) : Prop where
  plain : Plain b key s
  even : Allows b key t 0 s
  due : Node.IsPeer b s.node ∨ s.Shows b → Allows b key t 1 s

theorem Balance.lessen (h : Balance b key t s) (less : Lessens b key s s') : Balance b key t s' where
  plain := less.plain h.plain
  even := less.allows h.even
  due either := less.allows (h.due (either.imp less.peer less.shows))

/-! ## Steps that lessen -/

theorem lessens_of_apart {n : Node} (change : Node.Apart s.node n)
    (layout : n.membership.keys = s.node.membership.keys) : Lessens b key s (s.setNode n) where
  plain h := by
    refine ⟨change.id ▸ h.other, ?_, ?_, h.keyed, h.filed⟩
    · show Node.IsDeparted b n → ¬ Node.IsPeer b n
      rw [Node.IsDeparted, Node.IsPeer, change.departed, change.peers]
      exact h.apart
    · show (n.membership.peers.map (·.1)).Nodup
      rw [change.peers]
      exact h.single
  layout := layout
  time := Nat.le_refl _
  peer := by
    show Node.IsPeer b n → _
    rw [Node.IsPeer, change.peers]
    exact id
  records _ he _ := he
  timeouts := by
    obtain ⟨news, events, silent⟩ := change.news
    have none : news.count (.timedOut b) = 0 :=
      List.count_eq_zero.mpr fun told => absurd (silent _ told) (Option.some_ne_none b)
    show n.membership.events.count _ = _
    rw [events, List.count_append, none]
    rfl
  failures := Nat.le_refl _

/-- A call that writes nothing only takes entries away. -/
theorem lessens_land {call : StoreCall} (reads : ∀ key text ttl, call ≠ .set key text ttl) :
    Lessens b key s (s.land call) := by
  have fewer : ∀ e ∈ (s.store.perform s.now call).2.entries, e ∈ s.store.entries := by
    cases call with
    | set key text ttl => exact absurd rfl (reads key text ttl)
    | get key =>
      intro e he
      dsimp only [Store.perform] at he
      split at he
      · exact he
      · exact List.mem_of_mem_filter he
    | delete key | scan start => exact fun e he => List.mem_of_mem_filter he
    | publish channel payload | subscribe pattern => exact fun e he => he
  exact {
    plain := fun h => ⟨h.other, h.apart, h.single, h.keyed.perform s.now call,
      fun e he of => h.filed e (fewer e he) of⟩
    layout := rfl
    time := Nat.le_refl _
    peer := id
    records := fun e he _ => fewer e he
    timeouts := rfl
    failures := Nat.le_refl _ }

theorem lessens_lose (call : StoreCall) : Lessens b key s (s.lose call) where
  plain h := ⟨h.other, h.apart, h.single, h.keyed, h.filed⟩
  layout := rfl
  time := Nat.le_refl _
  peer := id
  records _ he _ := he
  timeouts := rfl
  failures := by
    show _ ≤ (s.lost ++ [call]).count _
    rw [List.count_append]
    exact Nat.le_add_right ..

theorem lessens_pruned (now : Int) : Lessens b key s (s.setNode (s.node.pruneDeparted now)) where
  plain h := ⟨h.other, fun gone => h.apart gone.of_pruneDeparted, h.single, h.keyed, h.filed⟩
  layout := rfl
  time := Nat.le_refl _
  peer := id
  records _ he _ := he
  timeouts := rfl
  failures := Nat.le_refl _

theorem lessens_heard {p : NodeId} (other : p ≠ s.node.id) :
    Lessens b key s (s.setNode (s.node.hear (.leave p))) := by
  obtain ⟨id, peers⟩ := Node.peers_hear other
  have layout : (s.node.hear (.leave p)).membership.keys = s.node.membership.keys := by
    simp only [Node.hear, if_neg other]
    split <;> rfl
  have peer : Node.IsPeer b (s.node.hear (.leave p)) → Node.IsPeer b s.node := fun peer =>
    ((Node.isPeer_hear other).mp peer).1
  constructor
  · refine fun h => ⟨id ▸ h.other, fun gone still => ?_, h.single.sublist (peers.map _), h.keyed, h.filed⟩
    obtain ⟨before, others⟩ := (Node.isPeer_hear other).mp still
    rcases (Node.isDeparted_hear other).mp gone with same | gone
    · exact others same
    · exact h.apart gone before
  · exact layout
  · exact Nat.le_refl _
  · exact peer
  · exact fun _ he _ => he
  · show (s.node.hear (.leave p)).membership.events.count _ = _
    rw [Node.events_hear other]
    split <;> simp [Site.timeouts]
  · exact Nat.le_refl _

theorem timeouts_meet (r : Beacon) : (s.setNode (s.node.meet r)).timeouts b = s.timeouts b := by
  show (s.node.meet r).membership.events.count _ = _
  rw [Node.events_meet]
  split <;> simp [Site.timeouts]

theorem plain_meet {r : Beacon} (plain : Plain b key s)
    (present : r.node = b → ¬ Node.IsDeparted b s.node) : Plain b key (s.setNode (s.node.meet r)) := by
  refine ⟨?_, fun gone peer => ?_, ?_, plain.keyed, plain.filed⟩
  · show b ≠ (s.node.meet r).id
    rw [Node.id_meet]
    exact plain.other
  · have before : Node.IsDeparted b s.node := by
      rw [Node.IsDeparted, ← Node.departed_meet r]
      exact gone
    rcases (Node.isPeer_meet r b s.node).mp peer with same | peer
    · exact present same.symm before
    · exact plain.apart before peer
  · show ((s.node.meet r).membership.peers.map (·.1)).Nodup
    rw [Node.peers_meet, List.map_cons, List.nodup_cons]
    refine ⟨?_, plain.single.sublist (List.filter_sublist.map _)⟩
    simp

theorem lessens_meet {r : Beacon} (other : r.node ≠ b) :
    Lessens b key s (s.setNode (s.node.meet r)) where
  plain plain := plain_meet plain fun same => absurd same other
  layout := (Node.steady_meet r s.node).keys
  time := Nat.le_refl _
  peer peer := ((Node.isPeer_meet r b s.node).mp peer).resolve_left other.symm
  records _ he _ := he
  timeouts := timeouts_meet r
  failures := Nat.le_refl _

theorem Lessens.trans {s'' : Site} (h : Lessens b key s s') (h' : Lessens b key s' s'') :
    Lessens b key s s'' where
  plain before := h'.plain (h.plain before)
  layout := h'.layout.trans h.layout
  time := Nat.le_trans h.time h'.time
  peer still := h.peer (h'.peer still)
  records e he of := h.records e (h'.records e he of) of
  timeouts := h'.timeouts.trans h.timeouts
  failures := Nat.le_trans h.failures h'.failures

end Site

namespace Node

open Site

/-! ## The system -/

/-- What may happen while a sweep waits and between sweeps: time passes, messages of the control
channel are handled, the node changes in what is no concern of the tables, and the store changes in any
way, save that no record of a node is written. -/
structure Meanwhile (b : NodeId) (s s' : Site) : Prop where
  node : Apart s.node s'.node ∨ ∃ m, s'.node = s.node.hearControl m
  layout : s'.node.membership.keys = s.node.membership.keys
  time : s.now ≤ s'.now
  keyed : s'.store.Keyed
  unwritten : ∀ e ∈ s'.store.entries, Beacon.isOf b e.2.value = true → e ∈ s.store.entries
  lost : s'.lost = s.lost

/-- A node that sweeps, one sweep after another, over a store that may do anything: each call may
succeed, or fail when it has taken effect, or fail and come to nothing; and the store may change in any
way, save that no record of some other node is written. -/
def vigil (b : NodeId) : System Site Passage Passage.Answer (List NodeId) Unit where
  program _ := afar sweep
  admits _ _ _ under := under = []
  serves
    | .out (.store call), s, a, s' =>
      (a = .ok (s.reply call) ∧ s' = s.land call) ∨
        ∃ fault, a = .error fault ∧ (s' = s.land call ∨ s' = s.lose call)
    | .out (.together _), s, _, s' => s' = s
    | .back, s, _, s' => s' = s
  mayDrop _ := True
  turns := Meanwhile b

variable {b : NodeId} {key : String} {t : Nat} {s s' : Site}

theorem Meanwhile.lessens (h : Meanwhile b s s') : Lessens b key s s' := by
  have first : Lessens b key s (s.setNode s'.node) := by
    rcases h.node with change | ⟨m, heard⟩
    · exact lessens_of_apart change h.layout
    · rcases hearControl_cases m s.node with change | ⟨p, other, same⟩
      · exact lessens_of_apart (heard ▸ change) h.layout
      · rw [heard, same]
        exact lessens_heard other
  exact first.trans {
    plain := fun before => ⟨before.other, before.apart, before.single, h.keyed,
      fun e he of => before.filed e (h.unwritten e he of) of⟩
    layout := rfl
    time := h.time
    peer := fun peer => peer
    records := h.unwritten
    timeouts := rfl
    failures := by
      show s.lost.count _ ≤ s'.lost.count _
      exact Nat.le_of_eq (by rw [h.lost]) }

/-- Whether an assertion is kept by all that lessens. -/
def Held (b : NodeId) (key : String) (J : Site → Prop) : Prop :=
  ∀ s s', J s → Lessens b key s s' → J s'

theorem Held.keeps {J : Site → Prop} (held : Held b key J) : (vigil b).Keeps J :=
  fun s s' here turned => held s s' here (Meanwhile.lessens turned)

theorem balance_held : Held b key (Balance b key t) := fun _ _ balance less => balance.lessen less

theorem lessens_storeSucceeded : Lessens b key s (s.setNode s.node.storeSucceeded) :=
  lessens_of_apart (apart_storeSucceeded _) (steady_storeSucceeded _).keys

theorem lessens_storeFailed (op : String) (fault : StoreFault) :
    Lessens b key s (s.setNode (s.node.storeFailed op fault)) :=
  lessens_of_apart (apart_storeFailed ..) (steady_storeFailed ..).keys

/-! ## Programs of a site -/

/-- **A guarded call**, from what holds until it lands to what holds until it is answered. -/
theorem guarded_assures {op : String} {call : StoreCall} {J : Site → Prop}
    {K : call.Answer → Site → Prop} {ending : Option call.Reply → Site → Prop} (here : J s)
    (heldJ : Held b key J) (balanceJ : ∀ s, J s → Balance b key t s)
    (lands : ∀ s a s', J s → (vigil b).serves (.out (.store call)) s a s' → K a s')
    (heldK : ∀ a, Held b key (K a)) (balanceK : ∀ a s, K a s → Balance b key t s)
    (next : ∀ a s, K a s → ending a.toOption s) :
    (afar (guarded op call)).Assures (vigil b) (Balance b key t) ending s := by
  refine ⟨J, here, heldJ.keeps, balanceJ, fun s a s' waits served => ?_⟩
  refine ⟨K a, lands s a s' waits served, (heldK a).keeps, balanceK a, fun s₁ _ s₂ landed back => ?_⟩
  obtain rfl : s₂ = s₁ := back
  cases a with
  | ok reply => exact next _ _ (heldK _ _ _ landed lessens_storeSucceeded)
  | error fault => exact next _ _ (heldK _ _ _ landed (lessens_storeFailed ..))

/-- A call that writes nothing, and of which nothing is expected. -/
theorem guarded_assures_of_held {op : String} {call : StoreCall} {J : Site → Prop} (here : J s)
    (held : Held b key J) (balance : ∀ s, J s → Balance b key t s)
    (reads : ∀ key text ttl, call ≠ .set key text ttl) :
    (afar (guarded op call)).Assures (vigil b) (Balance b key t) (fun _ => J) s := by
  refine guarded_assures (K := fun _ => J) here held balance (fun s a s' waits served => ?_)
    (fun _ => held) (fun _ => balance) (fun _ _ landed => landed)
  rcases served with ⟨_, rfl⟩ | ⟨_, _, rfl | rfl⟩
  · exact held _ _ waits (lessens_land reads)
  · exact held _ _ waits (lessens_land reads)
  · exact held _ _ waits (lessens_lose call)

/-- One program of the node after another. -/
theorem assures_afar_bind {α β : Type} {p : ClusterProgram α} {f : α → ClusterProgram β}
    {X : System Site Passage Passage.Answer (List NodeId) Unit} {I : Site → Prop}
    {mid : α → Site → Prop} {ending : β → Site → Prop} (h : (afar p).Assures X I mid s)
    (next : ∀ a s, mid a s → (afar (f a)).Assures X I ending s) :
    (afar (p >>= f)).Assures X I ending s := by
  rw [afar_bind, Program.assures_bind]
  exact h.mono next

section

variable {β : Type} {X : System Site Passage Passage.Answer (List NodeId) Unit} {I : Site → Prop}
  {ending : β → Site → Prop}

theorem assures_afar_get_bind {f : Node → ClusterProgram β} :
    (afar (Program.get >>= f)).Assures X I ending s ↔ (afar (f s.node)).Assures X I ending s :=
  Iff.rfl

theorem assures_afar_view_bind {α : Type} {view : Node → α} {f : α → ClusterProgram β} :
    (afar (Program.view view >>= f)).Assures X I ending s ↔
      (afar (f (view s.node))).Assures X I ending s := Iff.rfl

theorem assures_afar_modify_bind {change : Node → Node} {f : Unit → ClusterProgram β} :
    (afar (Program.modify change >>= f)).Assures X I ending s ↔
      (afar (f ())).Assures X I ending (s.setNode (change s.node)) := Iff.rfl

theorem assures_afar_update_bind {α : Type} {change : Node → α × Node} {f : α → ClusterProgram β} :
    (afar (Program.update change >>= f)).Assures X I ending s ↔
      (afar (f (change s.node).1)).Assures X I ending (s.setNode (change s.node).2) := Iff.rfl

end

/-- A program of the node whose result is not asked for. -/
theorem assures_afar_discard {α : Type} {p : ClusterProgram α}
    {X : System Site Passage Passage.Answer (List NodeId) Unit} {I ending : Site → Prop}
    (h : (afar p).Assures X I (fun _ => ending) s) :
    (afar (discard p)).Assures X I (fun _ => ending) s :=
  assures_afar_bind h fun _ _ ends => ends

/-! ## Where a sweep stands -/

/-- Where a sweep stands with a node, as it goes through the records that its scan found. -/
inductive Stage where
  /-- The node's record is still to come. -/
  | ahead
  /-- The node is on the list of the dead. -/
  | dead
  | seen
  /-- The node's record was not found, or was passed over. -/
  | missing
  deriving Repr, DecidableEq

/-- Where a sweep stands, by what it has still to go through and by its lists. -/
def Stage.Fits (b : NodeId) (rest : List (String × String)) (seen dead : List NodeId) : Stage → Prop
  | .ahead => rest.countP (Beacon.isOf b ·.2) = 1 ∧ dead.count b = 0
  | .dead => rest.countP (Beacon.isOf b ·.2) = 0 ∧ dead.count b = 1
  | .seen => rest.countP (Beacon.isOf b ·.2) = 0 ∧ dead.count b = 0 ∧ b ∈ seen
  | .missing => rest.countP (Beacon.isOf b ·.2) = 0 ∧ dead.count b = 0

/-- What holds where a sweep stands. -/
def Stage.Means (b : NodeId) (key : String) (t : Nat) (s : Site) : Stage → Prop
  | .ahead => Allows b key t 1 s
  | .dead => Allows b key t 1 s ∧ (s.Shows b → Allows b key t 2 s)
  | .seen => True
  | .missing => IsPeer b s.node → ¬ s.Shows b

theorem Stage.Means.lessen {stage : Stage} (means : stage.Means b key t s)
    (less : Lessens b key s s') : stage.Means b key t s' := by
  cases stage with
  | ahead => exact less.allows means
  | dead => exact ⟨less.allows means.1, fun shows' => less.allows (means.2 (less.shows shows'))⟩
  | seen => trivial
  | missing => exact fun peer shows' => means (less.peer peer) (less.shows shows')

section Fits

variable {rest : List (String × String)} {seen dead : List NodeId} {k text : String} {p : NodeId}
  {stage : Stage}

theorem Stage.Fits.pass (fits : stage.Fits b ((k, text) :: rest) seen dead)
    (other : Beacon.isOf b text = false) : stage.Fits b rest seen dead := by
  cases stage <;> simpa [Stage.Fits, List.countP_cons, other] using fits

theorem Stage.Fits.own (fits : stage.Fits b ((k, text) :: rest) seen dead)
    (own : Beacon.isOf b text = true) :
    stage = .ahead ∧ rest.countP (Beacon.isOf b ·.2) = 0 ∧ dead.count b = 0 := by
  cases stage with
  | ahead => simpa [Stage.Fits, List.countP_cons, own] using fits
  | _ => simp [Stage.Fits, own] at fits

theorem Stage.Fits.bury (fits : stage.Fits b rest seen dead) (other : p ≠ b) :
    stage.Fits b rest seen (dead ++ [p]) := by
  cases stage <;> simpa [Stage.Fits, List.count_append, List.count_singleton, other] using fits

theorem Stage.Fits.meet (fits : stage.Fits b rest seen dead) : stage.Fits b rest (seen ++ [p]) dead := by
  cases stage with
  | seen => exact ⟨fits.1, fits.2.1, List.mem_append_left _ fits.2.2⟩
  | _ => exact fits

end Fits

/-- What holds as a sweep goes through the records: the balance, and what its stage means. -/
def Stands (b : NodeId) (key : String) (t : Nat) (rest : List (String × String))
    (seen dead : List NodeId) (s : Site) : Prop :=
  Balance b key t s ∧ ∃ stage : Stage, stage.Fits b rest seen dead ∧ stage.Means b key t s

theorem stands_held {rest : List (String × String)} {seen dead : List NodeId} :
    Held b key (Stands b key t rest seen dead) := by
  intro s s' stands less
  obtain ⟨balance, stage, fits, means⟩ := stands
  exact ⟨balance.lessen less, stage, fits, means.lessen less⟩

/-- A step by which a record is passed that is not the node's. -/
theorem Stands.pass {rest : List (String × String)} {seen dead : List NodeId} {k text : String}
    (stands : Stands b key t ((k, text) :: rest) seen dead s) (other : Beacon.isOf b text = false) :
    Stands b key t rest seen dead s := by
  obtain ⟨balance, stage, fits, means⟩ := stands
  exact ⟨balance, stage, fits.pass other, means⟩

/-- **A deletion of the node's record** takes the record away, or is lost. -/
theorem Stands.doomed {rest : List (String × String)} {seen dead : List NodeId} {text : String}
    (stands : Stands b key t ((key, text) :: rest) seen dead s) (own : Beacon.isOf b text = true)
    {op : String} : (afar (guarded op (.delete key))).Assures (vigil b) (Balance b key t)
      (fun _ => Stands b key t rest seen (dead ++ [b])) s := by
  obtain ⟨balance, stage, fits, means⟩ := stands
  obtain ⟨rfl, rest0, dead0⟩ := fits.own own
  have fits' : Stage.dead.Fits b rest seen (dead ++ [b]) :=
    ⟨rest0, by rw [List.count_append, dead0, List.count_singleton_self]⟩
  refine guarded_assures (J := fun s => Balance b key t s ∧ Allows b key t 1 s)
    (K := fun _ => Stands b key t rest seen (dead ++ [b])) ⟨balance, means⟩
    (fun s s' both less => ⟨both.1.lessen less, less.allows both.2⟩) (fun s both => both.1)
    (fun s a s' both served => ?_) (fun _ => stands_held) (fun _ s stands => stands.1)
    (fun _ _ stands => stands)
  have gone : Stands b key t rest seen (dead ++ [b]) (s.land (.delete key)) := by
    have less : Lessens b key s (s.land (.delete key)) := lessens_land nofun
    refine ⟨both.1.lessen less, .dead, fits', less.allows both.2, fun shows => ?_⟩
    obtain ⟨e, he, _, _, of⟩ := shows
    obtain ⟨before, otherKey⟩ := List.mem_filter.mp he
    exact absurd (both.1.plain.filed e before of) (by simpa using otherKey)
  have lost : Stands b key t rest seen (dead ++ [b]) (s.lose (.delete key)) := by
    have less : Lessens b key s (s.lose (.delete key)) := lessens_lose _
    refine ⟨both.1.lessen less, .dead, fits', less.allows both.2, fun _ => ?_⟩
    have allows := both.2
    have more : (s.lose (.delete key)).failures key = s.failures key + 1 := by
      show (s.lost ++ [_]).count _ = _
      rw [List.count_append, List.count_singleton_self]
      rfl
    show s.timeouts b + 2 ≤ t + (s.lose (.delete key)).failures key + 1
    unfold Allows at allows
    omega
  rcases served with ⟨_, rfl⟩ | ⟨_, _, rfl | rfl⟩
  · exact gone
  · exact gone
  · exact lost

/-- A record that is too old is deleted, whosever it is. -/
theorem Stands.expired {rest : List (String × String)} {seen dead : List NodeId} {k text : String}
    {r : Beacon} (stands : Stands b key t ((k, text) :: rest) seen dead s)
    (read : Beacon.decode text = .ok r) (filed : Beacon.isOf b text = true → k = key) {op : String} :
    (afar (guarded op (.delete k))).Assures (vigil b) (Balance b key t)
      (fun _ => Stands b key t rest seen (dead ++ [r.node])) s := by
  cases own : Beacon.isOf b text with
  | true =>
    obtain rfl : r.node = b := by simpa [Beacon.isOf_of_decode read] using own
    obtain rfl : k = key := filed own
    exact stands.doomed own
  | false =>
    have other : r.node ≠ b := by
      rintro rfl
      simp [Beacon.isOf_of_decode read] at own
    have passed : Stands b key t rest seen (dead ++ [r.node]) s := by
      obtain ⟨balance, stage, fits, means⟩ := stands.pass own
      exact ⟨balance, stage, fits.bury other, means⟩
    exact guarded_assures_of_held passed stands_held (fun _ stands => stands.1) (by simp)

/-- A fresh record of the node makes it a peer, and it had a record before that. -/
theorem Stands.greeted {rest : List (String × String)} {seen dead : List NodeId} {k text : String}
    {r : Beacon} (stands : Stands b key t ((k, text) :: rest) seen dead s)
    (read : Beacon.decode text = .ok r) (present : ¬ IsDeparted r.node s.node) :
    Stands b key t rest (seen ++ [r.node]) dead (s.setNode (s.node.meet r)) := by
  cases own : Beacon.isOf b text with
  | true =>
    obtain ⟨balance, stage, fits, means⟩ := stands
    obtain ⟨rfl, rest0, dead0⟩ := fits.own own
    obtain rfl : r.node = b := by simpa [Beacon.isOf_of_decode read] using own
    have allows : ∀ k, Allows r.node key t k s →
        Allows r.node key t k (s.setNode (s.node.meet r)) := by
      intro k before
      unfold Allows
      rw [timeouts_meet]
      exact before
    have plain := plain_meet (r := r) balance.plain fun _ => present
    exact ⟨⟨plain, allows 0 balance.even, fun _ => allows 1 means⟩, .seen,
      ⟨rest0, dead0, by simp⟩, trivial⟩
  | false =>
    have other : r.node ≠ b := by
      rintro rfl
      simp [Beacon.isOf_of_decode read] at own
    obtain ⟨balance, stage, fits, means⟩ := stands_held _ _ (stands.pass own) (lessens_meet other)
    exact ⟨balance, stage, fits.meet, means⟩

/-- A record that is passed over is not of a peer. -/
theorem Stands.skipped {rest : List (String × String)} {seen dead : List NodeId} {k text : String}
    {r : Beacon} (stands : Stands b key t ((k, text) :: rest) seen dead s)
    (read : Beacon.decode text = .ok r) (why : r.node = s.node.id ∨ IsDeparted r.node s.node) :
    Stands b key t rest seen dead s := by
  cases own : Beacon.isOf b text with
  | false => exact stands.pass own
  | true =>
    obtain ⟨balance, stage, fits, means⟩ := stands
    obtain ⟨rfl, rest0, dead0⟩ := fits.own own
    obtain rfl : r.node = b := by simpa [Beacon.isOf_of_decode read] using own
    have gone : IsDeparted r.node s.node := why.resolve_left balance.plain.other
    exact ⟨balance, .missing, ⟨rest0, dead0⟩, fun peer => absurd peer (balance.plain.apart gone)⟩

theorem inspect_assures (now : Int) (rest : List (String × String)) (seen dead : List NodeId)
    (filed : ∀ r ∈ rest, Beacon.isOf b r.2 = true → r.1 = key)
    (stands : Stands b key t rest seen dead s) :
    (afar (inspect now rest seen dead)).Assures (vigil b) (Balance b key t)
      (fun found => Stands b key t [] found.1 found.2) s := by
  induction rest generalizing seen dead s with
  | nil => exact stands
  | cons record rest ih =>
    obtain ⟨k, text⟩ := record
    have filed' : ∀ r ∈ rest, Beacon.isOf b r.2 = true → r.1 = key := fun r hr =>
      filed r (List.mem_cons_of_mem _ hr)
    unfold inspect
    split
    · rename_i fault unreadable
      have other : Beacon.isOf b text = false := by rw [Beacon.isOf, unreadable]
      exact ih seen dead filed' (stands_held _ _ (stands.pass other)
        (lessens_of_apart (apart_record _ _) rfl))
    · rename_i r read
      show (afar (if _ then _ else _)).Assures _ _ _ _
      split
      · rename_i skip
        have why : r.node = s.node.id ∨ IsDeparted r.node s.node := by
          rw [IsDeparted, ← isSome_lookup]
          simpa using skip
        exact ih seen dead filed' (stands.skipped read why)
      · rename_i concern
        rw [Bool.or_eq_true, not_or, decide_eq_true_eq] at concern
        split
        · have own := filed (k, text) List.mem_cons_self
          exact assures_afar_bind (assures_afar_discard (stands.expired read own)) fun _ _ stands =>
            ih _ _ filed' stands
        · have present : ¬ IsDeparted r.node s.node := by
            rw [IsDeparted, ← isSome_lookup]
            exact concern.2
          exact ih _ _ filed' (stands.greeted read present)

/-! ## The verdicts -/

theorem count_vanished {seen dead : List NodeId} (plain : Plain b key s) :
    (s.node.vanished seen dead).count b
      = if IsPeer b s.node ∧ b ∉ seen ∧ b ∉ dead then 1 else 0 := by
  have distinct : (s.node.vanished seen dead).Nodup := plain.single.filter _
  have listed : b ∈ s.node.vanished seen dead ↔ IsPeer b s.node ∧ b ∉ seen ∧ b ∉ dead := by
    simp [vanished, IsPeer]
  rw [distinct.count, if_congr listed rfl rfl]

theorem timeouts_bury_all (dead : List NodeId) :
    (s.setNode (dead.foldl (fun n p => n.bury p) s.node)).timeouts b
      = s.timeouts b + dead.count b := by
  obtain ⟨_, _, events⟩ := bury_all dead s.node
  show (dead.foldl (fun n p => n.bury p) s.node).membership.events.count _ = _
  rw [events, List.count_append]
  congr 1
  exact List.count_map_of_injective _ _ (fun _ _ same => ClusterEvent.timedOut.inj same) b

theorem shows_bury_all {dead : List NodeId}
    (shows : (s.setNode (dead.foldl (fun n p => n.bury p) s.node)).Shows b) : s.Shows b := by
  obtain ⟨e, he, live, under, of⟩ := shows
  exact ⟨e, he, live, (steady_bury_all dead s.node).keys ▸ under, of⟩

theorem plain_bury_all (plain : Plain b key s) (dead : List NodeId) :
    Plain b key (s.setNode (dead.foldl (fun n p => n.bury p) s.node)) := by
  obtain ⟨peer, departed, _⟩ := bury_all dead s.node
  refine ⟨?_, fun gone still => ?_, ?_, plain.keyed, plain.filed⟩
  · show b ≠ (dead.foldl (fun n p => n.bury p) s.node).id
    rw [id_bury_all]
    exact plain.other
  · rw [IsDeparted, Site.setNode, departed] at gone
    exact plain.apart gone ((peer b).mp still).1
  · exact plain.single.sublist ((peers_bury_all dead s.node).map _)

/-- **The verdicts keep the balance**: a node that is held for dead is no peer afterwards, and then its
record is gone as well, or a deletion was lost. -/
theorem Stands.buried {seen expired : List NodeId} (stands : Stands b key t [] seen expired s) :
    Balance b key t (s.setNode ((expired ++ s.node.vanished seen expired).foldl
      (fun n p => n.bury p) s.node)) := by
  obtain ⟨balance, stage, fits, means⟩ := stands
  have counted : (expired ++ s.node.vanished seen expired).count b
      = expired.count b + if IsPeer b s.node ∧ b ∉ seen ∧ b ∉ expired then 1 else 0 := by
    rw [List.count_append, count_vanished balance.plain]
  generalize expired ++ s.node.vanished seen expired = dead at counted
  have still : IsPeer b (s.setNode (dead.foldl (fun n p => n.bury p) s.node)).node →
      IsPeer b s.node ∧ dead.count b = 0 := fun peer =>
    (((bury_all dead s.node).1 b).mp peer).imp_right List.count_eq_zero.mpr
  have allows : ∀ k, Allows b key t (dead.count b + k) s →
      Allows b key t k (s.setNode (dead.foldl (fun n p => n.bury p) s.node)) := by
    intro k before
    unfold Allows at before ⊢
    rw [timeouts_bury_all]
    show s.timeouts b + dead.count b + k ≤ t + s.failures key + 1
    omega
  -- who is passed over by the verdicts is left as it was
  have spared : dead.count b = 0 →
      Balance b key t (s.setNode (dead.foldl (fun n p => n.bury p) s.node)) := by
    intro none
    rw [none] at allows
    exact ⟨plain_bury_all balance.plain dead, allows 0 (by simpa using balance.even), fun either =>
      allows 1 (by simpa using balance.due (either.imp (fun p => (still p).1) shows_bury_all))⟩
  cases stage with
  | ahead => exact absurd fits.1 (by simp)
  | dead =>
    have inside : b ∈ expired := List.count_pos_iff.mp (by rw [fits.2]; exact Nat.one_pos)
    have once : dead.count b = 1 := by rw [counted, fits.2, if_neg fun why => why.2.2 inside]
    rw [once] at allows still
    refine ⟨plain_bury_all balance.plain dead, allows 0 means.1, fun either => allows 1 (means.2 ?_)⟩
    exact shows_bury_all (either.resolve_left fun peer => absurd (still peer).2 Nat.one_ne_zero)
  | seen => exact spared (by rw [counted, fits.2.1, if_neg fun why => why.2.1 fits.2.2])
  | missing =>
    rw [fits.2, Nat.zero_add] at counted
    by_cases why : IsPeer b s.node ∧ b ∉ seen ∧ b ∉ expired
    · rw [if_pos why] at counted
      rw [counted] at allows still
      refine ⟨plain_bury_all balance.plain dead, allows 0 (balance.due (.inl why.1)), fun either => ?_⟩
      rcases either with peer | shows
      · exact absurd (still peer).2 Nat.one_ne_zero
      · exact absurd (shows_bury_all shows) (means why.1)
    · exact spared (by rw [counted, if_neg why])

theorem purgeRoutesOf_assures (dead : List NodeId) (balance : Balance b key t s) :
    (afar (purgeRoutesOf dead)).Assures (vigil b) (Balance b key t) (fun _ => Balance b key t) s := by
  unfold purgeRoutesOf
  rw [assures_afar_get_bind]
  refine assures_afar_bind (guarded_assures_of_held balance balance_held (fun _ balance => balance)
    (by simp)) fun routes s balance => ?_
  cases routes with
  | none => exact balance
  | some routes =>
    refine assures_afar_discard ?_
    refine ⟨_, balance, balance_held.keeps, fun _ balance => balance, fun s _ s' balance served => ?_⟩
    obtain rfl : s' = s := served
    refine ⟨_, balance, balance_held.keeps, fun _ balance => balance, fun s _ s' balance served => ?_⟩
    obtain rfl : s' = s := served
    exact balance

/-- What a sweep knows when its scan has been answered. -/
def Found (b : NodeId) (key : String) (t : Nat) : Option (List (String × String)) → Site → Prop
  | none, s => Balance b key t s
  | some records, s => (∀ r ∈ records, Beacon.isOf b r.2 = true → r.1 = key) ∧
      Stands b key t records [] [] s

/-- **A scan finds the record of a node once, or the store shows none.** -/
theorem found_scan (balance : Balance b key t s) :
    Found b key t (some (s.store.pairs s.now s.node.membership.keys.nodeStart))
      (s.land (.scan s.node.membership.keys.nodeStart)) := by
  have less : Lessens b key s (s.land (.scan s.node.membership.keys.nodeStart)) := lessens_land nofun
  have filed : ∀ r ∈ s.store.pairs s.now s.node.membership.keys.nodeStart,
      Beacon.isOf b r.2 = true → r.1 = key := by
    intro r hr of
    obtain ⟨e, he, _, _, rfl⟩ := Store.mem_pairs.mp hr
    exact balance.plain.filed e he of
  refine ⟨filed, balance.lessen less, ?_⟩
  cases count : (s.store.pairs s.now s.node.membership.keys.nodeStart).countP (Beacon.isOf b ·.2) with
  | zero =>
    refine ⟨.missing, ⟨count, rfl⟩, fun _ shows => ?_⟩
    obtain ⟨e, he, live, under, of⟩ := less.shows shows
    have listed := Store.mem_pairs.mpr ⟨e, he, live, under, rfl⟩
    exact List.countP_eq_zero.mp count _ listed of
  | succ more =>
    obtain ⟨r, hr, of⟩ := List.countP_pos_iff.mp (by rw [count]; exact Nat.succ_pos more)
    obtain ⟨e, he, live, under, rfl⟩ := Store.mem_pairs.mp hr
    have most : (s.store.pairs s.now s.node.membership.keys.nodeStart).countP (Beacon.isOf b ·.2)
        ≤ ((s.store.pairs s.now s.node.membership.keys.nodeStart).map (·.1)).count key := by
      rw [List.count, List.countP_map]
      exact List.countP_mono_left fun r hr of => by simpa using filed r hr of
    have once := List.nodup_iff_count_le_one.mp
      (Store.pairs_nodup balance.plain.keyed s.now s.node.membership.keys.nodeStart) key
    refine ⟨.ahead, ⟨by omega, rfl⟩, less.allows (balance.due (.inr ?_))⟩
    exact ⟨e, he, live, under, of⟩

theorem found_held {reply : Option (List (String × String))} : Held b key (Found b key t reply) := by
  cases reply with
  | none => exact balance_held
  | some records => exact fun s s' found less => ⟨found.1, stands_held _ _ found.2 less⟩

theorem Found.balance {reply : Option (List (String × String))} (found : Found b key t reply s) :
    Balance b key t s := by
  cases reply with
  | none => exact found
  | some records => exact found.2.1

theorem scan_assures {op : String} (balance : Balance b key t s) :
    (afar (guarded op (.scan s.node.membership.keys.nodeStart))).Assures (vigil b) (Balance b key t)
      (Found b key t) s := by
  generalize layout : s.node.membership.keys = keys
  refine guarded_assures (J := fun s => Balance b key t s ∧ s.node.membership.keys = keys)
    (K := fun (a : (StoreCall.scan keys.nodeStart).Answer) => Found b key t (Except.toOption a))
    ⟨balance, layout⟩
    (fun s s' both less => ⟨both.1.lessen less, less.layout.trans both.2⟩) (fun _ both => both.1)
    (fun s a s' both served => ?_) (fun _ => found_held) (fun _ _ found => found.balance)
    (fun _ _ found => found)
  obtain ⟨balance, rfl⟩ := both
  rcases served with ⟨rfl, rfl⟩ | ⟨_, rfl, rfl | rfl⟩
  · exact found_scan balance
  · exact balance.lessen (lessens_land nofun)
  · exact balance.lessen (lessens_lose _)

/-- **A sweep keeps the balance.** -/
theorem sweep_assures (balance : Balance b key t s) :
    (afar sweep).Assures (vigil b) (Balance b key t) (fun _ => Balance b key t) s := by
  unfold sweep
  rw [assures_afar_get_bind]
  refine assures_afar_bind (scan_assures balance) fun reply s found => ?_
  cases reply with
  | none => exact found
  | some records =>
    obtain ⟨filed, stands⟩ := found
    have pruned := stands_held _ _ stands (lessens_pruned s.node.wall)
    rw [assures_afar_view_bind, assures_afar_modify_bind]
    refine assures_afar_bind (inspect_assures s.node.wall records [] [] filed pruned)
      fun lists s stands => ?_
    rw [assures_afar_update_bind]
    have buried := stands.buried
    split
    · exact assures_afar_bind (purgeRoutesOf_assures _ buried) fun _ _ balance => balance
    · exact buried

/-! ## Every run -/

/-- **A node times out at most once, and once more for every deletion of its record that came to
nothing**, in every run of sweeps one after another in which its record is not written again. -/
theorem timedOut_le {s : Site} (plain : Plain b key s) (nothing : s.lost = [])
    {p : Pool Site Passage Passage.Answer (List NodeId) Unit} (run : (vigil b).Reaches s p) :
    p.state.timeouts b ≤ s.timeouts b + 1 + p.state.failures key := by
  have none : s.failures key = 0 := by rw [Site.failures, nothing, List.count_nil]
  have first : Balance b key (s.timeouts b) s := by
    refine ⟨plain, ?_, fun _ => ?_⟩ <;> simp [Allows, none]
  have balance : Balance b key (s.timeouts b) p.state :=
    System.holds_alone (fun admitted => admitted) balance_held.keeps
      (fun balance _ => sweep_assures balance) first run
  have even := balance.even
  unfold Allows at even
  omega

/-! ## A deletion that is lost -/

theorem vigil_obliged (q : Passage) (s : Site) :
    (vigil b).serves q s (Site.oblige q s).1 (Site.oblige q s).2 := by
  match q with
  | .out (.store _) => exact .inl ⟨rfl, rfl⟩
  | .out (.together _) | .back => rfl

/-- A store whose calls take too long, and come to nothing. -/
def stall : (q : Passage) → Site → q.Answer × Site
  | .out (.store call), s => (.error (.timedOut (.ofMillis 2000)), s.lose call)
  | .out (.together work), s => (work.length, s)
  | .back, s => ((), s)

theorem vigil_stalled (q : Passage) (s : Site) :
    (vigil b).serves q s (stall q s).1 (stall q s).2 := by
  match q with
  | .out (.store _) => exact .inr ⟨_, rfl, .inr rfl⟩
  | .out (.together _) | .back => rfl

/-- A node that knows of no other, and a store with the record of one that has fallen silent. -/
def graveyard : Site where
  node := { lone with wall := 3000 }
  store.entries := [(lone.membership.keys.nodeKey ⟨"b"⟩,
    { value := Beacon.encode { node := ⟨"b"⟩, lastBeat := 1000, startedAt := 0 }, expiresAt := 60000 })]

/-- A sweep whose deletion is lost, and another one. -/
def haunted : Pool Site Passage Passage.Answer (List NodeId) Unit :=
  let first := ((Pool.call (vigil ⟨"b"⟩) () { state := graveyard }).answersBy Site.oblige [0, 0])
  let second := (first.answersBy stall [0]).answersBy Site.oblige [0, 0, 0, 0, 0]
  (Pool.call (vigil ⟨"b"⟩) () second).answersBy Site.oblige [0, 0, 0, 0, 0, 0, 0, 0]

theorem haunted_reached : (vigil ⟨"b"⟩).Reaches graveyard haunted := by
  have first : (vigil ⟨"b"⟩).Reaches graveyard _ :=
    (((System.Reaches.init.call (c := ()) rfl).answersBy vigil_obliged [0, 0]).answersBy vigil_stalled
      [0]).answersBy vigil_obliged [0, 0, 0, 0, 0]
  exact (first.call (c := ()) (List.map_eq_nil_iff.mpr
    (List.length_eq_zero_iff.mp (by decide +kernel)))).answersBy vigil_obliged _

theorem haunted_timeouts : haunted.state.timeouts ⟨"b"⟩ = 2 := by decide +kernel

theorem plain_graveyard : Plain ⟨"b"⟩ (lone.membership.keys.nodeKey ⟨"b"⟩) graveyard where
  other := by decide
  apart := by decide
  single := by decide
  keyed := List.nodup_singleton _
  filed := by simp [graveyard]

/-- **Not every death is told once**: no joining was told, and two timeouts. -/
theorem exists_told_twice : ∃ p, (vigil ⟨"b"⟩).Reaches graveyard p ∧
    p.state.node.membership.events.count (.joined ⟨"b"⟩) = 0 ∧ p.state.timeouts ⟨"b"⟩ = 2 :=
  ⟨haunted, haunted_reached, by decide +kernel, haunted_timeouts⟩

/-- In that run one deletion was lost. -/
theorem haunted_timedOut_le :
    Plain ⟨"b"⟩ (lone.membership.keys.nodeKey ⟨"b"⟩) graveyard ∧ graveyard.lost = [] ∧
      (vigil ⟨"b"⟩).Reaches graveyard haunted ∧
      haunted.state.timeouts ⟨"b"⟩ ≤ graveyard.timeouts ⟨"b"⟩ + 1
        + haunted.state.failures (lone.membership.keys.nodeKey ⟨"b"⟩) ∧
      haunted.state.failures (lone.membership.keys.nodeKey ⟨"b"⟩) = 1 :=
  ⟨plain_graveyard, rfl, haunted_reached, timedOut_le plain_graveyard rfl haunted_reached,
    by decide +kernel⟩

end Node

end SessionHub

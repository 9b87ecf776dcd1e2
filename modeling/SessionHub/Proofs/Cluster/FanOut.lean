import Mathlib.Data.List.Forall2
import Mathlib.Data.List.Perm.Basic
import SessionHub.Proofs.Cluster.Net

/-!
# Every broadcast, once, to everybody

`fanOut` says of every run of nodes that share a store: once nothing waits any more, every broadcast was
published once, and every node has heard what was published, each message once and in the same order.
At the node it came from a broadcast was handed to the sessions of its path when it was called and never
again; at every other node, when it was heard.

What carries it is an equation that every step keeps: what a node has heard, and then what is still due
to it, is what was due to it from the start, and then everything that was published.
-/

namespace SessionHub.Fleet

variable {ι : Type} [DecidableEq ι] {F : Fleet ι} {start c : Net ι}

/-! ## What is kept -/

/-- How a broadcast fares at a node that hears it: nothing happens at the node that it came from, and
at any other it is handed to the sessions of its path. -/
def Fares (j : ι) (b : Cast ι) (d : Deed Message) : Prop :=
  if b.origin = j then d.before.Still d.after
  else Floor.Handed b.payload (d.before.onPath b.path) d.before d.after

/-- **What is kept** by a run: what each node has heard and what it still will hear is what it would
have heard from the start, and then everything that was published. -/
structure Kept (F : Fleet ι) (start c : Net ι) : Prop where
  members : ∀ i, F.Member i (c.nodes i)
  follows : ∀ j, c.store.Follows F.keys.broadcastPattern (F.sub j)
  available : c.store.available = true
  waiting : ∀ f ∈ c.waiting, F.Publishes f
  casts : (c.published.map (·.what) ++ c.waiting.map (·.call)).Perm (c.casts.map (·.what))
  handed : ∀ d ∈ c.casts,
    Floor.Handed d.what.payload (d.before.onPath d.what.path) d.before d.after
  still : ∀ d ∈ c.published, d.before.Still d.after
  flow : ∃ ms, List.Forall₂ F.Carries (c.published.map (·.what)) ms ∧
    ∀ j, (c.heard j).map (·.what) ++ c.due (F.sub j) = start.due (F.sub j) ++ ms
  heard : ∀ j, ∀ d ∈ c.heard j, ∀ b, F.Carries b d.what → Fares j b d

theorem members_set (members : ∀ i, F.Member i (c.nodes i)) {i : ι} {n : Node}
    (member : F.Member i n) (i' : ι) : F.Member i' ((c.set i n).nodes i') := by
  by_cases same : i' = i
  · subst same
    simpa [Net.set] using member
  · simpa [Net.set, same] using members i'

/-- **How a broadcast fares** when its message is heard. -/
theorem Member.fares {j : ι} {n : Node} (h : F.Member j n) {b : Cast ι} {m : Message}
    (carries : F.Carries b m) : Fares j b ⟨m, n.floor, (n.hearBroadcast m).floor⟩ := by
  obtain ⟨timestamp, time, rfl⟩ := carries
  let e : Envelope :=
    { path := b.path, payload := b.payload, source := F.name b.origin, timestamp }
  have heard := Node.hearBroadcast_encode h.keys (e := e) time
  unfold Fares
  dsimp only
  rw [show n.hearBroadcast _ = _ from heard]
  by_cases own : b.origin = j
  · rw [if_pos own]
    exact Node.still_receiveEnvelope (e := e) ((congrArg F.name own).trans h.id.symm)
  · rw [if_neg own]
    exact Node.handed_receiveEnvelope (e := e) h.listed fun same =>
      own (F.name_inj (same.trans h.id))

theorem Established.kept (h : F.Established start) : F.Kept start start where
  members := h.members
  follows := h.follows
  available := h.available
  waiting f here := by
    rw [h.waiting] at here
    nomatch here
  casts := by
    rw [h.waiting, h.casts, h.published]
    exact .nil
  handed d here := by
    rw [h.casts] at here
    nomatch here
  still d here := by
    rw [h.published] at here
    nomatch here
  flow := by
    refine ⟨[], ?_, fun j => ?_⟩
    · rw [h.published]
      exact .nil
    · rw [h.heard, List.append_nil]
      rfl
  heard j d here := by
    rw [h.heard] at here
    nomatch here

theorem Kept.cast (h : F.Kept start c) (b : Cast ι) : F.Kept start (c.cast b) := by
  have member := h.members b.origin
  obtain ⟨stays, aside, handed⟩ := Node.handed_broadcastHere member.listed b.path b.payload
  obtain ⟨state, resume, strands, quiet⟩ := Node.go_broadcast b b.path b.payload member.inCluster
  rw [← state] at stays aside handed
  constructor
  · exact members_set h.members (member.of_stays stays (member.listed.aside aside))
  · exact h.follows
  · exact h.available
  · intro f here
    cases List.mem_append.mp here with
    | inl here => exact h.waiting f here
    | inr here =>
      rw [strands, List.mem_singleton] at here
      subst here
      exact ⟨⟨_, member.carries, rfl⟩, quiet⟩
  · simp only [Net.cast, strands, List.map_append, List.map_singleton]
    rw [← List.append_assoc]
    exact h.casts.append_right _
  · intro d here
    cases List.mem_append.mp here with
    | inl here => exact h.handed d here
    | inr here =>
      obtain rfl := List.mem_singleton.mp here
      exact handed
  · exact h.still
  · exact h.flow
  · exact h.heard

theorem Kept.answer (h : F.Kept start c) (now k : Nat) : F.Kept start (c.answer now k) := by
  unfold Net.answer
  split
  · exact h
  rename_i f found
  obtain ⟨small, here⟩ := List.getElem?_eq_some_iff.mp found
  obtain ⟨⟨m, carries, asked⟩, quiet⟩ := h.waiting f (here ▸ List.getElem_mem small)
  have published := Store.answer_publish now asked h.available
  generalize c.store.answer now f.question = served at published ⊢
  obtain ⟨a, s⟩ := served
  subst published
  obtain ⟨quiet, strands⟩ := Pool.go_alone (p := { state := c.nodes f.call.origin }) (c := f.call)
    Node.Quiet.refl Node.Quiet.trans (quiet a _)
  constructor
  · exact members_set h.members
      ((h.members _).of_stays quiet.1 ((h.members _).listed.of_still quiet.2))
  · intro j
    exact (h.follows j).grown (Nat.le_refl _) rfl (by simp [Store.publish])
  · exact h.available
  · intro g there
    simp only [strands, List.append_nil] at there
    exact h.waiting g (List.mem_of_mem_eraseIdx there)
  · refine .trans ?_ h.casts
    simp only [strands, List.map_append, List.append_nil, List.map_singleton]
    rw [List.append_assoc, List.singleton_append, ← List.map_cons]
    refine (List.Perm.map _ ?_).append_left _
    exact here ▸ List.getElem_cons_eraseIdx_perm small
  · exact h.handed
  · intro d here
    cases List.mem_append.mp here with
    | inl here => exact h.still d here
    | inr here =>
      obtain rfl := List.mem_singleton.mp here
      exact quiet.2
  · obtain ⟨ms, sent, flow⟩ := h.flow
    refine ⟨ms ++ [m], ?_, fun j => ?_⟩
    · rw [List.map_append]
      exact List.rel_append sent (.cons carries .nil)
    · have due : (c.store.publish m).due (c.store.subscription (F.sub j))
          = c.due (F.sub j) ++ [m] :=
        Store.due_publish (h.follows j).behind ((h.follows j).pattern ▸ carries.fits)
      rw [← List.append_assoc, ← flow j, List.append_assoc, ← due]
      rfl
  · exact h.heard

theorem Kept.forward (h : F.Kept start c) {j : ι}
    (caught : (c.store.forwardStep (c.store.subscription (F.sub j))).1 = 0) :
    F.Kept start (c.forward (F.sub j)) := by
  obtain ⟨due, pattern, behind⟩ := Store.forwardStep_spec (h.follows j).behind caught
  have same : ∀ j', (c.forward (F.sub j)).due (F.sub j') = c.due (F.sub j') := by
    intro j'
    by_cases own : j = j'
    · subst own
      unfold Net.due Net.forward
      dsimp only
      rw [Store.subscription_modifySubscription, if_pos ⟨rfl, (h.follows j).there⟩]
      exact due
    · exact Store.due_modifySubscription (mt (F.sub_inj ·) own) ..
  constructor
  · exact h.members
  · exact fun j' => (h.follows j').modifySubscription (F.sub j) pattern fun _ => behind
  · exact h.available
  · exact h.waiting
  · exact h.casts
  · exact h.handed
  · exact h.still
  · obtain ⟨ms, sent, flow⟩ := h.flow
    exact ⟨ms, sent, fun j' => by rw [same]; exact flow j'⟩
  · exact h.heard

theorem Kept.hear (h : F.Kept start c) (j : ι) : F.Kept start (c.hear j (F.sub j)) := by
  unfold Net.hear
  split
  · exact h
  rename_i m s next
  have member := h.members j
  obtain ⟨stays, aside⟩ := Node.hearBroadcast_stays m (c.nodes j)
  obtain ⟨due, rest, taken⟩ := Store.receive_spec (h.follows j).there next
  dsimp only
  constructor
  · exact members_set h.members (member.of_stays stays (member.listed.aside aside))
  · intro j'
    dsimp only
    rw [taken]
    exact (h.follows j').modifySubscription (F.sub j) rfl fun behind => behind
  · dsimp only
    rw [taken]
    exact h.available
  · exact h.waiting
  · exact h.casts
  · exact h.handed
  · exact h.still
  · obtain ⟨ms, sent, flow⟩ := h.flow
    refine ⟨ms, sent, fun j' => ?_⟩
    rw [← flow j']
    dsimp only
    by_cases own : j' = j
    · subst own
      have next : c.due (F.sub j') = m :: s.due (s.subscription (F.sub j')) := due
      rw [next, Function.update_self, List.map_append, List.append_assoc]
      rfl
    · have same : s.due (s.subscription (F.sub j')) = c.due (F.sub j') := by
        subst taken
        exact Store.due_modifySubscription (mt (F.sub_inj ·) (Ne.symm own)) ..
      rw [Function.update_of_ne own, ← same]
      rfl
  · intro j' d here b carries
    dsimp only at here
    by_cases own : j' = j
    · subst own
      rw [Function.update_self] at here
      cases List.mem_append.mp here with
      | inl here => exact h.heard j' d here b carries
      | inr here =>
        obtain rfl := List.mem_singleton.mp here
        exact member.fares carries
    · rw [Function.update_of_ne own] at here
      exact h.heard j' d here b carries

theorem Kept.turn (h : F.Kept start c) {i : ι} {n : Node} (member : F.Member i n) :
    F.Kept start (c.set i n) :=
  { h with members := members_set h.members member, flow := h.flow }

theorem Kept.elsewhere (h : F.Kept start c) {s : Store} (beside : F.Beside c.store s) :
    F.Kept start { c with store := s } := by
  obtain ⟨more, bus, other⟩ := beside.bus
  constructor
  · exact h.members
  · intro j
    exact (h.follows j).grown beside.size (beside.subscriptions j) (by
      rw [← Array.length_toList, ← Array.length_toList, bus, List.length_append]
      exact Nat.le_add_right _ _)
  · exact beside.available.trans h.available
  · exact h.waiting
  · exact h.casts
  · exact h.handed
  · exact h.still
  · obtain ⟨ms, sent, flow⟩ := h.flow
    refine ⟨ms, sent, fun j => ?_⟩
    have unheard : more.filter (Message.fits F.keys.broadcastPattern) = [] :=
      List.filter_eq_nil_iff.mpr fun m here => by simp [other m here]
    have due : s.due (s.subscription (F.sub j)) = c.due (F.sub j) := by
      rw [beside.subscriptions, Store.due_grown bus (h.follows j).behind, (h.follows j).pattern,
        unheard, List.append_nil]
      rfl
    rw [← flow j, ← due]
    rfl
  · exact h.heard

/-- One step keeps it, whatever it is. -/
theorem Kept.step {c' : Net ι} (h : F.Kept start c) (next : F.Step c c') : F.Kept start c' := by
  cases next with
  | cast b => exact h.cast b
  | answer now k => exact h.answer now k
  | forward _ caught => exact h.forward caught
  | hear j => exact h.hear j
  | turn member => exact h.turn member
  | elsewhere beside => exact h.elsewhere beside

theorem Reaches.kept (first : F.Established start) (run : F.Reaches start c) : F.Kept start c := by
  induction run with
  | init => exact first.kept
  | step _ next ih => exact ih.step next

/-- **Every broadcast, once, to everybody.** When nothing waits any more, what was published is what was
called, each once. At the node of its origin a broadcast was handed to the sessions of its path when
it was called, and nothing happened there when it was answered. And behind what waited for it from the
start, every node has heard one message for each broadcast, in the order in which they were published,
and each fared as it should. -/
theorem fanOut (first : F.Established start) (run : F.Reaches start c) (settled : F.Settled c) :
    (c.published.map (·.what)).Perm (c.casts.map (·.what)) ∧
      (∀ d ∈ c.casts,
        Floor.Handed d.what.payload (d.before.onPath d.what.path) d.before d.after) ∧
      (∀ d ∈ c.published, d.before.Still d.after) ∧
      ∀ j, List.Forall₂ (Fares j) (c.published.map (·.what))
        ((c.heard j).drop (start.due (F.sub j)).length) := by
  have h := run.kept first
  obtain ⟨ms, sent, flow⟩ := h.flow
  refine ⟨?_, h.handed, h.still, fun j => ?_⟩
  · have casts := h.casts
    rw [settled.answered, List.map_nil, List.append_nil] at casts
    exact casts
  · let deeds := (c.heard j).drop (start.due (F.sub j)).length
    have all : (c.heard j).map (·.what) = start.due (F.sub j) ++ ms := by
      rw [← flow j, settled.heard, List.append_nil]
    have heard : deeds.map (·.what) = ms := by
      rw [List.map_drop, all, List.drop_left]
    have carried : List.Forall₂ (fun d b => F.Carries b d.what) deeds (c.published.map (·.what)) := by
      rw [← heard] at sent
      exact (List.forall₂_map_right_iff.mp sent).flip
    have fares : ∀ d ∈ deeds, ∀ b, F.Carries b d.what → Fares j b d :=
      fun d here => h.heard j d (List.mem_of_mem_drop here)
    exact (((List.forall₂_and_left _ _).mpr ⟨fares, carried⟩).imp fun d b both => both.1 b both.2).flip

/-! ## Two nodes -/

/-- Two nodes, and a subscription of each. -/
def pair : Fleet Bool where
  keys := ⟨"hub"⟩
  name i := if i then ⟨"b"⟩ else ⟨"a"⟩
  sub i := if i then 1 else 0
  name_inj i j := by cases i <;> cases j <;> decide
  sub_inj i j := by cases i <;> cases j <;> decide

/-- Each has three sessions: one that has room, one on another path, and one that has none. -/
def apart : Net Bool where
  nodes i :=
    { id := pair.name i
      floor :=
        { sessions := #[.opening ⟨"x"⟩ "/chat" (pair.name i) {} (.ofCapacity 4) 0,
            .opening ⟨"y"⟩ "/news" (pair.name i) {} (.ofCapacity 4) 0,
            .opening ⟨"z"⟩ "/chat" (pair.name i) {} { capacity := 1, queue := ["old"] } 0]
          roster := [(⟨"x"⟩, 0), (⟨"y"⟩, 1), (⟨"z"⟩, 2)] }
      clustered := true
      membership := { keys := pair.keys } }
  store :=
    { subscriptions := #[{ pattern := pair.keys.broadcastPattern, position := 0 },
        { pattern := pair.keys.broadcastPattern, position := 0 }] }

/-- Both broadcast, and the second one's message is published first. -/
def crossed : Net Bool :=
  (((apart.cast ⟨false, "/chat", "hello"⟩).cast ⟨true, "/chat", "bye"⟩).answer 0 1).answer 0 0

/-- Both messages are forwarded to one node, and it hears them. -/
def crossedFor (j : Bool) (c : Net Bool) : Net Bool :=
  (((c.forward (pair.sub j)).forward (pair.sub j)).hear j (pair.sub j)).hear j (pair.sub j)

/-- Both have heard everything. -/
def told : Net Bool := crossedFor true (crossedFor false crossed)

theorem apart_established : pair.Established apart where
  members i := by
    cases i with
    | false => exact ⟨rfl, rfl, rfl, ⟨by decide, by decide⟩, by decide, by decide⟩
    | true => exact ⟨rfl, rfl, rfl, ⟨by decide, by decide⟩, by decide, by decide⟩
  follows j := by
    cases j with
    | false => exact ⟨by decide, rfl, by decide⟩
    | true => exact ⟨by decide, rfl, by decide⟩
  available := rfl
  waiting := rfl
  casts := rfl
  published := rfl
  heard _ := rfl

theorem crossed_reached : pair.Reaches apart crossed :=
  .step (.step (.step (.step .init (.cast _)) (.cast _)) (.answer 0 1)) (.answer 0 0)

theorem Reaches.crossedFor {c : Net Bool} (run : pair.Reaches apart c) (j : Bool)
    (can : c.store.canForward (c.store.subscription (pair.sub j)) = true ∧
      (c.store.forwardStep (c.store.subscription (pair.sub j))).1 = 0)
    (can' : let s := (c.forward (pair.sub j)).store
      s.canForward (s.subscription (pair.sub j)) = true ∧
        (s.forwardStep (s.subscription (pair.sub j))).1 = 0) :
    pair.Reaches apart (crossedFor j c) := by
  have forwarded := (run.step (.forward can.1 can.2)).step (.forward can'.1 can'.2)
  exact (forwarded.step (.hear j)).step (.hear j)

theorem told_reached : pair.Reaches apart told :=
  (crossed_reached.crossedFor false (by decide +kernel) (by decide +kernel)).crossedFor true
    (by decide +kernel) (by decide +kernel)

theorem told_settled : pair.Settled told where
  answered := rfl
  heard j := by
    cases j with
    | false => exact (by decide +kernel : told.due 0 = [])
    | true => exact (by decide +kernel : told.due 1 = [])

/-- The sessions of the path that had room have both payloads once, the own node's first; the others
have none, and those without room are gone. -/
theorem told_fansOut :
    pair.Established apart ∧ pair.Reaches apart told ∧ pair.Settled told ∧
      (told.published.map (·.what)).Perm (told.casts.map (·.what)) ∧
      (∀ d ∈ told.casts,
        Floor.Handed d.what.payload (d.before.onPath d.what.path) d.before d.after) ∧
      (∀ d ∈ told.published, d.before.Still d.after) ∧
      (∀ j, List.Forall₂ (Fares j) (told.published.map (·.what))
        ((told.heard j).drop (apart.due (pair.sub j)).length)) ∧
      ((told.nodes false).session 0).outbox.queue = ["hello", "bye"] ∧
      ((told.nodes true).session 0).outbox.queue = ["bye", "hello"] ∧
      ∀ i, ((told.nodes i).session 1).outbox.queue = [] ∧
        ((told.nodes i).session 2).outbox.queue = ["old"] ∧
        (told.nodes i).floor.registered = [0, 1] := by
  obtain ⟨published, here, still, there⟩ := fanOut apart_established told_reached told_settled
  exact ⟨apart_established, told_reached, told_settled, published, here, still, there,
    by decide +kernel, by decide +kernel, by decide +kernel⟩

end SessionHub.Fleet

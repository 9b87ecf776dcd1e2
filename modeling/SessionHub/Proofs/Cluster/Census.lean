import SessionHub.Proofs.Cluster.Roll
import SessionHub.Proofs.Cluster.Upkeep
import SessionHub.Proofs.Entries
import SessionHub.Proofs.Program.Run

/-!
# Duties over a store that answers at once

Over a store all of whose calls succeed without delay a duty comes to its end in one go. This module
says what it has come to then: a node that joins or beats has written its record, and a sweep has taken
a **census**. The census are the records that the scan found and that concern the sweep, which are the
readable records of other nodes that are not departed; the *fresh* among them make peers, the *stale*
are deleted, and the dead are the nodes of the stale ones and the peers of whom there is no record.
-/

namespace SessionHub.Node

/-- A store that does at once what it is asked, at some time. -/
def attending (t : Nat) : (q : ClusterAsk) → Store → q.Answer × Store
  | .store call, s => (.ok (s.perform t call).1, (s.perform t call).2)
  | .together work, s => (work.length, s)

variable {n n' n'' : Node} {s : Store} {t : Nat}

theorem guarded_run (op : String) (call : StoreCall) (n : Node) (s : Store) :
    (guarded op call).run (attending t) n s
      = (some (s.perform t call).1, n.storeSucceeded, (s.perform t call).2) := rfl

theorem scan_run (op start : String) (n : Node) (s : Store) :
    (guarded op (.scan start)).run (attending t) n s
      = ((some (s.pairs t start) : Option (List (String × String))), n.storeSucceeded,
        s.pruneAll t) := rfl

/-! ## What stays -/

/-- A change that is no concern of liveness: the node's name, its clock, its settings and its tables of
other nodes stay. -/
structure Unmoved (n n' : Node) : Prop extends Steady n n' where
  wall : n'.wall = n.wall
  startedAt : n'.membership.startedAt = n.membership.startedAt
  peers : n'.membership.peers = n.membership.peers
  departed : n'.membership.departed = n.membership.departed

theorem Unmoved.trans (h : Unmoved n n') (h' : Unmoved n' n'') : Unmoved n n'' where
  id := h'.id.trans h.id
  keys := h'.keys.trans h.keys
  ttl := h'.ttl.trans h.ttl
  destroyed := h'.destroyed.trans h.destroyed
  wall := h'.wall.trans h.wall
  startedAt := h'.startedAt.trans h.startedAt
  peers := h'.peers.trans h.peers
  departed := h'.departed.trans h.departed

theorem Unmoved.refl (n : Node) : Unmoved n n := ⟨.refl n, rfl, rfl, rfl, rfl⟩

theorem unmoved_record (change : Journal → Journal) (n : Node) : Unmoved n (n.record change) :=
  ⟨⟨rfl, rfl, rfl, rfl⟩, rfl, rfl, rfl, rfl⟩

theorem unmoved_storeSucceeded (n : Node) : Unmoved n n.storeSucceeded := by
  refine ⟨steady_storeSucceeded n, ?_, ?_, ?_, ?_⟩ <;> unfold storeSucceeded <;> split <;> rfl

theorem unmoved_listenTo (broadcasts control : SubRef) (n : Node) :
    Unmoved n (n.listenTo broadcasts control) := by
  refine ⟨steady_listenTo broadcasts control n, ?_, ?_, ?_, ?_⟩ <;> unfold listenTo <;> dsimp only <;>
    split <;> rfl

theorem unmoved_startRefresh (n : Node) : Unmoved n n.startRefresh := by
  rcases n.startRefresh_cases with same | same <;> rw [same] <;> exact ⟨⟨rfl, rfl, rfl, rfl⟩, rfl, rfl, rfl, rfl⟩

theorem Unmoved.beacon (h : Unmoved n n') : n'.beacon = n.beacon := by
  rw [Node.beacon, Node.beacon, h.id, h.wall, h.startedAt]

/-! ## Joining and beating -/

/-- What the store holds when a node has written its record. -/
def recorded (t : Nat) (n : Node) (s : Store) : Store :=
  s.insert t n.recordKey n.beacon.encode n.membership.ttl

theorem ensureSubscribed_run (n : Node) (s : Store) :
    ∃ n' s', ensureSubscribed.run (attending t) n s = ((), n', s') ∧ Unmoved n n' ∧
      s'.entries = s.entries := by
  unfold ensureSubscribed
  rw [Program.run_get_bind]
  split
  · exact ⟨n, s, rfl, .refl n, rfl⟩
  · refine ⟨_, _, rfl, ?_, rfl⟩
    exact ((unmoved_storeSucceeded n).trans (unmoved_storeSucceeded _)).trans (unmoved_listenTo ..)

theorem writeRecord_run (n : Node) (s : Store) :
    writeRecord.run (attending t) n s = (true, n.storeSucceeded, recorded t n s) := rfl

/-- What is written does not depend on what is no concern of it. -/
theorem entries_recorded (h : Unmoved n n') {s' : Store} (entries : s'.entries = s.entries) :
    (recorded t n' s').entries = (recorded t n s).entries := by
  simp only [recorded, Store.insert, h.recordKey, h.beacon, h.ttl, entries]

/-- **A node that keeps its record up has written it**, unless it is leaving. -/
theorem keeper_run {d : Duty} (keeper : Keeper d) (present : n.membership.destroyed = false) :
    Unmoved n ((attend d).run (attending t) n s).2.1 ∧
      ((attend d).run (attending t) n s).2.2.entries = (recorded t n s).entries := by
  obtain ⟨n₁, s₁, subscribed, unmoved, entries⟩ := ensureSubscribed_run (t := t) n s
  have written := unmoved.trans (unmoved_storeSucceeded n₁)
  cases d with
  | join =>
    show Unmoved n (join.run _ n s).2.1 ∧ (join.run _ n s).2.2.entries = _
    rw [join, Program.run_bind, subscribed, Program.run_discard, writeRecord_run]
    exact ⟨written, entries_recorded unmoved entries⟩
  | heartbeat =>
    show Unmoved n ((discard heartbeat).run _ n s).2.1 ∧
      ((discard heartbeat).run _ n s).2.2.entries = _
    rw [Program.run_discard, heartbeat, Program.run_get_bind, if_neg (by simp [present]),
      Program.run_bind, subscribed, Program.run_bind, writeRecord_run]
    exact ⟨written.trans (unmoved_startRefresh _), entries_recorded unmoved entries⟩
  | _ => exact keeper.elim

/-! ## Going through the records -/

/-- What a record says that concerns a sweep. -/
def reads (n : Node) (record : String × String) : Option (String × Beacon) :=
  match Beacon.decode record.2 with
  | .ok b =>
    if b.node = n.id || (n.membership.departed.lookup b.node).isSome then none else some (record.1, b)
  | .error _ => none

/-- The census: the readable records of other nodes that are not departed, and their keys. -/
def census (n : Node) (records : List (String × String)) : List (String × Beacon) :=
  records.filterMap n.reads

theorem reads_eq_some_iff {record : String × String} {key : String} {b : Beacon} :
    n.reads record = some (key, b) ↔ record.1 = key ∧ Beacon.decode record.2 = .ok b ∧
      b.node ≠ n.id ∧ ¬ IsDeparted b.node n := by
  cases read : Beacon.decode record.2 with
  | error fault => simp [reads, read]
  | ok r =>
    have skips : (r.node = n.id || (n.membership.departed.lookup r.node).isSome) = true ↔
        r.node = n.id ∨ IsDeparted r.node n := by
      rw [Bool.or_eq_true, decide_eq_true_eq, isSome_lookup]
      rfl
    by_cases skip : (r.node = n.id || (n.membership.departed.lookup r.node).isSome) = true
    · simp only [reads, read, if_pos skip, reduceCtorEq, Except.ok.injEq, false_iff]
      intro h
      obtain ⟨_, rfl, other, present⟩ := h
      exact (skips.mp skip).elim other present
    · simp only [reads, read, if_neg skip, Option.some.injEq, Prod.mk.injEq, Except.ok.injEq]
      refine and_congr_right fun _ => (and_iff_left_of_imp ?_).symm
      rintro rfl
      exact not_or.mp fun either => skip (skips.mpr either)

/-- **Who is in a census.** -/
theorem mem_census {records : List (String × String)} {key : String} {b : Beacon} :
    (key, b) ∈ n.census records ↔ ∃ text, (key, text) ∈ records ∧ Beacon.decode text = .ok b ∧
      b.node ≠ n.id ∧ ¬ IsDeparted b.node n := by
  rw [census, List.mem_filterMap]
  constructor
  · intro h
    obtain ⟨⟨_, text⟩, listed, read⟩ := h
    obtain ⟨rfl, rest⟩ := reads_eq_some_iff.mp read
    exact ⟨text, listed, rest⟩
  · intro h
    obtain ⟨text, listed, rest⟩ := h
    exact ⟨(key, text), listed, reads_eq_some_iff.mpr ⟨rfl, rest⟩⟩

theorem census_congr (id : n'.id = n.id) (departed : n'.membership.departed = n.membership.departed)
    (records : List (String × String)) : n'.census records = n.census records := by
  unfold census reads
  rw [id, departed]

/-- The records of a census that are not too old. -/
def fresh (now : Int) (ttl : Nat) (found : List (String × Beacon)) : List (String × Beacon) :=
  found.filter fun r => !r.2.isExpiredAt now ttl

/-- The records of a census that are too old. -/
def stale (now : Int) (ttl : Nat) (found : List (String × Beacon)) : List (String × Beacon) :=
  found.filter fun r => r.2.isExpiredAt now ttl

/-- The nodes of some records. -/
def names (found : List (String × Beacon)) : List NodeId := found.map (·.2.node)

section More

variable {record : String × String} {r : String × Beacon} {key : String} {b : Beacon}
  {found : List (String × Beacon)} {rest : List (String × String)} {now : Int} {ttl : Nat}

theorem census_cons_of_none (none : n.reads record = none) :
    n.census (record :: rest) = n.census rest := List.filterMap_cons_none none

theorem census_cons_of_some (some' : n.reads record = some r) :
    n.census (record :: rest) = r :: n.census rest := List.filterMap_cons_some some'

/-- No key stands in a census more often than among the records. -/
theorem census_keys (records : List (String × String)) :
    ((n.census records).map (·.1)).Sublist (records.map (·.1)) := by
  induction records with
  | nil => exact .slnil
  | cons record rest ih =>
    cases read : n.reads record with
    | none =>
      rw [census_cons_of_none read]
      exact ih.cons _
    | some r =>
      rw [census_cons_of_some read, List.map_cons, List.map_cons, (reads_eq_some_iff.mp read).1]
      exact ih.cons_cons _

theorem fresh_cons_of_young (young : b.isExpiredAt now ttl = false) :
    fresh now ttl ((key, b) :: found) = (key, b) :: fresh now ttl found :=
  List.filter_cons_of_pos (by simp [young])

theorem fresh_cons_of_expired (expired : b.isExpiredAt now ttl = true) :
    fresh now ttl ((key, b) :: found) = fresh now ttl found :=
  List.filter_cons_of_neg (by simp [expired])

theorem stale_cons_of_young (young : b.isExpiredAt now ttl = false) :
    stale now ttl ((key, b) :: found) = stale now ttl found :=
  List.filter_cons_of_neg (by simp [young])

theorem stale_cons_of_expired (expired : b.isExpiredAt now ttl = true) :
    stale now ttl ((key, b) :: found) = (key, b) :: stale now ttl found :=
  List.filter_cons_of_pos expired

end More

/-- What a sweep does of a node until its verdicts: it makes peers, and no more. -/
structure Greets (n : Node) (met : List (String × Beacon)) (n' : Node) : Prop
    extends Steady n n' where
  wall : n'.wall = n.wall
  startedAt : n'.membership.startedAt = n.membership.startedAt
  departed : n'.membership.departed = n.membership.departed
  peers : n'.membership.peers
    = met.foldl (fun table r => (r.2.node, r.2) :: table.filter (·.1 != r.2.node)) n.membership.peers

theorem Greets.of_unmoved (h : Unmoved n n') {met : List (String × Beacon)} (rest : Greets n' met n'') :
    Greets n met n'' where
  id := rest.id.trans h.id
  keys := rest.keys.trans h.keys
  ttl := rest.ttl.trans h.ttl
  destroyed := rest.destroyed.trans h.destroyed
  wall := rest.wall.trans h.wall
  startedAt := rest.startedAt.trans h.startedAt
  departed := rest.departed.trans h.departed
  peers := by rw [rest.peers, h.peers]

theorem clock_meet (r : Beacon) (n : Node) : (n.meet r).wall = n.wall ∧
    (n.meet r).membership.startedAt = n.membership.startedAt := by
  unfold meet
  dsimp only
  split <;> exact ⟨rfl, rfl⟩

theorem clock_bury_all (dead : List NodeId) (n : Node) :
    (dead.foldl (fun n p => n.bury p) n).wall = n.wall ∧
      (dead.foldl (fun n p => n.bury p) n).membership.startedAt = n.membership.startedAt := by
  induction dead generalizing n with
  | nil => exact ⟨rfl, rfl⟩
  | cons p rest ih => exact ih (n.bury p)

theorem Greets.of_meet {r : String × Beacon} {met : List (String × Beacon)}
    (rest : Greets (n.meet r.2) met n') : Greets n (r :: met) n' := by
  have steady := steady_meet r.2 n
  obtain ⟨wall, startedAt⟩ := clock_meet r.2 n
  exact {
    id := rest.id.trans steady.id
    keys := rest.keys.trans steady.keys
    ttl := rest.ttl.trans steady.ttl
    destroyed := rest.destroyed.trans steady.destroyed
    wall := rest.wall.trans wall
    startedAt := rest.startedAt.trans startedAt
    departed := rest.departed.trans (departed_meet r.2 n)
    peers := by rw [rest.peers, peers_meet, List.foldl_cons] }

/-- Who is a peer after that. -/
theorem Greets.isPeer {met : List (String × Beacon)} (h : Greets n met n') (a : NodeId) :
    IsPeer a n' ↔ IsPeer a n ∨ a ∈ names met := by
  have table : ∀ (met : List (String × Beacon)) (peers : List (NodeId × Beacon)),
      a ∈ (met.foldl (fun table r => (r.2.node, r.2) :: table.filter (·.1 != r.2.node)) peers).map (·.1)
        ↔ a ∈ peers.map (·.1) ∨ a ∈ names met := by
    intro met
    induction met with
    | nil => simp [names]
    | cons r rest ih =>
      intro peers
      rw [List.foldl_cons, ih]
      by_cases same : a = r.2.node
      · simp [names, same]
      · simp [names, same, List.mem_filter]
  rw [IsPeer, h.peers]
  exact table ..

/-- What going through the records has come to: it sorts the census into the seen and the dead, makes
peers of the fresh and deletes the stale. -/
structure Inspected (now : Int) (records : List (String × String)) (seen dead : List NodeId) (n : Node)
    (s : Store) (ended : (List NodeId × List NodeId) × Node × Store) : Prop where
  lists : ended.1 = (seen ++ names (fresh now n.membership.ttl (n.census records)),
    dead ++ names (stale now n.membership.ttl (n.census records)))
  node : Greets n (fresh now n.membership.ttl (n.census records)) ended.2.1
  entries : ended.2.2.entries = s.entries.filter fun e =>
    !((stale now n.membership.ttl (n.census records)).map (·.1)).contains e.1

section Records

variable {now : Int} {rest : List (String × String)} {record : String × String} {key : String}
  {b : Beacon} {seen dead : List NodeId} {ended : (List NodeId × List NodeId) × Node × Store}

theorem inspected_nil : Inspected now [] seen dead n s ((seen, dead), n, s) where
  lists := by simp [census, fresh, stale, names]
  node := ⟨.refl n, rfl, rfl, rfl, rfl⟩
  entries := by simp [census, stale]

/-- A record that concerns nobody is passed over. -/
theorem Inspected.passed (unmoved : Unmoved n n') (none : n.reads record = none)
    (h : Inspected now rest seen dead n' s ended) : Inspected now (record :: rest) seen dead n s ended := by
  have same : n.census (record :: rest) = n'.census rest := by
    rw [census_cons_of_none none, census_congr unmoved.id unmoved.departed]
  constructor
  · rw [same, ← unmoved.ttl]
    exact h.lists
  · rw [same, ← unmoved.ttl]
    exact h.node.of_unmoved unmoved
  · rw [same, ← unmoved.ttl]
    exact h.entries

/-- A record that is too old is deleted, and its node is dead. -/
theorem Inspected.doomed (unmoved : Unmoved n n') (read : n.reads record = some (key, b))
    (expired : b.isExpiredAt now n.membership.ttl = true)
    (h : Inspected now rest seen (dead ++ [b.node]) n' (s.erase key) ended) :
    Inspected now (record :: rest) seen dead n s ended := by
  obtain ⟨lists, node, entries⟩ := h
  rw [census_congr unmoved.id unmoved.departed, unmoved.ttl] at lists node entries
  have met : fresh now n.membership.ttl (n.census (record :: rest))
      = fresh now n.membership.ttl (n.census rest) := by
    rw [census_cons_of_some read, fresh_cons_of_expired expired]
  have gone : stale now n.membership.ttl (n.census (record :: rest))
      = (key, b) :: stale now n.membership.ttl (n.census rest) := by
    rw [census_cons_of_some read, stale_cons_of_expired expired]
  constructor
  · rw [met, gone, lists, List.append_assoc]
    rfl
  · rw [met]
    exact node.of_unmoved unmoved
  · rw [gone, entries, Store.erase, List.filter_filter]
    refine List.filter_congr fun e _ => ?_
    rw [List.map_cons, List.contains_cons, Bool.not_or, bne, Bool.and_comm]

/-- The node of a record that is not too old is a peer. -/
theorem Inspected.greeted (read : n.reads record = some (key, b))
    (young : b.isExpiredAt now n.membership.ttl = false)
    (h : Inspected now rest (seen ++ [b.node]) dead (n.meet b) s ended) :
    Inspected now (record :: rest) seen dead n s ended := by
  have steady := steady_meet b n
  obtain ⟨lists, node, entries⟩ := h
  rw [census_congr steady.id (departed_meet b n), steady.ttl] at lists node entries
  have met : fresh now n.membership.ttl (n.census (record :: rest))
      = (key, b) :: fresh now n.membership.ttl (n.census rest) := by
    rw [census_cons_of_some read, fresh_cons_of_young young]
  have gone : stale now n.membership.ttl (n.census (record :: rest))
      = stale now n.membership.ttl (n.census rest) := by
    rw [census_cons_of_some read, stale_cons_of_young young]
  constructor
  · rw [met, gone, lists, List.append_assoc]
    rfl
  · rw [met]
    exact node.of_meet (r := (key, b))
  · rw [gone]
    exact entries

end Records

/-- **Going through the records.** -/
theorem inspect_run (now : Int) (records : List (String × String)) (seen dead : List NodeId) (n : Node)
    (s : Store) : Inspected now records seen dead n s
      ((inspect now records seen dead).run (attending t) n s) := by
  induction records generalizing seen dead n s with
  | nil => exact inspected_nil
  | cons record rest ih =>
    obtain ⟨key, text⟩ := record
    unfold inspect
    split
    · rename_i fault unreadable
      have none : n.reads (key, text) = none := by simp only [reads, unreadable]
      rw [Program.run_modify_bind]
      exact (ih ..).passed (unmoved_record _ n) none
    · rename_i b read
      rw [Program.run_get_bind]
      split
      · rename_i skip
        have none : n.reads (key, text) = none := by simp only [reads, read, if_pos skip]
        exact (ih ..).passed (.refl n) none
      · rename_i concern
        have found : n.reads (key, text) = some (key, b) := by
          simp only [reads, read, if_neg concern]
        split
        · rename_i expired
          rw [Program.run_bind, Program.run_discard, guarded_run]
          exact (ih ..).doomed (unmoved_storeSucceeded n) found expired
        · rename_i young
          rw [Program.run_modify_bind]
          exact (ih ..).greeted found (Bool.eq_false_iff.mpr young)

/-! ## A sweep -/

/-- The census of a sweep at some time. -/
def survey (t : Nat) (n : Node) (s : Store) : List (String × Beacon) :=
  (n.pruneDeparted n.wall).census (s.pairs t n.membership.keys.nodeStart)

/-- What a sweep has come to: the dead, and what has become of the node and of the store. -/
structure Surveyed (t : Nat) (n : Node) (s : Store) (dead : List NodeId) (n' : Node) (s' : Store) :
    Prop extends Steady n n' where
  wall : n'.wall = n.wall
  startedAt : n'.membership.startedAt = n.membership.startedAt
  departed : n'.membership.departed = (n.pruneDeparted n.wall).membership.departed
  verdict : ∀ a, a ∈ dead ↔ a ∈ names (stale n.wall n.membership.ttl (survey t n s)) ∨
    (IsPeer a n ∧ a ∉ names (fresh n.wall n.membership.ttl (survey t n s)))
  peers : ∀ a, IsPeer a n' ↔
    (IsPeer a n ∨ a ∈ names (fresh n.wall n.membership.ttl (survey t n s))) ∧ a ∉ dead
  entries : ∀ e, e ∈ s'.entries ↔ e ∈ s.entries ∧ e.2.isLive t = true ∧
    e.1 ∉ (stale n.wall n.membership.ttl (survey t n s)).map (·.1)
  keyed : s.Keyed → s'.Keyed

/-- What the purge of routes leaves of what a sweep has come to. -/
theorem Surveyed.purged {dead : List NodeId} {s' : Store} (h : Surveyed t n s dead n' s') :
    Surveyed t n s dead ((purgeRoutesOf dead).run (attending t) n' s').2.1
      ((purgeRoutesOf dead).run (attending t) n' s').2.2 := by
  have run : ((purgeRoutesOf dead).run (attending t) n' s').2
      = (n'.storeSucceeded, s'.pruneAll t) := rfl
  rw [run]
  have unmoved := unmoved_storeSucceeded n'
  exact {
    id := unmoved.id.trans h.id
    keys := unmoved.keys.trans h.keys
    ttl := unmoved.ttl.trans h.ttl
    destroyed := unmoved.destroyed.trans h.destroyed
    wall := unmoved.wall.trans h.wall
    startedAt := unmoved.startedAt.trans h.startedAt
    departed := unmoved.departed.trans h.departed
    verdict := h.verdict
    peers := fun a => by
      rw [IsPeer, unmoved.peers]
      exact h.peers a
    entries := fun e => by
      rw [Store.pruneAll, List.mem_filter, h.entries e]
      tauto
    keyed := fun keyed => Store.keyed_filter (h.keyed keyed) _ }

/-- Whom a sweep holds for dead, by what going through the records has come to. -/
theorem mem_verdict {met gone : List (String × Beacon)} (h : Greets n met n') (a : NodeId) :
    a ∈ names gone ++ n'.vanished (names met) (names gone) ↔
      a ∈ names gone ∨ (IsPeer a n ∧ a ∉ names met) := by
  have listed : a ∈ n'.vanished (names met) (names gone) ↔
      IsPeer a n' ∧ a ∉ names met ∧ a ∉ names gone := by
    simp [vanished, IsPeer]
  rw [List.mem_append, listed, h.isPeer a]
  tauto

/-- What the verdicts leave of what going through the records has come to. -/
theorem surveyed_bury {n₁ : Node} {s' : Store} (begun : Unmoved n n₁)
    (node : Greets (n₁.pruneDeparted n.wall) (fresh n.wall n.membership.ttl (survey t n s)) n')
    (entries : s'.entries = (s.pruneAll t).entries.filter fun e =>
      !((stale n.wall n.membership.ttl (survey t n s)).map (·.1)).contains e.1) :
    let dead := names (stale n.wall n.membership.ttl (survey t n s))
      ++ n'.vanished (names (fresh n.wall n.membership.ttl (survey t n s)))
        (names (stale n.wall n.membership.ttl (survey t n s)))
    Surveyed t n s dead (dead.foldl (fun n p => n.bury p) n') s' := by
  intro dead
  have same : ∀ a, IsPeer a (n₁.pruneDeparted n.wall) ↔ IsPeer a n := fun a => by
    rw [isPeer_pruneDeparted, IsPeer, IsPeer, begun.peers]
  have departed : (n₁.pruneDeparted n.wall).membership.departed
      = (n.pruneDeparted n.wall).membership.departed := by
    show n₁.membership.departed.filter _ = n.membership.departed.filter _
    rw [begun.departed, begun.ttl]
  have buried := steady_bury_all dead n'
  obtain ⟨clock, start⟩ := clock_bury_all dead n'
  obtain ⟨peer, gone, _⟩ := bury_all dead n'
  exact {
    id := buried.id.trans (node.id.trans begun.id)
    keys := buried.keys.trans (node.keys.trans begun.keys)
    ttl := buried.ttl.trans (node.ttl.trans begun.ttl)
    destroyed := buried.destroyed.trans (node.destroyed.trans begun.destroyed)
    wall := clock.trans (node.wall.trans begun.wall)
    startedAt := start.trans (node.startedAt.trans begun.startedAt)
    departed := gone.trans (node.departed.trans departed)
    verdict := fun a => (mem_verdict node a).trans (by rw [same])
    peers := fun a => (peer a).trans (by rw [node.isPeer, same])
    entries := fun e => by
      rw [entries, List.mem_filter, Store.pruneAll, List.mem_filter]
      simp [and_assoc]
    keyed := fun keyed => by
      rw [Store.Keyed, entries]
      exact Store.keyed_filter (Store.keyed_filter keyed _) _ }

/-- What going through the records of a survey comes to. -/
theorem inspect_survey {n₁ : Node} (begun : Unmoved n n₁) :
    ∃ n₂ s₂, (inspect n₁.wall (s.pairs t n.membership.keys.nodeStart) [] []).run (attending t)
        (n₁.pruneDeparted n₁.wall) (s.pruneAll t)
        = ((names (fresh n.wall n.membership.ttl (survey t n s)),
          names (stale n.wall n.membership.ttl (survey t n s))), n₂, s₂) ∧
      Greets (n₁.pruneDeparted n.wall) (fresh n.wall n.membership.ttl (survey t n s)) n₂ ∧
      s₂.entries = (s.pruneAll t).entries.filter fun e =>
        !((stale n.wall n.membership.ttl (survey t n s)).map (·.1)).contains e.1 := by
  have census : (n₁.pruneDeparted n.wall).census (s.pairs t n.membership.keys.nodeStart)
      = survey t n s := by
    have id : (n₁.pruneDeparted n.wall).id = (n.pruneDeparted n.wall).id := begun.id
    refine census_congr id ?_ _
    show n₁.membership.departed.filter _ = n.membership.departed.filter _
    rw [begun.departed, begun.ttl]
  have ttl : (n₁.pruneDeparted n.wall).membership.ttl = n.membership.ttl := begun.ttl
  obtain ⟨lists, node, entries⟩ := inspect_run (t := t) n.wall (s.pairs t n.membership.keys.nodeStart)
    [] [] (n₁.pruneDeparted n.wall) (s.pruneAll t)
  rw [census, ttl] at lists node entries
  rw [begun.wall]
  exact ⟨_, _, Prod.ext lists rfl, node, entries⟩

/-- **A sweep that nothing disturbs.** -/
theorem sweep_run (t : Nat) (n : Node) (s : Store) :
    Surveyed t n s (sweep.run (attending t) n s).1 (sweep.run (attending t) n s).2.1
      (sweep.run (attending t) n s).2.2 := by
  have begun := unmoved_storeSucceeded n
  obtain ⟨n₂, s₂, ran, node, entries⟩ := inspect_survey (t := t) (s := s) begun
  have surveyed := surveyed_bury begun node entries
  unfold sweep
  rw [Program.run_get_bind, Program.run_bind_of_eq (scan_run ..)]
  dsimp only
  rw [Program.run_view_bind, Program.run_modify_bind, Program.run_bind_of_eq ran,
    Program.run_update_bind]
  dsimp only
  split
  · rw [Program.run_bind]
    exact surveyed.purged
  · exact surveyed

end SessionHub.Node

import SessionHub.Proofs.Cluster.Census
import SessionHub.Proofs.Cluster.Voice

/-!
# Whose records a sweep takes notice of

Several clusters may share a store. A sweep scans for its own cluster's records, and it never looks
whether a record that it finds stands under the key of the node that it names. So what keeps a sweep
from the records of another cluster is that no key of the one begins as the records of the other do.

`unnoticed_iff` says between which clusters this is enough: a sweep of one takes no notice of whatever
the nodes of the other may have written if, and only if, the other does not trespass on it.
`exists_trespasser` is a run of a cluster inside another's records, where the sweep deletes a record
that is not of its cluster.
-/

namespace SessionHub.Node

/-- A store that holds only what nodes of a cluster may have written. -/
def WrittenBy (keys : KeyLayout) (s : Store) : Prop :=
  ∀ e ∈ s.entries, Writes keys e.1 e.2.value

/-- A server that answers a scan with what the store holds, or fails. What else it is asked it may
answer in any way. -/
def Honest (t : Nat) (serve : (q : ClusterAsk) → Store → q.Answer × Store) : Prop :=
  ∀ start s, serve (.store (.scan start)) s = (.ok (s.pairs t start), s.pruneAll t) ∨
    ∃ fault, serve (.store (.scan start)) s = (.error fault, s)

/-- **A sweep that takes notice of nobody**: it finds no dead and makes no peers, observers are told of
no node, and the store keeps all that it holds. -/
structure Unnoticed (t : Nat) (n : Node) (s : Store) (ended : List NodeId × Node × Store) : Prop where
  dead : ended.1 = []
  peers : ended.2.1.membership.peers = []
  news : ∃ news, ended.2.1.membership.events = n.membership.events ++ news ∧ ∀ e ∈ news, e.node? = none
  kept : ∀ e ∈ s.entries, e.2.isLive t = true → e ∈ ended.2.2.entries

variable {p q : KeyLayout} {t : Nat} {n : Node} {s s' : Store}
  {serve : (q : ClusterAsk) → Store → q.Answer × Store}

theorem honest_attending (t : Nat) : Honest t (attending t) := fun _ _ => .inl rfl

/-! ## Nothing is found -/

/-- What a sweep comes to that is not answered. -/
theorem sweep_run_of_error {fault : StoreFault}
    (h : serve (.store (.scan n.membership.keys.nodeStart)) s = (.error fault, s')) :
    sweep.run serve n s = ([], n.storeFailed "scan_nodes" fault, s') := by
  have scanned : (guarded "scan_nodes" (.scan n.membership.keys.nodeStart)).run serve n s
      = (none, n.storeFailed "scan_nodes" fault, s') := by
    rw [guarded, Program.run, h]
    rfl
  unfold sweep
  rw [Program.run_get_bind, Program.run_bind_of_eq scanned]
  rfl

/-- What a sweep comes to that finds nothing, at a node that knows nobody. -/
theorem sweep_run_of_nil (peers : n.membership.peers = [])
    (h : serve (.store (.scan n.membership.keys.nodeStart)) s = (.ok [], s')) :
    sweep.run serve n s = ([], n.storeSucceeded.pruneDeparted n.storeSucceeded.wall, s') := by
  have scanned : (guarded "scan_nodes" (.scan n.membership.keys.nodeStart)).run serve n s
      = ((some [] : Option (List (String × String))), n.storeSucceeded, s') := by
    rw [guarded, Program.run, h]
    rfl
  have nobody : (n.storeSucceeded.pruneDeparted n.storeSucceeded.wall).membership.peers = [] :=
    (apart_storeSucceeded n).peers.trans peers
  unfold sweep
  rw [Program.run_get_bind, Program.run_bind_of_eq scanned]
  dsimp only
  rw [Program.run_view_bind, Program.run_modify_bind, inspect]
  show (Program.update _ >>= _).run serve _ s' = _
  rw [Program.run_update_bind]
  simp [vanished, nobody]

/-- **Where nothing stands among the records, a sweep takes notice of nobody.** -/
theorem unnoticed_of_apart (honest : Honest t serve) (peers : n.membership.peers = [])
    (apart : ∀ e ∈ s.entries, ¬ n.membership.keys.nodeStart.toList <+: e.1.toList) :
    Unnoticed t n s (sweep.run serve n s) := by
  have nothing : s.pairs t n.membership.keys.nodeStart = [] := by
    refine List.eq_nil_iff_forall_not_mem.mpr fun r found => ?_
    obtain ⟨e, he, _, begins, _⟩ := Store.mem_pairs.mp found
    exact apart e he (List.isPrefixOf_iff_prefix.mp begins)
  rcases honest n.membership.keys.nodeStart s with scanned | ⟨fault, failed⟩
  · rw [nothing] at scanned
    rw [sweep_run_of_nil peers scanned]
    have quiet := apart_storeSucceeded n
    exact {
      dead := rfl
      peers := quiet.peers.trans peers
      news := quiet.news
      kept := fun e he live => List.mem_filter.mpr ⟨he, live⟩ }
  · rw [sweep_run_of_error failed]
    have quiet := apart_storeFailed "scan_nodes" fault n
    exact {
      dead := rfl
      peers := quiet.peers.trans peers
      news := quiet.news
      kept := fun e he _ => he }

/-- **Who does not trespass writes nothing among the records.** -/
theorem apart_of_not_trespasses (distinct : p ≠ q) (away : ¬ q.Trespasses p) {key value : String}
    (written : Writes q key value) : ¬ p.nodeStart.toList <+: key.toList := by
  intro begins
  cases written_of_writes written with
  | record b => exact away (KeyLayout.trespasses_of_nodeKey distinct begins)
  | route => exact away (KeyLayout.trespasses_of_routeKey distinct begins)

/-! ## Something is found -/

/-- A readable record of another node, among the records, is in the census. -/
theorem mem_survey {e : String × Entry} {b : Beacon} (here : e ∈ s.entries)
    (live : e.2.isLive t = true) (begins : n.membership.keys.nodeStart.toList <+: e.1.toList)
    (read : Beacon.decode e.2.value = .ok b) (other : b.node ≠ n.id)
    (departed : n.membership.departed = []) : (e.1, b) ∈ survey t n s := by
  have found : (e.1, e.2.value) ∈ s.pairs t n.membership.keys.nodeStart :=
    Store.mem_pairs.mpr ⟨e, here, live, List.isPrefixOf_iff_prefix.mpr begins, rfl⟩
  refine mem_census.mpr ⟨_, found, read, other, fun gone => ?_⟩
  have before := gone.of_pruneDeparted
  rw [IsDeparted, departed] at before
  exact absurd before List.not_mem_nil

/-- **A cluster that trespasses may write a record that another's sweep reads.** -/
theorem exists_record (trespasses : q.Trespasses p) :
    ∃ key b, Writes q key (Beacon.encode b) ∧ p.nodeStart.toList <+: key.toList ∧
      Beacon.decode b.encode = .ok b := by
  have midnight : IsTime 0 := ⟨by decide, by decide⟩
  rcases trespasses.exists_key with ⟨node, begins⟩ | ⟨path, session, begins⟩
  · let b : Beacon := { node, lastBeat := 0, startedAt := 0 }
    exact ⟨_, b, (Written.record b midnight midnight).writes, begins,
      Beacon.decode_encode midnight midnight⟩
  -- A route holds the name of a node, and a node may have any name.
  · let b : Beacon := { node := ⟨""⟩, lastBeat := 0, startedAt := 0 }
    exact ⟨_, b, (Written.route path session ⟨b.encode⟩).writes, begins,
      Beacon.decode_encode midnight midnight⟩

/-- A sweep that finds a record of another node takes notice of it. -/
theorem not_unnoticed {e : String × Entry} {b : Beacon} (here : e ∈ s.entries)
    (live : e.2.isLive t = true) (begins : n.membership.keys.nodeStart.toList <+: e.1.toList)
    (read : Beacon.decode e.2.value = .ok b) (other : b.node ≠ n.id)
    (departed : n.membership.departed = []) : ¬ Unnoticed t n s (sweep.run (attending t) n s) := by
  intro h
  have surveyed := sweep_run t n s
  have found := mem_survey here live begins read other departed
  have nobody : ∀ a, ¬ IsPeer a (sweep.run (attending t) n s).2.1 := by
    intro a peer
    rw [IsPeer, h.peers] at peer
    exact absurd peer List.not_mem_nil
  have named : ∀ {l : List (String × Beacon)}, (e.1, b) ∈ l → b.node ∈ names l :=
    fun mem => List.mem_map.mpr ⟨_, mem, rfl⟩
  cases old : b.isExpiredAt n.wall n.membership.ttl with
  | true =>
    have dead := (surveyed.verdict b.node).mpr (.inl (named (List.mem_filter.mpr ⟨found, old⟩)))
    rw [h.dead] at dead
    exact absurd dead List.not_mem_nil
  | false =>
    have young : (e.1, b) ∈ fresh n.wall n.membership.ttl (survey t n s) :=
      List.mem_filter.mpr ⟨found, congrArg not old⟩
    refine nobody b.node ((surveyed.peers b.node).mpr ⟨.inr (named young), ?_⟩)
    rw [h.dead]
    exact List.not_mem_nil

/-! ## Two clusters -/

/-- **Between which clusters a sweep takes no notice of the other's records.** Whatever the nodes of one
cluster may have written, a sweep at a node of another that knows nobody takes notice of nobody, unless
keys of the one may stand among the records of the other. -/
theorem unnoticed_iff (distinct : p ≠ q) :
    (∀ t serve n s, Honest t serve → n.membership.keys = p → n.membership.peers = [] →
      n.membership.departed = [] → WrittenBy q s → Unnoticed t n s (sweep.run serve n s)) ↔
    ¬ q.Trespasses p := by
  constructor
  · intro unnoticed trespasses
    obtain ⟨key, b, writes, begins, read⟩ := exists_record trespasses
    let n : Node := { id := ⟨b.node.text ++ "'"⟩, membership := { keys := p } }
    let s : Store := { entries := [(key, { value := b.encode, expiresAt := 1 })] }
    have other : b.node ≠ n.id := by
      intro same
      have length := congrArg (fun a : NodeId => a.text.length) same
      simp [n] at length
    have written : WrittenBy q s := by
      intro e he
      obtain rfl := List.mem_singleton.mp he
      exact writes
    have here : (key, { value := b.encode, expiresAt := 1 : Entry }) ∈ s.entries :=
      List.mem_singleton_self _
    have live : Entry.isLive { value := b.encode, expiresAt := 1 } 0 = true := rfl
    have missed := unnoticed 0 (attending 0) n s (honest_attending 0) rfl rfl rfl written
    exact not_unnoticed (n := n) here live begins read other rfl missed
  · intro away t serve n s honest keys peers _ written
    refine unnoticed_of_apart honest peers fun e he => ?_
    rw [keys]
    exact apart_of_not_trespasses distinct away (written e he)

/-- Prefixes that only begin alike do not trespass. -/
theorem unnoticed_of_stage :
    (⟨"stage"⟩ : KeyLayout) ≠ ⟨"stage2"⟩ ∧ ∀ t serve n s, Honest t serve →
      n.membership.keys = ⟨"stage"⟩ → n.membership.peers = [] → n.membership.departed = [] →
      WrittenBy ⟨"stage2"⟩ s → Unnoticed t n s (sweep.run serve n s) := by
  have distinct : (⟨"stage"⟩ : KeyLayout) ≠ ⟨"stage2"⟩ := by decide
  exact ⟨distinct, (unnoticed_iff distinct).mpr (by decide)⟩

/-! ## A cluster inside another's records -/

/-- A node of a cluster. -/
def landlord : Node := { id := ⟨"n"⟩, wall := 2000, membership := { keys := ⟨"a"⟩, ttl := 1000 } }

/-- A node of a cluster inside the records of that one. -/
def lodger : Node := { id := ⟨"b"⟩, membership := { keys := ⟨"a:node:x"⟩, ttl := 60000 } }

/-- The store, when the second node has joined its cluster. -/
def lodging : Store := (join.run (attending 0) lodger {}).2.2

/-- **A sweep of one cluster declares a node of another dead, and deletes its record.** -/
theorem exists_trespasser : (⟨"a"⟩ : KeyLayout) ≠ ⟨"a:node:x"⟩ ∧ landlord.membership.keys = ⟨"a"⟩ ∧
    landlord.membership.peers = [] ∧ landlord.membership.departed = [] ∧
    WrittenBy ⟨"a:node:x"⟩ lodging ∧ lodging.value? 2000 lodger.recordKey = some lodger.beacon.encode ∧
    lodger.id ∈ (sweep.run (attending 2000) landlord lodging).1 ∧
    (sweep.run (attending 2000) landlord lodging).2.2.entries = [] := by
  have midnight : IsTime 0 := ⟨by decide, by decide⟩
  have begins : landlord.membership.keys.nodeStart.toList <+: lodger.recordKey.toList := by decide
  have here : (lodger.recordKey, { value := lodger.beacon.encode, expiresAt := 60000 : Entry })
      ∈ lodging.entries := List.mem_singleton_self _
  have found : (lodger.recordKey, lodger.beacon) ∈ survey 2000 landlord lodging :=
    mem_survey here rfl begins (Beacon.decode_encode midnight midnight) (by decide) rfl
  have old : (lodger.recordKey, lodger.beacon) ∈
      stale landlord.wall landlord.membership.ttl (survey 2000 landlord lodging) :=
    List.mem_filter.mpr ⟨found, by decide⟩
  have surveyed := sweep_run 2000 landlord lodging
  refine ⟨by decide, rfl, rfl, rfl, ?_, ?_, ?_, ?_⟩
  · intro e he
    obtain rfl := List.mem_singleton.mp he
    exact (Written.record lodger.beacon midnight midnight).writes
  · rfl
  · exact (surveyed.verdict _).mpr (.inl (List.mem_map.mpr ⟨_, old, rfl⟩))
  · refine List.eq_nil_iff_forall_not_mem.mpr fun e he => ?_
    obtain ⟨before, _, kept⟩ := (surveyed.entries e).mp he
    obtain rfl := List.mem_singleton.mp before
    exact kept (List.mem_map.mpr ⟨_, old, rfl⟩)

end SessionHub.Node

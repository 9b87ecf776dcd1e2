import SessionHub.Proofs.Cluster.Calm
import SessionHub.Proofs.Cluster.Census

/-!
# The run of a sweep

A sweep at a calm site has four parts: it scans for the records, goes through what it found, passes its
verdicts, and deletes the routes of the dead. What each of them comes to is told here, one after another,
as what becomes of the site: which nodes are *greeted*, whom the node *mourns*, and which keys are gone.
`Tallied` puts the parts together. That the records it sorts are what the store holds, and what follows
for peers, observers and keys, is told in the next module.
-/

namespace SessionHub

/-! ## What a sweep does to what a node knows -/

namespace Membership

/-- A node whose record is fresh is a peer; observers are told if it was none. -/
def greet (m : Membership) (b : Beacon) : Membership :=
  { m with
    peers := (b.node, b) :: m.peers.filter (·.1 != b.node)
    events := m.events ++ if b.node ∈ m.peers.map (·.1) then [] else [.joined b.node] }

/-- Some nodes are dead: none of them is a peer any more, and observers are told. -/
def mourn (dead : List NodeId) (m : Membership) : Membership :=
  { m with
    peers := m.peers.filter fun e => !dead.contains e.1
    events := m.events ++ dead.map .timedOut }

/-- **Of nodes greeted in turn**, no two the same: the last one stands first in the table, those who were
there before and were not greeted behind them, and observers are told of those who were not. -/
theorem greet_all {met : List Beacon} (distinct : (met.map (·.node)).Nodup) (m : Membership) :
    met.foldl greet m = { m with
      peers := met.reverse.map (fun b => (b.node, b)) ++
        m.peers.filter fun e => !(met.map (·.node)).contains e.1
      events := m.events ++
        ((met.map (·.node)).filter fun a => a ∉ m.peers.map (·.1)).map .joined } := by
  induction met generalizing m with
  | nil => simp
  | cons b rest ih =>
    obtain ⟨absent, distinct⟩ := List.nodup_cons.mp distinct
    have kept : (m.greet b).peers.filter (fun e => !(rest.map (·.node)).contains e.1)
        = (b.node, b) :: m.peers.filter fun e => !((b :: rest).map (·.node)).contains e.1 := by
      rw [greet, List.filter_cons_of_pos (by simpa using absent), List.filter_filter]
      refine congrArg ((b.node, b) :: ·) (List.filter_congr fun e _ => ?_)
      rw [List.map_cons, List.contains_cons, Bool.not_or, bne, Bool.and_comm]
    have told : (rest.map (·.node)).filter (fun a => a ∉ (m.greet b).peers.map (·.1))
        = (rest.map (·.node)).filter fun a => a ∉ m.peers.map (·.1) := by
      refine List.filter_congr fun a ha => decide_eq_decide.mpr (not_congr ?_)
      have other : a ≠ b.node := by
        rintro rfl
        exact absent ha
      simp [greet, List.mem_filter, other]
    rw [List.foldl_cons, ih distinct, kept, told, List.reverse_cons, List.map_append, List.append_assoc,
      List.map_cons, List.filter_cons]
    by_cases known : b.node ∈ m.peers.map (·.1)
    · simp [greet, known]
    · simp [greet, known]

end Membership

namespace Node

theorem membership_meet (b : Beacon) (n : Node) : (n.meet b).membership = n.membership.greet b := by
  have known : (n.membership.peers.lookup b.node).isSome ↔ b.node ∈ n.membership.peers.map (·.1) :=
    isSome_lookup ..
  unfold meet Membership.greet
  dsimp only
  split
  · rename_i there
    rw [if_pos (known.mp there), List.append_nil]
    rfl
  · rename_i unknown
    rw [if_neg fun there => unknown (known.mpr there)]
    rfl

theorem membership_bury_all (dead : List NodeId) (n : Node) :
    (dead.foldl (fun n p => n.bury p) n).membership = n.membership.mourn dead := by
  induction dead generalizing n with
  | nil => simp [Membership.mourn]
  | cons p rest ih =>
    rw [List.foldl_cons, ih, Membership.mourn, Membership.mourn]
    simp only [bury, emit, record, modifyMembership, List.filter_filter, List.map_cons,
      List.append_assoc, List.singleton_append, List.contains_cons, Bool.not_or]
    congr 1
    exact List.filter_congr fun e _ => by rw [bne, Bool.and_comm]

/-! ## The run -/

variable {s s' s₁ : Site}

/-- What going through the records has come to: they are sorted into the seen and the dead, the fresh
ones have made peers, and the stale ones are deleted. -/
structure Reviewed (now : Int) (records : List (String × String)) (seen dead : List NodeId) (s : Site)
    (sorted : List NodeId × List NodeId) (s' : Site) : Prop where
  lists : sorted = (seen ++ names (fresh now s.node.membership.ttl (s.node.census records)),
    dead ++ names (stale now s.node.membership.ttl (s.node.census records)))
  site : Site.Becomes
    (((fresh now s.node.membership.ttl (s.node.census records)).map (·.2)).foldl Membership.greet)
    ((stale now s.node.membership.ttl (s.node.census records)).map (·.1)) s s'

section Reviewed

variable {now : Int} {rest : List (String × String)} {record : String × String} {key : String}
  {b : Beacon} {seen dead : List NodeId} {sorted : List NodeId × List NodeId}

/-- A record that concerns nobody is passed over. -/
theorem Reviewed.passed (begun : Site.Becomes (fun m => m) [] s s₁) (none : s.node.reads record = none)
    (h : Reviewed now rest seen dead s₁ sorted s') : Reviewed now (record :: rest) seen dead s sorted s' := by
  have same : s.node.census (record :: rest) = s₁.node.census rest := by
    rw [census_cons_of_none none]
    exact (census_congr begun.id (congrArg _ begun.membership) rest).symm
  obtain ⟨lists, site⟩ := h
  rw [begun.membership] at lists site
  constructor
  · rw [same]
    exact lists
  · rw [same]
    exact begun.trans site

/-- A record that is too old is deleted, and its node is dead. -/
theorem Reviewed.doomed (well : s.node.membership.degraded = false)
    (begun : Site.Becomes Membership.recover [key] s s₁) (read : s.node.reads record = some (key, b))
    (expired : b.isExpiredAt now s.node.membership.ttl = true)
    (h : Reviewed now rest seen (dead ++ [b.node]) s₁ sorted s') :
    Reviewed now (record :: rest) seen dead s sorted s' := by
  have quiet : s₁.node.membership = s.node.membership :=
    begun.membership.trans (Membership.recover_of_well well)
  have same : s₁.node.census rest = s.node.census rest :=
    census_congr begun.id (congrArg _ quiet) rest
  obtain ⟨lists, site⟩ := h
  rw [same, quiet] at lists site
  constructor
  · rw [lists, census_cons_of_some read, fresh_cons_of_expired expired, stale_cons_of_expired expired,
      List.append_assoc]
    rfl
  · rw [census_cons_of_some read, fresh_cons_of_expired expired, stale_cons_of_expired expired]
    refine (begun.trans site).congr ?_ fun _ => Iff.rfl
    rw [Membership.recover_of_well well]

/-- The node of a record that is not too old is a peer. -/
theorem Reviewed.greeted (begun : Site.Becomes (·.greet b) [] s s₁)
    (read : s.node.reads record = some (key, b))
    (young : b.isExpiredAt now s.node.membership.ttl = false)
    (h : Reviewed now rest (seen ++ [b.node]) dead s₁ sorted s') :
    Reviewed now (record :: rest) seen dead s sorted s' := by
  have same : s₁.node.census rest = s.node.census rest :=
    census_congr begun.id (by rw [begun.membership]; rfl) rest
  have ttl : s₁.node.membership.ttl = s.node.membership.ttl := by
    rw [begun.membership]
    rfl
  obtain ⟨lists, site⟩ := h
  rw [same, ttl] at lists site
  constructor
  · rw [lists, census_cons_of_some read, fresh_cons_of_young young, stale_cons_of_young young,
      List.append_assoc]
    rfl
  · rw [census_cons_of_some read, fresh_cons_of_young young, stale_cons_of_young young]
    exact begun.trans site

end Reviewed

/-- **Going through the records** at a calm site. -/
theorem inspect_ends {now : Int} {records : List (String × String)} {seen dead : List NodeId}
    {sorted : List NodeId × List NodeId} (well : s.node.membership.degraded = false)
    (ended : (afar (inspect now records seen dead)).Ends calm s sorted s') :
    Reviewed now records seen dead s sorted s' := by
  induction records generalizing seen dead s with
  | nil =>
    obtain ⟨rfl, rfl⟩ := ended
    exact ⟨by simp [census, fresh, stale, names], .refl s'⟩
  | cons record rest ih =>
    obtain ⟨key, text⟩ := record
    unfold inspect at ended
    split at ended
    · rename_i fault unreadable
      have none : s.node.reads (key, text) = none := by simp only [reads, unreadable]
      exact (ih (s := s.setNode (s.node.record _)) well ended).passed (s.becomes_record _) none
    · rename_i b read
      rw [ends_afar_get_bind] at ended
      split at ended
      · rename_i skip
        have none : s.node.reads (key, text) = none := by simp only [reads, read, if_pos skip]
        exact (ih well ended).passed (.refl s) none
      · rename_i concern
        have found : s.node.reads (key, text) = some (key, b) := by
          simp only [reads, read, if_neg concern]
        split at ended
        · rename_i expired
          obtain ⟨_, s₁, deletion, ended⟩ := ends_afar_bind.mp ended
          obtain ⟨_, deleted⟩ := ends_afar_discard.mp deletion
          have begun := delete_ends deleted
          refine (ih ?_ ended).doomed well begun found expired
          rw [begun.membership, Membership.recover_of_well well]
          exact well
        · rename_i young
          have begun : Site.Becomes (·.greet b) [] s (s.setNode (s.node.meet b)) :=
            Site.becomes_setNode (id_meet b _) (membership_meet b _) (clock_meet b _).1
          refine (ih (s := s.setNode (s.node.meet b)) ?_ ended).greeted begun found
            (Bool.eq_false_iff.mpr young)
          rw [begun.membership]
          exact well

/-! ## The routes of the dead -/

/-- Whether an entry of a store is the route to one of some nodes. -/
def RoutesTo (keys : KeyLayout) (nodes : List NodeId) (k v : String) : Prop :=
  Store.startsWith k keys.routeStart = true ∧ ∃ a ∈ nodes, v = a.text

/-- **The purge of routes**: those are gone that named one of the dead, and nothing else. -/
theorem purgeRoutesOf_ends {dead : List NodeId} (keyed : s.store.Keyed)
    (well : s.node.membership.degraded = false)
    (ended : (afar (purgeRoutesOf dead)).Ends calm s () s') :
    ∃ routes, Site.Becomes (fun m => m) routes s s' ∧
      ∀ t, s'.now ≤ t → ∀ k v, s.store.value? t k = some v →
        (k ∈ routes ↔ RoutesTo s.node.membership.keys dead k v) := by
  unfold purgeRoutesOf at ended
  rw [ends_afar_get_bind] at ended
  obtain ⟨reply, s₁, scanned, ended⟩ := ends_afar_bind.mp ended
  obtain ⟨t₁, pairs, rfl, scanned, before, began⟩ := scan_ends keyed scanned
  dsimp only at ended
  have same : ∀ theirs : List (String × String),
      theirs.map (fun r => RouteWork.purge r.1) = (theirs.map (·.1)).map .purge := fun theirs => by
    rw [List.map_map]
    rfl
  obtain ⟨_, purged⟩ := ends_afar_discard.mp ended
  rw [same] at purged
  have quiet := Membership.recover_of_well well
  have rest := together_ends (began.keyed keyed) (by rw [began.membership, quiet, well]) purged
  refine ⟨_, (began.trans rest).congr quiet fun _ => Iff.rfl, fun t later k v seen => ?_⟩
  have then' : s.store.value? t₁ k = some v :=
    Store.value?_earlier (before.trans (rest.now_le.trans later)) seen
  constructor
  · intro listed
    obtain ⟨r, chosen, rfl⟩ := List.mem_map.mp (List.nil_append _ ▸ listed)
    obtain ⟨there, theirs⟩ := List.mem_filter.mp chosen
    obtain ⟨value, begins⟩ := (scanned.mem_iff r.1 r.2).mp there
    obtain ⟨a, ha, named⟩ := List.any_eq_true.mp theirs
    obtain rfl : r.2 = v := Option.some.inj (value.symm.trans then')
    exact ⟨begins, a, ha, (eq_of_beq named).symm⟩
  · intro route
    obtain ⟨begins, a, ha, rfl⟩ := route
    have there := (scanned.mem_iff k a.text).mpr ⟨then', begins⟩
    have theirs : dead.any (·.text == a.text) = true :=
      List.any_eq_true.mpr ⟨a, ha, beq_self_eq_true _⟩
    exact List.mem_map.mpr ⟨(k, a.text), List.mem_filter.mpr ⟨there, theirs⟩, rfl⟩

/-! ## The verdicts -/

/-- **The verdicts**: dead are those whose records were too old and those who have vanished. They are
mourned, and their routes are gone. -/
theorem verdicts_ends {seen expired dead : List NodeId} (keyed : s.store.Keyed)
    (well : s.node.membership.degraded = false)
    (ended : (afar do
      let dead ← Program.update fun n =>
        let dead := expired ++ n.vanished seen expired
        (dead, dead.foldl (fun n p => n.bury p) n)
      if !dead.isEmpty then purgeRoutesOf dead
      return dead).Ends calm s dead s') :
    dead = expired ++ s.node.vanished seen expired ∧
      ∃ routes, Site.Becomes (Membership.mourn dead) routes s s' ∧
        ∀ t, s'.now ≤ t → ∀ k v, s.store.value? t k = some v →
          (k ∈ routes ↔ RoutesTo s.node.membership.keys dead k v) := by
  rw [ends_afar_update_bind] at ended
  dsimp only at ended
  generalize verdict : expired ++ s.node.vanished seen expired = them at ended
  have buried : Site.Becomes (Membership.mourn them) [] s
      (s.setNode (them.foldl (fun n p => n.bury p) s.node)) :=
    Site.becomes_setNode (id_bury_all them _) (membership_bury_all them _) (clock_bury_all them _).1
  split at ended
  · obtain ⟨_, _, purged, rfl, rfl⟩ := ends_afar_bind.mp ended
    obtain ⟨routes, rest, gone⟩ :=
      purgeRoutesOf_ends (buried.keyed keyed) (by rw [buried.membership]; exact well) purged
    rw [show (Site.setNode _ s).node.membership.keys = s.node.membership.keys by
      rw [buried.membership]; rfl] at gone
    exact ⟨rfl, routes, buried.trans rest, gone⟩
  · rename_i nobody
    obtain ⟨rfl, rfl⟩ := ended
    obtain rfl : dead = [] := by simpa using nobody
    exact ⟨rfl, [], buried, fun _ _ _ _ _ => by simp [RoutesTo]⟩

/-! ## The sweep -/

/-- The records of the living, of what a scan found. -/
def living (w : Int) (n : Node) (found : List (String × String)) : List (String × Beacon) :=
  fresh w n.membership.ttl ((n.pruneDeparted w).census found)

/-- The records of those who have died, of what a scan found. -/
def perished (w : Int) (n : Node) (found : List (String × String)) : List (String × Beacon) :=
  stale w n.membership.ttl ((n.pruneDeparted w).census found)

/-- What a node knows that has greeted the living. -/
def greeting (w : Int) (n : Node) (found : List (String × String)) : Membership :=
  ((living w n found).map (·.2)).foldl Membership.greet (n.pruneDeparted w).membership.recover

theorem greeting_eq (w : Int) (n : Node) (found : List (String × String)) : ∃ peers events,
    greeting w n found = { (n.pruneDeparted w).membership.recover with peers, events } := by
  have each : ∀ (met : List Beacon) (m : Membership), ∃ peers events,
      met.foldl Membership.greet m = { m with peers, events } := by
    intro met
    induction met with
    | nil => exact fun m => ⟨m.peers, m.events, rfl⟩
    | cons b rest ih => exact fun m => ih (m.greet b)
  exact each ..

/-- **What a sweep has come to** that looked through the records of a scan at some time of the wall
clock, and that found some routes of the dead. -/
structure Tallied (w : Int) (found : List (String × String)) (routes : List String) (s : Site)
    (dead : List NodeId) (s' : Site) : Prop where
  verdict : dead = names (perished w s.node found) ++
    ((greeting w s.node found).peers.map (·.1)).filter fun p =>
      !(names (living w s.node found)).contains p && !(names (perished w s.node found)).contains p
  site : Site.Becomes (fun _ => (greeting w s.node found).mourn dead)
    ((perished w s.node found).map (·.1) ++ routes) s s'
  routes : ∀ t, s'.now ≤ t → ∀ k v, s.store.value? t k = some v →
    k ∉ (perished w s.node found).map (·.1) →
      (k ∈ routes ↔ RoutesTo s.node.membership.keys dead k v)

/-- **The run of a sweep** at a calm site: it scans, looks at the clock, and comes to what it comes to. -/
theorem sweep_ends {dead : List NodeId} (keyed : s.store.Keyed)
    (ended : (afar sweep).Ends calm s dead s') :
    ∃ t u found routes, Scanned s.node.membership.keys.nodeStart t s found ∧ t ≤ u ∧ u ≤ s'.now ∧
      Tallied (s.node.wall + ((u : Int) - s.now)) found routes s dead s' := by
  unfold sweep at ended
  rw [ends_afar_get_bind] at ended
  obtain ⟨reply, s₁, scanned, ended⟩ := ends_afar_bind.mp ended
  obtain ⟨t, found, rfl, scanned, before, began⟩ := scan_ends keyed scanned
  dsimp only at ended
  rw [ends_afar_view_bind, ends_afar_modify_bind] at ended
  obtain ⟨⟨seen, expired⟩, s₂, inspected, ended⟩ := ends_afar_bind.mp ended
  rw [began.wall] at inspected
  generalize clock : s.node.wall + ((s₁.now : Int) - s.now) = w at inspected
  have pruned : Site.Becomes (fun _ => (s.node.pruneDeparted w).membership.recover) []
      s₁ (s₁.setNode (s₁.node.pruneDeparted w)) := by
    refine Site.becomes_setNode rfl ?_ rfl
    rw [pruneDeparted, modifyMembership, began.membership]
    rfl
  have begun := began.trans pruned
  obtain ⟨lists, reviewed⟩ := inspect_ends (by rw [begun.membership]; rfl) inspected
  have census : (s₁.setNode (s₁.node.pruneDeparted w)).node.census found
      = (s.node.pruneDeparted w).census found := by
    have id : (s₁.setNode (s₁.node.pruneDeparted w)).node.id = (s.node.pruneDeparted w).id := begun.id
    exact census_congr id (by rw [begun.membership]; rfl) found
  have ttl : (s₁.setNode (s₁.node.pruneDeparted w)).node.membership.ttl = s.node.membership.ttl := by
    rw [begun.membership]
    rfl
  rw [census, ttl, List.nil_append, List.nil_append] at lists
  rw [census, ttl] at reviewed
  obtain ⟨rfl, rfl⟩ := Prod.mk.inj lists
  have reached : Site.Becomes (fun _ => greeting w s.node found)
      ((perished w s.node found).map (·.1)) s s₂ := begun.trans reviewed
  obtain ⟨peers, events, same⟩ := greeting_eq w s.node found
  obtain ⟨verdict, routes, rest, gone⟩ := verdicts_ends (reached.keyed keyed)
    (by rw [reached.membership, same]; rfl) ended
  rw [vanished, reached.membership] at verdict
  refine ⟨t, s₁.now, found, routes, scanned, before, ?_, ?_⟩
  · exact Nat.le_trans (Nat.le_trans pruned.now_le reviewed.now_le) rest.now_le
  · rw [clock]
    refine ⟨verdict, reached.trans rest, fun t later k v seen unlisted => ?_⟩
    have still : s₂.store.value? t k = some v :=
      (reached.value?_eq_some_iff keyed (Nat.le_trans rest.now_le later)).mpr ⟨seen, unlisted⟩
    rw [gone t later k v still, reached.membership, same]
    rfl

end Node

end SessionHub

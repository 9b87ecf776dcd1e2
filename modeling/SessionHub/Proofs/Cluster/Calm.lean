import SessionHub.Proofs.Cluster.Site
import SessionHub.Proofs.Entries
import SessionHub.Proofs.Program.Solo
import SessionHub.Proofs.Program.Together

/-!
# A calm site

A site is **calm** when nothing goes on but one program of its node, and when the store does whatever it
is asked. Calls still take their time, on the way out and on the way back, and with them go the node's
clock and the store's; what stands in the store may be over before somebody comes to look. And where the
program has jobs done side by side, these are programs of the node as well: any of them may go on at any
time, and the one that has them done waits until each has come to its end.

`Site.Becomes` says what has become of a site after a while: what its node knows of the cluster, and
which keys the store has lost. It says so of the values to be seen from then on, for that alone does not
depend on when the store throws away what is over.
-/

namespace SessionHub

/-- A site some time later. -/
def Site.later (d : Nat) (s : Site) : Site :=
  { s with now := s.now + d, node := { s.node with wall := s.node.wall + d } }

/-- A store call came to a good end: a node that was degraded is well again, and observers are told. -/
def Membership.recover (m : Membership) : Membership :=
  { m with degraded := false, events := m.events ++ if m.degraded then [.recovered] else [] }

theorem Membership.recover_of_well {m : Membership} (well : m.degraded = false) : m.recover = m := by
  cases m
  subst well
  simp [recover]

theorem Node.membership_storeSucceeded (n : Node) :
    n.storeSucceeded.membership = n.membership.recover := by
  cases degraded : n.membership.degraded with
  | true =>
    simp only [Node.storeSucceeded, degraded, if_true, Membership.recover]
    rfl
  | false =>
    simp only [Node.storeSucceeded, degraded, Membership.recover_of_well degraded]
    rfl

theorem Node.clock_storeSucceeded (n : Node) :
    n.storeSucceeded.id = n.id ∧ n.storeSucceeded.wall = n.wall := by
  unfold Node.storeSucceeded
  split <;> exact ⟨rfl, rfl⟩

/-! ## What becomes of a site -/

namespace Site

/-- **What has become of a site**: what the node knows of its cluster has changed in some way, some keys
have been deleted, and all clocks have gone on alike. -/
structure Becomes (change : Membership → Membership) (gone : List String) (s s' : Site) : Prop where
  id : s'.node.id = s.node.id
  membership : s'.node.membership = change s.node.membership
  clock : ∃ d : Nat, s'.now = s.now + d ∧ s'.node.wall = s.node.wall + d
  keyed : s.store.Keyed → s'.store.Keyed
  values : s.store.Keyed → ∀ t, s'.now ≤ t → ∀ k,
    s'.store.value? t k = if k ∈ gone then none else s.store.value? t k

variable {s s' s'' : Site} {change change' : Membership → Membership} {gone gone' : List String}

theorem Becomes.refl (s : Site) : Becomes (fun m => m) [] s s :=
  ⟨rfl, rfl, ⟨0, rfl, (Int.add_zero _).symm⟩, fun keyed => keyed, fun _ _ _ _ => by simp⟩

theorem Becomes.now_le (h : Becomes change gone s s') : s.now ≤ s'.now := by
  obtain ⟨d, now, _⟩ := h.clock
  omega

/-- How far the clock of the node has gone. -/
theorem Becomes.wall (h : Becomes change gone s s') :
    s'.node.wall = s.node.wall + ((s'.now : Int) - s.now) := by
  obtain ⟨d, now, wall⟩ := h.clock
  omega

theorem Becomes.trans (h : Becomes change gone s s') (h' : Becomes change' gone' s' s'') :
    Becomes (fun m => change' (change m)) (gone ++ gone') s s'' where
  id := h'.id.trans h.id
  membership := by rw [h'.membership, h.membership]
  clock := by
    obtain ⟨d, now, wall⟩ := h.clock
    obtain ⟨d', now', wall'⟩ := h'.clock
    exact ⟨d + d', by omega, by omega⟩
  keyed keyed := h'.keyed (h.keyed keyed)
  values keyed t later k := by
    rw [h'.values (h.keyed keyed) t later k, h.values keyed t (Nat.le_trans h'.now_le later) k]
    by_cases hk : k ∈ gone <;> by_cases hk' : k ∈ gone' <;> simp [hk, hk']

/-- What is seen from then on. -/
theorem Becomes.value?_eq_some_iff (h : Becomes change gone s s') (keyed : s.store.Keyed) {t : Nat}
    (later : s'.now ≤ t) {k v : String} :
    s'.store.value? t k = some v ↔ s.store.value? t k = some v ∧ k ∉ gone := by
  rw [h.values keyed t later k]
  by_cases hk : k ∈ gone <;> simp [hk]

/-- The same, told in another way. -/
theorem Becomes.congr (h : Becomes change gone s s')
    (same : change s.node.membership = change' s.node.membership)
    (keys : ∀ k, k ∈ gone ↔ k ∈ gone') : Becomes change' gone' s s' :=
  ⟨h.id, h.membership.trans same, h.clock, h.keyed, fun keyed t later k => by
    rw [h.values keyed t later k]
    exact if_congr (keys k) rfl rfl⟩

theorem becomes_later (d : Nat) (s : Site) : Becomes (fun m => m) [] s (s.later d) :=
  ⟨rfl, rfl, ⟨d, rfl, rfl⟩, fun keyed => keyed, fun _ _ _ _ => by simp [Site.later]⟩

/-- The node has changed in what it knows. -/
theorem becomes_setNode {n : Node} (id : n.id = s.node.id)
    (membership : n.membership = change s.node.membership) (wall : n.wall = s.node.wall) :
    Becomes change [] s (s.setNode n) :=
  ⟨id, membership, ⟨0, rfl, wall.trans (Int.add_zero _).symm⟩, fun keyed => keyed,
    fun _ _ _ _ => by simp [setNode]⟩

/-- The node has written something down. -/
theorem becomes_record (change : Journal → Journal) (s : Site) :
    Becomes (fun m => m) [] s (s.setNode (s.node.record change)) :=
  becomes_setNode rfl rfl rfl

theorem becomes_storeSucceeded (s : Site) :
    Becomes Membership.recover [] s (s.setNode s.node.storeSucceeded) := by
  obtain ⟨id, wall⟩ := s.node.clock_storeSucceeded
  exact becomes_setNode id s.node.membership_storeSucceeded wall

/-- The store gets to a call, from which a value is lost under some keys. -/
theorem becomes_land (call : StoreCall) (s : Site)
    (values : s.store.Keyed → ∀ t, s.now ≤ t → ∀ k, (s.store.perform s.now call).2.value? t k
      = if k ∈ gone then none else s.store.value? t k) :
    Becomes (fun m => m) gone s (s.land call) :=
  ⟨rfl, rfl, ⟨0, rfl, (Int.add_zero _).symm⟩, fun keyed => keyed.perform s.now call, values⟩

theorem becomes_scan (start : String) (s : Site) :
    Becomes (fun m => m) [] s (s.land (.scan start)) :=
  becomes_land _ s fun keyed t later k => by
    rw [Store.value?_perform keyed later]
    exact (if_neg List.not_mem_nil).symm

theorem becomes_delete (key : String) (s : Site) :
    Becomes (fun m => m) [key] s (s.land (.delete key)) :=
  becomes_land _ s fun keyed t later k => by
    rw [Store.value?_perform keyed later]
    exact if_congr List.mem_singleton.symm rfl rfl

end Site

/-! ## Jobs on routes -/

/-- Jobs on routes, side by side, each of which is called once. Whatever they ask the store is done; and
no job has jobs of its own. -/
def routeJobs (work : List RouteWork) : System Site Passage Passage.Answer Bool (Fin work.length) where
  program i := Node.afar (Node.routeProgram work[i])
  admits i _ notes _ := .called i ∉ notes
  serves
    | .out (.store call), s, a, s' => a = .ok (s.reply call) ∧ s' = s.land call
    | .out (.together _), s, _, s' => s' = s
    | .back, s, _, s' => s' = s
  mayDrop _ := False
  turns s s' := ∃ d, s' = s.later d

/-- Whether a job has come to a good end. -/
def Note.isGood {ι : Type} : Note Site Passage Bool ι → Bool
  | .returned _ good => good
  | _ => false

/-- **Jobs on routes are done**: each has been called and is over, so many of them with success. -/
def Site.Done (work : List RouteWork) (s : Site) (good : Nat) (s' : Site) : Prop :=
  ∃ p, (routeJobs work).Reaches s p ∧ p.Finished ∧ p.notes.countP Note.isGood = good ∧ p.state = s'

theorem Site.exists_done (work : List RouteWork) (s : Site) : ∃ good s', s.Done work good s' := by
  have answered : ∀ q s, ∃ a s', (routeJobs work).serves q s a s' := by
    intro q s
    match q with
    | .out (.store call) => exact ⟨_, _, rfl, rfl⟩
    | .out (.together _) => exact ⟨(0 : Nat), s, rfl⟩
    | .back => exact ⟨(), s, rfl⟩
  obtain ⟨p, run, finished⟩ := System.exists_finished answered (fun uncalled => uncalled)
    (List.finRange work.length) List.mem_finRange s
  exact ⟨_, _, p, run, finished, rfl, rfl⟩

/-- **The deletion of some routes**: while it goes on some of the keys are gone, and a job has deleted
its key. -/
def purging (keys : List String) : Pact (routeJobs (keys.map .purge)) where
  changes s s' := ∃ gone, (∀ k ∈ gone, k ∈ keys) ∧ Site.Becomes (fun m => m) gone s s'
  brought i s := s.store.Keyed ∧ ∀ key, (keys.map RouteWork.purge)[i] = .purge key →
    ∀ t, s.now ≤ t → s.store.value? t key = none
  refl s := ⟨[], by simp, .refl s⟩
  trans := by
    intro s t u first second
    obtain ⟨gone, theirs, h⟩ := first
    obtain ⟨gone', theirs', h'⟩ := second
    exact ⟨gone ++ gone', List.forall_mem_append.mpr ⟨theirs, theirs'⟩, h.trans h'⟩
  stays := by
    intro i s t brought change
    obtain ⟨keyed, deleted⟩ := brought
    obtain ⟨gone, _, h⟩ := change
    refine ⟨h.keyed keyed, fun key same u later => ?_⟩
    rw [h.values keyed u later, deleted key same u (Nat.le_trans h.now_le later), ite_self]
  turns := by
    intro s t turned
    obtain ⟨d, rfl⟩ := turned
    exact ⟨[], by simp, s.becomes_later d⟩
  kept _ := id

/-- A job that deletes a route does so. -/
theorem purging_attains {keys : List String} {s : Site} (keyed : s.store.Keyed)
    (well : s.node.membership.degraded = false) (i : Fin (keys.map RouteWork.purge).length) :
    (purging keys).Attains i ((routeJobs (keys.map .purge)).program i) s := by
  obtain ⟨key, listed, same⟩ := List.mem_map.mp (List.getElem_mem i.isLt)
  show (purging keys).Attains i (Node.afar (Node.routeProgram (keys.map RouteWork.purge)[i])) s
  rw [show (keys.map RouteWork.purge)[i] = .purge key from same.symm]
  intro t a u since served
  obtain ⟨gone, _, begun⟩ := since
  obtain ⟨rfl, rfl⟩ := served
  have deleted : (purging keys).brought i (t.land (.delete key)) := by
    refine ⟨(begun.keyed keyed).perform _ _, fun key' same' u later => ?_⟩
    obtain rfl : key = key' := RouteWork.purge.inj (same.trans same')
    rw [(t.becomes_delete key).values (begun.keyed keyed) u later,
      if_pos (List.mem_singleton_self key)]
  refine ⟨⟨[key], by simpa using listed, t.becomes_delete key⟩, ?_⟩
  intro u _ v waited back
  obtain rfl : v = u := back
  refine ⟨(purging keys).refl v, ?_⟩
  have later := waited
  obtain ⟨_, _, still⟩ := later
  have quiet : Membership.recover v.node.membership = v.node.membership := by
    refine Membership.recover_of_well ?_
    rw [still.membership]
    exact (congrArg Membership.degraded begun.membership).trans well
  have ended : Site.Becomes (fun m => m) [] v (v.setNode v.node.storeSucceeded) :=
    v.becomes_storeSucceeded.congr quiet fun _ => Iff.rfl
  exact ⟨⟨[], by simp, ended⟩, (purging keys).stays ((purging keys).stays deleted waited)
    ⟨[], by simp, ended⟩⟩

/-- **When the jobs are done, the routes are gone**, and nothing else. -/
theorem Site.becomes_of_done {keys : List String} {s s' : Site} {good : Nat} (keyed : s.store.Keyed)
    (well : s.node.membership.degraded = false) (done : s.Done (keys.map .purge) good s') :
    Becomes (fun m => m) keys s s' := by
  obtain ⟨p, run, finished, rfl, rfl⟩ := done
  have holds := (purging keys).attained (fun i t since => by
    obtain ⟨_, _, h⟩ := since
    exact purging_attains (h.keyed keyed) (by rw [h.membership]; exact well) i) run
  obtain ⟨gone, theirs, h⟩ := holds.since
  refine ⟨h.id, h.membership, h.clock, h.keyed, fun keyed t later k => ?_⟩
  split
  · rename_i listed
    obtain ⟨i, small, same⟩ := List.getElem_of_mem (List.mem_map_of_mem (f := RouteWork.purge) listed)
    rcases holds.called ⟨i, small⟩ (finished.called _) with excepted | brought | ⟨f, waits, _⟩
    · exact excepted.elim
    · exact brought.2 k same t later
    · rw [finished.idle] at waits
      exact absurd waits List.not_mem_nil
  · rename_i unlisted
    rw [h.values keyed t later, if_neg fun hk => unlisted (theirs k hk)]

/-! ## Programs of the node -/

/-- What surrounds a program of a calm site. -/
def calm : Surroundings Site Passage Passage.Answer where
  passes s s' := ∃ d, s' = s.later d
  serves
    | .out (.store call), s, a, s' => a = .ok (s.reply call) ∧ s' = s.land call
    | .out (.together work), s, good, s' => s.Done work good s'
    | .back, s, _, s' => s' = s

/-- Whatever is asked is answered. -/
theorem calm_answers (q : Passage) (s : Site) : ∃ t x u, calm.passes s t ∧ calm.serves q t x u := by
  have now : calm.passes s (s.later 0) := ⟨0, rfl⟩
  match q with
  | .out (.store call) => exact ⟨_, _, _, now, rfl, rfl⟩
  | .out (.together work) =>
    obtain ⟨good, s', done⟩ := (s.later 0).exists_done work
    exact ⟨_, good, s', now, done⟩
  | .back => exact ⟨_, (), _, now, rfl⟩

namespace Node

section Rules

variable {α β : Type} {X : Surroundings Site Passage Passage.Answer} {s s' : Site} {b : β}

/-- One program of the node after another. -/
theorem ends_afar_bind {p : ClusterProgram α} {f : α → ClusterProgram β} :
    (afar (p >>= f)).Ends X s b s' ↔ ∃ a t, (afar p).Ends X s a t ∧ (afar (f a)).Ends X t b s' := by
  rw [afar_bind]
  exact Program.ends_bind

theorem ends_afar_get_bind {f : Node → ClusterProgram β} :
    (afar (Program.get >>= f)).Ends X s b s' ↔ (afar (f s.node)).Ends X s b s' := Iff.rfl

theorem ends_afar_view_bind {view : Node → α} {f : α → ClusterProgram β} :
    (afar (Program.view view >>= f)).Ends X s b s' ↔ (afar (f (view s.node))).Ends X s b s' := Iff.rfl

theorem ends_afar_modify_bind {change : Node → Node} {f : Unit → ClusterProgram β} :
    (afar (Program.modify change >>= f)).Ends X s b s' ↔
      (afar (f ())).Ends X (s.setNode (change s.node)) b s' := Iff.rfl

theorem ends_afar_update_bind {change : Node → α × Node} {f : α → ClusterProgram β} :
    (afar (Program.update change >>= f)).Ends X s b s' ↔
      (afar (f (change s.node).1)).Ends X (s.setNode (change s.node).2) b s' := Iff.rfl

/-- A program of the node whose result is not asked for. -/
theorem ends_afar_discard {p : ClusterProgram α} :
    (afar (discard p)).Ends X s () s' ↔ ∃ a, (afar p).Ends X s a s' := by
  refine ends_afar_bind.trans (exists_congr fun a => ?_)
  constructor
  · intro h
    obtain ⟨_, ended, _, rfl⟩ := h
    exact ended
  · exact fun ended => ⟨s', ended, rfl, rfl⟩

end Rules

variable {s s' : Site} {op : String}

/-- A call to the store: it lands some time after it is made, and some time after that the node is told
of its success. -/
theorem guarded_ends {call : StoreCall} {reply : Option call.Reply}
    (ended : (afar (guarded op call)).Ends calm s reply s') :
    ∃ d, reply = some ((s.later d).reply call) ∧
      Site.Becomes Membership.recover [] ((s.later d).land call) s' := by
  obtain ⟨_, _, _, ⟨d, rfl⟩, ⟨rfl, rfl⟩, _, _, _, ⟨d', rfl⟩, rfl, rfl, rfl⟩ := ended
  exact ⟨d, rfl, (Site.becomes_later d' _).trans (Site.becomes_storeSucceeded _)⟩

/-- A deletion. -/
theorem delete_ends {key : String} {reply : Option Unit}
    (ended : (afar (guarded op (.delete key))).Ends calm s reply s') :
    Site.Becomes Membership.recover [key] s s' := by
  obtain ⟨d, _, rest⟩ := guarded_ends ended
  exact ((s.becomes_later d).trans (Site.becomes_delete key _)).trans rest

/-- What a scan at some time has found: the live values whose keys have the beginning, no key twice. -/
structure Scanned (start : String) (t : Nat) (s : Site) (found : List (String × String)) : Prop where
  late : s.now ≤ t
  distinct : (found.map (·.1)).Nodup
  mem_iff : ∀ k v, (k, v) ∈ found ↔
    s.store.value? t k = some v ∧ Store.startsWith k start = true

/-- **A scan** finds what there is at some time after it is asked for. -/
theorem scan_ends {start : String} {reply : Option (List (String × String))}
    (keyed : s.store.Keyed) (ended : (afar (guarded op (.scan start))).Ends calm s reply s') :
    ∃ t found, reply = some found ∧ Scanned start t s found ∧ t ≤ s'.now ∧
      Site.Becomes Membership.recover [] s s' := by
  obtain ⟨d, found, rest⟩ := guarded_ends ended
  have began := (s.becomes_later d).trans (Site.becomes_scan start _)
  refine ⟨s.now + d, _, found, ⟨Nat.le_add_right _ _, ?_, fun k v => ?_⟩, rest.now_le,
    began.trans rest⟩
  · exact Store.pairs_nodup keyed _ start
  · exact Store.mem_pairs_iff keyed

/-- **Routes are deleted side by side.** -/
theorem together_ends {keys : List String} {good : Nat} (keyed : s.store.Keyed)
    (well : s.node.membership.degraded = false)
    (ended : (afar (together (keys.map .purge))).Ends calm s good s') :
    Site.Becomes (fun m => m) keys s s' := by
  obtain ⟨_, _, _, ⟨d, rfl⟩, done, _, _, _, ⟨d', rfl⟩, rfl, rfl, rfl⟩ := ended
  have began := s.becomes_later d
  have ran := Site.becomes_of_done (began.keyed keyed) well done
  exact ((began.trans ran).trans (Site.becomes_later d' _)).congr rfl (by simp)

end Node

end SessionHub

import SessionHub.Proofs.Cluster.Renewal
import SessionHub.Proofs.Hub.Runs
import SessionHub.Proofs.KeyLayout.Reading

/-!
# No route without a session

While a renewal goes on sessions depart, and their routes are written and deleted in any order. What
keeps a route from being left behind is who looks when. A departing session is off the roster before its
route is deleted, and a job writes a route before it looks at the roster for the second time. So if a
write lands after the deletion, its job finds the session gone and deletes the route again; and if a
session is registered to the end, nobody ever asked for a deletion.

A job looks for its own session, but a route can be that of several: a path and a name with a colon in it
can be cut in two ways. So what is kept at every moment is kept of routes. As long as all sessions of a
route are registered, it **stands** once a job of one of them has written it; and when all of them have
departed, it is **clear**, or **somebody sees to it**.

Of a route whose sessions fare differently nothing is promised. The one that departs deletes it, and the
one that stays may have looked by then: of two `namesakes`, one is registered to the end and left without
a route. It does not happen among sessions that a hub has let in. Their names have no colon, so each has a
route to itself (`Node.Sound.routesApart`).
-/

namespace SessionHub

namespace Site

/-- Whether no write's lifetime is over. -/
def InForce (t : Nat) (s : Site) : Prop :=
  ∀ l ∈ s.landed, ∀ key text ttl, l.call = .set key text ttl → t < l.time + ttl

end Site

namespace Worksite

variable {base : Node} {w w' : Worksite} {key : String} {call : StoreCall}

/-- Whether a session is registered. -/
abbrev Has (r : SessionRef) (w : Worksite) : Prop := r ∈ w.node.floor.registered

/-- **A route stands**: from now on, as long as no write's lifetime is over, the store says that the node
has it. -/
def Stands (base : Node) (key : String) (w : Worksite) : Prop :=
  ∀ t, w.site.now ≤ t → w.site.InForce t → w.site.store.value? t key = some base.id.text

/-- **A route is clear**: from now on the store says nothing of it. -/
def Clear (key : String) (w : Worksite) : Prop :=
  ∀ t, w.site.now ≤ t → w.site.store.value? t key = none

/-- Whether all sessions of a route are registered still. -/
def Whole (base : Node) (key : String) (w : Worksite) : Prop :=
  ∀ r ∈ base.floor.registered, base.routeOf r = key → w.Has r

/-- Whether none of them is. -/
def Deserted (base : Node) (key : String) (w : Worksite) : Prop :=
  ∀ r ∈ base.floor.registered, base.routeOf r = key → ¬ w.Has r

/-- Whether a route stands as long as nobody has left it. -/
def Upheld (base : Node) (key : String) (w : Worksite) : Prop := w.Whole base key → w.Stands base key

/-- A while in which nothing happens to a route. -/
structure Alike (key : String) (w w' : Worksite) : Prop where
  time : w.site.now ≤ w'.site.now
  value : ∀ t, w'.site.now ≤ t → w'.site.store.value? t key = w.site.store.value? t key
  landed : w.site.landed ⊆ w'.site.landed

theorem Alike.upheld (h : Alike key w w') (stays : ∀ r ∈ base.floor.registered, w'.Has r → w.Has r)
    (upheld : w.Upheld base key) : w'.Upheld base key := by
  intro whole t later inForce
  rw [h.value t later]
  refine upheld (fun r first own => stays r first (whole r first own)) t (Nat.le_trans h.time later) ?_
  exact fun l hl => inForce l (h.landed hl)

theorem Alike.clear (h : Alike key w w') (clear : w.Clear key) : w'.Clear key := by
  intro t later
  rw [h.value t later]
  exact clear t (Nat.le_trans h.time later)

theorem alike_setNode (n : Node) : Alike key w (w.setNode n) :=
  ⟨Nat.le_refl _, fun _ _ => rfl, fun _ hl => hl⟩

/-- A call that does not concern a route. -/
theorem alike_land (keyed : w.site.store.Keyed) (other : ¬ call.Concerns key) :
    Alike key w (w.land call) where
  time := Nat.le_refl _
  value t later := by
    refine (Store.value?_perform keyed later call _).trans ?_
    cases call with
    | set k text ttl => exact if_neg (Ne.symm other)
    | delete k => exact if_neg (Ne.symm other)
    | _ => rfl
  landed _ hl := List.mem_append_left _ hl

theorem stands_land (keyed : w.site.store.Keyed) (ttl : Nat) :
    (w.land (.set key base.id.text ttl)).Stands base key := by
  intro t later inForce
  refine (Store.value?_perform keyed later _ _).trans ?_
  have written := inForce _ (List.mem_append_right _ (List.mem_singleton_self _)) _ _ _ rfl
  exact (if_pos rfl).trans (if_pos written)

theorem clear_land (keyed : w.site.store.Keyed) : (w.land (.delete key)).Clear key := by
  intro t later
  exact (Store.value?_perform keyed later _ _).trans (if_pos rfl)

/-- **What no step undoes**: nobody comes back, what is over is over, and routes stand that stood, unless
somebody leaves them. -/
structure Onward (base : Node) (w w' : Worksite) : Prop where
  kin : base.Kin w'.node
  keyed : w'.site.store.Keyed
  stays : ∀ r ∈ base.floor.registered, w'.Has r → w.Has r
  upheld : ∀ r ∈ base.floor.registered, w.Upheld base (base.routeOf r) →
    w'.Upheld base (base.routeOf r)
  finished : w.finished ⊆ w'.finished

/-- A refresh was told rightly how many routes stand: not fewer than there are sessions left, and not
more than there were. -/
structure Counted (base : Node) (w : Worksite) (k : Nat) : Prop where
  each : ∀ r ∈ base.floor.registered, ∃ good, (r, good) ∈ w.finished
  enough : base.floor.registered.countP (· ∈ w.node.floor.registered) ≤ k
  atMost : k ≤ base.floor.registered.length

theorem Counted.onward {k : Nat} (h : Counted base w k) (onward : Onward base w w') :
    Counted base w' k where
  each r first := by
    obtain ⟨good, ended⟩ := h.each r first
    exact ⟨good, onward.finished ended⟩
  enough := by
    refine Nat.le_trans ?_ h.enough
    refine List.countP_mono_left fun r first here => decide_eq_true ?_
    exact onward.stays r first (of_decide_eq_true here)
  atMost := h.atMost

end Worksite

/-! ## Who sees to what -/

/-- What a program finds that runs on a leg. -/
def Leg.Finds (base : Node) (w : Worksite) : Leg → Prop
  | .whole | .finished => True
  | .gathered => (w.finished.map fun e => RouteWork.refresh e.1).Perm (base.floor.registered.map .refresh)
  | .fresh r | .leaving r => r ∈ base.floor.registered
  | .writing r | .written r => r ∈ base.floor.registered ∧ w.Upheld base (base.routeOf r)
  | .owing r | .deleted r => r ∈ base.floor.registered ∧ ¬ w.Has r
  | .deleting r => r ∈ base.floor.registered ∧ ¬ w.Has r ∧ w.Clear (base.routeOf r)

/-- For what a program waits on a leg. -/
def Leg.Awaits (base : Node) (w : Worksite) : Leg → Errand → Prop
  | .gathered, .gather work => work = base.floor.registered.map .refresh
  | .writing r, .store call => r ∈ base.floor.registered ∧
    call = .set (base.routeOf r) base.id.text base.membership.ttl
  | .written r, .back => r ∈ base.floor.registered ∧ w.Upheld base (base.routeOf r)
  | .deleting r, .store call => r ∈ base.floor.registered ∧ ¬ w.Has r ∧
    call = .delete (base.routeOf r)
  | .deleted r, .back => r ∈ base.floor.registered ∧ ¬ w.Has r
  | _, _ => False

/-- Whether a program on a leg sees to it that a route is deleted if all sessions of it have left. -/
def Leg.SeesTo (base : Node) (key : String) : Leg → Prop
  | .writing r | .written r | .leaving r | .owing r | .deleting r => base.routeOf r = key
  | _ => False

/-- Whether somebody does. -/
def SeenTo (base : Node) (key : String) (cur : Option (Renewal × Leg))
    (W : List (Stance Errand Renewal Leg)) : Prop :=
  (∃ x ∈ cur, x.2.SeesTo base key) ∨ ∃ x ∈ W, x.standing.SeesTo base key

section

variable {base : Node} {w w' : Worksite} {key : String} {c : Renewal} {g g' : Leg} {q : Errand}
  {cur cur' : Option (Renewal × Leg)} {W W' l₁ l₂ : List (Stance Errand Renewal Leg)}
  {x : Stance Errand Renewal Leg} {h : List (Note Worksite Errand (Option Nat) Renewal)}
  {note : Note Worksite Errand (Option Nat) Renewal}

theorem Leg.Awaits.onward (awaits : g.Awaits base w q) (onward : w.Onward base w') :
    g.Awaits base w' q := by
  cases g <;> cases q
  case gathered.gather | writing.store => exact awaits
  case written.back r =>
    obtain ⟨first, upheld⟩ := awaits
    exact ⟨first, onward.upheld r first upheld⟩
  case deleting.store r call =>
    obtain ⟨first, gone, same⟩ := awaits
    exact ⟨first, mt (onward.stays r first) gone, same⟩
  case deleted.back r =>
    obtain ⟨first, gone⟩ := awaits
    exact ⟨first, mt (onward.stays r first) gone⟩
  all_goals exact awaits.elim

theorem seenTo_called (seen : SeenTo base key none W) : SeenTo base key (some (c, g)) W :=
  .inr (seen.resolve_left (by simp))

theorem seenTo_answered (seen : SeenTo base key none (l₁ ++ x :: l₂)) :
    SeenTo base key (some (x.call, x.standing)) (l₁ ++ l₂) := by
  obtain ⟨_, nobody, _⟩ | ⟨y, hy, sees⟩ := seen
  · nomatch nobody
  · rcases List.mem_append.mp hy with hy | hy
    · exact .inr ⟨y, List.mem_append_left _ hy, sees⟩
    · rcases List.mem_cons.mp hy with rfl | hy
      · exact .inl ⟨_, rfl, sees⟩
      · exact .inr ⟨y, List.mem_append_right _ hy, sees⟩

/-- A program that goes on to another leg. -/
theorem seenTo_put (seen : SeenTo base key (some (c, g)) W) (sees : g.SeesTo base key → g'.SeesTo base key) :
    SeenTo base key (some (c, g')) W := by
  refine seen.imp_left fun runs => ?_
  obtain ⟨_, ⟨⟩, mine⟩ := runs
  exact ⟨_, rfl, sees mine⟩

theorem seenTo_asked (seen : SeenTo base key (some (c, g)) W) (sees : g.SeesTo base key → g'.SeesTo base key) :
    SeenTo base key none (W ++ [⟨c, q, g'⟩]) := by
  obtain ⟨_, ⟨⟩, mine⟩ | ⟨y, hy, mine⟩ := seen
  · exact .inr ⟨_, List.mem_append_right _ (List.mem_singleton_self _), sees mine⟩
  · exact .inr ⟨y, List.mem_append_left _ hy, mine⟩

theorem seenTo_returned (seen : SeenTo base key (some (c, g)) W) (blind : ¬ g.SeesTo base key) :
    SeenTo base key none W := by
  obtain ⟨_, ⟨⟩, mine⟩ | waits := seen
  · exact absurd mine blind
  · exact .inr waits

/-! ## What is kept -/

/-- **What is kept at every moment** of a renewal. -/
structure Renewed (base : Node) (w : Worksite) (h : List (Note Worksite Errand (Option Nat) Renewal))
    (cur : Option (Renewal × Leg)) (W : List (Stance Errand Renewal Leg)) : Prop where
  kin : base.Kin w.node
  keyed : w.site.store.Keyed
  first : h = [] → w.node.floor.registered = base.floor.registered
  jobs : ∀ work, .asked .refresh (.gather work) ∈ h → work = base.floor.registered.map .refresh
  running : ∀ x ∈ cur, x.2.Finds base w
  waiting : ∀ x ∈ W, x.standing.Awaits base w x.question
  /-- A job of a session that is registered still came to a good end; and the route stands, unless somebody
  has left it. -/
  ended : ∀ e ∈ w.finished, e.1 ∈ base.floor.registered →
    (w.Has e.1 → e.2 = true) ∧ w.Upheld base (base.routeOf e.1)
  /-- Who departs is off the roster, as soon as it has begun. -/
  left : ∀ r ∈ base.floor.registered, .called (.depart r) ∈ h →
    ¬ w.Has r ∨ ∃ c, cur = some (c, .leaving r)
  /-- A route that all have departed from is clear, or somebody sees to it. -/
  clear : ∀ r ∈ base.floor.registered, w.Deserted base (base.routeOf r) →
    (∀ r' ∈ base.floor.registered, base.routeOf r' = base.routeOf r → .called (.depart r') ∈ h) →
    SeenTo base (base.routeOf r) cur W ∨ w.Clear (base.routeOf r)
  told : ∀ k, .returned .refresh (some k) ∈ h → w.Counted base k

/-- One step: what is not undone by any, and what this one has to see to. -/
theorem Renewed.step (k : Renewed base w h cur W) (onward : w.Onward base w')
    (jobs : ∀ work, note = .asked .refresh (.gather work) → work = base.floor.registered.map .refresh)
    (running : ∀ x ∈ cur', x.2.Finds base w')
    (waiting : ∀ x ∈ W', x ∈ W ∨ x.standing.Awaits base w' x.question)
    (ended : ∀ e ∈ w'.finished, e ∈ w.finished ∨
      (w'.Has e.1 → e.2 = true) ∧ w'.Upheld base (base.routeOf e.1))
    (begins : ∀ r, note = .called (.depart r) → ∃ c, cur' = some (c, .leaving r))
    (left : ∀ r c, cur = some (c, .leaving r) → ¬ w'.Has r ∨ ∃ c, cur' = some (c, .leaving r))
    (clear : ∀ r ∈ base.floor.registered, w'.Deserted base (base.routeOf r) →
      SeenTo base (base.routeOf r) cur W ∨ w.Clear (base.routeOf r) →
      SeenTo base (base.routeOf r) cur' W' ∨ w'.Clear (base.routeOf r))
    (told : ∀ k, note = .returned .refresh (some k) → w'.Counted base k) :
    Renewed base w' (h ++ [note]) cur' W' where
  kin := onward.kin
  keyed := onward.keyed
  first none' := by simp at none'
  jobs work asked := by
    rcases List.mem_append.mp asked with before | now
    · exact k.jobs work before
    · exact jobs work (List.mem_singleton.mp now).symm
  running := running
  waiting x hx := by
    rcases waiting x hx with before | now
    · exact (k.waiting x before).onward onward
    · exact now
  ended e he first := by
    rcases ended e he with before | now
    · obtain ⟨good, upheld⟩ := k.ended e before first
      exact ⟨fun here => good (onward.stays _ first here), onward.upheld _ first upheld⟩
    · exact now
  left r first called := by
    rcases List.mem_append.mp called with before | now
    · rcases k.left r first before with gone | leaves
      · exact .inl (mt (onward.stays r first) gone)
      · obtain ⟨c, leaves⟩ := leaves
        exact left r c leaves
    · exact .inr (begins r (List.mem_singleton.mp now).symm)
  clear r first deserted called := by
    by_cases now : ∃ r', base.routeOf r' = base.routeOf r ∧ note = .called (.depart r')
    · obtain ⟨r', own, now⟩ := now
      obtain ⟨c, rfl⟩ := begins r' now
      exact .inl (.inl ⟨_, rfl, own⟩)
    · have before : ∀ r' ∈ base.floor.registered, base.routeOf r' = base.routeOf r →
          .called (.depart r') ∈ h := fun r' first' own =>
        (List.mem_append.mp (called r' first' own)).resolve_right fun last =>
          now ⟨r', own, (List.mem_singleton.mp last).symm⟩
      refine clear r first deserted ?_
      -- whoever is on the roster still has only just begun to leave, and sees to the route
      by_cases leaving : ∃ r' c, base.routeOf r' = base.routeOf r ∧ cur = some (c, .leaving r')
      · obtain ⟨r', c, own, rfl⟩ := leaving
        exact .inl (.inl ⟨_, rfl, own⟩)
      · refine k.clear r first (fun r' first' own => ?_) before
        refine (k.left r' first' (before r' first' own)).resolve_right fun leaves => ?_
        obtain ⟨c, leaves⟩ := leaves
        exact leaving ⟨r', c, own, leaves⟩
  told k' returned := by
    rcases List.mem_append.mp returned with before | now
    · exact (k.told k' before).onward onward
    · exact told k' (List.mem_singleton.mp now).symm

/-- Nothing has changed. -/
theorem Renewed.onward_refl (k : Renewed base w h cur W) : w.Onward base w :=
  ⟨k.kin, k.keyed, fun _ _ here => here, fun _ _ upheld => upheld, fun _ he => he⟩

theorem Renewed.called (k : Renewed base w h none W) (ready : c.Ready base w) :
    Renewed base w (h ++ [.called c]) (some (c, c.start)) W := by
  refine k.step k.onward_refl nofun ?_ (fun _ => .inl) (fun _ => .inl) ?_ nofun ?_ nofun
  · rintro _ ⟨⟩
    cases c with
    | refresh => trivial
    | job r | depart r => exact ready
  · rintro r ⟨⟩
    exact ⟨_, rfl⟩
  · exact fun r _ _ kept => kept.imp_left seenTo_called

theorem Renewed.asked (k : Renewed base w h (some (c, g)) W) (asks : g.Asks base w q g') :
    Renewed base w (h ++ [.asked c q]) none (W ++ [⟨c, q, g'⟩]) := by
  have finds : g.Finds base w := k.running _ rfl
  refine k.step k.onward_refl ?_ (by simp) ?_ (fun _ => .inl) nofun ?_ ?_ nofun
  · rintro work ⟨⟩
    cases asks
    rfl
  · intro x hx
    refine (List.mem_append.mp hx).imp_right fun now => ?_
    obtain rfl := List.mem_singleton.mp now
    cases asks with
    | gather => rfl
    | write => exact ⟨finds, rfl⟩
    | wrote => exact finds
    | retract gone => exact ⟨finds.1, gone, rfl⟩
    | pay => exact ⟨finds.1, finds.2, rfl⟩
    | deleted => exact ⟨finds.1, finds.2.1⟩
  · rintro r _ ⟨⟩
    nomatch asks
  · rintro r _ _ (seen | clear)
    · by_cases mine : g.SeesTo base (base.routeOf r) → g'.SeesTo base (base.routeOf r)
      · exact .inl (seenTo_asked seen mine)
      · refine .inr ?_
        -- only a deletion that has landed is let go of
        cases asks with
        | @deleted r' =>
          have own : base.routeOf r' = base.routeOf r := (Classical.not_imp.mp mine).1
          exact own ▸ finds.2.2
        | gather | write => exact absurd (fun sees => sees.elim) mine
        | wrote | retract | pay => exact absurd (fun sees => sees) mine
    · exact .inr clear

theorem Renewed.returned {a : Option Nat} (k : Renewed base w h (some (c, g)) W)
    (ends : c.Ends g w a) : Renewed base w (h ++ [.returned c a]) none W := by
  have finds : g.Finds base w := k.running _ rfl
  have last : (∀ r, g ≠ .leaving r) ∧ ∀ key, ¬ g.SeesTo base key := by
    cases c <;> obtain ⟨rfl, _⟩ := ends <;> exact ⟨nofun, fun _ => id⟩
  refine k.step k.onward_refl nofun (by simp) (fun _ => .inl) (fun _ => .inl) nofun ?_ ?_ ?_
  · rintro r _ ⟨⟩
    exact absurd rfl (last.1 r)
  · exact fun r _ _ kept => kept.imp_left fun seen => seenTo_returned seen (last.2 _)
  · rintro n ⟨⟩
    obtain ⟨rfl, counts⟩ := ends
    obtain rfl := Option.some.inj counts
    have whole : (w.finished.map (·.1)).Perm base.floor.registered := by
      have perm := finds.map fun work => match work with
        | .refresh r => r
        | _ => 0
      simpa [List.map_map, Function.comp_def] using perm
    constructor
    · intro r first
      obtain ⟨e, he, rfl⟩ := List.mem_map.mp (whole.mem_iff.mpr first)
      exact ⟨e.2, he⟩
    · rw [← whole.countP_eq, List.countP_map]
      refine List.countP_mono_left fun e he here => ?_
      have first : e.1 ∈ base.floor.registered :=
        whole.mem_iff.mp (List.mem_map_of_mem he)
      exact (k.ended e he first).1 (of_decide_eq_true here)
    · rw [← whole.length_eq, List.length_map]
      exact List.countP_le_length

/-- The node has gone on, and the store is as it was. -/
theorem Renewed.onward_of_moves (k : Renewed base w h cur W) (moves : w.node.Moves w'.node)
    (keyed : w'.site.store.Keyed) (alike : ∀ r ∈ base.floor.registered, w.Alike (base.routeOf r) w')
    (finished : w'.finished = w.finished) : w.Onward base w' where
  kin := k.kin.moves moves
  keyed := keyed
  stays _ first here := k.kin.stayed moves first here
  upheld r first := (alike r first).upheld fun _ first' here => k.kin.stayed moves first' here
  finished := finished ▸ List.Subset.refl _

theorem Renewed.onward_setNode {n : Node} (k : Renewed base w h cur W) (moves : w.node.Moves n) :
    w.Onward base (w.setNode n) :=
  k.onward_of_moves moves k.keyed (fun _ _ => Worksite.alike_setNode n) rfl

/-- What a program finds is there still, whatever else goes on, if nothing lands. -/
theorem Leg.Finds.onward (finds : g.Finds base w) (onward : w.Onward base w')
    (alike : ∀ r ∈ base.floor.registered, w.Alike (base.routeOf r) w')
    (finished : w'.finished = w.finished) : g.Finds base w' := by
  cases g with
  | whole | finished => trivial
  | gathered => rwa [Finds, finished]
  | fresh r | leaving r => exact finds
  | writing r | written r => exact ⟨finds.1, onward.upheld r finds.1 finds.2⟩
  | owing r | deleted r => exact ⟨finds.1, mt (onward.stays r finds.1) finds.2⟩
  | deleting r =>
    exact ⟨finds.1, mt (onward.stays r finds.1) finds.2.1, (alike r finds.1).clear finds.2.2⟩

/-- A job is over, and what it says is so. -/
theorem Renewed.finish {r : SessionRef} {good : Bool} (k : Renewed base w h (some (c, g)) W)
    (stays : ∀ r, g ≠ .leaving r) (blind : ∀ key, g.SeesTo base key → ¬ w.Deserted base key)
    (true' : (w.Has r → good = true) ∧ w.Upheld base (base.routeOf r)) :
    Renewed base (w.finish r good) (h ++ [.changed w (w.finish r good)]) (some (c, .finished)) W := by
  have onward : w.Onward base (w.finish r good) :=
    ⟨k.kin, k.keyed, fun _ _ here => here, fun _ _ upheld => upheld, List.subset_append_left _ _⟩
  refine k.step onward nofun ?_ (fun _ => .inl) ?_ nofun ?_ ?_ nofun
  · rintro _ ⟨⟩
    trivial
  · intro e he
    refine (List.mem_append.mp he).imp_right fun now => ?_
    obtain rfl := List.mem_singleton.mp now
    exact true'
  · rintro r' _ ⟨⟩
    exact absurd rfl (stays r')
  · exact fun r' _ deserted kept =>
      kept.imp_left fun seen => seenTo_put seen fun sees => absurd deserted (blind _ sees)

theorem Renewed.put (k : Renewed base w h (some (c, g)) W) (puts : g.Puts w w' g') :
    Renewed base w' (h ++ [.changed w w']) (some (c, g')) W := by
  have finds : g.Finds base w := k.running _ rfl
  cases puts with
  | @moves _ n moves =>
    have onward := k.onward_setNode moves
    refine k.step onward nofun ?_ (fun _ => .inl) (fun _ => .inl) nofun ?_ ?_ nofun
    · rintro _ ⟨⟩
      exact finds.onward onward (fun _ _ => Worksite.alike_setNode n) rfl
    · rintro r _ ⟨⟩
      exact .inr ⟨c, rfl⟩
    · exact fun _ _ _ => .imp_right (Worksite.alike_setNode n).clear
  | @leaves r n moves gone =>
    have onward := k.onward_setNode moves
    refine k.step onward nofun ?_ (fun _ => .inl) (fun _ => .inl) nofun ?_ ?_ nofun
    · rintro _ ⟨⟩
      exact ⟨finds, gone⟩
    · rintro r _ ⟨⟩
      exact .inl gone
    · exact fun _ _ _ => .imp (fun seen => seenTo_put seen id) (Worksite.alike_setNode n).clear
  | @stands r here =>
    refine k.finish nofun ?_ ⟨fun _ => rfl, finds.2⟩
    exact fun _ own deserted => deserted r finds.1 own here
  | @skipped r gone =>
    exact k.finish nofun (fun _ => False.elim)
      ⟨fun here => absurd here gone, fun whole => absurd (whole r finds rfl) gone⟩
  | @undone r =>
    exact k.finish nofun (fun _ => False.elim)
      ⟨fun here => absurd here finds.2, fun whole => absurd (whole r finds.1 rfl) finds.2⟩

theorem Renewed.turned (k : Renewed base w h none W) (meantime : w.Meantime w') :
    Renewed base w' (h ++ [.changed w w']) none W := by
  have alike : ∀ r ∈ base.floor.registered, w.Alike (base.routeOf r) w' := by
    intro r first
    have there := k.kin.first r first
    have same : w.node.routeOf r = base.routeOf r := by
      rw [Node.routeOf, k.kin.path r there, k.kin.id r there, k.kin.routeKey]
    refine ⟨meantime.time, fun t later => ?_, meantime.landed ▸ List.Subset.refl _⟩
    rw [← same]
    exact meantime.routes r (Nat.lt_of_lt_of_le there k.kin.size) t later
  have onward := k.onward_of_moves meantime.node meantime.keyed alike meantime.finished
  refine k.step onward nofun (by simp) (fun _ => .inl) ?_ nofun nofun ?_ nofun
  · exact fun e he => .inl (meantime.finished ▸ he)
  · exact fun r first _ kept => kept.imp_right (alike r first).clear

/-- A call lands that is for the route of a session. -/
theorem Renewed.land {call : StoreCall} {r : SessionRef}
    (k : Renewed base w h none (l₁ ++ x :: l₂)) (first : r ∈ base.floor.registered)
    (own : ∀ key, call.Concerns key → key = base.routeOf r)
    (upheld : (w.land call).Upheld base (base.routeOf r))
    (finds : x.standing.Finds base (w.land call))
    (clear : ¬ w.Has r → x.standing.SeesTo base (base.routeOf r) ∨ (w.land call).Clear (base.routeOf r)) :
    Renewed base (w.land call) (h ++ [.answered x.call x.question]) (some (x.call, x.standing))
      (l₁ ++ l₂) := by
  have alike : ∀ r', base.routeOf r' ≠ base.routeOf r → w.Alike (base.routeOf r') (w.land call) :=
    fun r' other => Worksite.alike_land k.keyed fun concerns => other (own _ concerns)
  have onward : w.Onward base (w.land call) := by
    refine ⟨k.kin, k.keyed.perform _ _, fun _ _ here => here, fun r' _ before => ?_, fun _ he => he⟩
    by_cases same : base.routeOf r' = base.routeOf r
    · rwa [same]
    · exact (alike r' same).upheld (fun _ _ here => here) before
  have others : l₁ ++ l₂ ⊆ l₁ ++ x :: l₂ := ((List.sublist_cons_self x l₂).append_left l₁).subset
  refine k.step onward nofun ?_ (fun _ hy => .inl (others hy)) (fun _ => .inl) nofun nofun ?_ nofun
  · rintro _ ⟨⟩
    exact finds
  · rintro r' _ deserted (seen | clear')
    · exact .inl (seenTo_answered seen)
    · by_cases same : base.routeOf r' = base.routeOf r
      · rw [same] at deserted ⊢
        exact (clear (deserted r first rfl)).imp_left fun sees => .inl ⟨_, rfl, sees⟩
      · exact .inr ((alike r' same).clear clear')

/-- Somebody is answered, and nothing has landed. -/
theorem Renewed.resumed (k : Renewed base w h none (l₁ ++ x :: l₂))
    (finds : x.standing.Finds base w) :
    Renewed base w (h ++ [.answered x.call x.question]) (some (x.call, x.standing)) (l₁ ++ l₂) := by
  have others : l₁ ++ l₂ ⊆ l₁ ++ x :: l₂ := ((List.sublist_cons_self x l₂).append_left l₁).subset
  refine k.step k.onward_refl nofun ?_ (fun _ hy => .inl (others hy)) (fun _ => .inl) nofun nofun ?_
    nofun
  · rintro _ ⟨⟩
    exact finds
  · exact fun r' _ _ kept => kept.imp_left seenTo_answered

theorem Renewed.answered (k : Renewed base w h none (l₁ ++ x :: l₂)) {a : x.question.Answer}
    (served : renewing.serves x.question w a w') :
    Renewed base w' (h ++ [.answered x.call x.question]) (some (x.call, x.standing)) (l₁ ++ l₂) := by
  have awaits : x.standing.Awaits base w x.question := k.waiting x (by simp)
  obtain ⟨c, q, g⟩ := x
  match g, q, a, served, awaits with
  | .gathered, .gather _, _, served, awaits =>
    obtain ⟨rfl, whole⟩ := served
    obtain rfl := awaits
    exact k.resumed whole
  | .written r, .back, _, served, awaits =>
    obtain rfl : w' = w := served
    exact k.resumed awaits
  | .deleted r, .back, _, served, awaits =>
    obtain rfl : w' = w := served
    exact k.resumed awaits
  | .writing r, .store _, _, served, awaits =>
    obtain ⟨_, rfl⟩ := served
    obtain ⟨first, rfl⟩ := awaits
    have upheld : (w.land _).Upheld base (base.routeOf r) := fun _ =>
      Worksite.stands_land k.keyed base.membership.ttl
    exact k.land first (fun _ same => same.symm) upheld ⟨first, upheld⟩ fun _ => .inl rfl
  | .deleting r, .store _, _, served, awaits =>
    obtain ⟨_, rfl⟩ := served
    obtain ⟨first, gone, rfl⟩ := awaits
    have clear : (w.land _).Clear (base.routeOf r) := Worksite.clear_land k.keyed
    exact k.land first (fun _ same => same.symm) (fun whole => absurd (whole r first rfl) gone)
      ⟨first, gone, clear⟩ fun _ => .inr clear

/-- Whatever may be begun is ready. -/
theorem Renewed.ready (k : Renewed base w h none W)
    (admitted : renewing.admits c w h (W.map Stance.tag)) : c.Ready base w := by
  have listed : ∀ r, IsFor r h → r ∈ base.floor.registered := by
    intro r isFor
    obtain ⟨work, asked, job⟩ := isFor
    rw [k.jobs work asked] at job
    obtain ⟨r', first, same⟩ := List.mem_map.mp job
    exact RouteWork.refresh.inj same ▸ first
  cases c with
  | refresh => exact k.first admitted
  | job r => exact listed r admitted.1
  | depart r => exact listed r admitted

/-- The discipline of renewals and departures. -/
def renewed (base : Node) (present : base.membership.destroyed = false) :
    Discipline renewing Leg where
  toConduct := renewal base
  start := Renewal.start
  ending := Renewal.Ends
  holds w h cur W _ := Renewed base w h cur W
  heeds k admitted := Renewal.heeds k.kin present (k.ready admitted)
  called k admitted := k.called (k.ready admitted)
  answered k served := ⟨(k.answered served).kin, k.answered served⟩
  put k puts := k.put puts
  asked k asks := k.asked asks
  returned k ends := k.returned ends
  dropped _ droppable := droppable.elim
  turned k meantime := k.turned meantime

end

/-! ## When all is over -/

/-- Whether a session fares as all do that have the same route: they are registered still, or have left. -/
def Worksite.OneFate (base : Node) (r : SessionRef) (w : Worksite) : Prop :=
  ∀ r' ∈ base.floor.registered, base.routeOf r' = base.routeOf r → (w.Has r' ↔ w.Has r)

variable {s : Site} {p : Pool Worksite Errand Errand.Answer (Option Nat) Renewal} {k : Nat}

/-- **A renewal is over**, which was told that `k` routes stand, and with it are the departures: sessions
have departed while it went on, whenever they liked, and calls have taken effect and were answered in any
order. The node was not destroyed, and no write's lifetime is over. -/
structure RenewalOver (s : Site) (p : Pool Worksite Errand Errand.Answer (Option Nat) Renewal) (k : Nat) :
    Prop where
  listed : s.node.floor.Listed
  keyed : s.store.Keyed
  present : s.node.membership.destroyed = false
  run : renewing.Reaches { site := s } p
  finished : p.strands = []
  refreshed : .returned .refresh (some k) ∈ p.notes
  departed : ∀ r ∈ s.node.floor.registered, r ∉ p.state.node.floor.registered →
    .called (.depart r) ∈ p.notes
  inForce : p.state.site.InForce p.state.site.now

namespace RenewalOver

theorem renewed (h : RenewalOver s p k) : Renewed s.node p.state p.notes none [] := by
  have start : Renewed s.node { site := s } [] none [] :=
    ⟨.refl h.listed, h.keyed, fun _ => rfl, by simp, by simp, by simp, by simp, by simp,
      fun r first _ called => absurd (called r first rfl) List.not_mem_nil, by simp⟩
  obtain ⟨W, G, waiting, _, kept⟩ := (SessionHub.renewed s.node h.present).sound start h.run
  obtain rfl : W = [] := by simpa [h.finished] using waiting
  exact kept

theorem counted (h : RenewalOver s p k) : p.state.Counted s.node k :=
  h.renewed.told k h.refreshed

/-- The route of a session that fares as all do that have the same route. -/
theorem route (h : RenewalOver s p k) {r : SessionRef} (first : r ∈ s.node.floor.registered)
    (fate : p.state.OneFate s.node r) :
    p.state.site.store.value? p.state.site.now (s.node.routeOf r)
      = if r ∈ p.state.node.floor.registered then some s.node.id.text else none := by
  split
  · rename_i here
    obtain ⟨good, ended⟩ := h.counted.each r first
    have whole : p.state.Whole s.node (s.node.routeOf r) := fun r' first' own =>
      (fate r' first' own).mpr here
    exact (h.renewed.ended _ ended first).2 whole _ (Nat.le_refl _) h.inForce
  · rename_i gone
    have deserted : p.state.Deserted s.node (s.node.routeOf r) := fun r' first' own here =>
      gone ((fate r' first' own).mp here)
    have departed := fun r' first' own => h.departed r' first' (deserted r' first' own)
    rcases h.renewed.clear r first deserted departed with seen | clear
    · rcases seen with ⟨_, nobody, _⟩ | ⟨_, nobody, _⟩
      · nomatch nobody
      · nomatch nobody
    · exact clear _ (Nat.le_refl _)

end RenewalOver

/-! ## Routes apart -/

/-- No two of the sessions have the same route. -/
def Node.RoutesApart (n : Node) : Prop :=
  ∀ r ∈ n.floor.registered, ∀ r' ∈ n.floor.registered, n.routeOf r = n.routeOf r' → r = r'

namespace Node

variable {n : Node} {r r' : SessionRef}

/-- Who is alone on a route fares like everybody on it. -/
theorem RoutesApart.oneFate (apart : n.RoutesApart) (first : r ∈ n.floor.registered) (w : Worksite) :
    w.OneFate n r := by
  intro r' first' own
  rw [apart r' first' r first own]

/-- Where names have no colon, sessions that have one route have one name. -/
theorem id_eq_of_routeOf_eq (plain : ':' ∉ (n.session r).id.text.toList)
    (plain' : ':' ∉ (n.session r').id.text.toList) (same : n.routeOf r = n.routeOf r') :
    (n.session r).id = (n.session r').id := by
  have lists := congrArg String.toList same
  simp only [routeOf, KeyLayout.routeKey, String.toList_append, List.append_assoc] at lists
  have parts : (n.session r).path.toList ++ ':' :: (n.session r).id.text.toList
      = (n.session r').path.toList ++ ':' :: (n.session r').id.text.toList :=
    List.append_cancel_left lists
  have divided := splitLast?_append (n.session r).path.toList plain
  rw [parts, splitLast?_append _ plain'] at divided
  have names := (Prod.mk.inj (Option.some.inj divided)).2
  exact congrArg SessionId.mk (String.toList_inj.mp names.symm)

theorem routesApart_of_plain (listed : n.floor.Listed)
    (plain : ∀ r ∈ n.floor.registered, ':' ∉ (n.session r).id.text.toList) : n.RoutesApart :=
  fun _ here _ here' same => listed.inj here here'
    (id_eq_of_routeOf_eq (plain _ here) (plain _ here') same)

/-- **Sessions that a hub has let in have their routes apart.** -/
theorem Sound.routesApart {hs : Handlers} {keys : KeyLayout} (sound : Sound hs keys n) :
    n.RoutesApart := by
  have there : ∀ r ∈ n.floor.registered, r < n.floor.sessions.size := by
    intro r here
    obtain ⟨e, he, rfl⟩ := List.mem_map.mp here
    exact (sound.listed e he).1
  intro r here r' here' same
  exact sound.distinct r (there r here) r' (there r' here')
    (id_eq_of_routeOf_eq (sound.plain (there r here)) (sound.plain (there r' here')) same)

end Node

/-- **Of sessions that a hub has let in no orphan is left**, whatever state a run has brought the hub to
when the renewal begins: the store has the routes of those that are registered still, and of no other. -/
theorem RenewalOver.routes_of_reaches {n : Node} {q : HubPool} (h : RenewalOver s p k)
    (vacant : n.Vacant) (run : hub.Reaches n q) (here : s.node = q.state) :
    ∀ r ∈ s.node.floor.registered,
      p.state.site.store.value? p.state.site.now (s.node.routeOf r)
        = if r ∈ p.state.node.floor.registered then some s.node.id.text else none := by
  have sound : Node.Sound n.handlers n.membership.keys s.node := by
    rw [here]
    exact Node.sound_of_reaches vacant run
  exact fun _ first => h.route first (sound.routesApart.oneFate first _)

/-! ## No orphan -/

/-- **A renewal leaves no orphan.** When a refresh and all departures are over, the store has the routes of
those sessions that are registered still, and of no other, as far as sessions that have one route have
fared alike; and all have where no name has a colon. The refresh has counted not fewer than are left, and
not more than there were. -/
theorem no_orphan (h : RenewalOver s p k) :
    (∀ r ∈ s.node.floor.registered, p.state.OneFate s.node r →
      p.state.site.store.value? p.state.site.now (s.node.routeOf r)
        = if r ∈ p.state.node.floor.registered then some s.node.id.text else none) ∧
      ((∀ r ∈ s.node.floor.registered, ':' ∉ (s.node.session r).id.text.toList) →
        ∀ r ∈ s.node.floor.registered, p.state.OneFate s.node r) ∧
      s.node.floor.registered.countP (· ∈ p.state.node.floor.registered) ≤ k ∧
      k ≤ s.node.floor.registered.length := by
  refine ⟨fun _ first => h.route first, fun plain r first => ?_, h.counted.enough, h.counted.atMost⟩
  exact (Node.routesApart_of_plain h.listed plain).oneFate first _

/-! ## A write behind a deletion -/

/-- A store that does whatever it is asked, and somebody who is told that jobs are over. -/
def Worksite.oblige : (q : Errand) → Worksite → q.Answer × Worksite
  | .store call, w => (w.site.reply call, w.land call)
  | .back, w | .gather _, w => ((), w)

/-- Whether a strand may be answered now: a refresh, when its jobs are over. -/
def Strand.isReady (w : Worksite) (f : Strand Worksite Errand Errand.Answer (Option Nat) Renewal) : Bool :=
  match f.question with
  | .gather work => (w.finished.map fun e => RouteWork.refresh e.1).isPerm work
  | _ => true

/-- Whether strands may be answered one after another. -/
def Pool.obliges : List Nat → Pool Worksite Errand Errand.Answer (Option Nat) Renewal → Bool
  | [], _ => true
  | k :: ks, p =>
    p.strands[k]?.all (Strand.isReady p.state) && obliges ks (p.answerBy Worksite.oblige k)

/-- Whoever may be answered is obliged. -/
theorem reaches_obliged {ks : List Nat} (run : renewing.Reaches { site := s } p)
    (ready : p.obliges ks = true) : renewing.Reaches { site := s } (p.answersBy Worksite.oblige ks) := by
  induction ks generalizing p with
  | nil => exact run
  | cons k ks ih =>
    obtain ⟨now, rest⟩ := Bool.and_eq_true_iff.mp ready
    refine ih (run.answerByAt fun f waits => ?_) rest
    have isReady := Option.all_eq_true _ _ |>.mp now f waits
    obtain ⟨c, q, resume⟩ := f
    cases q with
    | store call => exact ⟨rfl, rfl⟩
    | back => exact rfl
    | gather work => exact ⟨rfl, List.isPerm_iff.mp isReady⟩

/-- A node with two sessions of these paths and names, and an empty store. -/
def twosome (a b : String × SessionId) : Site where
  node :=
    { id := ⟨"n"⟩, clustered := true, membership := { ttl := 1000 }
      floor :=
        { sessions := #[.opening a.2 a.1 ⟨"n"⟩ {} (.ofCapacity 1) 0,
            .opening b.2 b.1 ⟨"n"⟩ {} (.ofCapacity 1) 0]
          roster := [(a.2, 0), (b.2, 1)] } }

theorem listed_twosome {a b : String × SessionId} (other : a.2 ≠ b.2) :
    (twosome a b).node.floor.Listed where
  distinct := by simpa [twosome] using other
  named e he := by
    rcases List.mem_cons.mp he with rfl | he
    · exact ⟨Nat.zero_lt_two, rfl⟩
    · obtain rfl := List.mem_singleton.mp he
      exact ⟨Nat.one_lt_two, rfl⟩

/-- A refresh is under way. -/
def outset (s : Site) : Pool Worksite Errand Errand.Answer (Option Nat) Renewal :=
  Pool.call renewing .refresh { state := { site := s } }

/-- So are both of its jobs, and the first session departs. -/
def parted (s : Site) : Pool Worksite Errand Errand.Answer (Option Nat) Renewal :=
  (((outset s).call renewing (.job 0)).call renewing (.job 1)).call renewing (.depart 0)

theorem parted_reached (a b : String × SessionId) :
    renewing.Reaches { site := twosome a b } (parted (twosome a b)) := by
  have isFor : ∀ r ∈ [0, 1], IsFor r (outset (twosome a b)).notes := fun r here =>
    ⟨_, List.mem_cons_of_mem _ List.mem_cons_self, List.mem_map_of_mem here⟩
  have fresh : ∀ r, .called (.job r) ∉ (outset (twosome a b)).notes := by
    simp [outset, Pool.called_mem_call]
  have refresh : renewing.Reaches { site := twosome a b } (outset (twosome a b)) := .call .init rfl
  have first := refresh.call (c := .job 0) ⟨isFor 0 (by decide), fresh 0⟩
  have both := first.call (c := .job 1)
    ⟨(isFor 1 (by decide)).later (Pool.notes_call ..), by simp [Pool.called_mem_call, fresh]⟩
  exact both.call (c := .depart 0)
    (((isFor 0 (by decide)).later (Pool.notes_call ..)).later (Pool.notes_call ..))

/-- Who is answered when. The deletion takes effect before the write of the session that departs; its job
comes to look, and deletes the route again when the other job is done. -/
def belated : List Nat := [3, 1, 3, 1, 1, 2, 1, 1, 0]

/-- Everybody is answered so. -/
def settled (s : Site) : Pool Worksite Errand Errand.Answer (Option Nat) Renewal :=
  (parted s).answersBy Worksite.oblige belated

/-- Whether no write's lifetime is over, by what has landed. -/
def Site.isInForce (s : Site) : Bool :=
  s.landed.all fun l => match l.call with
    | .set _ _ ttl => decide (s.now < l.time + ttl)
    | _ => true

theorem Site.inForce_of_isInForce {s : Site} (checked : s.isInForce = true) : s.InForce s.now := by
  intro l hl key text ttl wrote
  have lasting := List.all_eq_true.mp checked l hl
  rw [wrote] at lasting
  exact of_decide_eq_true lasting

/-- This is the end of a renewal with two sessions. What depends on their names is left to check. -/
theorem over_settled {a b : String × SessionId} (other : a.2 ≠ b.2)
    (ready : (parted (twosome a b)).obliges belated = true)
    (finished : (settled (twosome a b)).strands.length = 0)
    (told : (settled (twosome a b)).notes.getLast? = some (.returned .refresh (some 1)))
    (stays : (settled (twosome a b)).state.node.floor.registered = [1])
    (checked : (settled (twosome a b)).state.site.isInForce = true) :
    RenewalOver (twosome a b) (settled (twosome a b)) 1 where
  listed := listed_twosome other
  keyed := List.nodup_nil
  present := rfl
  run := reaches_obliged (parted_reached a b) ready
  finished := List.length_eq_zero_iff.mp finished
  refreshed := List.mem_of_getLast? told
  departed r first gone := by
    rw [stays] at gone
    obtain rfl : r = 0 := by
      rcases List.mem_cons.mp first with zero | one
      · exact zero
      · exact absurd one gone
    exact (Pool.notes_answersBy ..).subset (Pool.called_mem_call.mpr (.inl rfl))
  inForce := Site.inForce_of_isInForce checked

/-- Two sessions on one path. -/
def couple : Site := twosome ("/x", ⟨"a"⟩) ("/x", ⟨"b"⟩)

theorem couple_over : RenewalOver couple (settled couple) 1 :=
  over_settled (by decide) (by decide +kernel) (by decide +kernel) rfl (by decide +kernel)
    (by decide +kernel)

/-- A run in which a route is written behind its deletion leaves no orphan. -/
theorem no_orphan_couple : RenewalOver couple (settled couple) 1 ∧
    (∀ r ∈ couple.node.floor.registered, ':' ∉ (couple.node.session r).id.text.toList) ∧
      (settled couple).state.site.store.value? 0 (couple.node.routeOf 0) = none ∧
      (settled couple).state.site.store.value? 0 (couple.node.routeOf 1) = some "n" := by
  have plain : ∀ r ∈ couple.node.floor.registered, ':' ∉ (couple.node.session r).id.text.toList := by
    decide
  obtain ⟨routes, fates, _, _⟩ := no_orphan couple_over
  refine ⟨couple_over, plain, ?_, ?_⟩
  · exact (routes 0 (by decide) (fates plain 0 (by decide))).trans (if_neg (by decide +kernel))
  · exact (routes 1 (by decide) (fates plain 1 (by decide))).trans (if_pos (by decide +kernel))

/-- Two sessions whose paths and names come to the same. -/
def namesakes : Site := twosome ("/a", ⟨"b:c"⟩) ("/a:b", ⟨"c"⟩)

theorem namesakes_over : RenewalOver namesakes (settled namesakes) 1 :=
  over_settled (by decide) (by decide +kernel) (by decide +kernel) rfl (by decide +kernel)
    (by decide +kernel)

/-- **A session can lose its route to another's departure**: the two have one route, and the session that
stays is registered to the end. -/
theorem no_route_namesakes : RenewalOver namesakes (settled namesakes) 1 ∧
    namesakes.node.routeOf 0 = namesakes.node.routeOf 1 ∧ 1 ∈ namesakes.node.floor.registered ∧
      1 ∈ (settled namesakes).state.node.floor.registered ∧
      (settled namesakes).state.site.store.value? (settled namesakes).state.site.now
        (namesakes.node.routeOf 1) = none :=
  ⟨namesakes_over, by decide, by decide, by decide +kernel, by decide +kernel⟩

end SessionHub

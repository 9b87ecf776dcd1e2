import SessionHub.Proofs.Hub.Surroundings

/-!
# The accounts of connections

A hub shows how many connections were opened, how many were closed, and how many are active. It counts
a session when it lets it in, and counts it back long after it took it off the roster: whoever claims
a session's end waits for its route to be deleted first, others come upon the same session meanwhile,
and sends in vain and evictions take sessions off the roster without counting at all. The accounts agree
all the same in every state that a run passes through, and what is active covers all that are
registered.
-/

namespace SessionHub.Node

variable {hs : Handlers} {keys : KeyLayout} {n n' : Node} {h : List HubNote}
  {cur : Option (HubCall × Standing)} {W G : List HubStance}

/-! ## What programs count -/

/-- A connection that is let in is counted among those opened and among those active. -/
theorem even_enrol (path : String) (handshake : Handshake) (outbox : Outbox) (n : Node) :
    Even n (n.enrol path handshake outbox).2 := by
  unfold enrol
  dsimp only [Floor.place]
  generalize placed : ({ n.floor with sessions := _ } : Floor) = f
  have registered := Floor.surplus_register n.floor.sessions.size f
  have before : f.journal = n.floor.journal := placed ▸ rfl
  rw [before] at registered
  split
  · rename_i refusal outcome
    rw [outcome] at registered
    simpa [Even, Floor.record, Floor.close, Floor.modifySession] using registered
  · rename_i outcome
    rw [outcome] at registered
    simpa [Even, Floor.record] using registered

theorem even_claim (r : SessionRef) (n : Node) : Even n (n.claim r).2 := by
  unfold claim
  dsimp only
  split
  · rfl
  · exact congrArg Journal.surplus (Floor.journal_remove ..)

/-- And counted back among both. -/
theorem even_countBack (n : Node) : Even n n.countBack := even_record (by simp)

/-- **Whatever a program of a hub changes** is even. -/
theorem Worked.even (worked : Worked n n') : Even n n' := by
  cases worked with
  | tended change => exact change.even
  | delivered path payload => exact even_broadcastHere ..
  | evicted timeout => exact Floor.surplus_sweepIdle timeout n.floor
  | touched r | started | ticking | began tracked => rfl
  | noted other => exact other
  | enrolled path handshake outbox _ => exact even_enrol ..
  | claimed r => exact even_claim r n
  | countedBack => exact even_countBack n
  | aborted message fields jobs =>
    have warned : Even n (n.record (·.warn message fields)) := even_record (by simp)
    exact warned.trans (even_of_floor (floor_dropAll ..))

/-! ## Who is active -/

/-- Of a registered session nobody has been told that it is closed. -/
theorem Books.untold_of_registered (b : Books hs keys n h cur W G) {r : SessionRef}
    (here : r ∈ n.floor.registered) :
    r < n.floor.sessions.size ∧ (n.session r).finished = false ∧ begun .closed r h = 0 := by
  obtain ⟨id, entry⟩ := Floor.mem_registered.mp here
  obtain ⟨there, _, unfinished⟩ := b.sound.listed (id, r) entry
  have balance := b.closed r
  rw [if_neg (by simp [unfinished])] at balance
  exact ⟨there, unfinished, by omega⟩

/-- Nor of one whose end some program owes, which is finished. -/
theorem Books.untold_of_owed {c : HubCall} {g : Standing} (b : Books hs keys n h (some (c, g)) W G)
    {r : SessionRef} (owes : g.owes = some r) :
    r < n.floor.sessions.size ∧ (n.session r).finished = true ∧ begun .closed r h = 0 := by
  have balance := b.closed r
  rw [tally_called, if_pos (show Standing.isDebtor r g = true by simp [Standing.isDebtor, owes])]
    at balance
  by_cases finished : r < n.floor.sessions.size ∧ (n.session r).finished = true
  · rw [if_pos finished] at balance
    exact ⟨finished.1, finished.2, by omega⟩
  · rw [if_neg finished] at balance
    omega

/-- Some sessions that nobody was told of are not more than all of them. -/
theorem length_le_untold {rs : List SessionRef} (distinct : rs.Nodup)
    (untold' : ∀ r ∈ rs, r < n.floor.sessions.size ∧ begun .closed r h = 0) :
    rs.length ≤ untold n h := by
  rw [untold, List.countP_eq_length_filter]
  refine (List.subperm_of_subset distinct fun r here => ?_).length_le
  obtain ⟨there, never⟩ := untold' r here
  exact List.mem_filter.mpr ⟨List.mem_range.mpr there, beq_iff_eq.mpr never⟩

/-- **What is active covers all that are registered**, also while a program has counted one back and not
yet told of it. -/
theorem Books.registered_le (b : Books hs keys n h cur W G) (listed : n.floor.Listed) :
    (n.floor.registered.length : Int) ≤ n.floor.journal.active := by
  have untold' : ∀ r ∈ n.floor.registered, r < n.floor.sessions.size ∧ begun .closed r h = 0 :=
    fun r here => ⟨(b.untold_of_registered here).1, (b.untold_of_registered here).2.2⟩
  have balance := b.active
  have all := length_le_untold listed.nodup untold'
  cases cur with
  | none =>
    rw [b.uncounted] at balance
    omega
  | some running =>
    obtain ⟨c, g⟩ := running
    rw [tally_called, b.uncounted] at balance
    cases counted : g.counted with
    | false =>
      rw [counted] at balance
      simp only [Bool.false_eq_true, if_false] at balance
      omega
    | true =>
      obtain ⟨r, owes⟩ := Option.ne_none_iff_exists'.mp (b.counting c g rfl counted)
      obtain ⟨there, finished, never⟩ := b.untold_of_owed owes
      have gone : r ∉ n.floor.registered := fun here => by
        rw [(b.untold_of_registered here).2.1] at finished
        exact absurd finished Bool.false_ne_true
      have more := length_le_untold (List.nodup_cons.mpr ⟨gone, listed.nodup⟩)
        (List.forall_mem_cons.mpr ⟨⟨there, never⟩, untold'⟩)
      rw [counted] at balance
      simp only [if_true] at balance
      rw [List.length_cons] at more
      omega

/-! ## Whole runs -/

/-- A hub around which nothing else happens than what may. -/
def accountedHub : System Node HubAsk HubAsk.Answer (Option SessionRef) HubCall :=
  { tidyHub with turns := Around }

theorem accountedHub_reaches {p : HubPool} (run : accountedHub.Reaches n p) : tidyHub.Reaches n p :=
  System.Reaches.of_turns (X := tidyHub) (fun _ _ around => ⟨around.aside, around.tidy⟩) run

/-- The discipline of such a hub: all changes since some state are tidy, and even. -/
def evenly (base : Node) : Discipline accountedHub Unit :=
  .within (R := fun n n' => Tidies n n' ∧ Even n n')
    (fun both both' => ⟨both.1.trans both'.1, both.2.trans both'.2⟩)
    (fun c n => (program_worked c n).mono fun _ _ worked => ⟨worked.tidies, worked.even⟩)
    (fun served => by
      obtain rfl := served
      exact ⟨.refl _, rfl⟩)
    (fun around => ⟨tidies_of_tidy around.tidy around.aside.begun, around.even⟩) base

/-- **The accounts of a hub** at some point of a run. -/
structure Accounted (p : HubPool) : Prop where
  /-- Nobody's opening is told twice. -/
  opened : ∀ r, begun .opened r p.notes ≤ 1
  /-- Nobody's end is told twice. -/
  closed : ∀ r, begun .closed r p.notes ≤ 1
  /-- Whoever was opened and not closed has always been active, -/
  balance : ∀ n, p.Passed n → n.floor.journal.meter.value .connectionsOpened -
    n.floor.journal.meter.value .connectionsClosed = n.floor.journal.active
  /-- and there have never been more registered than active. -/
  registered : ∀ n, p.Passed n → (n.floor.registered.length : Int) ≤ n.floor.journal.active
  /-- Those that are active now are those whose end was not told. -/
  active : p.state.floor.journal.active = untold p.state p.notes
  /-- Whose end was told is closed and not registered. -/
  gone : ∀ r, 0 < begun .closed r p.notes →
    (p.state.session r).outbox.closed = true ∧ r ∉ p.state.floor.registered

/-- **The accounts of a hub agree**, in every run from a node on whose floor nobody was yet and which
shows as many connections closed as opened. -/
theorem accounts_agree (v : Vacant n) (level : n.floor.journal.surplus = 0) {p : HubPool}
    (run : accountedHub.Reaches n p) : Accounted p := by
  have tidyRun := accountedHub_reaches run
  have hubRun := tidyHub_reaches tidyRun
  have start : Tidies n n ∧ Even n n := ⟨.refl n, rfl⟩
  have since : ∀ s, p.Passed s → Tidies n s ∧ Even n s := fun s passed =>
    (evenly n).passed (fun since => since) start run passed
  have covered : ∀ s, p.Passed s → s.floor.Listed →
      (s.floor.registered.length : Int) ≤ s.floor.journal.active := fun s passed =>
    (kept n.handlers n.membership.keys).passed (fun holds => holds.1.registered_le)
      ⟨v.books, apartness_nil⟩ hubRun passed
  obtain ⟨W, G, _, _, books, _⟩ := kept_of_reaches v hubRun
  have kempt := (since p.state (.inl rfl)).1.kempt v.kempt
  constructor
  · intro r
    have balance := books.opened r
    split at balance <;> omega
  · intro r
    have balance := books.closed r
    split at balance <;> omega
  · intro s passed
    have even : s.floor.journal.surplus = 0 := Eq.trans (since s passed).2 level
    unfold Journal.surplus at even
    omega
  · exact fun s passed => covered s passed ((since s passed).1.kempt v.kempt).listed
  · have balance := books.active
    rw [books.uncounted] at balance
    exact (Int.add_zero _).symm.trans balance
  · intro r told
    have off : r ∉ p.state.floor.registered := fun here => by
      have never := (books.untold_of_registered here).2.2
      omega
    have there : r < p.state.floor.sessions.size := by
      by_contra absent
      have never := books.unborn (Nat.le_of_not_lt absent)
      omega
    exact ⟨kempt.closed r there off, off⟩

/-- A node with one path, in a cluster. -/
def salon : Node := { parlour with clustered := true }

theorem salon_vacant : Vacant salon := ⟨rfl, rfl, rfl⟩

/-- Somebody has come in. -/
def seated : HubPool :=
  ((Pool.call hub (.accept "/chat" {} (.ofCapacity 1)) { state := salon }).answer quick 0).answer quick 0

/-- Two tear the session down, and its route is not yet deleted. -/
def contested : HubPool := (seated.call hub (.disconnect 0)).call hub (.disconnect 0)

/-- The node hears something and shuts down, and then the route is deleted. -/
def resolved : HubPool :=
  ((contested.turn (contested.state.hearBroadcast ⟨"x", "y"⟩)).call hub .shutdown).answer quick 0

/-- Whoever is on the floor may be torn down. -/
theorem admits_disconnect {r : SessionRef} (there : r < n.floor.sessions.size) (h : List HubNote)
    (tags : List (HubCall × HubAsk)) : accountedHub.admits (.disconnect r) n h tags := by
  constructor
  · intro r' reads
    exact absurd reads (Option.some_ne_none r').symm
  · intro r' same
    obtain rfl := HubCall.disconnect.inj same
    exact there

/-- What is neither read from a session nor tears one down may be called at any time. -/
theorem admits_other {c : HubCall} (unread : c.reader? = none) (other : ∀ r, c ≠ .disconnect r)
    (n : Node) (h : List HubNote) (tags : List (HubCall × HubAsk)) : accountedHub.admits c n h tags :=
  ⟨fun r reads => absurd (reads.symm.trans unread) (Option.some_ne_none r),
    fun r same => absurd same (other r)⟩

theorem seated_reached : accountedHub.Reaches salon seated := by
  have coming : accountedHub.Reaches salon
      (Pool.call accountedHub (.accept "/chat" {} (.ofCapacity 1)) { state := salon }) :=
    System.Reaches.init.call (admits_other rfl (by simp) ..)
  exact (coming.answer (fun _ => rfl) 0).answer (fun _ => rfl) 0

theorem contested_reached : accountedHub.Reaches salon contested := by
  have once : accountedHub.Reaches salon (seated.call accountedHub (.disconnect 0)) :=
    seated_reached.call (admits_disconnect (by decide +kernel) ..)
  exact once.call (admits_disconnect (by decide +kernel) ..)

theorem resolved_reached : accountedHub.Reaches salon resolved := by
  have heard := contested_reached.turn (around_hearBroadcast ⟨"x", "y"⟩ contested.state)
  have stopping := heard.call (c := .shutdown) (admits_other rfl (by simp) ..)
  exact stopping.answer (fun _ => rfl) 0

/-- The end of the session is told once, though two have torn it down and the node has shut down. -/
theorem accounts_agree_resolved : Vacant salon ∧ salon.floor.journal.surplus = 0 ∧
    accountedHub.Reaches salon resolved ∧ Accounted resolved ∧ begun .closed 0 resolved.notes = 1 :=
  ⟨salon_vacant, rfl, resolved_reached, accounts_agree salon_vacant rfl resolved_reached,
    by decide +kernel⟩

end SessionHub.Node

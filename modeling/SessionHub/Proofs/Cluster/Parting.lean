import SessionHub.Proofs.Cluster.Site
import SessionHub.Proofs.Cluster.Upkeep
import SessionHub.Proofs.Entries
import SessionHub.Proofs.Program.History

/-!
# A leave and the writes that outlive it

A node that leaves has its record deleted, and nobody but the node itself would write it again. But
who keeps the record up looks only once whether the node is leaving, if at all, and then there are
calls to wait for: a write may be on its way when the record is deleted, and land later.

So a leave is final only under a condition, and `gone_for_good_iff` gives it exactly, for a store all
of whose calls succeed, however long they take. When a leave and all that went on beside it is over,
the record is gone for good if and only if no write that landed after the deletion is still in force.
The last section has a run in which one is.
-/

namespace SessionHub

namespace Landing

/-- Whether a call wrote a key, for a lifetime that is not over at some time. -/
def Keeps (key : String) (t : Nat) (l : Landing) : Prop :=
  ∃ text ttl, l.call = .set key text ttl ∧ t < l.time + ttl

/-- Whether a call deleted a key. -/
def Deletes (key : String) (l : Landing) : Prop := l.call = .delete key

end Landing

namespace Site

variable {s s' : Site} {key : String} {ttl t : Nat} {call : StoreCall}

/-- Whether the store holds the node's record. -/
def HoldsRecord (s : Site) : Prop := (s.store.value? s.now s.node.recordKey).isSome = true

/-- Whether a key was deleted. -/
def Deleted (key : String) (s : Site) : Prop := ∃ l ∈ s.landed, l.Deletes key

/-- Whether a write of a key has landed after the last deletion that holds at some time. -/
def Outlived (key : String) (t : Nat) (s : Site) : Prop :=
  Since (Landing.Keeps key t) (Landing.Deletes key) s.landed

theorem Deleted.land (h : s.Deleted key) (call : StoreCall) : (s.land call).Deleted key := by
  obtain ⟨l, hl, deletes⟩ := h
  exact ⟨l, List.mem_append_left _ hl, deletes⟩

theorem deleted_land : (s.land call).Deleted key ↔ s.Deleted key ∨ call = .delete key := by
  constructor
  · intro h
    obtain ⟨l, hl, deletes⟩ := h
    cases List.mem_append.mp hl with
    | inl hl => exact .inl ⟨l, hl, deletes⟩
    | inr hl =>
      rw [List.mem_singleton.mp hl] at deletes
      exact .inr deletes
  · rintro (h | rfl)
    · exact h.land call
    · exact ⟨_, List.mem_append_right _ (List.mem_singleton_self _), rfl⟩

theorem outlived_land : (s.land call).Outlived key t ↔
    Landing.Keeps key t ⟨s.now, call⟩ ∨ (s.Outlived key t ∧ call ≠ .delete key) :=
  since_snoc

/-- A call that does not concern a key changes nothing of what is said of it. -/
theorem value?_land_of_not_concerns (keyed : s.store.Keyed) (later : s.now ≤ t)
    (other : ¬ call.Concerns key) : (s.land call).store.value? t key = s.store.value? t key := by
  refine (Store.value?_perform keyed later call key).trans ?_
  cases call with
  | set k text ttl => exact if_neg (Ne.symm other)
  | delete k => exact if_neg (Ne.symm other)
  | _ => rfl

theorem outlived_land_of_not_concerns (other : ¬ call.Concerns key) :
    (s.land call).Outlived key t ↔ s.Outlived key t := by
  have noDeletion : call ≠ .delete key := by
    rintro rfl
    exact other rfl
  have noWrite : ¬ Landing.Keeps key t ⟨s.now, call⟩ := by
    rintro ⟨text, ttl, rfl, _⟩
    exact other rfl
  rw [outlived_land, or_iff_right noWrite, and_iff_left noDeletion]

/-! ## What the store says of the record -/

/-- **What the landings tell** of a key, all of whose writes have one lifetime: once it was deleted, the
store holds it as long as a write outlives the deletion. -/
structure Told (key : String) (ttl : Nat) (s : Site) : Prop where
  keyed : s.store.Keyed
  past : ∀ l ∈ s.landed, l.time ≤ s.now
  alike : ∀ l ∈ s.landed, ∀ text lifetime, l.call = .set key text lifetime → lifetime = ttl
  record : s.Deleted key → ∀ t, s.now ≤ t →
    ((s.store.value? t key).isSome = true ↔ s.Outlived key t)

/-- Whether a call leaves a key alone, deletes it, or writes it for a lifetime. -/
def Regular (key : String) (ttl : Nat) (call : StoreCall) : Prop :=
  call.Concerns key → call = .delete key ∨ ∃ text, call = .set key text ttl

/-- After a write of the key, whatever held it before ends no later. -/
theorem Told.outlived_set (h : Told key ttl s) {text : String} :
    (s.land (.set key text ttl)).Outlived key t ↔ t < s.now + ttl := by
  rw [outlived_land]
  constructor
  · rintro (⟨text, lifetime, same, inForce⟩ | ⟨earlier, _⟩)
    · cases same
      exact inForce
    · obtain ⟨pre, l, post, split, ⟨text, lifetime, wrote, inForce⟩, _⟩ := earlier
      have hl : l ∈ s.landed := split ▸ by simp
      have before := h.past l hl
      rw [h.alike l hl _ _ wrote] at inForce
      omega
  · exact fun inForce => .inl ⟨text, ttl, rfl, inForce⟩

theorem Told.land (h : Told key ttl s) (regular : Regular key ttl call) :
    Told key ttl (s.land call) where
  keyed := h.keyed.perform s.now call
  past l hl := by
    cases List.mem_append.mp hl with
    | inl hl => exact h.past l hl
    | inr hl => rw [List.mem_singleton.mp hl]; exact Nat.le_refl _
  alike l hl text lifetime wrote := by
    cases List.mem_append.mp hl with
    | inl hl => exact h.alike l hl text lifetime wrote
    | inr hl =>
      rw [List.mem_singleton.mp hl] at wrote
      obtain rfl : call = .set key text lifetime := wrote
      obtain same | ⟨_, same⟩ := regular rfl
      · cases same
      · cases same
        rfl
  record deleted t later := by
    by_cases own : call.Concerns key
    · have value := Store.value?_perform h.keyed later call key
      obtain rfl | ⟨text, rfl⟩ := regular own
      · have none' : (s.land (.delete key)).store.value? t key = none := value.trans (if_pos rfl)
        rw [none', outlived_land]
        simp [Landing.Keeps]
      · have written : (s.land (.set key text ttl)).store.value? t key
            = if t < s.now + ttl then some text else none := value.trans (if_pos rfl)
        rw [written, h.outlived_set]
        split <;> simp [*]
    · have before : s.Deleted key := by
        refine (deleted_land.mp deleted).resolve_right ?_
        rintro rfl
        exact own rfl
      rw [value?_land_of_not_concerns h.keyed later own, outlived_land_of_not_concerns own]
      exact h.record before t later

end Site

namespace Node

/-! ## The system -/

/-- What happens elsewhere: time passes, the node changes in other respects, and the store in what is
no concern of the node's record. -/
structure Elsewhere (s s' : Site) : Prop where
  node : Steady s.node s'.node
  time : s.now ≤ s'.now
  keyed : s'.store.Keyed
  record : ∀ t, s'.now ≤ t →
    s'.store.value? t s.node.recordKey = s.store.value? t s.node.recordKey
  landed : s'.landed = s.landed

/-- A node that sees to its duties, with a store between which and the node every call and every answer
may take any time, but all calls succeed. Any number of joins, heartbeats and refreshes of routes
may be under way when the node begins to leave. -/
def parting : System Site Passage Passage.Answer Unit Duty where
  program d := afar (attend d)
  admits d s _ _ := s.node.Timely d
  serves
    | .out (.store call), s, a, s' => a = .ok (s.reply call) ∧ s' = s.land call
    | .out (.together _), s, _, s' => s' = s
    | .back, s, _, s' => s' = s
  mayDrop _ := True
  turns := Elsewhere

/-! ## What is kept -/

variable {key : String} {ttl : Nat} {s s' : Site}

/-- What has come about of the leave when a program plays a part. -/
def Part.Past (key : String) (s : Site) : Part → Prop
  | .begun => s.node.membership.destroyed = true
  | .deleting | .deleted => s.node.membership.destroyed = true ∧ s.Deleted key
  | _ => True

/-- A program keeps the record up, or is about to, only if that is its duty. -/
def Part.Suits (d : Duty) (g : Part) : Prop := g = .fresh ∨ g = .keeping → Keeper d

theorem Part.suits_ofDuty (d : Duty) : (Part.ofDuty d).Suits d := by
  cases d <;> simp [Part.Suits, Part.ofDuty, Keeper]

/-- What has come about of the leave stays so. -/
structure Committed (key : String) (s s' : Site) : Prop where
  destroyed : s.node.membership.destroyed = true → s'.node.membership.destroyed = true
  deleted : s.Deleted key → s'.Deleted key

theorem Committed.refl (key : String) (s : Site) : Committed key s s := ⟨fun d => d, fun d => d⟩

theorem Committed.past (h : Committed key s s') {g : Part} (past : g.Past key s) : g.Past key s' := by
  cases g with
  | begun => exact h.destroyed past
  | deleting | deleted => exact ⟨h.destroyed past.1, h.deleted past.2⟩
  | _ => trivial

/-- What a program waits for, by the part that it plays. -/
inductive Waits (key : String) (ttl : Nat) (s : Site) : Passage → Station Part → Prop
  | aside {q : ClusterAsk} (other : ¬ q.Concerns key) : Waits key ttl s (.out q) (.away .aside)
  | keeping {q : ClusterAsk} (own : q.Concerns key → ∃ text, q = .store (.set key text ttl)) :
    Waits key ttl s (.out q) (.away .keeping)
  | deleting (destroyed : s.node.membership.destroyed = true) :
    Waits key ttl s (.out (.store (.delete key))) (.away .deleting)
  | deleted {q : ClusterAsk} (other : ¬ q.Concerns key) (past : Part.deleted.Past key s) :
    Waits key ttl s (.out q) (.away .deleted)
  | back {g : Part} (past : g.Past key s) : Waits key ttl s .back (.here g)

theorem Waits.committed {q : Passage} {x : Station Part} (w : Waits key ttl s q x)
    (h : Committed key s s') : Waits key ttl s' q x := by
  cases w with
  | aside other => exact .aside other
  | keeping own => exact .keeping own
  | deleting destroyed => exact .deleting (h.destroyed destroyed)
  | deleted other past => exact .deleted other (h.past past)
  | back past => exact .back (h.past past)

/-- A call that somebody waits for is regular, and a write of the record only if its writer keeps
the record up. -/
theorem Waits.regular {call : StoreCall} {x : Station Part}
    (w : Waits key ttl s (.out (.store call)) x) (own : call.Concerns key) :
    call = .delete key ∨ (x.stand = .keeping ∧ ∃ text, call = .set key text ttl) := by
  cases w with
  | aside other => exact absurd own other
  | keeping writes =>
    obtain ⟨text, same⟩ := writes own
    cases same
    exact .inr ⟨rfl, text, rfl⟩
  | deleting _ => exact .inl rfl
  | deleted other _ => exact absurd own other

theorem committed_land (call : StoreCall) : Committed key s (s.land call) :=
  ⟨fun d => d, fun deleted => deleted.land call⟩

/-- When a call takes effect, what it was made for has come about. -/
theorem Waits.past_land {call : StoreCall} {x : Station Part}
    (w : Waits key ttl s (.out (.store call)) x) : x.stand.Past key (s.land call) := by
  cases w with
  | aside _ | keeping _ => trivial
  | deleting destroyed => exact ⟨destroyed, Site.deleted_land.mpr (.inr rfl)⟩
  | deleted _ past => exact (committed_land call).past past

theorem Waits.past_together {work : List RouteWork} {x : Station Part}
    (w : Waits key ttl s (.out (.together work)) x) : x.stand.Past key s := by
  cases w with
  | aside _ | keeping _ => trivial
  | deleted _ past => exact past

theorem Waits.past_back {x : Station Part} (w : Waits key ttl s .back x) : x.stand.Past key s := by
  cases w with
  | back past => exact past

/-- Only a node that leaves has its record deleted. -/
theorem Waits.destroyed {call : StoreCall} {x : Station Part}
    (w : Waits key ttl s (.out (.store call)) x) (deletes : call = .delete key) :
    s.node.membership.destroyed = true := by
  subst deletes
  cases w with
  | aside other => exact absurd rfl other
  | keeping own =>
    obtain ⟨text, same⟩ := own rfl
    cases same
  | deleting destroyed => exact destroyed
  | deleted other _ => exact absurd rfl other

/-- **What is kept**: where the record is kept and for how long, what the landings tell of it, what
has come about of the leave when a program plays its part, and that only a leave deletes the record. -/
structure Kept (key : String) (ttl : Nat) (s : Site) (h : List (Note Site Passage Unit Duty))
    (cur : Option (Duty × Station Part)) (W : List (Stance Passage Duty (Station Part))) : Prop where
  place : s.node.recordKey = key
  lifetime : s.node.membership.ttl = ttl
  told : s.Told key ttl
  running : ∀ x ∈ cur, x.2.stand.Past key s ∧ x.2.stand.Suits x.1
  waiting : ∀ w ∈ W, Waits key ttl s w.question w.standing ∧ w.standing.stand.Suits w.call
  begun : s.Deleted key → s.node.membership.destroyed = true
  left : .returned .leave () ∈ h → s.Deleted key

variable {h : List (Note Site Passage Unit Duty)} {cur cur' : Option (Duty × Station Part)}
  {W W' : List (Stance Passage Duty (Station Part))} {x : Note Site Passage Unit Duty}

/-- A step on which the leave does not return. -/
theorem Kept.step (k : Kept key ttl s h cur W) (committed : Committed key s s')
    (place : s'.node.recordKey = s.node.recordKey)
    (lifetime : s'.node.membership.ttl = s.node.membership.ttl) (told : s'.Told key ttl)
    (running : ∀ x ∈ cur', x.2.stand.Past key s' ∧ x.2.stand.Suits x.1)
    (waiting : ∀ w ∈ W', w ∈ W ∨
      (Waits key ttl s' w.question w.standing ∧ w.standing.stand.Suits w.call))
    (begun : s'.Deleted key → s.Deleted key ∨ s'.node.membership.destroyed = true)
    (silent : x ≠ .returned .leave ()) : Kept key ttl s' (h ++ [x]) cur' W' where
  place := place.trans k.place
  lifetime := lifetime.trans k.lifetime
  told := told
  running := running
  waiting w hw := by
    cases waiting w hw with
    | inl before => exact ⟨(k.waiting w before).1.committed committed, (k.waiting w before).2⟩
    | inr now => exact now
  begun deleted := by
    cases begun deleted with
    | inl before => exact committed.destroyed (k.begun before)
    | inr now => exact now
  left returned := by
    cases List.mem_append.mp returned with
    | inl before => exact committed.deleted (k.left before)
    | inr now => exact absurd (List.mem_singleton.mp now).symm silent

/-- What a part may change of the node. -/
theorem Part.Puts.cases {n n' : Node} {g g' : Part} (puts : g.Puts n n' g') :
    (Steady n n' ∧ g' = g) ∨ (n' = n.beginLeave ∧ g' = .begun) := by
  cases g with
  | resolved => exact .inr puts
  | _ => exact .inl puts

theorem Kept.put {c : Duty} {g g' : Part} {n' : Node} (k : Kept key ttl s h (some (c, .here g)) W)
    (puts : g.Puts s.node n' g') :
    Kept key ttl (s.setNode n') (h ++ [.changed s (s.setNode n')]) (some (c, .here g')) W := by
  have told : (s.setNode n').Told key ttl :=
    ⟨k.told.keyed, k.told.past, k.told.alike, k.told.record⟩
  obtain ⟨past, suits⟩ := k.running _ rfl
  obtain ⟨steady, rfl⟩ | ⟨rfl, rfl⟩ := puts.cases
  · have committed : Committed key s (s.setNode n') := ⟨fun d => steady.destroyed.trans d, fun d => d⟩
    refine k.step committed steady.recordKey steady.ttl told ?_ (fun _ => .inl) .inl nofun
    rintro _ ⟨⟩
    exact ⟨committed.past past, suits⟩
  · obtain ⟨place, lifetime⟩ := beginLeave_same s.node
    have committed : Committed key s (s.setNode s.node.beginLeave) :=
      ⟨fun _ => destroyed_beginLeave s.node, fun d => d⟩
    refine k.step committed place lifetime told ?_ (fun _ => .inl) .inl nofun
    rintro _ ⟨⟩
    exact ⟨destroyed_beginLeave s.node, by simp [Part.Suits, Station.stand]⟩

/-- Whoever asks keeps the record up only if that was its part before. -/
theorem Asks.suits {n : Node} {c : Duty} {g g' : Part} {q : ClusterAsk} (ask : n.Asks g q g')
    (suits : g.Suits c) : g'.Suits c := by
  cases ask with
  | first _ _ => exact fun _ => suits (.inl rfl)
  | next _ => exact suits
  | aside _ | delete | after _ | last _ => simp [Part.Suits]

/-- What a program asks it may wait for. -/
theorem Asks.waits {g g' : Part} {q : ClusterAsk} (ask : s.node.Asks g q g')
    (place : s.node.recordKey = key) (lifetime : s.node.membership.ttl = ttl) (past : g.Past key s) :
    Waits key ttl s (.out q) (.away g') := by
  subst place lifetime
  cases ask with
  | aside other => exact .aside other
  | first _ own | next own => exact .keeping own
  | delete => exact .deleting past
  | after other => exact .deleted other past
  | last other => exact .deleted other past

theorem Kept.asked {c : Duty} {y y' : Station Part} {q : Passage}
    (k : Kept key ttl s h (some (c, y)) W) (asks : upkeep.afar.asks y s q y') :
    Kept key ttl s (h ++ [.asked c q]) none (W ++ [⟨c, q, y'⟩]) := by
  obtain ⟨past, suits⟩ := k.running _ rfl
  have waits : Waits key ttl s q y' ∧ y'.stand.Suits c := by
    match y, q, y', asks with
    | .here g, .out q, .away g', ask => exact ⟨ask.waits k.place k.lifetime past, ask.suits suits⟩
    | .away g, .back, .here _, rfl => exact ⟨.back past, suits⟩
  refine k.step (.refl key s) rfl rfl k.told (by simp) (fun w hw => ?_) .inl nofun
  cases List.mem_append.mp hw with
  | inl before => exact .inl before
  | inr now =>
    rw [List.mem_singleton.mp now]
    exact .inr waits

theorem Kept.answered {l₁ l₂ : List (Stance Passage Duty (Station Part))}
    {w : Stance Passage Duty (Station Part)} (k : Kept key ttl s h none (l₁ ++ w :: l₂))
    {a : w.question.Answer} (served : parting.serves w.question s a s') :
    Kept key ttl s' (h ++ [.answered w.call w.question]) (some (w.call, w.standing)) (l₁ ++ l₂) := by
  obtain ⟨c, q, y⟩ := w
  obtain ⟨waits, suits⟩ : Waits key ttl s q y ∧ y.stand.Suits c := k.waiting ⟨c, q, y⟩ (by simp)
  have others : l₁ ++ l₂ ⊆ l₁ ++ ⟨c, q, y⟩ :: l₂ :=
    ((List.sublist_cons_self _ l₂).append_left l₁).subset
  match q, a, served with
  | .out (.store call), _, served =>
    replace served := served.2
    subst served
    have told : (s.land call).Told key ttl := k.told.land fun own =>
      (waits.regular own).imp_right fun writes => writes.2
    refine k.step (committed_land call) rfl rfl told ?_ (fun _ hw => .inl (others hw)) ?_ nofun
    · rintro _ ⟨⟩
      exact ⟨waits.past_land, suits⟩
    · exact fun deleted => (Site.deleted_land.mp deleted).imp_right waits.destroyed
  | .out (.together work), _, served =>
    subst served
    refine k.step (.refl ..) rfl rfl k.told ?_ (fun _ hw => .inl (others hw)) .inl nofun
    rintro _ ⟨⟩
    exact ⟨waits.past_together, suits⟩
  | .back, _, served =>
    subst served
    refine k.step (.refl ..) rfl rfl k.told ?_ (fun _ hw => .inl (others hw)) .inl nofun
    rintro _ ⟨⟩
    exact ⟨waits.past_back, suits⟩

theorem Kept.returned {c : Duty} {y : Station Part} (k : Kept key ttl s h (some (c, y)) W)
    (ending : ∃ g, y = .here g ∧ (c = .leave → g = .deleted)) :
    Kept key ttl s (h ++ [.returned c ()]) none W := by
  obtain ⟨g, rfl, last⟩ := ending
  refine ⟨k.place, k.lifetime, k.told, by simp, k.waiting, k.begun, fun returned => ?_⟩
  cases List.mem_append.mp returned with
  | inl before => exact k.left before
  | inr now =>
    obtain rfl : Duty.leave = c := (Note.returned.inj (List.mem_singleton.mp now)).1
    obtain rfl := last rfl
    exact (k.running _ rfl).1.2

theorem Kept.turned (k : Kept key ttl s h none W) (turned : Elsewhere s s') :
    Kept key ttl s' (h ++ [.changed s s']) none W := by
  have deleted : s'.Deleted key ↔ s.Deleted key := by
    rw [Site.Deleted, Site.Deleted, turned.landed]
  have told : s'.Told key ttl := by
    refine ⟨turned.keyed, ?_, ?_, fun d t later => ?_⟩
    · rw [turned.landed]
      exact fun l hl => Nat.le_trans (k.told.past l hl) turned.time
    · rw [turned.landed]
      exact k.told.alike
    · rw [← k.place, turned.record t later, k.place, Site.Outlived, turned.landed]
      exact k.told.record (deleted.mp d) t (Nat.le_trans turned.time later)
  exact k.step ⟨fun d => turned.node.destroyed.trans d, deleted.mpr⟩ turned.node.recordKey
    turned.node.ttl told (by simp) (fun _ => .inl) (fun d => .inl (deleted.mp d)) nofun

/-- The discipline of a parting node. -/
def parted (key : String) (ttl : Nat) : Discipline parting (Station Part) where
  toConduct := upkeep.afar
  start d := .here (.ofDuty d)
  ending d x _ _ := ∃ g, x = .here g ∧ (d = .leave → g = .deleted)
  holds s h cur W _ := Kept key ttl s h cur W
  heeds _ timely := (attend_upkeep timely).afar
  called {d s h W D} k _ := by
    refine k.step (.refl key s) rfl rfl k.told ?_ (fun _ => .inl) .inl nofun
    rintro _ ⟨⟩
    exact ⟨by cases d <;> trivial, Part.suits_ofDuty d⟩
  answered {s h l₁ w l₂ D a s'} k served := by
    refine ⟨?_, k.answered served⟩
    show upkeep.afar.finds w.standing s'
    cases w.standing <;> trivial
  put {s h c y W D s' y'} k puts := by
    match y, y', puts with
    | .here g, .here g', puts =>
      rw [puts.1]
      exact k.put puts.2
  asked k asks := k.asked asks
  returned k ending := k.returned ending
  dropped {s _ l₁ w l₂ _} k _ := by
    have others : l₁ ++ l₂ ⊆ l₁ ++ w :: l₂ :=
      ((List.sublist_cons_self w l₂).append_left l₁).subset
    exact k.step (.refl key s) rfl rfl k.told (by simp) (fun _ hw => .inl (others hw)) .inl nofun
  turned k turned := k.turned turned

/-! ## After the deletion -/

/-- **When nobody keeps the record up any more**, no write of it lands, so it stays deleted unless a write
that landed before is in force still. -/
structure Idle (key : String) (ttl : Nat) (s : Site) (h : List (Note Site Passage Unit Duty))
    (cur : Option (Duty × Station Part)) (W : List (Stance Passage Duty (Station Part))) : Prop where
  kept : Kept key ttl s h cur W
  leaving : s.node.membership.destroyed = true ∨ cur = some (.leave, .here .resolved)
  runner : ∀ x ∈ cur, x.2.stand ≠ .keeping
  waiters : ∀ w ∈ W, w.standing.stand ≠ .keeping
  absent : s.Deleted key → ¬ s.Outlived key s.now

theorem Idle.answered {l₁ l₂ : List (Stance Passage Duty (Station Part))}
    {w : Stance Passage Duty (Station Part)} (i : Idle key ttl s h none (l₁ ++ w :: l₂))
    {a : w.question.Answer} (served : parting.serves w.question s a s') :
    Idle key ttl s' (h ++ [.answered w.call w.question]) (some (w.call, w.standing)) (l₁ ++ l₂) := by
  have kept := i.kept.answered served
  have leaving : s.node.membership.destroyed = true := by simpa using i.leaving
  obtain ⟨c, q, y⟩ := w
  have waits : Waits key ttl s q y := (i.kept.waiting ⟨c, q, y⟩ (by simp)).1
  have idle : y.stand ≠ .keeping := i.waiters ⟨c, q, y⟩ (by simp)
  have others : l₁ ++ l₂ ⊆ l₁ ++ ⟨c, q, y⟩ :: l₂ :=
    ((List.sublist_cons_self _ l₂).append_left l₁).subset
  have runner : ∀ x ∈ some (c, y), x.2.stand ≠ .keeping := by
    rintro _ ⟨⟩
    exact idle
  have waiters : ∀ w ∈ l₁ ++ l₂, w.standing.stand ≠ .keeping := fun w hw => i.waiters w (others hw)
  match q, a, served with
  | .out (.store call), _, served =>
    replace served := served.2
    subst served
    refine ⟨kept, .inl leaving, runner, waiters, fun deleted => ?_⟩
    by_cases own : call.Concerns key
    · obtain rfl | ⟨keeps, _⟩ := waits.regular own
      · rw [Site.outlived_land]
        simp [Landing.Keeps]
      · exact absurd keeps idle
    · have before : s.Deleted key := by
        refine (Site.deleted_land.mp deleted).resolve_right ?_
        rintro rfl
        exact own rfl
      rw [Site.outlived_land_of_not_concerns own]
      exact i.absent before
  | .out (.together work), _, served =>
    subst served
    exact ⟨kept, .inl leaving, runner, waiters, i.absent⟩
  | .back, _, served =>
    subst served
    exact ⟨kept, .inl leaving, runner, waiters, i.absent⟩

theorem Idle.put {c : Duty} {g g' : Part} {n' : Node} (i : Idle key ttl s h (some (c, .here g)) W)
    (puts : g.Puts s.node n' g') :
    Idle key ttl (s.setNode n') (h ++ [.changed s (s.setNode n')]) (some (c, .here g')) W := by
  refine ⟨i.kept.put puts, ?_, ?_, i.waiters, i.absent⟩
  · obtain ⟨steady, rfl⟩ | ⟨rfl, rfl⟩ := puts.cases
    · exact i.leaving.imp (fun d => steady.destroyed.trans d) fun resolved => resolved
    · exact .inl (destroyed_beginLeave s.node)
  · rintro _ ⟨⟩
    obtain ⟨_, rfl⟩ | ⟨_, rfl⟩ := puts.cases
    · exact i.runner _ rfl
    · nofun

/-- Nobody who asks something keeps the record up from then on. -/
theorem Idle.asked {c : Duty} {y y' : Station Part} {q : Passage}
    (i : Idle key ttl s h (some (c, y)) W) (asks : upkeep.afar.asks y s q y') :
    Idle key ttl s (h ++ [.asked c q]) none (W ++ [⟨c, q, y'⟩]) := by
  have idle : y.stand ≠ .keeping := i.runner _ rfl
  have both : s.node.membership.destroyed = true ∧ y'.stand ≠ .keeping := by
    match y, q, y', asks with
    | .here g, .out q, .away g', ask =>
      have leaving : s.node.membership.destroyed = true ∨ (c = .leave ∧ g = .resolved) := by
        simpa using i.leaving
      cases ask with
      | first present _ => simp [present] at leaving
      | next _ => exact absurd rfl idle
      | aside _ | delete | after _ | last _ => exact ⟨leaving.resolve_right (by simp), nofun⟩
    | .away g, .back, .here _, rfl => exact ⟨by simpa using i.leaving, idle⟩
  refine ⟨i.kept.asked asks, .inl both.1, by simp, fun w hw => ?_, i.absent⟩
  cases List.mem_append.mp hw with
  | inl before => exact i.waiters w before
  | inr now =>
    rw [List.mem_singleton.mp now]
    exact both.2

theorem Idle.turned (i : Idle key ttl s h none W) (turned : Elsewhere s s') :
    Idle key ttl s' (h ++ [.changed s s']) none W := by
  have leaving : s.node.membership.destroyed = true := by simpa using i.leaving
  refine ⟨i.kept.turned turned, .inl (turned.node.destroyed.trans leaving), by simp, i.waiters, ?_⟩
  rw [Site.Deleted, Site.Outlived, turned.landed]
  intro deleted outlived
  refine i.absent deleted (outlived.mono fun l _ keeps => ?_)
  obtain ⟨text, lifetime, wrote, inForce⟩ := keeps
  exact ⟨text, lifetime, wrote, Nat.lt_of_le_of_lt turned.time inForce⟩

/-- The discipline of a node that leaves and that nobody keeps in the cluster. -/
def idling (key : String) (ttl : Nat) : Discipline parting (Station Part) where
  toConduct := upkeep.afar
  start d := .here (.ofDuty d)
  ending d x _ _ := ∃ g, x = .here g ∧ (d = .leave → g = .deleted)
  holds s h cur W _ := Idle key ttl s h cur W
  heeds _ timely := (attend_upkeep timely).afar
  called {d s h W D} i timely := by
    refine ⟨(parted key ttl).called (D := D) i.kept timely, ?_, ?_, i.waiters, i.absent⟩
    · exact .inl (by simpa using i.leaving)
    · rintro _ ⟨⟩
      cases d <;> nofun
  answered {s h l₁ w l₂ D a s'} i served :=
    ⟨((parted key ttl).answered (D := D) i.kept served).1, i.answered served⟩
  put {s h c y W D s' y'} i puts := by
    match y, y', puts with
    | .here g, .here g', puts =>
      rw [puts.1]
      exact i.put puts.2
  asked i asks := i.asked asks
  returned {s h c y W D a} i ending := by
    refine ⟨i.kept.returned ending, ?_, by simp, i.waiters, i.absent⟩
    obtain ⟨g, rfl, last⟩ := ending
    refine .inl (i.leaving.resolve_right ?_)
    rintro ⟨⟩
    exact nomatch last rfl
  dropped {s h l₁ w l₂ D} i droppable := by
    have others : l₁ ++ l₂ ⊆ l₁ ++ w :: l₂ :=
      ((List.sublist_cons_self w l₂).append_left l₁).subset
    exact ⟨(parted key ttl).dropped (D := D) i.kept droppable, i.leaving, by simp,
      fun w hw => i.waiters w (others hw), i.absent⟩
  turned i turned := i.turned turned

/-! ## The leave is over -/

/-- What is kept at first. -/
theorem kept_first {s : Site} (keyed : s.store.Keyed) (first : s.landed = []) :
    Kept s.node.recordKey s.node.membership.ttl s [] none [] := by
  have undeleted : ¬ s.Deleted s.node.recordKey := by simp [Site.Deleted, first]
  have told : s.Told s.node.recordKey s.node.membership.ttl :=
    ⟨keyed, by simp [first], by simp [first], fun deleted => absurd deleted undeleted⟩
  exact ⟨rfl, rfl, told, by simp, by simp, fun deleted => absurd deleted undeleted, by simp⟩

/-- When the leave has returned, the store holds the record as long as a write outlives the deletion. -/
theorem Kept.holdsRecord_iff (k : Kept key ttl s h cur W) (left : .returned .leave () ∈ h) :
    s.HoldsRecord ↔ s.Outlived key s.now := by
  rw [Site.HoldsRecord, k.place]
  exact k.told.record (k.left left) s.now (Nat.le_refl _)

variable {p p' : Pool Site Passage Passage.Answer Unit Duty}

/-- Where nobody keeps the record up, a leave that has returned leaves none behind. -/
theorem not_holdsRecord_of_idle (idle : (idling key ttl).Holds p)
    (left : .returned .leave () ∈ p.notes) : ¬ p.state.HoldsRecord := by
  obtain ⟨_, _, _, _, i⟩ := idle
  rw [i.kept.holdsRecord_iff left]
  exact i.absent (i.kept.left left)

/-- **A leave is final exactly if no write outlived the deletion.** When a leave has returned and nothing
is under way any more, then the store never holds the node's record, now and later, if and only if no
write of it landed after the deletion and is in force. -/
theorem gone_for_good_iff {s : Site} (keyed : s.store.Keyed) (first : s.landed = [])
    (run : parting.Reaches s p) (ended : p.strands = []) (left : .returned .leave () ∈ p.notes) :
    (∀ p', Relation.ReflTransGen parting.Step p p' → ¬ p'.state.HoldsRecord) ↔
      ¬ p.state.Outlived p.state.node.recordKey p.state.now := by
  obtain ⟨W, G, waiting, tags, kept⟩ := (parted _ _).sound (kept_first keyed first) run
  obtain rfl : W = [] := by simpa [ended] using waiting
  rw [kept.place]
  constructor
  · exact fun gone outlived => gone p .refl ((kept.holdsRecord_iff left).mpr outlived)
  · intro absent p' later
    have idle : (idling s.node.recordKey s.node.membership.ttl).Holds p :=
      ⟨[], G, by rw [ended]; exact .nil, tags, kept, .inl (kept.begun (kept.left left)), by simp,
        by simp, fun _ => absent⟩
    exact not_holdsRecord_of_idle ((idling _ _).holds_later idle later)
      ((notes_later later).subset left)

/-- **It takes a join or a heartbeat that is under way.** If neither is when the leave begins, then
the leave is final once it has returned, whatever else was under way or is begun later. -/
theorem gone_of_nobody_keeping {s : Site} (keyed : s.store.Keyed) (first : s.landed = [])
    (run : parting.Reaches s p) (present : p.state.node.membership.destroyed = false)
    (others : ∀ f ∈ p.strands, ¬ Keeper f.call)
    (later : Relation.ReflTransGen parting.Step (p.call parting .leave) p')
    (left : .returned .leave () ∈ p'.notes) : ¬ p'.state.HoldsRecord := by
  obtain ⟨W, G, waiting, tags, kept⟩ := (parted _ _).sound (kept_first keyed first) run
  have waiters : ∀ w ∈ W, w.standing.stand ≠ .keeping := by
    intro w hw keeping
    have tagged : w.tag ∈ p.strands.map Strand.tag := by
      rw [(parted _ _).tags_eq waiting]
      exact List.mem_map_of_mem hw
    obtain ⟨f, hf, same⟩ := List.mem_map.mp tagged
    have call : f.call = w.call := congrArg Prod.fst same
    exact others f hf (call ▸ (kept.waiting w hw).2 (.inr keeping))
  have undeleted : ¬ p.state.Deleted s.node.recordKey := fun deleted =>
    absurd (kept.begun deleted) (by simp [present])
  have begun : (idling s.node.recordKey s.node.membership.ttl).Holds (p.call parting .leave) := by
    refine (idling _ _).holds_go (p := p.note (.called .leave)) (g := .here .resolved) _ waiting tags
      ?_ (attend_upkeep (d := .leave) present).afar
    exact ⟨(parted _ _).called (D := G) kept present, .inr rfl, by simp [Station.stand], waiters,
      fun deleted => absurd deleted undeleted⟩
  exact not_holdsRecord_of_idle ((idling _ _).holds_later begun later) left

/-! ## A heartbeat that lingers -/

theorem parting_obliged (q : Passage) (s : Site) :
    parting.serves q s (Site.oblige q s).1 (Site.oblige q s).2 := by
  match q with
  | .out (.store _) => exact ⟨rfl, rfl⟩
  | .out (.together _) | .back => rfl

/-- A node in its cluster, and an empty store. -/
def resident : Site where
  node := { id := ⟨"a"⟩, wall := 1000, clustered := true, membership := { ttl := 1000, subscribed := true } }

/-- A heartbeat is under way, and the node begins to leave. -/
def torn : Pool Site Passage Passage.Answer Unit Duty :=
  Pool.call parting .leave (Pool.call parting .heartbeat { state := resident })

/-- The deletion of the record takes effect first, then its write; and then all that is under way comes
to its end. -/
def lingering : Pool Site Passage Passage.Answer Unit Duty :=
  torn.answersBy Site.oblige [1, 0, 0, 0, 0, 0, 0, 0]

theorem lingering_reached : parting.Reaches resident lingering := by
  have called : parting.Reaches resident torn := .call (.call .init trivial) rfl
  exact called.answersBy parting_obliged _

theorem lingering_over : lingering.strands = [] ∧ .returned .leave () ∈ lingering.notes :=
  ⟨List.length_eq_zero_iff.mp (by decide +kernel), List.mem_of_getLast? rfl⟩

theorem holdsRecord_lingering : lingering.state.HoldsRecord := by
  unfold Site.HoldsRecord
  decide +kernel

/-- **Not every leave is final**: the record of a node that has left can be there for as long as its
lifetime. -/
theorem exists_not_gone : ∃ p, parting.Reaches resident p ∧ p.strands = [] ∧
    .returned .leave () ∈ p.notes ∧ p.state.HoldsRecord :=
  ⟨lingering, lingering_reached, lingering_over.1, lingering_over.2, holdsRecord_lingering⟩

/-- In that run a write outlived the deletion. -/
theorem outlived_lingering :
    resident.store.Keyed ∧ resident.landed = [] ∧ parting.Reaches resident lingering ∧
      lingering.strands = [] ∧ .returned .leave () ∈ lingering.notes ∧
      lingering.state.Outlived lingering.state.node.recordKey lingering.state.now := by
  have keyed : resident.store.Keyed := List.nodup_nil
  obtain ⟨ended, left⟩ := lingering_over
  refine ⟨keyed, rfl, lingering_reached, ended, left, ?_⟩
  have final := gone_for_good_iff keyed rfl lingering_reached ended left
  by_contra absent
  exact final.mpr absent lingering .refl holdsRecord_lingering

end Node

end SessionHub

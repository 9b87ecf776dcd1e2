import Mathlib.Algebra.BigOperators.Finprod
import SessionHub.Proofs.Delivery
import SessionHub.Proofs.Program.History

/-!
# The roster as a table

Whatever is done on a floor, its roster is a **table** from names to sessions. A run is any sequence of
the operations on registered sessions, and in between anything may happen to the sessions themselves:
more of them come, connections close and receivers vanish, queues fill and are drained, time passes.
The runs are read a second time on the table alone, where an operation either enters one session or
takes out those that it **dismisses**; whom it dismisses is said by the sessions and the operation, and
the roster has no say in it.

The two readings agree: the roster is the table, every reply is the table's, a session is found under a
path and a name if and only if it was added under both and has not been dismissed since, and whoever is
dismissed is closed.
-/

namespace SessionHub

namespace Floor

/-! ## What is done -/

/-- What is done on a floor. -/
inductive Act where
  | add (r : SessionRef)
  | remove (path : String) (id : SessionId)
  | get (path : String) (id : SessionId)
  | send (path : String) (id : SessionId) (payload : String)
  | broadcast (path payload : String) (admits : Session → Bool)
  | sweep (timeout : Nat)
  | closeAll
  | count (path : String)
  | len
  | sessions
  /-- Something happens to the sessions themselves, or time passes. -/
  | meanwhile (after : Floor)

/-- What is said to it. -/
inductive Reply where
  | admitted (outcome : Except Refusal Unit)
  | found (session : Option SessionRef)
  | sent (taken : Bool)
  | delivered (report : Delivery)
  | listed (sessions : List SessionRef)
  | number (n : Nat)
  | nothing

/-- The reply to what is done, and the floor after it. -/
def Act.perform (f : Floor) : Act → Reply × Floor
  | .add r => ((.admitted (f.register r).1), (f.register r).2)
  | .remove path id => (.found (f.remove path id).1, (f.remove path id).2)
  | .get path id => (.found (f.get? path id), f)
  | .send path id payload => (.sent (f.sendTo path id payload).1, (f.sendTo path id payload).2)
  | .broadcast path payload admits =>
    (.delivered (f.deliver path payload admits).2, (f.deliver path payload admits).1)
  | .sweep timeout => (.listed (f.sweepIdle timeout).1, (f.sweepIdle timeout).2)
  | .closeAll => (.listed f.closeAll.1, f.closeAll.2)
  | .count path => (.number (f.onPath path).length, f)
  | .len => (.number f.roster.length, f)
  | .sessions => (.listed f.registered, f)
  | .meanwhile after => (.nothing, after)

/-- What may happen to the sessions themselves: anything but that one of them goes, or has another name
or path. Nobody comes to the roster or leaves it. -/
structure Meanwhile (f f' : Floor) : Prop where
  roster : f'.roster = f.roster
  size : f.sessions.size ≤ f'.sessions.size
  id : ∀ r < f.sessions.size, (f'.session r).id = (f.session r).id
  path : ∀ r < f.sessions.size, (f'.session r).path = (f.session r).path

/-- What can be done on a floor: only a session of the floor is added. -/
def Act.Possible (f : Floor) : Act → Prop
  | .add r => r < f.sessions.size
  | .meanwhile after => Meanwhile f after
  | _ => True

/-- **Whom an operation dismisses**: the session that is removed by its path and name, who does not take
what is sent to it, who is stale, and everybody. -/
def Act.dismisses (f : Floor) (r : SessionRef) : Act → Bool
  | .remove path id => (f.session r).path = path ∧ (f.session r).id = id
  | .send path id _ =>
    (f.session r).path = path ∧ (f.session r).id = id ∧ (f.session r).hasRoom = false
  | .broadcast path _ admits =>
    (f.session r).path = path ∧ admits (f.session r) = true ∧ (f.session r).hasRoom = false
  | .sweep timeout => f.isStale timeout r
  | .closeAll => true
  | _ => false

/-! ## The table -/

/-- A table of sessions by name. -/
abbrev Table := SessionId → Option SessionRef

/-- The roster as a table. -/
def table (f : Floor) : Table := fun id => f.roster.lookup id

/-- What an operation makes of a table. -/
def Act.onTable (f : Floor) (a : Act) (t : Table) : Table := fun id =>
  match a with
  | .add r => if (f.session r).id = id ∧ t id = none then some r else t id
  | a => (t id).filter fun r => !a.dismisses f r

/-- The sessions of a table of which something is true, each of them once and in any order. -/
def Table.Lists (t : Table) (p : SessionRef → Prop) (rs : List SessionRef) : Prop :=
  rs.Nodup ∧ ∀ r, r ∈ rs ↔ (∃ id, t id = some r) ∧ p r

/-- What a table says to an operation. -/
def Table.Answers (f : Floor) (t : Table) : Act → Reply → Prop
  | .add r, .admitted outcome =>
    outcome = if t (f.session r).id = none then .ok () else .error (.duplicate (f.session r).id)
  | .remove path id, .found x | .get path id, .found x =>
    x = (t id).filter fun r => (f.session r).path = path
  | .send path id _, .sent taken =>
    taken = ((t id).filter fun r => (f.session r).path = path).any fun r => (f.session r).hasRoom
  | .broadcast path _ admits, .delivered report => ∃ takers losers,
    t.Lists (fun r => (f.session r).path = path ∧ admits (f.session r) = true ∧
      (f.session r).hasRoom = true) takers ∧
    t.Lists (fun r => (f.session r).path = path ∧ admits (f.session r) = true ∧
      (f.session r).hasRoom = false) losers ∧
    report = { delivered := takers.length, removed := losers.map fun r => (f.session r).id }
  | .sweep timeout, .listed rs => t.Lists (fun r => f.isStale timeout r = true) rs
  | .closeAll, .listed rs | .sessions, .listed rs => t.Lists (fun _ => True) rs
  | .count path, .number n => ∃ rs, t.Lists (fun r => (f.session r).path = path) rs ∧ n = rs.length
  | .len, .number n => ∃ rs, t.Lists (fun _ => True) rs ∧ n = rs.length
  | .meanwhile _, .nothing => True
  | _, _ => False

variable {f f' : Floor} {r : SessionRef} {a : Act}

theorem Listed.table_eq_some (h : Listed f) {id : SessionId} :
    f.table id = some r ↔ r ∈ f.registered ∧ (f.session r).id = id := by
  constructor
  · intro found
    have entry := mem_of_lookup found
    exact ⟨mem_registered.mpr ⟨id, entry⟩, (h.named _ entry).2⟩
  · intro found
    obtain ⟨here, rfl⟩ := found
    exact lookup_of_mem h.distinct (h.mem here)

theorem Listed.mem_table (h : Listed f) : (∃ id, f.table id = some r) ↔ r ∈ f.registered := by
  constructor
  · intro found
    obtain ⟨id, found⟩ := found
    exact (h.table_eq_some.mp found).1
  · exact fun here => ⟨_, h.table_eq_some.mpr ⟨here, rfl⟩⟩

/-- What is true of registered sessions is listed by going through the roster. -/
theorem Listed.lists (h : Listed f) {p : SessionRef → Prop} {q : SessionRef → Bool}
    (same : ∀ r, q r = true ↔ p r) : f.table.Lists p (f.registered.filter q) := by
  refine ⟨h.nodup.filter q, fun r => ?_⟩
  rw [List.mem_filter, h.mem_table, same]

/-! ## One operation -/

/-- **What an operation comes to** for the sessions of a floor. -/
structure Performed (a : Act) (f f' : Floor) : Prop where
  listed : Listed f'
  registered : ∀ r, r ∈ f'.registered ↔
    (a = .add r ∧ f.table (f.session r).id = none) ∨ (r ∈ f.registered ∧ a.dismisses f r = false)
  size : f.sessions.size ≤ f'.sessions.size
  id : ∀ r < f.sessions.size, (f'.session r).id = (f.session r).id
  path : ∀ r < f.sessions.size, (f'.session r).path = (f.session r).path
  closed : ∀ r ∈ f.registered, a.dismisses f r = true → (f'.session r).outbox.closed = true

/-- An operation that adds nobody is known by whom it takes off the roster. -/
theorem performed_of_aside (h : Listed f) (aside : Aside f f') (adds : ∀ r, a ≠ .add r)
    (stays : ∀ r ∈ f.registered, a.dismisses f r = false → r ∈ f'.registered)
    (leaves : ∀ r ∈ f.registered, a.dismisses f r = true →
      r ∉ f'.registered ∧ (f'.session r).outbox.closed = true) : Performed a f f' where
  listed := h.aside aside
  registered r := by
    constructor
    · intro here
      have was : r ∈ f.registered := (aside.roster.map _).subset here
      refine .inr ⟨was, Bool.eq_false_iff.mpr fun dismissed => ?_⟩
      exact (leaves r was dismissed).1 here
    · rintro (⟨added, _⟩ | ⟨was, kept⟩)
      · exact absurd added (adds r)
      · exact stays r was kept
  size := aside.size.ge
  id r _ := aside.id r
  path r _ := aside.path r
  closed r was dismissed := (leaves r was dismissed).2

/-- An operation that removes those it dismisses. -/
theorem performed_of_dismissed (h : Listed f) (aside : Aside f f') (adds : ∀ r, a ≠ .add r)
    {rs : List SessionRef} (dismissed : Dismissed rs f f')
    (who : ∀ r ∈ f.registered, r ∈ rs ↔ a.dismisses f r = true) : Performed a f f' := by
  refine performed_of_aside h aside adds (fun r was kept => ?_) fun r was leaves => ?_
  · have away : r ∉ rs := fun here => by
      rw [(who r was).mp here] at kept
      nomatch kept
    exact (dismissed.others r away).2.mpr was
  · obtain ⟨gone, closed⟩ := dismissed.gone r ((who r was).mpr leaves)
    rw [closed]
    exact ⟨gone, rfl⟩

/-- An operation that hands a payload to some sessions. -/
theorem performed_of_handed (h : Listed f) (aside : Aside f f') (adds : ∀ r, a ≠ .add r)
    {payload : String} {rs : List SessionRef} (handed : Handed payload rs f f')
    (who : ∀ r ∈ f.registered,
      (r ∈ rs ∧ (f.session r).hasRoom = false) ↔ a.dismisses f r = true) : Performed a f f' := by
  refine performed_of_aside h aside adds (fun r was kept => ?_) fun r was leaves => ?_
  · by_cases here : r ∈ rs
    · cases room : (f.session r).hasRoom with
      | true => exact (handed.taken r here room).2
      | false =>
        rw [(who r was).mp ⟨here, room⟩] at kept
        nomatch kept
    · exact (handed.others r here).2.mpr was
  · obtain ⟨here, full⟩ := (who r was).mpr leaves
    obtain ⟨gone, closed, _⟩ := handed.lost r here full
    exact ⟨gone, closed⟩

/-- An operation that changes nothing. -/
theorem performed_refl (h : Listed f) (adds : ∀ r, a ≠ .add r)
    (nobody : ∀ r ∈ f.registered, a.dismisses f r = false) : Performed a f f :=
  performed_of_aside h (.refl f) adds (fun _ was _ => was) fun r was leaves => by
    rw [nobody r was] at leaves
    nomatch leaves

/-- A name that is unknown is entered. -/
theorem register_of_unknown (unknown : f.table (f.session r).id = none) :
    f.register r = (.ok (), { f with roster := f.roster ++ [((f.session r).id, r)] }) := by
  rw [Floor.register, show f.roster.lookup (f.session r).id = none from unknown]
  rfl

/-- A name that is taken is refused, and nobody is concerned. -/
theorem register_of_known (known : f.table (f.session r).id ≠ none) :
    (f.register r).1 = .error (.duplicate (f.session r).id) ∧ Still f (f.register r).2 := by
  have taken : (f.roster.lookup (f.session r).id).isSome = true := Option.isSome_iff_ne_none.mpr known
  rw [Floor.register, if_pos taken]
  exact ⟨rfl, rfl, rfl⟩

theorem performed_register (h : Listed f) (there : r < f.sessions.size) :
    Performed (.add r) f (f.register r).2 := by
  have listed := h.register there
  by_cases unknown : f.table (f.session r).id = none
  · rw [register_of_unknown unknown] at listed ⊢
    refine ⟨listed, fun r' => ?_, Nat.le_refl _, fun _ _ => rfl, fun _ _ => rfl, nofun⟩
    rw [registered, List.map_append, List.mem_append, List.map_singleton, List.mem_singleton]
    constructor
    · rintro (was | rfl)
      · exact .inr ⟨was, rfl⟩
      · exact .inl ⟨rfl, unknown⟩
    · rintro (⟨added, _⟩ | ⟨was, _⟩)
      · exact .inr (Act.add.inj added).symm
      · exact .inl was
  · obtain ⟨_, sessions, roster⟩ := register_of_known unknown
    have same : ∀ r', (f.register r).2.session r' = f.session r' := fun r' => by
      rw [session, sessions]
      rfl
    refine ⟨listed, fun r' => ?_, sessions ▸ Nat.le_refl _, fun r' _ => by rw [same],
      fun r' _ => by rw [same], nofun⟩
    rw [registered, roster]
    constructor
    · exact fun here => .inr ⟨here, rfl⟩
    · rintro (⟨added, unknown'⟩ | ⟨was, _⟩)
      · obtain rfl := Act.add.inj added
        exact absurd unknown' unknown
      · exact was

theorem performed_meanwhile (h : Listed f) (change : Meanwhile f f') :
    Performed (.meanwhile f') f f' where
  listed :=
    { distinct := change.roster ▸ h.distinct
      named := fun e he => by
        obtain ⟨there, id⟩ := h.named e (change.roster ▸ he)
        exact ⟨Nat.lt_of_lt_of_le there change.size, (change.id e.2 there).trans id⟩ }
  registered r := by
    rw [registered, change.roster]
    constructor
    · exact fun here => .inr ⟨here, rfl⟩
    · rintro (⟨added, _⟩ | ⟨was, _⟩)
      · cases added
      · exact was
  size := change.size
  id := change.id
  path := change.path
  closed _ _ leaves := absurd leaves Bool.false_ne_true

theorem performed_remove (h : Listed f) (path : String) (id : SessionId) :
    Performed (.remove path id) f (f.remove path id).2 := by
  cases found : f.get? path id with
  | some r =>
    obtain ⟨here, rfl, rfl⟩ := h.get?_eq_some.mp found
    refine performed_of_dismissed h (aside_remove ..) (by simp) (h.dismissed here) fun r' here' => ?_
    rw [List.mem_singleton, Act.dismisses, decide_eq_true_eq]
    constructor
    · rintro rfl
      exact ⟨rfl, rfl⟩
    · exact fun same => h.inj here' here same.2
  | none =>
    rw [show f.remove path id = (none, f) by rw [Floor.remove, found]]
    refine performed_refl h (by simp) fun r here => decide_eq_false fun same => ?_
    rw [h.get?_eq_some.mpr ⟨here, same.1, same.2⟩] at found
    cases found

theorem performed_send (h : Listed f) (path : String) (id : SessionId) (payload : String) :
    Performed (.send path id payload) f (f.sendTo path id payload).2 := by
  cases found : f.get? path id with
  | some r =>
    obtain ⟨_, handed⟩ := handed_sendTo h found payload
    obtain ⟨here, rfl, rfl⟩ := h.get?_eq_some.mp found
    refine performed_of_handed h (aside_sendTo ..) nofun handed fun r' here' => ?_
    rw [List.mem_singleton, Act.dismisses, decide_eq_true_eq]
    constructor
    · rintro ⟨rfl, full⟩
      exact ⟨rfl, rfl, full⟩
    · exact fun same => ⟨h.inj here' here same.2.1, same.2.2⟩
  | none =>
    rw [show f.sendTo path id payload = (false, f) by rw [sendTo, found]]
    refine performed_refl h nofun fun r here => decide_eq_false fun same => ?_
    rw [h.get?_eq_some.mpr ⟨here, same.1, same.2.1⟩] at found
    nomatch found

theorem performed_broadcast (h : Listed f) (path payload : String) (admits : Session → Bool) :
    Performed (.broadcast path payload admits) f (f.deliver path payload admits).1 := by
  refine performed_of_handed h (aside_deliver ..) nofun (handed_deliver_to h path payload admits)
    fun r here => ?_
  rw [List.mem_filter, mem_onPath, Act.dismisses, decide_eq_true_eq]
  constructor
  · rintro ⟨⟨⟨_, onPath⟩, admitted⟩, full⟩
    exact ⟨onPath, admitted, full⟩
  · rintro ⟨onPath, admitted, full⟩
    exact ⟨⟨⟨here, onPath⟩, admitted⟩, full⟩

/-- **Every operation does to the sessions what it is said to do**: it enters at most one, takes out
those that it dismisses and closes them. -/
theorem performed (h : Listed f) (possible : a.Possible f) : Performed a f (a.perform f).2 := by
  cases a with
  | add r => exact performed_register h possible
  | remove path id => exact performed_remove h path id
  | send path id payload => exact performed_send h path id payload
  | broadcast path payload admits => exact performed_broadcast h path payload admits
  | sweep timeout =>
    refine performed_of_dismissed h (aside_sweepIdle ..) nofun (h.sweepIdle timeout).2 fun r here => ?_
    rw [List.mem_filter]
    exact and_iff_right here
  | closeAll =>
    refine performed_of_dismissed h ?_ nofun h.closeAll.2 fun r here => ?_
    · exact aside_removeAll .refl _ f
    · exact iff_of_true here rfl
  | get | count | len | sessions => exact performed_refl h nofun fun _ _ => rfl
  | meanwhile after => exact performed_meanwhile h possible

/-- The reply is the table's. -/
theorem answers_perform (h : Listed f) (a : Act) : f.table.Answers f a (a.perform f).1 := by
  have get? : ∀ path id, f.get? path id = (f.table id).filter fun r => (f.session r).path = path :=
    fun _ _ => rfl
  cases a with
  | add r =>
    by_cases unknown : f.table (f.session r).id = none
    · exact (congrArg Prod.fst (register_of_unknown unknown)).trans (if_pos unknown).symm
    · exact (register_of_known unknown).1.trans (if_neg unknown).symm
  | remove path id =>
    show (f.remove path id).1 = _
    rw [← get?]
    cases found : f.get? path id with
    | none => rw [Floor.remove, found]
    | some r => rw [Floor.remove, found]
  | get path id => exact get? path id
  | send path id payload =>
    show (f.sendTo path id payload).1 = _
    rw [← get?]
    cases found : f.get? path id with
    | none => rw [sendTo, found]; rfl
    | some r => exact (handed_sendTo h found payload).1
  | broadcast path payload admits =>
    have report := report_deliver h path payload admits
    simp only [onPath, List.filter_filter] at report
    refine ⟨_, _, h.lists fun r => ?_, h.lists fun r => ?_, report⟩
    · rw [Bool.and_eq_true, Bool.and_eq_true, beq_iff_eq, and_rotate, and_left_comm]
    · rw [Bool.and_eq_true, Bool.and_eq_true, beq_iff_eq, Bool.not_eq_true', and_rotate,
        and_left_comm]
  | sweep timeout =>
    show Table.Lists _ _ (f.sweepIdle timeout).1
    rw [(h.sweepIdle timeout).1]
    exact h.lists fun _ => Iff.rfl
  | closeAll =>
    show Table.Lists _ _ f.closeAll.1
    rw [h.closeAll.1]
    exact ⟨h.nodup, fun r => by rw [h.mem_table, and_true]⟩
  | count path => exact ⟨_, h.lists fun r => beq_iff_eq, rfl⟩
  | len =>
    refine ⟨f.registered, ⟨h.nodup, fun r => ?_⟩, (List.length_map _).symm⟩
    rw [h.mem_table, and_true]
  | sessions => exact ⟨h.nodup, fun r => by rw [h.mem_table, and_true]⟩
  | meanwhile after => trivial

/-- The table after an operation. -/
theorem Performed.table (h : Listed f) (possible : a.Possible f) (done : Performed a f f') :
    f'.table = a.onTable f f.table := by
  funext id
  have entered : ∀ r, f'.table id = some r ↔
      ((a = .add r ∧ f.table id = none) ∧ (f.session r).id = id) ∨
        (f.table id = some r ∧ a.dismisses f r = false) := by
    intro r
    rw [done.listed.table_eq_some, done.registered, h.table_eq_some]
    constructor
    · rintro ⟨⟨rfl, unknown⟩ | ⟨was, kept⟩, named⟩
      · rw [done.id r possible] at named
        exact .inl ⟨⟨rfl, named ▸ unknown⟩, named⟩
      · rw [done.id r (h.lt was)] at named
        exact .inr ⟨⟨was, named⟩, kept⟩
    · rintro (⟨⟨rfl, unknown⟩, rfl⟩ | ⟨⟨was, named⟩, kept⟩)
      · exact ⟨.inl ⟨rfl, unknown⟩, done.id r possible⟩
      · exact ⟨.inr ⟨was, kept⟩, (done.id r (h.lt was)).trans named⟩
  ext r
  rw [entered]
  by_cases adds : ∃ r', a = .add r'
  · obtain ⟨r', rfl⟩ := adds
    rw [Act.onTable]
    split
    · rename_i new
      constructor
      · rintro (⟨⟨same, _⟩, _⟩ | ⟨was, _⟩)
        · rw [Act.add.inj same]
        · rw [new.2] at was
          nomatch was
      · intro same
        obtain rfl := Option.some.inj same
        exact .inl ⟨⟨rfl, new.2⟩, new.1⟩
    · rename_i old
      constructor
      · rintro (⟨⟨same, unknown⟩, named⟩ | ⟨was, _⟩)
        · exact absurd ⟨Act.add.inj same ▸ named, unknown⟩ old
        · exact was
      · exact fun was => .inr ⟨was, rfl⟩
  · have taken : a.onTable f f.table id = (f.table id).filter fun r => !a.dismisses f r := by
      cases a with
      | add r' => exact absurd ⟨r', rfl⟩ adds
      | _ => rfl
    rw [taken, Option.filter_eq_some_iff, Bool.not_eq_true']
    exact or_iff_right fun both => adds ⟨r, both.1.1⟩

/-! ## Runs -/

/-- Something that was done on a floor as it was. -/
structure Done where
  act : Act
  before : Floor

/-- The reply to it. -/
def Done.reply (d : Done) : Reply := (d.act.perform d.before).1

/-- The floor after it. -/
def Done.after (d : Done) : Floor := (d.act.perform d.before).2

/-- What runs lead to from some floor, and what was done on the way, the earliest first. -/
inductive Reaches (start : Floor) : List Done → Floor → Prop
  | init : Reaches start [] start
  | act {h : List Done} {f : Floor} (before : Reaches start h f) {a : Act} (possible : a.Possible f) :
    Reaches start (h ++ [⟨a, f⟩]) (a.perform f).2

/-- The table of a run that began with nobody. -/
def ideal (h : List Done) : Table := h.foldl (fun t d => d.act.onTable d.before t) fun _ => none

theorem ideal_snoc (h : List Done) (d : Done) : ideal (h ++ [d]) = d.act.onTable d.before (ideal h) :=
  List.foldl_concat ..

/-- A session is added under its path and its name. -/
def Done.Adds (path : String) (id : SessionId) (r : SessionRef) (d : Done) : Prop :=
  d.act = .add r ∧ d.reply = .admitted (.ok ()) ∧
    (d.before.session r).path = path ∧ (d.before.session r).id = id

/-- A session is dismissed. -/
def Done.Dismisses (r : SessionRef) (d : Done) : Prop := d.act.dismisses d.before r = true

/-- **The roster is a table**: what is known of a floor and of all that was done on it. -/
structure Mirrors (h : List Done) (f : Floor) : Prop where
  /-- The roster is the table that the run makes of no table. -/
  table : f.table = ideal h
  /-- Every reply is what the table says. -/
  replies : Always (fun past d => (ideal past).Answers d.before d.act d.reply) h
  /-- Who is refused leaves everybody as he was. -/
  refused : ∀ d ∈ h, ∀ r, d.act = .add r → d.reply ≠ .admitted (.ok ()) → Still d.before d.after
  /-- A session is found under a path and a name if it was added under both and not dismissed since. -/
  get : ∀ path id r, f.get? path id = some r ↔ Since (Done.Adds path id r) (Done.Dismisses r) h
  /-- Every session is counted once, on its path. -/
  counts : finsum (fun path => (f.onPath path).length) = f.roster.length
  /-- Every session is filed under its own name. -/
  named : ∀ id r, f.table id = some r → (f.session r).id = id
  /-- A session leaves by an operation that dismisses it, and by nothing else. -/
  leaves : ∀ d ∈ h, ∀ r ∈ d.before.registered, r ∉ d.after.registered ↔ d.Dismisses r
  /-- Whoever leaves is closed. -/
  closes : ∀ d ∈ h, ∀ r ∈ d.before.registered, r ∉ d.after.registered →
    (d.after.session r).outbox.closed = true

variable {start : Floor} {h : List Done}

/-- A found session, after an operation. -/
theorem get?_perform (listed : Listed f) (possible : a.Possible f) (path : String) (id : SessionId)
    (r : SessionRef) : (a.perform f).2.get? path id = some r ↔
      Done.Adds path id r ⟨a, f⟩ ∨ (f.get? path id = some r ∧ ¬ Done.Dismisses r ⟨a, f⟩) := by
  have done := performed listed possible
  rw [done.listed.get?_eq_some, listed.get?_eq_some, done.registered, Done.Dismisses,
    Bool.not_eq_true]
  constructor
  · rintro ⟨⟨rfl, unknown⟩ | ⟨was, kept⟩, onPath, named⟩
    · rw [done.path r possible] at onPath
      rw [done.id r possible] at named
      refine .inl ⟨rfl, ?_, onPath, named⟩
      exact congrArg Reply.admitted (congrArg Prod.fst (register_of_unknown unknown))
    · rw [done.path r (listed.lt was)] at onPath
      rw [done.id r (listed.lt was)] at named
      exact .inr ⟨⟨was, onPath, named⟩, kept⟩
  · rintro (⟨rfl, admitted, rfl, rfl⟩ | ⟨⟨was, onPath, named⟩, kept⟩)
    · refine ⟨.inl ⟨rfl, ?_⟩, done.path r possible, done.id r possible⟩
      by_contra known
      have refused := (register_of_known known).1
      rw [Reply.admitted.inj admitted] at refused
      nomatch refused
    · exact ⟨.inr ⟨was, kept⟩, (done.path r (listed.lt was)).trans onPath,
        (done.id r (listed.lt was)).trans named⟩

/-- Going through the paths, every session is counted once. -/
theorem sum_onPath (f : Floor) : finsum (fun path => (f.onPath path).length) = f.roster.length := by
  let paths := f.registered.map fun r => (f.session r).path
  have count : ∀ path, (f.onPath path).length = paths.count path := by
    intro path
    rw [List.count, List.countP_map, List.countP_eq_length_filter]
    rfl
  have inUse : Function.support (fun path => (f.onPath path).length) ⊆ paths.toFinset := by
    intro path counted
    rw [Function.mem_support, count, Ne, List.count_eq_zero, not_not] at counted
    exact List.mem_toFinset.mpr counted
  rw [finsum_eq_sum_of_support_subset _ inUse, Finset.sum_congr rfl fun path _ => count path,
    List.sum_toFinset_count_eq_length, List.length_map, registered, List.length_map]

/-- One more operation. -/
theorem Mirrors.act (mirrors : Mirrors h f) (listed : Listed f) (possible : a.Possible f) :
    Mirrors (h ++ [⟨a, f⟩]) (a.perform f).2 := by
  have done := performed listed possible
  have leaves : ∀ r ∈ f.registered, r ∉ (a.perform f).2.registered ↔ a.dismisses f r = true := by
    intro r was
    rw [done.registered, ← Bool.not_eq_false]
    constructor
    · exact fun gone kept => gone (.inr ⟨was, kept⟩)
    · rintro leaves (⟨_, unknown⟩ | ⟨_, kept⟩)
      · rw [listed.table_eq_some.mpr ⟨was, rfl⟩] at unknown
        nomatch unknown
      · exact leaves kept
  constructor
  · rw [ideal_snoc, ← mirrors.table]
    exact done.table listed possible
  · rw [always_snoc, ← mirrors.table]
    exact ⟨mirrors.replies, answers_perform listed a⟩
  · simp only [List.forall_mem_append, List.forall_mem_singleton]
    refine ⟨mirrors.refused, ?_⟩
    rintro r rfl refused
    by_cases unknown : f.table (f.session r).id = none
    · exact absurd (congrArg Reply.admitted (congrArg Prod.fst (register_of_unknown unknown))) refused
    · exact (register_of_known unknown).2
  · intro path id r
    rw [since_snoc, ← mirrors.get]
    exact get?_perform listed possible path id r
  · exact sum_onPath _
  · exact fun id r found => (done.listed.table_eq_some.mp found).2
  · simp only [List.forall_mem_append, List.forall_mem_singleton]
    exact ⟨mirrors.leaves, leaves⟩
  · simp only [List.forall_mem_append, List.forall_mem_singleton]
    exact ⟨mirrors.closes, fun r was gone => done.closed r was ((leaves r was).mp gone)⟩

/-- **Whatever is done on a floor that begins with nobody registered**, and whatever happens to the
sessions in between, its roster is a table: it and its replies are those of the table that the run makes
of no table, and nobody leaves it without being dismissed and closed. -/
theorem roster_mirrors (nobody : start.roster = []) (reached : Reaches start h f) : Mirrors h f := by
  have both : Listed f ∧ Mirrors h f := by
    induction reached with
    | init =>
      have listed : Listed start := ⟨by simp [nobody], by simp [nobody]⟩
      have absent : start.table = ideal [] := by
        funext id
        rw [Floor.table, nobody]
        rfl
      refine ⟨listed, absent, always_nil _, by simp, fun path id r => ?_, sum_onPath start,
        fun id r found => (listed.table_eq_some.mp found).2, by simp, by simp⟩
      refine iff_of_false ?_ (not_since_nil _ _)
      rw [listed.get?_eq_some, registered, nobody]
      exact fun found => absurd found.1 List.not_mem_nil
    | act before possible ih => exact ⟨(performed ih.1 possible).listed, ih.2.act ih.1 possible⟩
  exact both.2

/-- Two sessions with room for one frame, nobody registered. -/
def foyer : Floor :=
  let s (id path : String) := Session.opening ⟨id⟩ path ⟨"n"⟩ {} (.ofCapacity 1) 0
  { sessions := #[s "a" "/x", s "b" "/y"] }

/-- One of two sessions is broadcast to once too often, and the other one stays. -/
theorem foyer_mirrors : ∃ h f, Reaches foyer h f ∧ foyer.roster = [] ∧ h.length = 5 ∧
    f.roster = [(⟨"b"⟩, 1)] ∧ (f.session 0).outbox.closed = true ∧ Mirrors h f := by
  have entered := (Reaches.init : Reaches foyer [] foyer).act (a := .add 0) (show 0 < 2 by decide)
  have both := entered.act (a := .add 1) (show 1 < 2 by decide)
  have filled := both.act (a := .broadcast "/x" "hello" fun _ => true) trivial
  have lost := filled.act (a := .broadcast "/x" "again" fun _ => true) trivial
  have sought := lost.act (a := .get "/x" ⟨"a"⟩) trivial
  exact ⟨_, _, sought, rfl, rfl, by decide, by decide, roster_mirrors rfl sought⟩

end Floor

end SessionHub

import Mathlib.Data.Finset.Card
import SessionHub.Deployment.Task
import SessionHub.Proofs.Entries
import SessionHub.Proofs.Program.History
import SessionHub.Proofs.Program.Pool

/-!
# A store as an ideal map

Seen from outside, a store in memory is a map in which a key holds the value of its last successful
write exactly as long as the write's lifetime lasts and no deletion of the key has succeeded since. The
table behind it differs from that map: what is over stays in it until somebody comes across it, every
operation looks at the lifetimes by itself, and a call takes effect only when its latency has passed,
while others come and go.

Every use of a store is a task here: the calls, which wait for their turn, and the two looks at the table,
which do not. They run in any interleaving and may be dropped while they wait; in between time passes, the
store is switched on and off and made slower or faster, and anything else happens to the deployment but
to the table. What comes of a use is its **outcome**, and the outcomes so far say what a key **holds**.
Nothing else is needed to tell the next result.
-/

namespace SessionHub

/-! ## Uses and outcomes -/

/-- What a store is used for: a call, or a look at what is in it. -/
inductive StoreUse where
  | call (c : StoreCall)
  | contains (key : String)
  | size
  deriving Repr, DecidableEq

/-- What a use comes to. -/
def StoreUse.Result : StoreUse → Type
  | .call c => c.Answer
  | .contains _ => Bool
  | .size => Nat

/-- What came of a use: when it was completed, whether the store was switched on then, and the result. -/
structure Outcome where
  use : StoreUse
  time : Nat
  on : Bool
  result : use.Result

/-- What a look at a store comes to. -/
def StoreUse.look (s : Store) (now : Nat) : StoreUse → Option Outcome
  | .call _ => none
  | .contains key => some ⟨.contains key, now, s.available, (s.value? now key).isSome⟩
  | .size => some ⟨.size, now, s.available, s.size now⟩

/-- A use of a store as a task. -/
def StoreUse.task (i : Nat) : StoreUse → Task Outcome
  | .call c => do
    let result ← Task.callStore i c
    Program.view fun w => ⟨.call c, w.now, (w.store i).available, result⟩
  | .contains key =>
    Program.view fun w =>
      ⟨.contains key, w.now, (w.store i).available, ((w.store i).value? w.now key).isSome⟩
  | .size => Program.view fun w => ⟨.size, w.now, (w.store i).available, (w.store i).size w.now⟩

namespace Outcome

/-- What a call failed with. -/
def fault? : Outcome → Option StoreFault
  | ⟨.call _, _, _, .error fault⟩ => some fault
  | _ => none

/-- A successful write of a value under a key, whose lifetime ends at a time. -/
def Writes (key value : String) (ends : Nat) (o : Outcome) : Prop :=
  o.fault? = none ∧ ∃ ttl, o.use = .call (.set key value ttl) ∧ ends = o.time + ttl

/-- A successful write or deletion of a key. -/
def Settles (key : String) (o : Outcome) : Prop :=
  o.fault? = none ∧
    ((∃ value ttl, o.use = .call (.set key value ttl)) ∨ o.use = .call (.delete key))

end Outcome

/-- **What an ideal map holds** under a key: the value of its last successful write, while the lifetime
of the write lasts and if no deletion of the key has succeeded since. -/
def Held (past : List Outcome) (now : Nat) (key value : String) : Prop :=
  Since (fun o => ∃ ends, o.Writes key value ends ∧ now < ends) (Outcome.Settles key) past

/-- Whether pairs are the ones that are held under keys with a beginning, in order. -/
def Lists (past : List Outcome) (now : Nat) (start : String) (found : List (String × String)) : Prop :=
  Store.Ascending found ∧ ∀ k v, (k, v) ∈ found ↔ Held past now k v ∧ start.toList <+: k.toList

/-- Whether the reply to a call is what the ideal map says. -/
def StoreCall.Fits (past : List Outcome) (now : Nat) : (c : StoreCall) → c.Reply → Prop
  | .get key, found => ∀ v, found = some v ↔ Held past now key v
  | .scan start, found => Lists past now start found
  | _, _ => True

/-- **Whether an outcome is what the ideal map says.** A call fails exactly when the store is switched
off. -/
def Outcome.Fits (past : List Outcome) : Outcome → Prop
  | ⟨.call c, now, on, .ok reply⟩ => on = true ∧ c.Fits past now reply
  | ⟨.call _, _, on, .error fault⟩ => on = false ∧ fault = .unavailable "memory store disabled"
  | ⟨.contains key, now, _, found⟩ => found = true ↔ ∃ v, Held past now key v
  | ⟨.size, now, _, n⟩ => ∃ keys : Finset String, (∀ k, k ∈ keys ↔ ∃ v, Held past now k v) ∧ n = keys.card

/-! ## One use -/

/-- Whether a store says of every key, now and later, what the ideal map says. -/
def Mirrors (past : List Outcome) (s : Store) (now : Nat) : Prop :=
  ∀ t, now ≤ t → ∀ k v, s.value? t k = some v ↔ Held past t k v

variable {past : List Outcome} {s : Store} {now : Nat}

theorem Mirrors.later {now' : Nat} (h : Mirrors past s now) (later : now ≤ now') :
    Mirrors past s now' := fun t ht => h t (Nat.le_trans later ht)

theorem Mirrors.isSome (h : Mirrors past s now) (key : String) :
    (s.value? now key).isSome = true ↔ ∃ v, Held past now key v := by
  rw [Option.isSome_iff_exists]
  exact exists_congr fun v => h now (Nat.le_refl now) key v

/-- What comes of a call that is served now. -/
def Store.outcome (s : Store) (now : Nat) (c : StoreCall) : Outcome :=
  ⟨.call c, now, s.available, (s.serve now c).1⟩

theorem fault?_outcome (s : Store) (now : Nat) (c : StoreCall) :
    (s.outcome now c).fault? = if s.available then none else some (.unavailable "memory store disabled") := by
  unfold Store.outcome Store.serve
  split <;> rfl

theorem held_snoc {o : Outcome} {t : Nat} {k v : String} : Held (past ++ [o]) t k v ↔
    (∃ ends, o.Writes k v ends ∧ t < ends) ∨ Held past t k v ∧ ¬ o.Settles k := since_snoc

theorem writes_outcome {c : StoreCall} {k v : String} {ends : Nat} :
    (s.outcome now c).Writes k v ends ↔
      s.available = true ∧ ∃ ttl, c = .set k v ttl ∧ ends = now + ttl := by
  rw [Outcome.Writes, fault?_outcome, Store.outcome]
  cases s.available <;> simp

theorem settles_outcome {c : StoreCall} {k : String} : (s.outcome now c).Settles k ↔
    s.available = true ∧ ((∃ v ttl, c = .set k v ttl) ∨ c = .delete k) := by
  rw [Outcome.Settles, fault?_outcome, Store.outcome]
  cases s.available <;> simp

/-- **A call that is served leaves the store in agreement with the ideal map.** -/
theorem Mirrors.serve (h : Mirrors past s now) (keyed : s.Keyed) (c : StoreCall) :
    Mirrors (past ++ [s.outcome now c]) (s.serve now c).2 now := by
  intro t later k v
  have before := h t later k v
  rw [held_snoc, settles_outcome]
  simp only [writes_outcome]
  unfold Store.serve
  cases on : s.available with
  | false => simp [before]
  | true =>
    rw [if_pos rfl]
    show (s.perform now c).2.value? t k = some v ↔ _
    rw [Store.value?_perform keyed later]
    cases c with
    | set key value ttl =>
      by_cases same : k = key
      · subst same
        by_cases live : t < now + ttl <;> simp [live]
      · simp [same, Ne.symm same, before]
    | delete key =>
      by_cases same : k = key
      · simp [same]
      · simp [same, Ne.symm same, before]
    | get _ | scan _ | publish _ _ | subscribe _ => simp [before]

/-- **What a call comes to is what the ideal map says.** -/
theorem Mirrors.fits (h : Mirrors past s now) (keyed : s.Keyed) (c : StoreCall) :
    (s.outcome now c).Fits past := by
  unfold Store.outcome Store.serve
  cases on : s.available with
  | false => exact ⟨rfl, rfl⟩
  | true =>
    refine ⟨rfl, ?_⟩
    cases c with
    | get key =>
      intro v
      rw [← h now (Nat.le_refl now) key v]
      show (s.perform now (.get key)).1 = some v ↔ _
      dsimp only [Store.perform]
      cases s.value? now key <;> rfl
    | scan start =>
      refine ⟨Store.pairs_ascending keyed now start, fun k v => ?_⟩
      rw [← h now (Nat.le_refl now) k v, ← List.isPrefixOf_iff_prefix]
      exact Store.mem_pairs_iff keyed
    | set _ _ _ | delete _ | publish _ _ | subscribe _ => trivial

/-- **What a look comes to is what the ideal map says.** -/
theorem Mirrors.look (h : Mirrors past s now) (keyed : s.Keyed) {u : StoreUse} {o : Outcome}
    (seen : u.look s now = some o) : o.Fits past := by
  cases u with
  | call c => cases seen
  | contains key =>
    obtain rfl := Option.some.inj seen
    exact h.isSome key
  | size =>
    obtain rfl := Option.some.inj seen
    obtain ⟨keys, distinct, live, size⟩ := Store.size_eq keyed now
    refine ⟨⟨keys, distinct⟩, fun k => ?_, size⟩
    rw [← h.isSome, ← live]
    rfl

theorem fault?_look {u : StoreUse} {o : Outcome} (seen : u.look s now = some o) : o.fault? = none := by
  cases u with
  | call c => cases seen
  | contains key => exact Option.some.inj seen ▸ rfl
  | size => exact Option.some.inj seen ▸ rfl

/-- A look changes nothing of what the ideal map says. -/
theorem Mirrors.looked (h : Mirrors past s now) {u : StoreUse} {o : Outcome}
    (seen : u.look s now = some o) : Mirrors (past ++ [o]) s now := by
  have noCall : ∀ c, o.use ≠ .call c := by
    cases u with
    | call c => cases seen
    | contains key | size =>
      obtain rfl := Option.some.inj seen
      exact fun c same => by cases same
  intro t later k v
  rw [h t later k v, held_snoc]
  simp [Outcome.Writes, Outcome.Settles, noCall]

/-! ## All uses -/

/-- What may happen beside the uses of a store: time goes on, and anything else changes but the
table. -/
structure LeavesTable (i : Nat) (w w' : World) : Prop where
  time : w.now ≤ w'.now
  size : w.stores.size ≤ w'.stores.size
  entries : (w'.store i).entries = (w.store i).entries

/-- All uses of one of the stores of a deployment, in any interleaving. -/
def storeUses (i : Nat) : System World Wait (fun _ => Unit) Outcome StoreUse where
  program := StoreUse.task i
  admits _ _ _ _ := True
  serves wait w _ w' := wait.isOver w = true ∧ w' = w
  mayDrop _ := True
  turns := LeavesTable i

/-- The outcome of a use that returns. -/
def outcomeOf : Note World Wait Outcome StoreUse → Option Outcome
  | .returned _ o => some o
  | _ => none

/-- What came of the uses so far. -/
def outcomes (h : List (Note World Wait Outcome StoreUse)) : List Outcome := h.filterMap outcomeOf

variable {i : Nat} {w w' : World}

/-- The conduct of a use: it serves its call in the stretch in which it ends, and a call that fails
puts nothing in place but what was there. The stand is the outcome, once it is known. -/
def useConduct (i : Nat) : Conduct World Wait (Option Outcome) where
  finds _ w := i < w.stores.size
  puts g w w' g' := match g with
    | none => ∃ c, w' = w.modifyStore i (fun _ => ((w.store i).serve w.now c).2) ∧
      g' = some ((w.store i).outcome w.now c)
    | some o => o.fault? = none ∧ w'.now = w.now ∧ w'.stores = w.stores ∧ g' = some o
  asks g _ _ g' := g = none ∧ g' = none

theorem available_serve (s : Store) (now : Nat) (c : StoreCall) :
    (s.serve now c).2.available = s.available := by
  unfold Store.serve
  split
  · cases c with
    | get key =>
      dsimp only [Store.perform]
      split <;> rfl
    | set _ _ _ | delete _ | scan _ | publish _ _ | subscribe _ => rfl
  · rfl

theorem store_modifyStore (there : i < w.stores.size) (s : Store) :
    (w.modifyStore i fun _ => s).store i = s := by
  show (w.stores.modify i _).getD i default = s
  rw [getD_modify, if_pos ⟨rfl, there⟩]

/-- What a call has come to when it ends. -/
def CallEnds (i : Nat) (c : StoreCall) (g : Option Outcome) (w : World) (a : c.Answer) : Prop :=
  g = some ⟨.call c, w.now, (w.store i).available, a⟩

/-- A call, once its latency has passed. -/
theorem gated_heeds (c : StoreCall) (there : i < w.stores.size) :
    Program.Heeds (useConduct i) (CallEnds i c) (do
      let answer ← Program.update fun w =>
        let (answer, s) := (w.store i).serve w.now c
        (answer, w.modifyStore i fun _ => s)
      match c, answer with
      | .subscribe _, .ok sub => Program.modify fun w => (w.startJob (.forward i sub) none).2
      | _, _ => pure ()
      return answer : Task c.Answer) none w := by
  have ends : CallEnds i c (some ((w.store i).outcome w.now c))
      (w.modifyStore i fun _ => ((w.store i).serve w.now c).2) ((w.store i).serve w.now c).1 := by
    rw [CallEnds, store_modifyStore there, available_serve]
    rfl
  refine ⟨_, ⟨c, rfl, rfl⟩, ?_⟩
  cases c with
  | subscribe pattern =>
    -- A subscription that was made gets a job, which is no concern of the store.
    cases on : (w.store i).available with
    | false =>
      have failed : ((w.store i).serve w.now (.subscribe pattern)).1
          = .error (.unavailable "memory store disabled") := by
        rw [Store.serve, on, if_neg Bool.false_ne_true]
      rw [failed] at ends ⊢
      exact ends
    | true =>
      obtain ⟨sub, made⟩ : ∃ sub, ((w.store i).serve w.now (.subscribe pattern)).1 = .ok sub := by
        rw [Store.serve, on, if_pos rfl]
        exact ⟨_, rfl⟩
      have fine := fault?_outcome (w.store i) w.now (.subscribe pattern)
      rw [on, if_pos rfl] at fine
      rw [made] at ends ⊢
      exact ⟨_, ⟨fine, rfl, rfl, rfl⟩, ends⟩
  | set _ _ _ | get _ | delete _ | scan _ | publish _ _ => exact ends

theorem callStore_heeds (c : StoreCall) (there : i < w.stores.size) :
    (Task.callStore i c).Heeds (useConduct i) (CallEnds i c) none w := by
  unfold Task.callStore
  rw [Program.heeds_get_bind]
  dsimp only
  split
  · rw [Program.heeds_bind]
    unfold Task.sleep Task.await
    show Program.Heeds _ _ (if _ then _ else _) _ _
    split
    · exact gated_heeds c there
    · exact ⟨none, ⟨rfl, rfl⟩, fun _ w' there' => gated_heeds c there'⟩
  · exact gated_heeds c there

/-- With what a use ends: its outcome is known from the stretch before, or it is a look. -/
def UseEnds (i : Nat) (u : StoreUse) (g : Option Outcome) (w : World) (o : Outcome) : Prop :=
  o.use = u ∧ (g = some o ∨ g = none ∧ u.look (w.store i) w.now = some o)

theorem task_heeds (u : StoreUse) (there : i < w.stores.size) :
    (u.task i).Heeds (useConduct i) (UseEnds i u) none w := by
  cases u with
  | call c =>
    refine (callStore_heeds c there).bind fun g w a ended => ?_
    exact ⟨rfl, .inl ended⟩
  | contains key => exact ⟨rfl, .inr ⟨rfl, rfl⟩⟩
  | size => exact ⟨rfl, .inr ⟨rfl, rfl⟩⟩

/-- What is said of a return: its outcome is what the ideal map says after the outcomes before it, and
where a call fails what it put in place last is what was there. -/
def WellReturned (pre : List (Note World Wait Outcome StoreUse)) (n : Note World Wait Outcome StoreUse) :
    Prop :=
  ∀ u o, n = .returned u o → o.use = u ∧ o.Fits (outcomes pre) ∧
    (o.fault? ≠ none → ∃ w, pre.getLast? = some (.changed w w))

/-- The outcome that is known of the use that goes on just now. -/
def pendingOutcome (cur : Option (StoreUse × Option Outcome)) : Option Outcome := cur.bind (·.2)

/-- What holds while a store is used. -/
structure InUse (i : Nat) (w : World) (h : List (Note World Wait Outcome StoreUse))
    (cur : Option (StoreUse × Option Outcome)) (W : List (Stance Wait StoreUse (Option Outcome))) :
    Prop where
  there : i < w.stores.size
  keyed : (w.store i).Keyed
  idle : ∀ s ∈ W, s.standing = none
  mirrors : Mirrors (outcomes h ++ (pendingOutcome cur).toList) (w.store i) w.now
  fits : ∀ o, pendingOutcome cur = some o → o.Fits (outcomes h) ∧
    (o.fault? ≠ none → ∃ w, h.getLast? = some (.changed w w))
  returns : Always WellReturned h

theorem outcomes_snoc {h : List (Note World Wait Outcome StoreUse)} {n : Note World Wait Outcome StoreUse}
    (other : outcomeOf n = none) : outcomes (h ++ [n]) = outcomes h := by
  rw [outcomes, filterMap_snoc, other]
  exact List.append_nil _

/-- Nothing is said of what is no return. -/
theorem wellReturned_of_none {h : List (Note World Wait Outcome StoreUse)}
    {n : Note World Wait Outcome StoreUse} (other : outcomeOf n = none) : WellReturned h n := by
  rintro u o rfl
  exact absurd other (Option.some_ne_none o)

theorem outcomes_returned (h : List (Note World Wait Outcome StoreUse)) (u : StoreUse) (o : Outcome) :
    outcomes (h ++ [.returned u o]) = outcomes h ++ [o] := filterMap_snoc ..

/-- What is noted but a return, while no outcome is known. -/
theorem InUse.noted {h : List (Note World Wait Outcome StoreUse)} {W W'}
    {cur cur' : Option (StoreUse × Option Outcome)} {n : Note World Wait Outcome StoreUse}
    (inUse : InUse i w h cur W) (nothing : pendingOutcome cur = none)
    (nothing' : pendingOutcome cur' = none) (idle : ∀ s ∈ W', s.standing = none)
    (other : outcomeOf n = none) :
    InUse i w (h ++ [n]) cur' W' where
  there := inUse.there
  keyed := inUse.keyed
  idle := idle
  mirrors := by
    rw [outcomes_snoc other, nothing']
    have mirrors := inUse.mirrors
    rwa [nothing] at mirrors
  fits o here := absurd (nothing'.symm.trans here) (Option.some_ne_none o).symm
  returns := always_snoc.mpr ⟨inUse.returns, wellReturned_of_none other⟩

theorem modifyStore_self (w : World) (i : Nat) : w.modifyStore i (fun _ => w.store i) = w := by
  rw [World.modifyStore, World.store, modify_getD_self]

theorem serve_of_off {s : Store} (off : s.available = false) (now : Nat) (c : StoreCall) :
    (s.serve now c).2 = s := by
  rw [Store.serve, off, if_neg Bool.false_ne_true]

/-- **The stretch in which a call is served.** -/
theorem InUse.served {h : List (Note World Wait Outcome StoreUse)} {W} {u : StoreUse}
    (inUse : InUse i w h (some (u, none)) W) (c : StoreCall) :
    let w' := w.modifyStore i fun _ => ((w.store i).serve w.now c).2
    InUse i w' (h ++ [.changed w w']) (some (u, some ((w.store i).outcome w.now c))) W := by
  intro w'
  have store : w'.store i = ((w.store i).serve w.now c).2 := store_modifyStore inUse.there _
  have same : outcomes (h ++ [.changed w w']) = outcomes h := outcomes_snoc rfl
  have before : Mirrors (outcomes h) (w.store i) w.now := by
    have mirrors := inUse.mirrors
    rwa [pendingOutcome, Option.bind_some, Option.toList_none, List.append_nil] at mirrors
  refine ⟨?_, ?_, inUse.idle, ?_, fun o here => ?_,
    always_snoc.mpr ⟨inUse.returns, wellReturned_of_none rfl⟩⟩
  · show i < (w.stores.modify i _).size
    rw [Array.size_modify]
    exact inUse.there
  · rw [store, Store.serve]
    split
    · exact inUse.keyed.perform w.now c
    · exact inUse.keyed
  · rw [store, same]
    exact before.serve inUse.keyed c
  · obtain rfl := Option.some.inj here
    refine ⟨same ▸ before.fits inUse.keyed c, fun failed => ⟨w, ?_⟩⟩
    rw [fault?_outcome] at failed
    cases on : (w.store i).available with
    | true => exact absurd (if_pos on) failed
    | false =>
      have unchanged : w' = w := by
        show w.modifyStore i _ = w
        rw [serve_of_off on, modifyStore_self]
      rw [List.getLast?_concat, unchanged]

/-- The stretch in which a subscription gets its job. -/
theorem InUse.started {h : List (Note World Wait Outcome StoreUse)} {W} {u : StoreUse} {o : Outcome}
    (inUse : InUse i w h (some (u, some o)) W) (fine : o.fault? = none) (time : w'.now = w.now)
    (stores : w'.stores = w.stores) : InUse i w' (h ++ [.changed w w']) (some (u, some o)) W := by
  have store : w'.store i = w.store i := by rw [World.store, stores]; rfl
  have same : outcomes (h ++ [.changed w w']) = outcomes h := outcomes_snoc rfl
  refine ⟨stores ▸ inUse.there, store ▸ inUse.keyed, inUse.idle, ?_, fun o' here => ?_,
    always_snoc.mpr ⟨inUse.returns, wellReturned_of_none rfl⟩⟩
  · rw [same, store, time]
    exact inUse.mirrors
  · obtain rfl := Option.some.inj here
    exact ⟨same ▸ (inUse.fits o rfl).1, fun failed => absurd fine failed⟩

/-- What happens beside the uses. -/
theorem InUse.turned {h : List (Note World Wait Outcome StoreUse)} {W}
    (inUse : InUse i w h none W) (leaves : LeavesTable i w w') :
    InUse i w' (h ++ [.changed w w']) none W := by
  have value? : ∀ t k, (w'.store i).value? t k = (w.store i).value? t k := fun t k => by
    rw [Store.value?, leaves.entries]
    rfl
  have noted : InUse i w (h ++ [.changed w w']) none W := inUse.noted rfl rfl inUse.idle rfl
  refine { noted with there := Nat.lt_of_lt_of_le inUse.there leaves.size, keyed := ?_, mirrors := ?_ }
  · rw [Store.Keyed, leaves.entries]
    exact inUse.keyed
  · intro t later k v
    rw [value?]
    exact noted.mirrors t (Nat.le_trans leaves.time later) k v

/-- **A use returns what the ideal map says.** -/
theorem InUse.returned {h : List (Note World Wait Outcome StoreUse)} {W} {u : StoreUse}
    {g : Option Outcome} {o : Outcome} (inUse : InUse i w h (some (u, g)) W)
    (ended : UseEnds i u g w o) : InUse i w (h ++ [.returned u o]) none W := by
  obtain ⟨use, source⟩ := ended
  have both : (o.Fits (outcomes h) ∧ (o.fault? ≠ none → ∃ w, h.getLast? = some (.changed w w))) ∧
      Mirrors (outcomes h ++ [o]) (w.store i) w.now := by
    rcases source with rfl | ⟨rfl, look⟩
    · exact ⟨inUse.fits o rfl, inUse.mirrors⟩
    · have mirrors : Mirrors (outcomes h) (w.store i) w.now := by
        simpa [pendingOutcome] using inUse.mirrors
      refine ⟨⟨mirrors.look inUse.keyed look, fun failed => ?_⟩, mirrors.looked look⟩
      exact absurd (fault?_look look) failed
  refine ⟨inUse.there, inUse.keyed, inUse.idle, ?_, fun o' here => (by cases here),
    always_snoc.mpr ⟨inUse.returns, fun u' o' e => ?_⟩⟩
  · rw [outcomes_returned]
    simpa [pendingOutcome] using both.2
  · obtain ⟨rfl, rfl⟩ := Note.returned.inj e
    exact ⟨use, both.1⟩

/-- Every use keeps its conduct, and the store agrees with the ideal map throughout. -/
def usesOf (i : Nat) : Discipline (storeUses i) (Option Outcome) where
  toConduct := useConduct i
  start _ := none
  ending u := UseEnds i u
  holds w h cur W _ := InUse i w h cur W
  heeds inUse _ := task_heeds _ inUse.there
  called inUse _ := inUse.noted rfl rfl inUse.idle rfl
  answered {w h l₁ s l₂ D a w'} inUse served := by
    obtain ⟨-, rfl⟩ := served
    have still : s.standing = none := inUse.idle s (by simp)
    refine ⟨inUse.there, inUse.noted rfl still (fun s' here => inUse.idle s' ?_) rfl⟩
    rcases List.mem_append.mp here with here | here
    · exact List.mem_append_left _ here
    · exact List.mem_append_right _ (List.mem_cons_of_mem _ here)
  put {w h u g W D w' g'} inUse puts := by
    cases g with
    | none =>
      obtain ⟨c, rfl, rfl⟩ := puts
      exact inUse.served c
    | some o =>
      obtain ⟨fine, time, stores, rfl⟩ := puts
      exact inUse.started fine time stores
  asked inUse asks := by
    obtain ⟨rfl, rfl⟩ := asks
    refine inUse.noted rfl rfl (fun s here => ?_) rfl
    rcases List.mem_append.mp here with here | here
    · exact inUse.idle s here
    · exact List.mem_singleton.mp here ▸ rfl
  returned inUse ended := inUse.returned ended
  dropped {w h l₁ s l₂ D} inUse _ := by
    refine inUse.noted rfl rfl (fun s' here => inUse.idle s' ?_) rfl
    rcases List.mem_append.mp here with here | here
    · exact List.mem_append_left _ here
    · exact List.mem_append_right _ (List.mem_cons_of_mem _ here)
  turned inUse leaves := inUse.turned leaves

/-- **A store cannot be told from an ideal map.** In every run of its uses that begins with an empty
table, each result is what the ideal map says, a call fails exactly when the store is switched off, and
a call that fails changes nothing. -/
theorem store_is_ideal {p : Pool World Wait (fun _ => Unit) Outcome StoreUse}
    (there : i < w.stores.size) (empty : (w.store i).entries = [])
    (run : (storeUses i).Reaches w p) : Always WellReturned p.notes := by
  have first : InUse i w [] none [] := by
    refine ⟨there, ?_, fun s here => absurd here List.not_mem_nil, fun t later k v => ?_,
      fun o here => (by cases here), always_nil _⟩
    · rw [Store.Keyed, empty]
      exact List.nodup_nil
    · rw [Store.value?, empty]
      exact iff_of_false (Option.some_ne_none v).symm (not_since_nil _ _)
  obtain ⟨W, D, -, -, inUse⟩ := (usesOf i).sound first run
  exact inUse.returns

/-! ## A value that is over while it is asked for -/

/-- The deployment later, with its first store switched on or off, and as slow as said. -/
def World.adjust (now latency : Nat) (available : Bool) (w : World) : World :=
  { w with now, stores := w.stores.modify 0 fun s => { s with available, latency } }

theorem leavesTable_adjust {now latency : Nat} {available : Bool} (there : 0 < w.stores.size)
    (later : w.now ≤ now) : LeavesTable 0 w (w.adjust now latency available) where
  time := later
  size := Nat.le_of_eq (Array.size_modify ..).symm
  entries := by
    show ((w.stores.modify 0 _).getD 0 default).entries = _
    rw [getD_modify, if_pos ⟨rfl, there⟩]
    rfl

/-- A deployment with an empty store. -/
def vacant : World := { stores := #[{}] }

/-- A value is written for 5 milliseconds. -/
def written : Pool World Wait (fun _ => Unit) Outcome StoreUse :=
  .call (storeUses 0) (.call (.set "k" "v" 5)) { state := vacant }

/-- The store becomes slow, so that a question for the value waits, and another write behind it; it is
late when they go on. -/
def overdue : Pool World Wait (fun _ => Unit) Outcome StoreUse :=
  let p := ((written.turn (written.state.adjust 0 3 true)).call (storeUses 0) (.call (.get "k"))).call
    (storeUses 0) (.call (.set "k" "w" 4))
  p.turn (p.state.adjust 5 3 true)

/-- The question finds nothing any more, and throws away what it finds instead; then the key is written
anew. -/
def rewritten : Pool World Wait (fun _ => Unit) Outcome StoreUse :=
  (overdue.answer (fun _ => ()) 0).answer (fun _ => ()) 0

/-- The store is switched off, and the key cannot be deleted. -/
def refused : Pool World Wait (fun _ => Unit) Outcome StoreUse :=
  ((rewritten.turn (rewritten.state.adjust 6 0 false)).call (storeUses 0) (.call (.delete "k"))).call
    (storeUses 0) (.contains "k")

/-- The second lifetime is over too. -/
def emptied : Pool World Wait (fun _ => Unit) Outcome StoreUse :=
  ((refused.turn (refused.state.adjust 9 0 true)).call (storeUses 0) (.call (.scan ""))).call
    (storeUses 0) .size

theorem emptied_reached : (storeUses 0).Reaches vacant emptied := by
  have adjusted : ∀ {p : Pool World Wait (fun _ => Unit) Outcome StoreUse} {now latency available},
      (storeUses 0).Reaches vacant p → 0 < p.state.stores.size → p.state.now ≤ now →
        (storeUses 0).Reaches vacant (p.turn (p.state.adjust now latency available)) :=
    fun run there later => run.turn (leavesTable_adjust there later)
  have written : (storeUses 0).Reaches vacant written := .call .init trivial
  have overdue : (storeUses 0).Reaches vacant overdue :=
    adjusted (.call (.call (adjusted written (by decide) (by decide)) trivial) trivial)
      (by decide) (by decide)
  have rewritten : (storeUses 0).Reaches vacant rewritten := by
    refine .answerAt (.answerAt overdue fun f here => ?_) fun f here => ?_
    · obtain rfl := Option.some.inj here
      exact ⟨rfl, rfl⟩
    · obtain rfl := Option.some.inj here
      exact ⟨rfl, rfl⟩
  have refused : (storeUses 0).Reaches vacant refused :=
    .call (.call (adjusted rewritten (by decide) (by decide)) trivial) trivial
  exact .call (.call (adjusted refused (by decide) (by decide)) trivial) trivial

/-- All results of that run, and that they are what the ideal map says. -/
theorem store_is_ideal_emptied :
    outcomes emptied.notes =
      [⟨.call (.set "k" "v" 5), 0, true, .ok ()⟩, ⟨.call (.get "k"), 5, true, .ok none⟩,
        ⟨.call (.set "k" "w" 4), 5, true, .ok ()⟩,
        ⟨.call (.delete "k"), 6, false, .error (.unavailable "memory store disabled")⟩,
        ⟨.contains "k", 6, false, true⟩, ⟨.call (.scan ""), 9, true, .ok []⟩,
        ⟨.size, 9, true, (0 : Nat)⟩] ∧
      Always WellReturned emptied.notes :=
  ⟨rfl, store_is_ideal (by decide) rfl emptied_reached⟩

end SessionHub

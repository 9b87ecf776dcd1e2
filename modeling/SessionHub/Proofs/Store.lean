import SessionHub.Proofs.Tables
import SessionHub.Store.Memory

/-!
# What is still to come for a subscription

A message that goes on the bus waits there, then in the forwarder's hand if the queue is full, then in
the queue. What is **due** to a subscription is what waits for it in these three places and fits its
pattern, the next message first. Publishing adds to the end of what is due, receiving takes from its
front, and a forwarder that has not fallen behind the bus moves it along and neither loses nor repeats
anything.

Whatever happens to a store, what waits in a subscription fits its pattern: it is **sifted**.
-/

namespace SessionHub

/-- Whether a message is on a channel that fits a pattern. -/
def Message.fits (pattern : String) (m : Message) : Bool := Glob.matches_ pattern m.channel

namespace Store

/-- What is still to come for a subscription. -/
def due (s : Store) (sub : Subscription) : List Message :=
  sub.queue ++ sub.held.toList ++ (s.bus.toList.drop sub.position).filter (Message.fits sub.pattern)

/-- A subscription of the store that listens to a pattern, from somewhere on the bus. -/
structure Follows (s : Store) (pattern : String) (r : SubRef) : Prop where
  there : r < s.subscriptions.size
  pattern : (s.subscription r).pattern = pattern
  behind : (s.subscription r).position ≤ s.bus.size

variable {s s' : Store} {sub : Subscription} {r r' : SubRef} {pattern : String} {m : Message}

/-- The subscription in a place after one of them was changed. -/
theorem subscription_modifySubscription (s : Store) (r r' : SubRef)
    (change : Subscription → Subscription) :
    (s.modifySubscription r change).subscription r'
      = if r = r' ∧ r < s.subscriptions.size then change (s.subscription r')
        else s.subscription r' :=
  getD_modify ..

/-- What is done to another subscription does not change what is due. -/
theorem due_modifySubscription (other : r ≠ r') (s : Store) (change : Subscription → Subscription) :
    (s.modifySubscription r change).due ((s.modifySubscription r change).subscription r')
      = s.due (s.subscription r') := by
  rw [subscription_modifySubscription, if_neg fun both => other both.1]
  rfl

theorem Follows.grown (h : Follows s pattern r) (size : s.subscriptions.size ≤ s'.subscriptions.size)
    (same : s'.subscription r = s.subscription r) (bus : s.bus.size ≤ s'.bus.size) :
    Follows s' pattern r where
  there := Nat.lt_of_lt_of_le h.there size
  pattern := same ▸ h.pattern
  behind := same ▸ Nat.le_trans h.behind bus

theorem Follows.modifySubscription (h : Follows s pattern r) (r' : SubRef)
    {change : Subscription → Subscription}
    (kept : (change (s.subscription r')).pattern = (s.subscription r').pattern)
    (behind : (s.subscription r').position ≤ s.bus.size →
      (change (s.subscription r')).position ≤ s.bus.size) :
    Follows (s.modifySubscription r' change) pattern r where
  there := by simpa [Store.modifySubscription] using h.there
  pattern := by
    rw [subscription_modifySubscription]
    split
    · rename_i here
      rw [← here.1, kept, here.1, h.pattern]
    · exact h.pattern
  behind := by
    rw [subscription_modifySubscription]
    split
    · rename_i here
      rw [← here.1]
      exact behind (here.1 ▸ h.behind)
    · exact h.behind

/-! ## The bus grows -/

theorem due_grown {more : List Message} (grown : s'.bus.toList = s.bus.toList ++ more)
    (behind : sub.position ≤ s.bus.size) :
    due s' sub = due s sub ++ more.filter (Message.fits sub.pattern) := by
  rw [due, due, grown, List.drop_append_of_le_length (by simpa using behind), List.filter_append]
  simp only [List.append_assoc]

/-- **What is published is due**, to whoever listens to its channel. -/
theorem due_publish (behind : sub.position ≤ s.bus.size)
    (fits : m.fits sub.pattern = true) : due (s.publish m) sub = due s sub ++ [m] := by
  have grown : (s.publish m).bus.toList = s.bus.toList ++ [m] := Array.toList_push
  rw [due_grown grown behind, List.filter_cons_of_pos fits, List.filter_nil]

/-! ## The forwarder -/

theorem oldest_le (s : Store) : s.oldest ≤ s.bus.size := Nat.sub_le ..

/-- What lies before the oldest message that the bus still keeps. -/
theorem far_of_lt_oldest {place : Nat} (fallen : place < s.oldest) :
    place + 1 + busCapacity ≤ s.bus.size := by
  unfold oldest at fallen
  omega

/-- **What a step of a forwarder comes to**: what it has newly missed, and the subscription. -/
inductive Forwarded (s : Store) (sub : Subscription) : Nat × Subscription → Prop
  /-- It hands on what it holds. -/
  | handed {m : Message} (holds : sub.held = some m) :
    Forwarded s sub (0, { sub with held := none, queue := sub.queue ++ [m] })
  /-- It has fallen behind the bus. -/
  | lagged {oldest : Nat} (first : oldest = s.oldest) (free : sub.held = none)
    (far : sub.position < oldest) :
    Forwarded s sub (oldest - sub.position, { sub with position := oldest })
  /-- The bus has nothing new. -/
  | rested (free : sub.held = none) (nothing : s.bus[sub.position]? = none) :
    Forwarded s sub (0, sub)
  /-- The next message does not fit. -/
  | passed {m : Message} (free : sub.held = none) (near : s.oldest ≤ sub.position)
    (next : s.bus[sub.position]? = some m) (unfit : m.fits sub.pattern = false) :
    Forwarded s sub (0, { sub with position := sub.position + 1 })
  /-- The next message is queued. -/
  | queued {m : Message} (free : sub.held = none) (near : s.oldest ≤ sub.position)
    (next : s.bus[sub.position]? = some m) (fits : m.fits sub.pattern = true)
    (room : sub.queue.length < queueCapacity) :
    Forwarded s sub (0, { sub with position := sub.position + 1, queue := sub.queue ++ [m] })
  /-- The next message is held, as the queue is full. -/
  | kept {m : Message} (free : sub.held = none) (near : s.oldest ≤ sub.position)
    (next : s.bus[sub.position]? = some m) (fits : m.fits sub.pattern = true)
    (full : queueCapacity ≤ sub.queue.length) :
    Forwarded s sub (0, { sub with position := sub.position + 1, held := some m })

theorem forwarded (s : Store) (sub : Subscription) : Forwarded s sub (s.forwardStep sub) := by
  unfold forwardStep
  cases hand : sub.held with
  | some m => exact .handed hand
  | none =>
    dsimp only
    by_cases far : sub.position < s.oldest
    · rw [if_pos far]
      exact hand ▸ .lagged rfl hand far
    rw [if_neg far]
    cases next : s.bus[sub.position]? with
    | none => exact .rested hand next
    | some m =>
      dsimp only
      cases fits : m.fits sub.pattern with
      | false =>
        rw [if_pos (by rw [← Message.fits, fits]; rfl)]
        exact hand ▸ .passed hand (Nat.le_of_not_lt far) next fits
      | true =>
        rw [if_neg (by rw [← Message.fits, fits]; exact Bool.false_ne_true)]
        by_cases room : sub.queue.length < queueCapacity
        · rw [if_pos room]
          exact hand ▸ .queued hand (Nat.le_of_not_lt far) next fits room
        · rw [if_neg room]
          exact .kept hand (Nat.le_of_not_lt far) next fits (Nat.le_of_not_lt room)

/-- What comes next on the bus for a subscription. -/
theorem drop_position (next : s.bus[sub.position]? = some m) : sub.position < s.bus.size ∧
    s.bus.toList.drop sub.position = m :: s.bus.toList.drop (sub.position + 1) := by
  obtain ⟨ahead, rfl⟩ := Array.getElem?_eq_some_iff.mp next
  exact ⟨ahead, List.drop_eq_getElem_cons ahead⟩

/-- **A forwarder that misses nothing changes nothing of what is due.** -/
theorem forwardStep_spec (behind : sub.position ≤ s.bus.size) (caught : (s.forwardStep sub).1 = 0) :
    let sub' := (s.forwardStep sub).2
    due s sub' = due s sub ∧ sub'.pattern = sub.pattern ∧ sub'.position ≤ s.bus.size := by
  generalize s.forwardStep sub = step, forwarded s sub = came at *
  cases came with
  | handed holds => exact ⟨by simp [due, holds], rfl, behind⟩
  | lagged _ _ far => exact absurd caught (Nat.sub_ne_zero_of_lt far)
  | rested => exact ⟨rfl, rfl, behind⟩
  | passed free _ next unfit =>
    obtain ⟨ahead, rest⟩ := drop_position next
    refine ⟨?_, rfl, ahead⟩
    rw [due, due, rest, List.filter_cons_of_neg (by simp [unfit])]
  | queued free _ next fits | kept free _ next fits =>
    obtain ⟨ahead, rest⟩ := drop_position next
    refine ⟨?_, rfl, ahead⟩
    rw [due, due, rest, List.filter_cons_of_pos fits, free]
    simp

/-! ## Receiving -/

/-- **What is received was due next**, and no other subscription is concerned. -/
theorem receive_spec (there : r < s.subscriptions.size) (next : s.receive r = (some m, s')) :
    due s (s.subscription r) = m :: due s' (s'.subscription r) ∧
      ∃ rest, s' = s.modifySubscription r fun sub => { sub with queue := rest } := by
  unfold receive at next
  cases queue : (s.subscription r).queue with
  | nil =>
    rw [queue] at next
    cases next
  | cons first rest =>
    rw [queue] at next
    obtain ⟨same, rfl⟩ := Prod.mk.inj next
    obtain rfl := Option.some.inj same
    refine ⟨?_, rest, rfl⟩
    rw [subscription_modifySubscription, if_pos ⟨rfl, there⟩, due, due, queue]
    rfl

end Store

/-! ## What waits fits -/

/-- What waits in a subscription fits its pattern. -/
def Subscription.Sifted (sub : Subscription) : Prop :=
  ∀ m ∈ sub.queue ++ sub.held.toList, m.fits sub.pattern = true

theorem Subscription.sifted_of_nil {sub : Subscription} (nothing : sub.queue ++ sub.held.toList = []) :
    sub.Sifted := by
  intro m here
  rw [nothing] at here
  exact absurd here List.not_mem_nil

theorem Subscription.Sifted.same {sub sub' : Subscription} (h : sub.Sifted)
    (pattern : sub'.pattern = sub.pattern)
    (waits : sub'.queue ++ sub'.held.toList = sub.queue ++ sub.held.toList) : sub'.Sifted := by
  rw [Subscription.Sifted, waits, pattern]
  exact h

theorem Subscription.Sifted.snoc {sub sub' : Subscription} {m : Message} (h : sub.Sifted)
    (fits : m.fits sub.pattern = true) (pattern : sub'.pattern = sub.pattern)
    (waits : sub'.queue ++ sub'.held.toList = sub.queue ++ sub.held.toList ++ [m]) : sub'.Sifted := by
  rw [Subscription.Sifted, waits, pattern]
  intro m' here
  rcases List.mem_append.mp here with here | here
  · exact h m' here
  · exact List.mem_singleton.mp here ▸ fits

namespace Store

/-- What waits in any subscription fits its pattern. -/
def Sifted (s : Store) : Prop := ∀ r, (s.subscription r).Sifted

variable {s s' : Store} {sub : Subscription} {r : SubRef} {m : Message}

theorem sifted_of_nil {s : Store} (none : s.subscriptions = #[]) : s.Sifted := by
  intro r
  have nobody : s.subscription r = default := by
    rw [subscription, none]
    rfl
  rw [nobody]
  exact Subscription.sifted_of_nil rfl

theorem Sifted.modifySubscription (h : s.Sifted) (r : SubRef) {change : Subscription → Subscription}
    (kept : (change (s.subscription r)).Sifted) : (s.modifySubscription r change).Sifted := by
  intro r'
  rw [subscription_modifySubscription]
  split
  · rename_i here
    exact here.1 ▸ kept
  · exact h r'

/-- **A forwarder hands on only what fits.** -/
theorem sifted_forwardStep (h : sub.Sifted) (s : Store) : (s.forwardStep sub).2.Sifted := by
  generalize s.forwardStep sub = step, forwarded s sub = came at *
  cases came with
  | handed holds => exact h.same rfl (by simp [holds])
  | lagged | rested | passed => exact h.same rfl rfl
  | queued free _ _ fits | kept free _ _ fits => exact h.snoc fits rfl (by simp [free])

/-- **Calls put nothing into a subscription.** -/
theorem Sifted.serve (h : s.Sifted) (now : Nat) (call : StoreCall) : (s.serve now call).2.Sifted := by
  unfold Store.serve
  split
  · cases call with
    | set key value ttl => exact h
    | get key =>
      dsimp only [Store.perform]
      split
      · exact h
      · exact h
    | delete key => exact h
    | scan start => exact h
    | publish channel payload => exact h
    | subscribe pattern =>
      intro r
      show ((s.subscriptions.push _).getD r default).Sifted
      rw [getD_push]
      split
      · exact Subscription.sifted_of_nil rfl
      · exact h r
  · exact h

theorem Sifted.receive (h : s.Sifted) (r : SubRef) : (s.receive r).2.Sifted := by
  unfold Store.receive
  split
  · exact h
  · rename_i first rest queue
    refine h.modifySubscription r fun m here => h r m ?_
    rw [queue]
    exact List.mem_cons_of_mem _ here

theorem Sifted.unsubscribe (h : s.Sifted) (r : SubRef) : (s.unsubscribe r).Sifted :=
  h.modifySubscription r (Subscription.sifted_of_nil rfl)

/-- **What is received fits.** -/
theorem Sifted.fits (h : s.Sifted) (next : s.receive r = (some m, s')) :
    m.fits (s.subscription r).pattern = true := by
  unfold Store.receive at next
  cases queue : (s.subscription r).queue with
  | nil =>
    rw [queue] at next
    cases next
  | cons first rest =>
    rw [queue] at next
    obtain rfl := Option.some.inj (Prod.mk.inj next).1
    exact h r first (by rw [queue]; exact List.mem_cons_self)

end Store

end SessionHub

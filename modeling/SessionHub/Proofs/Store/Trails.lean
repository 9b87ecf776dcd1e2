import SessionHub.Proofs.Store.Following

/-!
# The trail of a subscription

Which places on the bus a subscription has taken is told by what happened to its store, event by event.
Its **trail** begins when it is made, at the end of the bus. A step of the forwarder may add a place to
those that wait, and a receipt takes the first of them. So a message that is received is known by its
place at the moment in which it is received, and not only by what it says.

The account is true (`Trodden`): the places of a trail come in order, none of them twice and none before
its start, and what is received is what stands there.
-/

namespace SessionHub.Store

/-- Where a subscription began, the places that it has taken since, and those that wait. -/
structure Trail where
  start : Nat := 0
  taken : List Nat := []
  waiting : List Nat := []

/-- The trail of a subscription after something more has happened. -/
def Trail.after (r : SubRef) (t : Trail) : Store × Event → Trail
  | (s, .serve _ (.subscribe _)) =>
    if s.available = true ∧ s.subscriptions.size = r then { start := s.bus.size } else t
  | (s, .forward r') =>
    if r' = r then { t with waiting := t.waiting ++ s.takes (s.subscription r) } else t
  | (s, .receive r') =>
    if r' = r ∧ (s.subscription r).queue ≠ [] then
      { t with taken := t.taken ++ t.waiting.take 1, waiting := t.waiting.drop 1 }
    else t
  | (_, .unsubscribe r') => if r' = r then { t with waiting := [] } else t
  | _ => t

/-- The trail of a subscription, by what happened to the store. -/
def trail (r : SubRef) (h : List (Store × Event)) : Trail := h.foldl (Trail.after r) {}

/-- **The trail of a subscription is true** of its store. -/
def Trodden (r : SubRef) (h : List (Store × Event)) (s : Store) : Prop :=
  ∃ pattern h', Tells r pattern (trail r h).start h' s (trail r h).taken (trail r h).waiting

variable {s : Store} {r : SubRef} {h : List (Store × Event)} {e : Event} {m : Message} {place : Nat}

theorem trail_snoc (r : SubRef) (h : List (Store × Event)) (x : Store × Event) :
    trail r (h ++ [x]) = (trail r h).after r x := List.foldl_append

namespace Trodden

theorem there (t : Trodden r h s) : r < s.subscriptions.size := by
  obtain ⟨_, _, tells⟩ := t
  exact tells.follows.there

/-- What is taken comes in order. -/
theorem ordered (t : Trodden r h s) : (trail r h).taken.Pairwise (· < ·) := by
  obtain ⟨_, _, tells⟩ := t
  exact tells.ordered.sublist (List.sublist_append_left ..)

/-- It was published since the subscription was made. -/
theorem between (t : Trodden r h s) (taken : place ∈ (trail r h).taken) :
    (trail r h).start ≤ place ∧ place < s.bus.size := by
  obtain ⟨_, _, tells⟩ := t
  obtain ⟨begun, passed⟩ := tells.passed place (List.mem_append_left _ taken)
  exact ⟨begun, Nat.lt_of_lt_of_le passed tells.follows.behind⟩

/-- A new trail begins only with a new subscription. -/
theorem after_serve (there : r < s.subscriptions.size) (t : Trail) (now : Nat) (call : StoreCall) :
    t.after r (s, .serve now call) = t := by
  cases call with
  | subscribe pattern => exact if_neg fun both => absurd both.2 (Nat.ne_of_gt there)
  | set _ _ _ | get _ | delete _ | scan _ | publish _ _ => rfl

theorem step (t : Trodden r h s) (e : Event) : Trodden r (h ++ [(s, e)]) (s.happen e) := by
  have here := t.there
  obtain ⟨pattern, h', tells⟩ := t
  refine ⟨pattern, h' ++ [(s, e)], ?_⟩
  rw [trail_snoc]
  generalize trail r h = t at *
  cases e with
  | serve now call =>
    rw [after_serve here]
    exact tells.beside (beside_serve here now call) (hears_of_ne (by simp))
  | forward r' =>
    by_cases own : r' = r
    · subst own
      rw [Trail.after, if_pos rfl]
      exact tells.forward
    · rw [Trail.after, if_neg own]
      exact tells.beside (beside_modifySubscription own s _) (hears_of_ne (by simp))
  | receive r' =>
    by_cases own : r' = r
    · subst own
      cases queue : (s.subscription r').queue with
      | nil =>
        rw [Trail.after, if_neg fun both => both.2 queue]
        exact tells.receive_nil queue
      | cons m rest =>
        obtain ⟨place, others, waiting, -, tells⟩ := tells.receive queue
        rw [Trail.after, if_pos ⟨rfl, queue ▸ List.cons_ne_nil m rest⟩, waiting]
        exact tells
    · rw [Trail.after, if_neg fun both => own both.1]
      refine tells.beside ?_ (hears_of_ne (by simp [own]))
      show Beside r s (s.receive r').2
      unfold Store.receive
      split
      · exact beside_refl r s
      · exact beside_modifySubscription own s _
  | unsubscribe r' =>
    by_cases own : r' = r
    · subst own
      rw [Trail.after, if_pos rfl]
      exact tells.unsubscribe
    · rw [Trail.after, if_neg own]
      exact tells.beside (beside_modifySubscription own s _) (hears_of_ne (by simp))
  | adjust available latency =>
    exact tells.beside ⟨Nat.le_refl _, rfl, Nat.le_refl _, fun _ _ => rfl⟩ (hears_of_ne (by simp))

theorem start_snoc (t : Trodden r h s) (e : Event) :
    (trail r (h ++ [(s, e)])).start = (trail r h).start := by
  rw [trail_snoc]
  cases e with
  | serve now call => rw [after_serve t.there]
  | forward _ | receive _ | unsubscribe _ =>
    rw [Trail.after]
    split <;> rfl
  | adjust _ _ => rfl

/-- **Only a receipt takes anything**, and only for the subscription itself. -/
theorem taken_snoc (t : Trodden r h s) (other : e ≠ .receive r) :
    (trail r (h ++ [(s, e)])).taken = (trail r h).taken := by
  rw [trail_snoc]
  cases e with
  | serve now call => rw [after_serve t.there]
  | receive r' => rw [Trail.after, if_neg fun both => other (congrArg Event.receive both.1)]
  | forward _ | unsubscribe _ =>
    rw [Trail.after]
    split <;> rfl
  | adjust _ _ => rfl

/-- **A message is received from the first of the places that wait**, and stands there on the bus. -/
theorem taken_receive (t : Trodden r h s) (next : (s.receive r).1 = some m) : ∃ place,
    (trail r h).waiting.head? = some place ∧ s.bus[place]? = some m ∧
      (trail r (h ++ [(s, .receive r)])).taken = (trail r h).taken ++ [place] := by
  obtain ⟨pattern, h', tells⟩ := t
  rw [Store.receive] at next
  cases queue : (s.subscription r).queue with
  | nil =>
    rw [queue] at next
    exact absurd next (Option.some_ne_none m).symm
  | cons first rest =>
    rw [queue] at next
    obtain rfl := Option.some.inj next
    obtain ⟨place, others, waiting, there, -⟩ := tells.receive queue
    refine ⟨place, by rw [waiting]; rfl, there, ?_⟩
    rw [trail_snoc, Trail.after, if_pos ⟨rfl, queue ▸ List.cons_ne_nil _ rest⟩, waiting]
    rfl

end Trodden

theorem trail_subscribe (h : List (Store × Event)) (on : s.available = true) (now : Nat)
    (pattern : String) :
    trail s.subscriptions.size (h ++ [(s, .serve now (.subscribe pattern))])
      = { start := s.bus.size } := by
  rw [trail_snoc]
  exact if_pos ⟨on, rfl⟩

/-- **A subscription begins with nothing**, at the end of the bus. -/
theorem trodden_subscribe (h : List (Store × Event)) (on : s.available = true) (now : Nat)
    (pattern : String) :
    Trodden s.subscriptions.size (h ++ [(s, .serve now (.subscribe pattern))])
      (s.happen (.serve now (.subscribe pattern))) := by
  have made : s.happen (.serve now (.subscribe pattern)) = (s.subscribe pattern).2 := by
    rw [happen, Store.serve, if_pos on]
    rfl
  refine ⟨pattern, [], ?_⟩
  rw [made, trail_subscribe h on]
  exact tells_subscribe s pattern

/-- What stands on the bus stays there. -/
theorem bus_happen_of_some (there : s.bus[place]? = some m) (e : Event) :
    (s.happen e).bus[place]? = some m := by
  rw [← Array.getElem?_toList] at there ⊢
  rw [bus_happen, List.getElem?_append_left (List.getElem?_eq_some_iff.mp there).1]
  exact there

end SessionHub.Store

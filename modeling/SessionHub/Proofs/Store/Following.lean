import SessionHub.Proofs.Program.History
import SessionHub.Proofs.Store

/-!
# What a subscription hears

Between what is published and what is received there are two buffers. The bus is shared by all channels
and keeps the last 4096 messages only; the queue of a subscription keeps everything that fits, and makes
the forwarder wait when it is full. The forwarder goes between them at its own pace.

A message is known by its **place** on the bus, so that two equal messages are told apart. Of a run of a
store, in which calls of all kinds, steps of any forwarder, receipts and ends of subscriptions come in any
order, the places that a subscription has **taken** are in order and none of them twice, and so are the
places that still wait for it behind them. Whatever else fits and lies between was **overrun**: when the
forwarder came to it at last, 4096 messages or more had been published behind it.
-/

namespace SessionHub.Store

/-! ## Runs of a store -/

/-- What happens to a store. -/
inductive Event where
  | serve (now : Nat) (call : StoreCall)
  /-- A step of the forwarder of a subscription. -/
  | forward (r : SubRef)
  | receive (r : SubRef)
  | unsubscribe (r : SubRef)
  /-- The store is switched on or off, and made slower or faster. -/
  | adjust (available : Bool) (latency : Nat)
  deriving Repr, DecidableEq

/-- The store after it. -/
def happen (s : Store) : Event → Store
  | .serve now call => (s.serve now call).2
  | .forward r => s.modifySubscription r fun sub => (s.forwardStep sub).2
  | .receive r => (s.receive r).2
  | .unsubscribe r => s.unsubscribe r
  | .adjust available latency => { s with available, latency }

/-- Whether it can happen: a forwarder goes on only when it can. -/
def Event.Possible (s : Store) : Event → Prop
  | .forward r => s.canForward (s.subscription r) = true
  | _ => True

/-- The runs of a store: what happened, and to which store, the earliest first. -/
inductive Runs (s₁ : Store) : List (Store × Event) → Store → Prop
  | init : Runs s₁ [] s₁
  | step {h : List (Store × Event)} {s : Store} {e : Event} (before : Runs s₁ h s)
    (possible : e.Possible s) : Runs s₁ (h ++ [(s, e)]) (s.happen e)

/-- What a subscription receives when something happens. -/
def hears (r : SubRef) : Store × Event → Option Message
  | (s, e) => if e = .receive r then (s.receive r).1 else none

/-- What a subscription received. -/
def heard (r : SubRef) (h : List (Store × Event)) : List Message := h.filterMap (hears r)

/-- What is published when something happens. -/
def publishes : Store × Event → Option Message
  | (s, .serve _ (.publish channel payload)) => if s.available then some { channel, payload } else none
  | _ => none

/-- What was published. -/
def published (h : List (Store × Event)) : List Message := h.filterMap publishes

/-- **A place on the bus was overrun**: when the forwarder of a subscription went on, it had not taken
the place, and 4096 messages or more had been published behind it. -/
def Overrun (r : SubRef) (h : List (Store × Event)) (place : Nat) : Prop :=
  ∃ s, (s, .forward r) ∈ h ∧ (s.subscription r).position ≤ place ∧
    place + 1 + busCapacity ≤ s.bus.size

variable {s s' s₁ : Store} {r r' : SubRef} {pattern : String} {start : Nat} {m : Message}
  {h : List (Store × Event)} {x : Store × Event} {taken waiting : List Nat} {rest : List Message}

theorem Overrun.later {place : Nat} (overrun : Overrun r h place) (x : Store × Event) :
    Overrun r (h ++ [x]) place := by
  obtain ⟨s, here, behind, far⟩ := overrun
  exact ⟨s, List.mem_append_left _ here, behind, far⟩

/-! ## What has become of the places -/

/-- **What has become of the places on the bus** since a subscription began: some are taken, some wait,
and what is missing was overrun. -/
structure Tells (r : SubRef) (pattern : String) (start : Nat) (h : List (Store × Event)) (s : Store)
    (taken waiting : List Nat) : Prop where
  follows : Follows s pattern r
  begun : start ≤ (s.subscription r).position
  /-- The places come in order, none of them twice. -/
  ordered : (taken ++ waiting).Pairwise (· < ·)
  /-- They lie behind the forwarder, -/
  passed : ∀ place ∈ taken ++ waiting, start ≤ place ∧ place < (s.subscription r).position
  /-- and what is there fits. -/
  fits : ∀ place ∈ taken ++ waiting, ∃ m, s.bus[place]? = some m ∧ m.fits pattern = true
  /-- What is received are the messages of the places that are taken, -/
  received : (heard r h).map some = taken.map (s.bus[·]?)
  /-- and what waits are those of the others. -/
  waits : ((s.subscription r).queue ++ (s.subscription r).held.toList).map some
    = waiting.map (s.bus[·]?)
  /-- What fits, lies behind the forwarder and is none of these was overrun. -/
  missing : (s.subscription r).wanted = true → ∀ place m, start ≤ place →
    place < (s.subscription r).position → s.bus[place]? = some m → m.fits pattern = true →
      place ∈ taken ++ waiting ∨ Overrun r h place

/-- What happens beside a subscription: it stays as it is, and the bus only grows. -/
structure Beside (r : SubRef) (s s' : Store) : Prop where
  size : s.subscriptions.size ≤ s'.subscriptions.size
  same : s'.subscription r = s.subscription r
  grown : s.bus.size ≤ s'.bus.size
  bus : ∀ place < s.bus.size, s'.bus[place]? = s.bus[place]?

theorem heard_snoc (h : List (Store × Event)) (x : Store × Event) :
    heard r (h ++ [x]) = heard r h ++ (hears r x).toList := filterMap_snoc ..

theorem heard_snoc_of_silent (silent : hears r x = none) : heard r (h ++ [x]) = heard r h := by
  rw [heard_snoc, silent]
  exact List.append_nil _

/-- Only a receipt is heard, and only by the subscription itself. -/
theorem hears_of_ne {e : Event} (other : e ≠ .receive r) : hears r (s, e) = none := if_neg other

theorem Tells.beside (tells : Tells r pattern start h s taken waiting) (beside : Beside r s s')
    (silent : hears r x = none) : Tells r pattern start (h ++ [x]) s' taken waiting := by
  have below : ∀ place < (s.subscription r).position, s'.bus[place]? = s.bus[place]? :=
    fun place here => beside.bus place (Nat.lt_of_lt_of_le here tells.follows.behind)
  have views : ∀ places : List Nat, (∀ place ∈ places, place ∈ taken ++ waiting) →
      places.map (s'.bus[·]?) = places.map (s.bus[·]?) := fun places among =>
    List.map_congr_left fun place here => below place (tells.passed place (among place here)).2
  constructor
  · exact tells.follows.grown beside.size beside.same beside.grown
  · exact beside.same ▸ tells.begun
  · exact tells.ordered
  · exact beside.same ▸ tells.passed
  · intro place here
    rw [below place (tells.passed place here).2]
    exact tells.fits place here
  · rw [heard_snoc_of_silent silent, views taken fun _ => List.mem_append_left _]
    exact tells.received
  · rw [beside.same, views waiting fun _ => List.mem_append_right _]
    exact tells.waits
  · rw [beside.same]
    intro wanted place m begun here there fits
    rw [below place here] at there
    exact (tells.missing wanted place m begun here there fits).imp_right (·.later x)

/-! ## One event -/

/-- Whatever is done to another subscription happens beside. -/
theorem beside_modifySubscription (other : r' ≠ r) (s : Store) (change : Subscription → Subscription) :
    Beside r s (s.modifySubscription r' change) where
  size := Nat.le_of_eq (Array.size_modify ..).symm
  same := by rw [subscription_modifySubscription, if_neg fun both => other both.1]
  grown := Nat.le_refl _
  bus _ _ := rfl

theorem beside_refl (r : SubRef) (s : Store) : Beside r s s where
  size := Nat.le_refl _
  same := rfl
  grown := Nat.le_refl _
  bus _ _ := rfl

/-- **Calls happen beside**, whatever they are. -/
theorem beside_serve (there : r < s.subscriptions.size) (now : Nat) (call : StoreCall) :
    Beside r s (s.serve now call).2 := by
  unfold Store.serve
  split
  · cases call with
    | get key =>
      dsimp only [perform]
      split <;> exact ⟨Nat.le_refl _, rfl, Nat.le_refl _, fun _ _ => rfl⟩
    | set _ _ _ | delete _ | scan _ => exact ⟨Nat.le_refl _, rfl, Nat.le_refl _, fun _ _ => rfl⟩
    | publish channel payload =>
      refine ⟨Nat.le_refl _, rfl, Array.size_push _ ▸ Nat.le_succ _, fun place here => ?_⟩
      show (s.bus.push _)[place]? = _
      rw [Array.getElem?_push_lt here, Array.getElem?_eq_getElem here]
    | subscribe pattern =>
      refine ⟨Array.size_push _ ▸ Nat.le_succ _, getD_push_of_lt _ there, Nat.le_refl _, fun _ _ => rfl⟩
  · exact beside_refl r s

/-- **What a step of the forwarder does**, in places: it goes ahead, some places newly wait, and what
else fits of those that it leaves behind it has fallen out of the bus. -/
structure Moves (s : Store) (sub sub' : Subscription) (more : List Nat) : Prop where
  pattern : sub'.pattern = sub.pattern
  wanted : sub'.wanted = sub.wanted
  ahead : sub.position ≤ sub'.position
  within : sub'.position ≤ s.bus.size
  ordered : more.Pairwise (· < ·)
  between : ∀ place ∈ more, sub.position ≤ place ∧ place < sub'.position
  fits : ∀ place ∈ more, ∃ m, s.bus[place]? = some m ∧ m.fits sub.pattern = true
  waits : (sub'.queue ++ sub'.held.toList).map some
    = (sub.queue ++ sub.held.toList).map some ++ more.map (s.bus[·]?)
  left : ∀ place m, sub.position ≤ place → place < sub'.position → s.bus[place]? = some m →
    m.fits sub.pattern = true → place ∈ more ∨ place + 1 + busCapacity ≤ s.bus.size

/-- Nothing newly waits. -/
theorem Moves.on {sub sub' : Subscription} (pattern : sub'.pattern = sub.pattern)
    (wanted : sub'.wanted = sub.wanted) (ahead : sub.position ≤ sub'.position)
    (within : sub'.position ≤ s.bus.size)
    (waits : sub'.queue ++ sub'.held.toList = sub.queue ++ sub.held.toList)
    (left : ∀ place m, sub.position ≤ place → place < sub'.position → s.bus[place]? = some m →
      m.fits sub.pattern = true → place + 1 + busCapacity ≤ s.bus.size) : Moves s sub sub' [] where
  pattern := pattern
  wanted := wanted
  ahead := ahead
  within := within
  ordered := .nil
  between _ here := absurd here List.not_mem_nil
  fits _ here := absurd here List.not_mem_nil
  waits := by rw [waits, List.map_nil, List.append_nil]
  left place m from_ before there fit := .inr (left place m from_ before there fit)

/-- The next message newly waits. -/
theorem Moves.up {sub sub' : Subscription} (pattern : sub'.pattern = sub.pattern)
    (wanted : sub'.wanted = sub.wanted) (ahead : sub'.position = sub.position + 1)
    (next : s.bus[sub.position]? = some m) (fits : m.fits sub.pattern = true)
    (waits : sub'.queue ++ sub'.held.toList = sub.queue ++ sub.held.toList ++ [m]) :
    Moves s sub sub' [sub.position] where
  pattern := pattern
  wanted := wanted
  ahead := by omega
  within := ahead ▸ (drop_position next).1
  ordered := List.pairwise_singleton ..
  between place here := by
    obtain rfl := List.mem_singleton.mp here
    omega
  fits place here := List.mem_singleton.mp here ▸ ⟨m, next, fits⟩
  waits := by rw [waits, List.map_append, List.map_singleton, List.map_singleton, next]
  left place _ from_ before _ _ := .inl (List.mem_singleton.mpr (by omega))

/-- The place that a forwarder takes with its next step, if it takes one. -/
def takes (s : Store) (sub : Subscription) : List Nat :=
  if sub.held = none ∧ s.oldest ≤ sub.position ∧
      (s.bus[sub.position]?).any (Message.fits sub.pattern) = true then [sub.position]
  else []

theorem moves_forwardStep {sub : Subscription} (behind : sub.position ≤ s.bus.size) :
    Moves s sub (s.forwardStep sub).2 (s.takes sub) := by
  generalize s.forwardStep sub = step, forwarded s sub = came at *
  unfold takes
  cases came with
  | handed holds =>
    rw [if_neg (by simp [holds])]
    refine .on rfl rfl (Nat.le_refl _) behind (by simp [holds]) fun place m low high => ?_
    exact absurd high (Nat.not_lt_of_le low)
  | lagged first _ far =>
    rw [if_neg fun all => absurd far (Nat.not_lt_of_le (first ▸ all.2.1))]
    exact .on rfl rfl (Nat.le_of_lt far) (first ▸ oldest_le s) rfl
      fun place m _ high _ _ => far_of_lt_oldest (first ▸ high)
  | rested _ nothing =>
    rw [if_neg (by simp [nothing])]
    refine .on rfl rfl (Nat.le_refl _) behind rfl fun place m low high => ?_
    exact absurd high (Nat.not_lt_of_le low)
  | @passed skipped _ _ next unfit =>
    rw [if_neg (by simp [next, unfit])]
    refine .on rfl rfl (Nat.le_succ _) (drop_position next).1 rfl fun place m low high there fit => ?_
    obtain rfl : place = sub.position := Nat.le_antisymm (Nat.le_of_lt_succ high) low
    obtain rfl : m = skipped := Option.some.inj (there.symm.trans next)
    exact absurd fit (unfit ▸ Bool.false_ne_true)
  | queued free near next fits | kept free near next fits =>
    rw [if_pos ⟨free, near, by simp [next, fits]⟩]
    exact .up rfl rfl rfl next fits (by simp [free])

/-- **A step of the forwarder.** -/
theorem Tells.forward (tells : Tells r pattern start h s taken waiting) :
    Tells r pattern start (h ++ [(s, .forward r)]) (s.happen (.forward r)) taken
      (waiting ++ s.takes (s.subscription r)) := by
  have moves := moves_forwardStep tells.follows.behind
  generalize s.takes (s.subscription r) = more at moves ⊢
  have now : (s.happen (.forward r)).subscription r = (s.forwardStep (s.subscription r)).2 := by
    rw [happen, subscription_modifySubscription, if_pos ⟨rfl, tells.follows.there⟩]
  have pattern' := tells.follows.pattern
  rw [← now] at moves
  have places : taken ++ (waiting ++ more) = (taken ++ waiting) ++ more := (List.append_assoc ..).symm
  constructor
  · exact tells.follows.modifySubscription r (now ▸ moves.pattern) fun _ => now ▸ moves.within
  · exact Nat.le_trans tells.begun moves.ahead
  · rw [places, List.pairwise_append]
    refine ⟨tells.ordered, moves.ordered, fun place here later there => ?_⟩
    exact Nat.lt_of_lt_of_le (tells.passed place here).2 (moves.between later there).1
  · intro place here
    rw [places, List.mem_append] at here
    rcases here with here | here
    · obtain ⟨begun, before⟩ := tells.passed place here
      exact ⟨begun, Nat.lt_of_lt_of_le before moves.ahead⟩
    · obtain ⟨from_, before⟩ := moves.between place here
      exact ⟨Nat.le_trans tells.begun from_, before⟩
  · intro place here
    rw [places, List.mem_append] at here
    rcases here with here | here
    · exact tells.fits place here
    · exact pattern' ▸ moves.fits place here
  · rw [heard_snoc_of_silent (hears_of_ne (by simp))]
    exact tells.received
  · rw [moves.waits, tells.waits, List.map_append]
    rfl
  · rw [places]
    intro wanted place m begun before there fit
    by_cases old : place < (s.subscription r).position
    · exact (tells.missing (moves.wanted ▸ wanted) place m begun old there fit).imp
        (List.mem_append_left more) (·.later _)
    · have new := Nat.le_of_not_lt old
      refine (moves.left place m new before there (pattern' ▸ fit)).imp
        (List.mem_append_right _) fun far => ?_
      exact ⟨s, List.mem_append_right _ List.mem_cons_self, new, far⟩

/-- **A receipt where nothing waits.** -/
theorem Tells.receive_nil (tells : Tells r pattern start h s taken waiting)
    (queue : (s.subscription r).queue = []) :
    Tells r pattern start (h ++ [(s, .receive r)]) (s.happen (.receive r)) taken waiting := by
  have nothing : s.receive r = (none, s) := by rw [Store.receive, queue]
  have silent : hears r (s, .receive r) = none := by rw [hears, if_pos rfl, nothing]
  rw [show s.happen (.receive r) = (s.receive r).2 from rfl, nothing]
  exact tells.beside (beside_refl r s) silent

/-- **A receipt.** The first of the places that wait is taken. -/
theorem Tells.receive (tells : Tells r pattern start h s taken waiting)
    (queue : (s.subscription r).queue = m :: rest) : ∃ place others, waiting = place :: others ∧
      s.bus[place]? = some m ∧
      Tells r pattern start (h ++ [(s, .receive r)]) (s.happen (.receive r)) (taken ++ [place]) others := by
  have waits := tells.waits
  rw [show s.happen (.receive r) = (s.receive r).2 from rfl]
  have next : s.receive r = (some m, s.modifySubscription r fun sub => { sub with queue := rest }) := by
    rw [Store.receive, queue]
  have hears : hears r (s, .receive r) = some m := by rw [hears, if_pos rfl, next]
  rw [next]
  dsimp only
  have now : (s.modifySubscription r fun sub => { sub with queue := rest }).subscription r
      = { s.subscription r with queue := rest } := by
    rw [subscription_modifySubscription, if_pos ⟨rfl, tells.follows.there⟩]
  rw [queue] at waits
  obtain ⟨place, others, rfl, there, behind⟩ := List.map_eq_cons_iff.mp waits.symm
  have places : (taken ++ [place]) ++ others = taken ++ place :: others := by
    rw [List.append_assoc, List.singleton_append]
  refine ⟨place, others, rfl, there, ?_⟩
  constructor
  · exact tells.follows.modifySubscription r rfl fun behind => behind
  · exact now ▸ tells.begun
  · exact places ▸ tells.ordered
  · rw [places, now]
    exact tells.passed
  · rw [places]
    exact tells.fits
  · rw [heard_snoc, hears, List.map_append, tells.received, List.map_append]
    simp [there, modifySubscription]
  · rw [now]
    exact behind.symm
  · rw [places, now]
    exact fun wanted place m begun before there fit =>
      (tells.missing wanted place m begun before there fit).imp_right (·.later _)

/-- **The end of a subscription.** Nothing waits any more. -/
theorem Tells.unsubscribe (tells : Tells r pattern start h s taken waiting) :
    Tells r pattern start (h ++ [(s, .unsubscribe r)]) (s.happen (.unsubscribe r)) taken [] := by
  have now : (s.unsubscribe r).subscription r
      = { s.subscription r with wanted := false, queue := [], held := none } := by
    rw [Store.unsubscribe, subscription_modifySubscription, if_pos ⟨rfl, tells.follows.there⟩]
  have among : ∀ place ∈ taken ++ [], place ∈ taken ++ waiting := fun place here => by
    rw [List.append_nil] at here
    exact List.mem_append_left _ here
  rw [show s.happen (.unsubscribe r) = s.unsubscribe r from rfl]
  constructor
  · exact tells.follows.modifySubscription r rfl fun behind => behind
  · exact now ▸ tells.begun
  · exact tells.ordered.sublist (List.Sublist.append_left (List.nil_sublist _) _)
  · intro place here
    rw [now]
    exact tells.passed place (among place here)
  · exact fun place here => tells.fits place (among place here)
  · rw [heard_snoc_of_silent (hears_of_ne (by simp))]
    exact tells.received
  · rw [now]
    rfl
  · rw [now]
    exact fun wanted => absurd wanted Bool.false_ne_true

/-! ## Runs -/

/-- **One event**, whatever it is. -/
theorem Tells.step (tells : Tells r pattern start h s taken waiting) (e : Event) :
    ∃ taken' waiting', Tells r pattern start (h ++ [(s, e)]) (s.happen e) taken' waiting' := by
  cases e with
  | serve now call =>
    exact ⟨_, _, tells.beside (beside_serve tells.follows.there now call) (hears_of_ne (by simp))⟩
  | forward r' =>
    by_cases own : r' = r
    · subst own
      exact ⟨_, _, tells.forward⟩
    · exact ⟨_, _, tells.beside (beside_modifySubscription own s _) (hears_of_ne (by simp))⟩
  | receive r' =>
    by_cases own : r' = r
    · subst own
      cases queue : (s.subscription r').queue with
      | nil => exact ⟨_, _, tells.receive_nil queue⟩
      | cons m rest =>
        obtain ⟨place, others, -, -, tells⟩ := tells.receive queue
        exact ⟨_, _, tells⟩
    · refine ⟨_, _, tells.beside ?_ (hears_of_ne (by simp [own]))⟩
      show Beside r s (s.receive r').2
      unfold Store.receive
      split
      · exact beside_refl r s
      · exact beside_modifySubscription own s _
  | unsubscribe r' =>
    by_cases own : r' = r
    · subst own
      exact ⟨_, _, tells.unsubscribe⟩
    · exact ⟨_, _, tells.beside (beside_modifySubscription own s _) (hears_of_ne (by simp))⟩
  | adjust available latency =>
    have beside : Beside r s (s.happen (.adjust available latency)) :=
      ⟨Nat.le_refl _, rfl, Nat.le_refl _, fun _ _ => rfl⟩
    exact ⟨_, _, tells.beside beside (hears_of_ne (by simp))⟩

theorem bus_happen (s : Store) (e : Event) :
    (s.happen e).bus.toList = s.bus.toList ++ (publishes (s, e)).toList := by
  have still : ∀ {s' : Store}, s'.bus = s.bus → s'.bus.toList = s.bus.toList ++ [] := fun same => by
    rw [same, List.append_nil]
  cases e with
  | serve now call =>
    show (s.serve now call).2.bus.toList = _
    unfold Store.serve
    split
    · rename_i on
      cases call with
      | publish channel payload =>
        rw [publishes, if_pos on]
        exact Array.toList_push
      | get key =>
        dsimp only [perform]
        split <;> exact still rfl
      | set _ _ _ | delete _ | scan _ | subscribe _ => exact still rfl
    · rename_i off
      cases call with
      | publish channel payload =>
        rw [publishes, if_neg off]
        exact still rfl
      | set _ _ _ | get _ | delete _ | scan _ | subscribe _ => exact still rfl
  | receive r =>
    show (s.receive r).2.bus.toList = _
    unfold Store.receive
    split <;> exact still rfl
  | forward _ | unsubscribe _ | adjust _ _ => exact still rfl

theorem published_snoc (h : List (Store × Event)) (x : Store × Event) :
    published (h ++ [x]) = published h ++ (publishes x).toList := filterMap_snoc ..

/-- **The bus is what was published**, in the order in which it was. -/
theorem Runs.bus (run : Runs s₁ h s) : s.bus.toList = s₁.bus.toList ++ published h := by
  induction run with
  | init => exact (List.append_nil _).symm
  | step _ _ ih => rw [bus_happen, ih, published_snoc, List.append_assoc]

/-- Messages in ascending places come in their order. -/
theorem sublist_of_places {bus l : List Message} {places : List Nat}
    (ordered : places.Pairwise (· < ·)) (begun : ∀ place ∈ places, start ≤ place)
    (there : l.map some = places.map (bus[·]?)) : l.Sublist (bus.drop start) := by
  induction places generalizing l start with
  | nil =>
    obtain rfl := List.map_eq_nil_iff.mp there
    exact List.nil_sublist _
  | cons place places ih =>
    obtain ⟨m, rest, rfl, here, others⟩ := List.map_eq_cons_iff.mp there
    obtain ⟨before, ordered⟩ := List.pairwise_cons.mp ordered
    obtain ⟨small, rfl⟩ := List.getElem?_eq_some_iff.mp here.symm
    have later : rest.Sublist (bus.drop (place + 1)) := ih ordered before others
    refine (later.cons_cons _).trans ?_
    rw [← List.drop_eq_getElem_cons small]
    exact List.drop_sublist_drop_left bus (begun place List.mem_cons_self)

/-- A subscription begins with nothing. -/
theorem tells_subscribe (s : Store) (pattern : String) :
    Tells s.subscriptions.size pattern s.bus.size [] (s.subscribe pattern).2 [] [] := by
  have new : (s.subscribe pattern).2.subscription s.subscriptions.size
      = { pattern, position := s.bus.size } :=
    (getD_push ..).trans (if_pos rfl)
  have nowhere : ∀ {place : Nat}, ¬ place ∈ ([] ++ [] : List Nat) := List.not_mem_nil
  constructor
  · refine ⟨?_, new ▸ rfl, new ▸ Nat.le_refl _⟩
    exact Array.size_push _ ▸ Nat.lt_succ_self _
  · exact new ▸ Nat.le_refl _
  · exact .nil
  · exact fun place here => absurd here nowhere
  · exact fun place here => absurd here nowhere
  · rfl
  · rw [new]
    rfl
  · rw [new]
    exact fun _ place m begun before => absurd before (Nat.not_lt_of_le begun)

theorem Runs.tells {taken₁ waiting₁ : List Nat} (run : Runs s₁ h s)
    (first : Tells r pattern start [] s₁ taken₁ waiting₁) :
    ∃ taken waiting, Tells r pattern start h s taken waiting := by
  induction run with
  | init => exact ⟨_, _, first⟩
  | @step h s e _ _ ih =>
    obtain ⟨taken, waiting, tells⟩ := ih
    exact tells.step e

/-- **What a subscription hears.** From when it was made on, and whatever happens to the store: what was
received is, in its order, among what was published on channels that fit the pattern. It is known of every
message on the bus what has become of it, and what is missing was overrun. -/
theorem hears_in_order {s₀ : Store} {now : Nat}
    (made : s₀.serve now (.subscribe pattern) = (.ok r, s₁)) (run : Runs s₁ h s) :
    s.bus.toList = s₀.bus.toList ++ published h ∧
      (heard r h).Sublist ((published h).filter (Message.fits pattern)) ∧
      ∃ taken waiting, Tells r pattern s₀.bus.size h s taken waiting := by
  have on : s₀.available = true := by
    by_contra off
    rw [Store.serve, if_neg off] at made
    cases (Prod.mk.inj made).1
  rw [Store.serve, if_pos on] at made
  obtain ⟨same, rfl⟩ := Prod.mk.inj made
  obtain rfl : s₀.subscriptions.size = r := Except.ok.inj same
  obtain ⟨taken, waiting, tells⟩ := run.tells (tells_subscribe s₀ pattern)
  have bus : s.bus.toList = s₀.bus.toList ++ published h := run.bus
  refine ⟨bus, ?_, taken, waiting, tells⟩
  have among : ∀ place ∈ taken, place ∈ taken ++ waiting := fun _ => List.mem_append_left _
  have views : (heard s₀.subscriptions.size h).map some = taken.map (s.bus.toList[·]?) := by
    simp only [Array.getElem?_toList]
    exact tells.received
  have sub : (heard s₀.subscriptions.size h).Sublist (published h) := by
    have placed := sublist_of_places (tells.ordered.sublist (List.sublist_append_left ..))
      (fun place here => (tells.passed place (among place here)).1) views
    rwa [bus, List.drop_left' Array.length_toList] at placed
  have fits : ∀ m ∈ heard s₀.subscriptions.size h, m.fits pattern = true := by
    intro m here
    have here : some m ∈ taken.map (s.bus[·]?) := tells.received ▸ List.mem_map_of_mem here
    obtain ⟨place, there, found⟩ := List.mem_map.mp here
    obtain ⟨m', found', fits⟩ := tells.fits place (among place there)
    exact Option.some.inj (found'.symm.trans found) ▸ fits
  rw [← List.filter_eq_self.mpr fits]
  exact sub.filter _

/-! ## Forwarding in one go -/

/-- How far a forwarder comes. -/
theorem forwardAll_succ (s : Store) (fuel : Nat) (sub : Subscription) :
    (s.forwardAll (fuel + 1) sub).2
      = if s.canForward sub then (s.forwardAll fuel (s.forwardStep sub).2).2 else sub := by
  rw [forwardAll]
  split <;> rfl

/-- It depends on the bus alone. -/
theorem forwardAll_happen (s : Store) (r : SubRef) (fuel : Nat) (sub : Subscription) :
    ((s.happen (.forward r)).forwardAll fuel sub).2 = (s.forwardAll fuel sub).2 := by
  induction fuel generalizing sub with
  | zero => rfl
  | succ fuel ih =>
    rw [forwardAll_succ, forwardAll_succ, ih]
    rfl

theorem Runs.before {e : Event} (possible : e.Possible s₁) (run : Runs (s₁.happen e) h s) :
    Runs s₁ ((s₁, e) :: h) s := by
  induction run with
  | init => exact .step .init possible
  | step _ possible' ih => exact .step ih possible'

/-- **A forwarder that goes on as far as it can takes steps**, each when it can. -/
theorem exists_runs_forward (there : r < s.subscriptions.size) (j : Journal) :
    ∃ h, Runs s h (s.forward r j).1 ∧ ∀ x ∈ h, x.2 = .forward r := by
  have none : ∀ {s : Store}, ∃ h, Runs s h (s.modifySubscription r fun _ => s.subscription r) ∧
      ∀ x ∈ h, x.2 = .forward r := fun {s} => by
    rw [modifySubscription, subscription, modify_getD_self]
    exact ⟨[], .init, fun x here => absurd here List.not_mem_nil⟩
  show ∃ h, Runs s h (s.modifySubscription r fun _ =>
    (s.forwardAll (s.bus.size + 2) (s.subscription r)).2) ∧ _
  generalize s.bus.size + 2 = fuel
  induction fuel generalizing s with
  | zero => exact none
  | succ fuel ih =>
    rw [forwardAll_succ]
    split
    · rename_i can
      have now : (s.happen (.forward r)).subscription r = (s.forwardStep (s.subscription r)).2 := by
        rw [happen, subscription_modifySubscription, if_pos ⟨rfl, there⟩]
      obtain ⟨h, run, steps⟩ := ih (s := s.happen (.forward r))
        (Nat.lt_of_lt_of_eq there (Array.size_modify ..).symm)
      rw [forwardAll_happen, now] at run
      have same : ∀ sub, (s.happen (.forward r)).modifySubscription r (fun _ => sub)
          = s.modifySubscription r fun _ => sub := fun sub => by
        rw [happen, modifySubscription, modifySubscription, modifySubscription, modify_modify_const]
      rw [same] at run
      refine ⟨(s, .forward r) :: h, run.before can, ?_⟩
      rintro x (_ | ⟨_, here⟩)
      · rfl
      · exact steps x here
    · exact none

/-! ## Three messages -/

/-- A store with a subscription. -/
def listening : Store := (({} : Store).subscribe "a*").2

/-- Three messages are published and forwarded, one of them on another channel; of those that fit, which
are equal but for the channel, the first is received. -/
def chatter : List Event :=
  [.serve 0 (.publish "a1" "x"), .serve 0 (.publish "b" "y"), .forward 0,
    .serve 0 (.publish "a2" "x"), .forward 0, .forward 0, .receive 0]

/-- The run in which some events happen one after another. -/
def told (s : Store) : List Event → List (Store × Event) × Store
  | [] => ([], s)
  | e :: rest => ((s, e) :: (told (s.happen e) rest).1, (told (s.happen e) rest).2)

theorem runs_chatter : Runs listening (told listening chatter).1 (told listening chatter).2 :=
  .before trivial (.before trivial (.before rfl (.before trivial
    (.before rfl (.before rfl (.before trivial .init))))))

theorem hears_in_order_chatter :
    ({} : Store).serve 0 (.subscribe "a*") = (.ok (0 : Nat), listening) ∧
      heard 0 (told listening chatter).1 = [⟨"a1", "x"⟩] ∧
      ((told listening chatter).2.subscription 0).queue = [⟨"a2", "x"⟩] ∧
      (heard 0 (told listening chatter).1).Sublist
        ((published (told listening chatter).1).filter (Message.fits "a*")) ∧
      ∃ taken waiting,
        Tells 0 "a*" 0 (told listening chatter).1 (told listening chatter).2 taken waiting := by
  have made : ({} : Store).serve 0 (.subscribe "a*") = (.ok (0 : Nat), listening) := rfl
  exact ⟨made, by decide, by decide, (hears_in_order made runs_chatter).2⟩

end SessionHub.Store

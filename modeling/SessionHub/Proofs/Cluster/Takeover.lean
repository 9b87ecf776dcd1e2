import Mathlib.Data.List.Flatten
import Mathlib.Data.List.Perm.Subperm
import SessionHub.Proofs.Cluster.Vigil

/-!
# One listening job after another

When a listening job takes over from another, it brings subscriptions of its own, which may have been made
while the other was still listening. What was published between the making and the takeover has been heard
by the former job, and still waits for the new one. So where two attempts to be subscribed overlap, one
broadcast may be delivered twice (`exists_heard_twice`).

That is all that can happen (`heard_by_each`). A listening job hears no broadcast twice, and none that was
published before its subscription was made. And where no attempt begins while another waits for a
subscription, a broadcast is heard at most once.

Every subscription is in one hand, that of a listening job or of an attempt, and what was heard is what the
listening jobs have taken, all trails together (`InHand`). Of orderly attempts only one is at work at a
time, and while it is, nobody listens; so whatever was heard before its subscriptions were made lies before
their trails (`InOrder`).
-/

namespace SessionHub

open Store (trail Trodden)

/-- Whether an attempt is not over with subscribing. -/
def Footing.isOpen : Footing → Bool
  | .through => false
  | _ => true

/-- Whether an attempt has found that the node is not subscribed. -/
def Footing.seeks : Footing → Bool
  | .asking | .holding _ | .paired _ _ => true
  | _ => false

theorem Footing.isOpen_of_seeks {g : Footing} (h : g.seeks = true) : g.isOpen = true := by
  cases g <;> first
    | rfl
    | nomatch h

theorem Footing.seeks_of_mem_refs {g : Footing} {r : SubRef} (h : r ∈ g.refs) : g.seeks = true := by
  cases g <;> first
    | rfl
    | nomatch h

/-- The subscriptions that some attempts have in hand. -/
def hands (G : List Footing) : List SubRef := G.flatMap Footing.refs

theorem hands_subperm {G G' : List Footing} (fewer : G'.Subperm G) : (hands G').Subperm (hands G) := by
  obtain ⟨l, perm, sub⟩ := fewer
  exact ⟨hands l, perm.flatMap_right _, sub.flatMap _⟩

theorem hands_cons (g : Footing) (G : List Footing) : hands (g :: G) = g.refs ++ hands G :=
  List.flatMap_cons

/-- What is in hand after one attempt has taken a new subscription. -/
theorem mem_hands_of_taken {g g' : Footing} {G : List Footing} {r new : SubRef}
    (taken : g'.refs = g.refs ++ [new]) (h : r ∈ hands (g' :: G)) : r = new ∨ r ∈ hands (g :: G) := by
  rw [hands_cons, taken] at h
  rw [hands_cons]
  simp only [List.mem_append, List.mem_singleton] at h ⊢
  tauto

namespace Vigil

/-- **Every subscription of the node is in one hand**, and what was heard is what was taken. -/
structure InHand (v : Vigil) (G : List Footing) : Prop where
  distinct : (v.node.followed ++ hands G).Nodup
  own : ∀ r ∈ v.node.followed ++ hands G, r ∈ v.own
  trodden : ∀ r ∈ v.node.followed ++ hands G, Trodden r v.story v.store
  unheard : ∀ r ∈ hands G, (trail r v.story).taken = []
  heard : (v.heard.map (·.1)).Perm (v.node.ears.flatMap fun b => (trail b v.story).taken)
  placed : ∀ x ∈ v.heard, v.store.bus[x.1]? = some x.2

/-- **Attempts in order**: one at a time, and while it seeks nobody listens. -/
structure InOrder (v : Vigil) (G : List Footing) : Prop where
  one : G.countP Footing.isOpen ≤ 1
  idle : ∀ g ∈ G, g.seeks = true → v.node.listening = []
  flag : v.node.membership.subscribed = false → v.node.listening = []
  sole : ∀ y ∈ v.node.listening, ∀ z ∈ v.node.listening, y = z
  /-- What was heard lies before what is in hand, -/
  before : ∀ r ∈ hands G, ∀ x ∈ v.heard, x.1 < (trail r v.story).start
  /-- and before what is listened to, but for what was taken from there. -/
  caught : ∀ y ∈ v.node.listening, ∀ x ∈ v.heard,
    x.1 < (trail y.1 v.story).start ∨ x.1 ∈ (trail y.1 v.story).taken
  once : (v.heard.map (·.1)).Nodup

/-- **Something happens in which no broadcast is heard.** -/
structure Hushed (e : Store.Event) (v v' : Vigil) : Prop where
  node : v.node.Unstirred v'.node
  store : v'.store = v.store.happen e
  story : v'.story = v.story ++ [(v.store, e)]
  own : v.own ⊆ v'.own
  heard : v'.heard = v.heard

variable {v v' : Vigil} {G G' : List Footing} {g g' : Footing} {e : Store.Event}

theorem hushed_serve (now : Nat) (call : StoreCall) (v : Vigil) :
    Hushed (.serve now call) v (v.serve now call).2 :=
  ⟨.of_eq rfl rfl, rfl, rfl, List.subset_append_left .., rfl⟩

theorem mem_followed_of_listening {y : SubRef × SubRef} (listens : y ∈ v.node.listening) :
    y.1 ∈ v.node.ears ∧ y.1 ∈ v.node.followed ∧ y.2 ∈ v.node.followed := by
  have listener := v.node.listening_subset listens
  have ear : y.1 ∈ v.node.ears := List.mem_map_of_mem listener
  exact ⟨ear, List.mem_append_left _ ear, List.mem_append_right _ (List.mem_map_of_mem listener)⟩

theorem followed_of_listeners {n n' : Node} (same : n'.listeners = n.listeners) :
    n'.followed = n.followed ∧ n'.ears = n.ears := by
  rw [Node.followed, Node.followed, Node.ears, Node.ears, same]
  exact ⟨rfl, rfl⟩

/-! ## Every subscription is in one hand -/

namespace InHand

theorem less (h : InHand v G) (sub : (hands G').Subperm (hands G)) : InHand v G' := by
  have among := (List.Subperm.refl v.node.followed).append sub
  refine ⟨?_, fun r hr => h.own r (among.subset hr), fun r hr => h.trodden r (among.subset hr),
    fun r hr => h.unheard r (sub.subset hr), h.heard, h.placed⟩
  obtain ⟨l, perm, sublist⟩ := among
  exact perm.nodup_iff.mp (h.distinct.sublist sublist)

theorem setNode (h : InHand v G) {n : Node} (same : n.listeners = v.node.listeners) :
    InHand (v.setNode n) G := by
  obtain ⟨followed, ears⟩ := followed_of_listeners same
  constructor
  · exact followed ▸ h.distinct
  · exact followed ▸ h.own
  · exact followed ▸ h.trodden
  · exact h.unheard
  · exact ears ▸ h.heard
  · exact h.placed

/-- What is taken from a subscription that does not receive anything. -/
theorem taken_snoc (h : InHand v G) {r : SubRef} (known : r ∈ v.node.followed ++ hands G)
    (silent : e ≠ .receive r) :
    (trail r (v.story ++ [(v.store, e)])).taken = (trail r v.story).taken :=
  (h.trodden r known).taken_snoc silent

theorem hushed (h : InHand v G) (hush : Hushed e v v')
    (silent : ∀ r ∈ v.node.ears ++ hands G, e ≠ .receive r) : InHand v' G := by
  obtain ⟨followed, ears⟩ := followed_of_listeners hush.node.listeners
  constructor
  · exact followed ▸ h.distinct
  · exact followed ▸ fun r hr => hush.own (h.own r hr)
  · rw [followed, hush.store, hush.story]
    exact fun r hr => (h.trodden r hr).step e
  · intro r hr
    rw [hush.story, h.taken_snoc (List.mem_append_right _ hr) (silent r (List.mem_append_right _ hr))]
    exact h.unheard r hr
  · rw [ears, hush.heard, hush.story]
    refine h.heard.trans (.of_eq (List.flatMap_congr fun b hb => ?_))
    exact (h.taken_snoc (List.mem_append_left _ (List.mem_append_left _ hb))
      (silent b (List.mem_append_left _ hb))).symm
  · rw [hush.heard, hush.store]
    exact fun x hx => Store.bus_happen_of_some (h.placed x hx) e

/-- **A subscription is made**, and the attempt has it in hand. -/
theorem made (h : InHand v (g :: G)) (on : v.store.available = true) {now : Nat} {pattern : String}
    (taken : g'.refs = g.refs ++ [v.store.subscriptions.size]) :
    InHand (v.serve now (.subscribe pattern)).2 (g' :: G) := by
  have new : v.store.subscriptions.size ∉ v.node.followed ++ hands (g :: G) := fun old =>
    absurd (h.trodden _ old).there (Nat.lt_irrefl _)
  have among : (v.node.followed ++ hands (g' :: G)).Perm
      (v.store.subscriptions.size :: (v.node.followed ++ hands (g :: G))) := by
    rw [hands_cons, hands_cons, taken]
    refine List.perm_iff_count.mpr fun r => ?_
    simp only [List.count_append, List.count_cons, List.count_nil]
    omega
  have own : (v.serve now (.subscribe pattern)).2.own = v.own ++ [v.store.subscriptions.size] := by
    show v.own ++ (if _ then _ else _) = _
    rw [if_pos on]
  have same := h.hushed (hushed_serve now (.subscribe pattern) v) fun _ _ => nofun
  have trodden := Store.trodden_subscribe v.story on now pattern
  have trail := Store.trail_subscribe v.story on now pattern
  constructor
  · exact among.nodup_iff.mpr (List.nodup_cons.mpr ⟨new, h.distinct⟩)
  · intro r hr
    rcases List.mem_cons.mp (among.subset hr) with rfl | hr
    · exact own ▸ List.mem_append_right _ List.mem_cons_self
    · exact same.own r hr
  · intro r hr
    rcases List.mem_cons.mp (among.subset hr) with rfl | hr
    · exact trodden
    · exact same.trodden r hr
  · intro r hr
    rcases mem_hands_of_taken taken hr with rfl | hr
    · exact congrArg Store.Trail.taken trail
    · exact same.unheard r hr
  · exact same.heard
  · exact same.placed

/-- **A listening job takes over** with the two subscriptions that an attempt has in hand. -/
theorem listenTo {b c : SubRef} (h : InHand v (.paired b c :: G)) :
    InHand (v.setNode (v.node.listenTo b c)) (.through :: G) := by
  have listeners := (v.node.listenTo_stirs b c).1
  have ears : (v.node.listenTo b c).ears = v.node.ears ++ [b] := by
    rw [Node.ears, listeners, List.map_append]
    rfl
  have followed : (v.node.listenTo b c).followed
      = (v.node.ears ++ [b]) ++ (v.node.listeners.map (·.2) ++ [c]) := by
    rw [Node.followed, ears, listeners, List.map_append]
    rfl
  have among : ((v.node.listenTo b c).followed ++ hands (.through :: G)).Perm
      (v.node.followed ++ hands (.paired b c :: G)) := by
    rw [followed, Node.followed, hands_cons, hands_cons]
    refine List.perm_iff_count.mpr fun r => ?_
    simp only [Footing.refs, List.count_append, List.count_cons, List.count_nil]
    omega
  have unheard : (trail b v.story).taken = [] := h.unheard b List.mem_cons_self
  constructor
  · exact among.nodup_iff.mpr h.distinct
  · exact fun r hr => h.own r (among.subset hr)
  · exact fun r hr => h.trodden r (among.subset hr)
  · exact fun r hr => h.unheard r (List.mem_append_right [b, c] hr)
  · show (v.heard.map (·.1)).Perm
      ((v.node.listenTo b c).ears.flatMap fun b => (trail b v.story).taken)
    rw [ears, List.flatMap_append, List.flatMap_singleton, unheard, List.append_nil]
    exact h.heard
  · exact h.placed

/-- Places that one of several trails gains. -/
theorem perm_flatMap_snoc {l : List SubRef} (distinct : l.Nodup) {b : SubRef} (there : b ∈ l)
    {places places' : SubRef → List Nat} {place : Nat} (here : places' b = places b ++ [place])
    (others : ∀ r ∈ l, r ≠ b → places' r = places r) :
    (l.flatMap places').Perm (l.flatMap places ++ [place]) := by
  induction l with
  | nil => nomatch there
  | cons r l ih =>
    obtain ⟨absent, distinct⟩ := List.nodup_cons.mp distinct
    rw [List.flatMap_cons, List.flatMap_cons]
    by_cases same : r = b
    · subst same
      have rest : l.flatMap places' = l.flatMap places := List.flatMap_congr fun r' hr' =>
        others r' (List.mem_cons_of_mem _ hr') fun same => absent (same ▸ hr')
      rw [here, rest, List.append_assoc, List.append_assoc]
      exact List.perm_append_comm.append_left _
    · have among : b ∈ l := (List.mem_cons.mp there).resolve_left (Ne.symm same)
      rw [others r List.mem_cons_self same, List.append_assoc]
      exact (ih distinct among fun r' hr' => others r' (List.mem_cons_of_mem _ hr')).append_left _

/-- What a listening job hears next, and from where. -/
theorem next_place (h : InHand v G) {b c : SubRef} {m : Message}
    (listens : (b, c) ∈ v.node.listening) (next : (v.store.receive b).1 = some m) : ∃ place,
    (v.hear b m).heard = v.heard ++ [(place, m)] ∧ v.store.bus[place]? = some m ∧
      (trail b (v.hear b m).story).taken = (trail b v.story).taken ++ [place] := by
  have known : b ∈ v.node.followed ++ hands G :=
    List.mem_append_left _ (mem_followed_of_listening listens).2.1
  obtain ⟨place, first, there, taken⟩ := (h.trodden b known).taken_receive next
  refine ⟨place, ?_, there, taken⟩
  show v.heard ++ [((trail b v.story).waiting.headD 0, m)] = _
  rw [List.headD_eq_head?_getD, first]
  rfl

/-- **A broadcast is heard.** -/
theorem hear (h : InHand v G) {b c : SubRef} {m : Message} (listens : (b, c) ∈ v.node.listening)
    (next : (v.store.receive b).1 = some m) : InHand (v.hear b m) G := by
  obtain ⟨followed, ears⟩ := followed_of_listeners (v.node.unstirred_hearBroadcast m).listeners
  obtain ⟨place, heard, there, taken⟩ := h.next_place listens next
  have ear := (mem_followed_of_listening listens).1
  have distinct := List.nodup_append.mp h.distinct
  have silent : ∀ r ∈ v.node.followed ++ hands G, r ≠ b →
      (trail r (v.hear b m).story).taken = (trail r v.story).taken := fun r hr other =>
    h.taken_snoc hr fun same => other (Store.Event.receive.inj same).symm
  constructor
  · exact followed ▸ h.distinct
  · exact followed ▸ h.own
  · exact followed ▸ fun r hr => (h.trodden r hr).step _
  · intro r hr
    have other : r ≠ b := fun same =>
      distinct.2.2 b (List.mem_append_left _ ear) r hr same.symm
    rw [silent r (List.mem_append_right _ hr) other]
    exact h.unheard r hr
  · rw [heard, List.map_append]
    refine (h.heard.append_right _).trans (.symm ?_)
    show ((v.node.hearBroadcast m).ears.flatMap _).Perm _
    rw [ears]
    exact perm_flatMap_snoc (List.nodup_append.mp distinct.1).1 ear taken fun r hr =>
      silent r (List.mem_append_left _ (List.mem_append_left _ hr))
  · intro x hx
    rw [heard, List.mem_append, List.mem_singleton] at hx
    refine Store.bus_happen_of_some ?_ _
    rcases hx with hx | rfl
    · exact h.placed x hx
    · exact there

/-- The control subscription of a listening job is no ear. -/
theorem control_silent (h : InHand v G) {b c : SubRef} (listens : (b, c) ∈ v.node.listening) :
    ∀ r ∈ v.node.ears ++ hands G, Store.Event.receive c ≠ .receive r := by
  rintro r hr same
  obtain rfl := Store.Event.receive.inj same
  have distinct := List.nodup_append.mp h.distinct
  have control : c ∈ v.node.listeners.map (·.2) :=
    List.mem_map_of_mem (v.node.listening_subset listens)
  rcases List.mem_append.mp hr with ear | hand
  · exact (List.nodup_append.mp distinct.1).2.2 c ear c control rfl
  · exact distinct.2.2 c (List.mem_append_right _ control) c hand rfl

end InHand

/-! ## Attempts in order -/

namespace InOrder

theorem less (h : InOrder v G) (fewer : G'.Subperm G) : InOrder v G' where
  one := Nat.le_trans (fewer.countP_le _) h.one
  idle g hg := h.idle g (fewer.subset hg)
  flag := h.flag
  sole := h.sole
  before r hr := h.before r ((hands_subperm fewer).subset hr)
  caught := h.caught
  once := h.once

/-- A change by which nobody begins to listen. -/
theorem fewer (h : InOrder v G) {n : Node} (listening : n.listening ⊆ v.node.listening)
    (flag : n.membership.subscribed = false → n.listening = []) : InOrder (v.setNode n) G where
  one := h.one
  idle g hg seeks := List.eq_nil_of_subset_nil (h.idle g hg seeks ▸ listening)
  flag := flag
  sole y hy z hz := h.sole y (listening hy) z (listening hz)
  before := h.before
  caught y hy := h.caught y (listening hy)
  once := h.once

theorem unstirred (h : InOrder v G) {n : Node} (unstirred : v.node.Unstirred n) :
    InOrder (v.setNode n) G :=
  h.fewer unstirred.listening fun off =>
    List.eq_nil_of_subset_nil (h.flag (unstirred.subscribed ▸ off) ▸ unstirred.listening)

theorem hushed (h : InOrder v G) (hand : InHand v G) (hush : Hushed e v v')
    (silent : ∀ r ∈ v.node.ears ++ hands G, e ≠ .receive r) : InOrder v' G := by
  have still := h.unstirred hush.node
  constructor
  · exact h.one
  · exact still.idle
  · exact still.flag
  · exact still.sole
  · intro r hr
    rw [hush.heard, hush.story, (hand.trodden r (List.mem_append_right _ hr)).start_snoc]
    exact h.before r hr
  · intro y hy
    obtain ⟨ear, known, -⟩ := mem_followed_of_listening (hush.node.listening hy)
    rw [hush.heard, hush.story, (hand.trodden y.1 (List.mem_append_left _ known)).start_snoc,
      hand.taken_snoc (List.mem_append_left _ known) (silent y.1 (List.mem_append_left _ ear))]
    exact h.caught y (hush.node.listening hy)
  · exact hush.heard ▸ h.once

/-- An attempt goes on, and nothing else happens. -/
theorem advance (h : InOrder v (g :: G)) (opened : g.isOpen = true) (seeks : v.node.listening = [])
    (hold : ∀ r ∈ hands (g' :: G), ∀ x ∈ v.heard, x.1 < (trail r v.story).start) :
    InOrder v (g' :: G) where
  one := by
    have one := h.one
    rw [List.countP_cons, if_pos opened] at one
    rw [List.countP_cons]
    split <;> omega
  idle _ _ _ := seeks
  flag := h.flag
  sole := h.sole
  before := hold
  caught := h.caught
  once := h.once

/-- **A subscription is made** while nobody listens. -/
theorem made (h : InOrder v (g :: G)) (hand : InHand v (g :: G)) (on : v.store.available = true)
    {now : Nat} {pattern : String} (taken : g'.refs = g.refs ++ [v.store.subscriptions.size])
    (seeks : g.seeks = true) : InOrder (v.serve now (.subscribe pattern)).2 (g' :: G) := by
  have same := h.hushed hand (hushed_serve now (.subscribe pattern) v) fun _ _ => nofun
  refine same.advance (Footing.isOpen_of_seeks seeks) (same.idle g List.mem_cons_self seeks) fun r hr x hx => ?_
  rcases mem_hands_of_taken taken hr with rfl | hr
  · rw [show (v.serve now (.subscribe pattern)).2.story
        = v.story ++ [(v.store, .serve now (.subscribe pattern))] from rfl,
      Store.trail_subscribe v.story on now pattern]
    exact (Array.getElem?_eq_some_iff.mp (hand.placed x hx)).1
  · exact same.before r hr x hx

/-- **A listening job takes over** from nobody. -/
theorem listenTo {b c : SubRef} (h : InOrder v (.paired b c :: G)) :
    InOrder (v.setNode (v.node.listenTo b c)) (.through :: G) := by
  obtain ⟨-, listening, subscribed⟩ := v.node.listenTo_stirs b c
  have nobody : v.node.listening = [] := h.idle _ List.mem_cons_self rfl
  rw [nobody, List.nil_append] at listening
  have only : ∀ y ∈ (v.node.listenTo b c).listening, y = (b, c) := fun y hy =>
    List.mem_singleton.mp (listening hy)
  have others : G.countP Footing.isOpen = 0 := by
    have one := h.one
    rw [List.countP_cons_of_pos rfl] at one
    omega
  constructor
  · rw [List.countP_cons, others]
    decide
  · intro g hg seeks
    rcases List.mem_cons.mp hg with rfl | hg
    · nomatch seeks
    · exact absurd (Footing.isOpen_of_seeks seeks) (List.countP_eq_zero.mp others g hg)
  · exact fun off => absurd (off.symm.trans subscribed) Bool.false_ne_true
  · exact fun y hy z hz => (only y hy).trans (only z hz).symm
  · exact fun r hr => h.before r (List.mem_append_right [b, c] hr)
  · intro y hy x hx
    obtain rfl := only y hy
    exact .inl (h.before b List.mem_cons_self x hx)
  · exact h.once

/-- **A broadcast is heard** by the only job that listens, and it has not been heard before. -/
theorem hear (h : InOrder v G) (hand : InHand v G) {b c : SubRef} {m : Message}
    (listens : (b, c) ∈ v.node.listening) (next : (v.store.receive b).1 = some m) :
    InOrder (v.hear b m) G := by
  obtain ⟨place, heard, there, taken⟩ := hand.next_place listens next
  have still := h.unstirred (v.node.unstirred_hearBroadcast m)
  have known : b ∈ v.node.followed ++ hands G :=
    List.mem_append_left _ (mem_followed_of_listening listens).2.1
  have trodden := hand.trodden b known
  have trodden' : Trodden b (v.hear b m).story (v.hear b m).store := trodden.step _
  have start : (trail b (v.hear b m).story).start = (trail b v.story).start := trodden.start_snoc _
  have empty : ∀ r, r ∉ hands G := fun r hr => by
    obtain ⟨g, hg, hr⟩ := List.mem_flatMap.mp hr
    rw [h.idle g hg (Footing.seeks_of_mem_refs hr)] at listens
    nomatch listens
  have caught : ∀ x ∈ v.heard, x.1 < (trail b v.story).start ∨ x.1 ∈ (trail b v.story).taken :=
    h.caught (b, c) listens
  have fresh : ∀ x ∈ v.heard, x.1 ≠ place := by
    rintro x hx rfl
    have ordered := taken ▸ trodden'.ordered
    rcases caught x hx with before | here
    · have between := trodden'.between (taken ▸ List.mem_append_right _ List.mem_cons_self)
      rw [start] at between
      exact absurd before (Nat.not_lt_of_le between.1)
    · have less := (List.pairwise_append.mp ordered).2.2 x.1 here x.1 List.mem_cons_self
      exact Nat.lt_irrefl _ less
  constructor
  · exact h.one
  · exact still.idle
  · exact still.flag
  · exact still.sole
  · exact fun r hr => absurd hr (empty r)
  · intro y hy x hx
    obtain rfl : y = (b, c) :=
      h.sole y ((v.node.unstirred_hearBroadcast m).listening hy) (b, c) listens
    rw [heard, List.mem_append, List.mem_singleton] at hx
    rw [start, taken]
    rcases hx with hx | rfl
    · exact (caught x hx).imp_right (List.mem_append_left _)
    · exact .inr (List.mem_append_right _ List.mem_cons_self)
  · rw [heard, List.map_append, List.nodup_append]
    refine ⟨h.once, List.pairwise_singleton .., fun p hp q hq => ?_⟩
    obtain ⟨x, hx, rfl⟩ := List.mem_map.mp hp
    obtain rfl := List.mem_singleton.mp hq
    exact fresh x hx

/-- A listening job comes to an end, and nobody listens. -/
theorem close (h : InOrder v G) {n : Node} {b c : SubRef} (listens : (b, c) ∈ v.node.listening)
    (unstirred : v.node.Unstirred n) (ended : (b, c) ∉ n.listening) :
    InOrder (v.setNode n.subscriptionEnded) G := by
  have nobody : n.listening = [] := List.eq_nil_iff_forall_not_mem.mpr fun y hy =>
    ended (h.sole y (unstirred.listening hy) (b, c) listens ▸ hy)
  exact h.fewer unstirred.listening fun _ => nobody

/-- **An attempt begins** when no other is at work. -/
theorem call (h : InOrder v G) (shut : ∀ g ∈ G, g = .through) : InOrder v (.fresh :: G) where
  one := by
    have none : G.countP Footing.isOpen = 0 := List.countP_eq_zero.mpr fun g hg => by
      rw [shut g hg]
      exact Bool.false_ne_true
    rw [List.countP_cons, none]
    decide
  idle g hg seeks := by
    rcases List.mem_cons.mp hg with rfl | hg
    · nomatch seeks
    · exact h.idle g hg seeks
  flag := h.flag
  sole := h.sole
  before := h.before
  caught := h.caught
  once := h.once

/-- An attempt is over with subscribing. -/
theorem finish (h : InOrder v (g :: G)) : InOrder v (.through :: G) where
  one := Nat.le_trans (Nat.le_of_eq (List.countP_cons_of_neg Bool.false_ne_true))
    (h.less (List.sublist_cons_self g G).subperm).one
  idle g hg seeks := by
    rcases List.mem_cons.mp hg with rfl | hg
    · nomatch seeks
    · exact h.idle g (List.mem_cons_of_mem _ hg) seeks
  flag := h.flag
  sole := h.sole
  before := (h.less (List.sublist_cons_self g G).subperm).before
  caught := h.caught
  once := h.once

end InOrder

/-! ## Runs -/

/-- What is kept true of a vigil and of the attempts under way. -/
def Keeps (orderly : Bool) (v : Vigil) (G : List Footing) : Prop :=
  v.InHand G ∧ (orderly = true → v.InOrder G)

namespace Keeps

variable {orderly : Bool}

theorem less (h : Keeps orderly v G) (fewer : G'.Subperm G) : Keeps orderly v G' :=
  ⟨h.1.less (hands_subperm fewer), fun order => (h.2 order).less fewer⟩

theorem unstirred (h : Keeps orderly v G) {n : Node} (unstirred : v.node.Unstirred n) :
    Keeps orderly (v.setNode n) G :=
  ⟨h.1.setNode unstirred.listeners, fun order => (h.2 order).unstirred unstirred⟩

theorem hushed (h : Keeps orderly v G) (hush : Hushed e v v')
    (silent : ∀ r ∈ v.node.ears ++ hands G, e ≠ .receive r) : Keeps orderly v' G :=
  ⟨h.1.hushed hush silent, fun order => (h.2 order).hushed h.1 hush silent⟩

/-- **What an attempt puts in place.** -/
theorem puts (h : Keeps orderly v (g :: G)) (put : Footing.Puts g v v' g') :
    Keeps orderly v' (g' :: G) := by
  cases put with
  | unstirred unstirred => exact h.unstirred unstirred
  | served | refused => exact h.hushed (hushed_serve ..) fun _ _ => nofun
  | first on | second on =>
    exact ⟨h.1.made on rfl, fun order => (h.2 order).made h.1 on rfl rfl⟩
  | listening => exact ⟨h.1.listenTo, fun order => (h.2 order).listenTo⟩

/-- **What an attempt asks.** -/
theorem asks (h : Keeps orderly v (g :: G)) {q : StoreCall} (ask : Footing.Asks g v q g') :
    Keeps orderly v (g' :: G) ∧ (g' = .through ∨ ∃ pattern, q = .subscribe pattern) := by
  cases ask with
  | first off =>
    refine ⟨⟨h.1.less (List.Subperm.refl _), fun order => ?_⟩, .inr ⟨_, rfl⟩⟩
    exact (h.2 order).advance rfl ((h.2 order).flag off) (h.2 order).before
  | second => exact ⟨h, .inr ⟨_, rfl⟩⟩
  | other =>
    refine ⟨⟨h.1.less ?_, fun order => (h.2 order).finish⟩, .inl rfl⟩
    exact (List.sublist_append_right g.refs (hands G)).subperm

/-- **What goes on beside.** -/
theorem turn (h : Keeps orderly v G) (turned : Turn v v') : Keeps orderly v' G := by
  cases turned with
  | elsewhere unstirred => exact h.unstirred unstirred
  | store possible others =>
    refine h.hushed ⟨.of_eq rfl rfl, rfl, rfl, List.Subset.refl _, rfl⟩ fun r hr => others r ?_
    rcases List.mem_append.mp hr with ear | hand
    · exact h.1.own r (List.mem_append_left _ (List.mem_append_left _ ear))
    · exact h.1.own r (List.mem_append_right _ hand)
  | hear listens next => exact ⟨h.1.hear listens next, fun order => (h.2 order).hear h.1 listens next⟩
  | mind listens next =>
    exact h.hushed ⟨v.node.unstirred_hearControl _, rfl, rfl, List.Subset.refl _, rfl⟩
      (h.1.control_silent listens)
  | close listens unstirred ended =>
    exact ⟨h.1.setNode unstirred.listeners, fun order => (h.2 order).close listens unstirred ended⟩

end Keeps

/-- Where all attempts stand, the one that runs just now and those that wait. -/
def footings {ι : Type} (cur : Option (ι × Footing)) (W : List (Stance StoreCall ι Footing)) :
    List Footing :=
  cur.toList.map (·.2) ++ W.map (·.standing)

/-- **The discipline of attempts to be subscribed.** -/
def subscribing (orderly : Bool) : Discipline (vigil orderly) Footing where
  toConduct := attempting
  start _ := .fresh
  ending _ _ _ _ := True
  holds v _ cur W _ := Keeps orderly v (footings cur W) ∧
    ∀ w ∈ W, w.standing = .through ∨ ∃ pattern, w.question = .subscribe pattern
  heeds _ _ := attempt_heeds ..
  called := by
    rintro a v h W D ⟨keeps, named⟩ admitted
    refine ⟨⟨keeps.1.less (List.Subperm.refl _), fun order => (keeps.2 order).call fun g hg => ?_⟩, named⟩
    obtain ⟨w, hw, rfl⟩ := List.mem_map.mp hg
    refine (named w hw).resolve_right fun ⟨pattern, asked⟩ => ?_
    exact admitted order w.tag (List.mem_map_of_mem hw) pattern asked
  answered := by
    rintro v h l₁ w l₂ D a v' ⟨keeps, named⟩ rfl
    refine ⟨trivial, keeps.less (List.Perm.subperm ?_), fun w' hw' => named w' ?_⟩
    · simp only [footings, Option.toList_some, Option.toList_none, List.map_append, List.map_cons,
        List.map_nil, List.nil_append, List.singleton_append]
      exact List.perm_middle.symm
    · exact List.mem_append.mpr ((List.mem_append.mp hw').imp id (List.mem_cons_of_mem _))
  put := by
    rintro v h a g W D v' g' ⟨keeps, named⟩ put
    exact ⟨keeps.puts put, named⟩
  asked := by
    rintro v h a g W D q g' ⟨keeps, named⟩ ask
    obtain ⟨keeps, named'⟩ := keeps.asks ask
    refine ⟨keeps.less (List.Perm.subperm ?_), fun w hw => ?_⟩
    · simp only [footings, Option.toList_none, List.map_append, List.map_cons, List.map_nil,
        List.nil_append]
      exact List.perm_append_comm
    · rcases List.mem_append.mp hw with hw | hw
      · exact named w hw
      · obtain rfl := List.mem_singleton.mp hw
        exact named'
  returned := by
    rintro v h a g W D r ⟨keeps, named⟩ _
    exact ⟨keeps.less (List.sublist_cons_self g _).subperm, named⟩
  dropped := by
    rintro v h l₁ w l₂ D ⟨keeps, named⟩ _
    refine ⟨keeps.less (List.Sublist.subperm ?_), fun w' hw' => named w' ?_⟩
    · simp only [footings, Option.toList_none, List.map_append, List.map_cons, List.map_nil,
        List.nil_append]
      exact (List.sublist_cons_self ..).append_left _
    · exact List.mem_append.mpr ((List.mem_append.mp hw').imp id (List.mem_cons_of_mem _))
  turned := by
    rintro v h W D v' ⟨keeps, named⟩ turned
    exact ⟨keeps.turn turned, named⟩

/-! ## How often a broadcast is heard -/

theorem keeps_first {n : Node} (nobody : n.listeners = []) (store : Store) (orderly : Bool) :
    Keeps orderly { node := n, store } [] := by
  have nowhere : n.listening = [] :=
    List.eq_nil_of_subset_nil (nobody ▸ n.listening_subset)
  have followed : n.followed = [] := by rw [Node.followed, Node.ears, nobody]; rfl
  have ears : n.ears = [] := by rw [Node.ears, nobody]; rfl
  have nothing : n.followed ++ hands [] = [] := by rw [followed]; rfl
  constructor
  · constructor
    · show (n.followed ++ hands []).Nodup
      rw [nothing]
      exact .nil
    · show ∀ r ∈ n.followed ++ hands [], _
      rw [nothing]
      exact nofun
    · show ∀ r ∈ n.followed ++ hands [], _
      rw [nothing]
      exact nofun
    · exact nofun
    · show List.Perm [] (n.ears.flatMap _)
      rw [ears]
      exact .nil
    · exact nofun
  · exact fun _ => ⟨Nat.zero_le 1, nofun, fun _ => nowhere, nowhere ▸ nofun, nofun, nowhere ▸ nofun, .nil⟩

/-- What occurs in no list twice occurs in several lists at most as often as there are lists in which it
may occur. -/
theorem count_flatMap_le {l : List SubRef} {places : SubRef → List Nat} {may : SubRef → Bool} {place : Nat}
    (once : ∀ b ∈ l, (places b).Nodup) (allowed : ∀ b ∈ l, place ∈ places b → may b = true) :
    (l.flatMap places).count place ≤ (l.filter may).length := by
  induction l with
  | nil => exact Nat.le_refl 0
  | cons b l ih =>
    have rest := ih (fun b hb => once b (List.mem_cons_of_mem _ hb))
      fun b hb => allowed b (List.mem_cons_of_mem _ hb)
    rw [List.flatMap_cons, List.count_append]
    by_cases here : place ∈ places b
    · have one := List.nodup_iff_count.mp (once b List.mem_cons_self) place
      rw [List.filter_cons_of_pos (allowed b List.mem_cons_self here), List.length_cons]
      omega
    · rw [List.count_eq_zero.mpr here, Nat.zero_add]
      exact Nat.le_trans rest ((List.sublist_cons_self b l).filter may).length_le

/-- **How often a broadcast is heard.** Whatever attempts to be subscribed there are and however they
overlap, what is heard is what was published in its place, and every listening job hears it at most once,
and only if its subscription was there when it was published. If no attempt begins while another waits for
a subscription, it is heard at most once by all of them together. -/
theorem heard_by_each {n : Node} (nobody : n.listeners = []) {store : Store} {orderly : Bool}
    {p : Pool Vigil StoreCall (fun _ => Option Nat) Unit Attempt}
    (run : (vigil orderly).Reaches { node := n, store } p) :
    (∀ x ∈ p.state.heard, p.state.store.bus[x.1]? = some x.2) ∧
      (∀ place, (p.state.heard.map (·.1)).count place
        ≤ (p.state.node.ears.filter fun b => (trail b p.state.story).start ≤ place).length) ∧
      (orderly = true → (p.state.heard.map (·.1)).Nodup) := by
  obtain ⟨W, D, _, _, ⟨hand, order⟩, -⟩ :=
    (subscribing orderly).sound ⟨keeps_first nobody store orderly, nofun⟩ run
  refine ⟨hand.placed, fun place => hand.heard.count_eq place ▸ ?_, fun o => (order o).once⟩
  have known : ∀ b ∈ p.state.node.ears, Trodden b p.state.story p.state.store := fun b hb =>
    hand.trodden b (List.mem_append_left _ (List.mem_append_left _ hb))
  refine count_flatMap_le (fun b hb => (known b hb).ordered.imp Nat.ne_of_lt) fun b hb taken => ?_
  exact decide_eq_true ((known b hb).between taken).1

/-! ## Two attempts -/

/-- A node with one session. -/
def lobby : Node where
  id := ⟨"a"⟩
  floor :=
    { sessions := #[.opening ⟨"x"⟩ "/chat" ⟨"a"⟩ {} (.ofCapacity 4) 0]
      roster := [(⟨"x"⟩, 0)] }
  clustered := true
  membership := { keys := ⟨"hub"⟩ }

/-- What another node publishes. -/
def greeting : Message where
  channel := lobby.membership.keys.broadcastChannel "/chat"
  payload := ({ path := "/chat", payload := "hello", source := ⟨"b"⟩, timestamp := 0 } : Envelope).encode

/-- A run of the node. -/
abbrev Hall := Pool Vigil StoreCall (fun _ => Option Nat) Unit Attempt

/-- Before anything has happened. -/
def early : Hall := { state := { node := lobby } }

/-- The store gets to the call that has waited longest. -/
def attendTo (p : Hall) : Hall := p.answer (fun _ => some 0) 0

/-- The greeting is published. -/
def greet (p : Hall) : Hall :=
  p.turn (p.state.happen (.serve 0 (.publish greeting.channel greeting.payload)))

/-- It is forwarded to a listening job, which hears it. -/
def pass (b : SubRef) (p : Hall) : Hall :=
  let p := p.turn (p.state.happen (.forward b))
  p.turn (p.state.hear b greeting)

/-- The node joins, has its subscriptions and hears the greeting. -/
def patient : Hall := pass 0 (greet (attendTo (attendTo (early.call (vigil true) .join))))

/-- The node joins and beats at the same time; both attempts have a subscription, and the listening job of
the first one hears the greeting. -/
def hasty : Hall :=
  pass 0 (greet (attendTo (attendTo (attendTo
    ((early.call (vigil false) .join).call (vigil false) .heartbeat)))))

/-- The listening job of the second one takes over, and hears the greeting again. -/
def echoed : Hall := pass 1 (attendTo hasty)

section Reached

variable {orderly : Bool} {p : Hall}

theorem attendTo_reached (run : (vigil orderly).Reaches { node := lobby } p) :
    (vigil orderly).Reaches { node := lobby } (attendTo p) := run.answer (fun _ => rfl) 0

theorem greet_reached (run : (vigil orderly).Reaches { node := lobby } p) :
    (vigil orderly).Reaches { node := lobby } (greet p) :=
  run.turn (.store trivial fun _ _ => nofun)

theorem pass_reached (run : (vigil orderly).Reaches { node := lobby } p) {b c : SubRef}
    (can : p.state.store.canForward (p.state.store.subscription b) = true)
    (listens : (b, c) ∈ p.state.node.listening)
    (next : ((p.state.store.happen (.forward b)).receive b).1 = some greeting) :
    (vigil orderly).Reaches { node := lobby } (pass b p) :=
  (run.turn (.store (e := .forward b) can fun _ _ => nofun)).turn (.hear listens next)

end Reached

theorem call_reached {p : Hall} (run : (vigil false).Reaches { node := lobby } p) (a : Attempt) :
    (vigil false).Reaches { node := lobby } (p.call (vigil false) a) :=
  run.call fun order => absurd order Bool.false_ne_true

theorem patient_reached : (vigil true).Reaches { node := lobby } patient :=
  pass_reached (c := 1) (greet_reached (attendTo_reached (attendTo_reached
      (System.Reaches.init.call fun _ w hw => nomatch hw))))
    (by decide +kernel) (by decide +kernel) (by decide +kernel)

theorem hasty_reached : (vigil false).Reaches { node := lobby } hasty :=
  pass_reached (c := 2) (greet_reached (attendTo_reached (attendTo_reached (attendTo_reached
      (call_reached (call_reached .init .join) .heartbeat)))))
    (by decide +kernel) (by decide +kernel) (by decide +kernel)

theorem echoed_reached : (vigil false).Reaches { node := lobby } echoed :=
  pass_reached (c := 3) (attendTo_reached hasty_reached)
    (by decide +kernel) (by decide +kernel) (by decide +kernel)

/-- Of two listening jobs whose subscriptions were there each hears the greeting, and one that is alone
hears it once. -/
theorem heard_by_each_echoed :
    lobby.listeners = [] ∧ (vigil false).Reaches { node := lobby } echoed ∧
      (echoed.state.heard.map (·.1)).count 0 = 2 ∧
      (echoed.state.heard.map (·.1)).count 0 ≤ (echoed.state.node.ears.filter fun b =>
        (trail b echoed.state.story).start ≤ 0).length ∧
      (vigil true).Reaches { node := lobby } patient ∧ patient.state.heard = [(0, greeting)] ∧
      (patient.state.heard.map (·.1)).Nodup := by
  have nobody : lobby.listeners = [] := rfl
  exact ⟨nobody, echoed_reached, by decide +kernel, (heard_by_each nobody echoed_reached).2.1 0,
    patient_reached, by decide +kernel, (heard_by_each nobody patient_reached).2.2 rfl⟩

/-- **A broadcast is heard twice** where two attempts overlap, and the session has the payload twice. -/
theorem exists_heard_twice : ∃ p, (vigil false).Reaches { node := lobby } p ∧
    ¬ (p.state.heard.map (·.1)).Nodup ∧
      (p.state.node.session 0).outbox.queue = ["hello", "hello"] :=
  ⟨echoed, echoed_reached, by decide +kernel, by decide +kernel⟩

end Vigil

end SessionHub

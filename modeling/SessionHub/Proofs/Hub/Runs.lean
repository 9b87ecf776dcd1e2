import SessionHub.Proofs.Hub.Order

/-!
# Whole runs of a hub

A run starts from a node on whose floor nobody was yet. Every program of the hub keeps to its
conduct, so the books are kept in every run and callbacks are kept apart, whoever calls, in whichever
order the programs go on, and whatever the store and the handlers answer.

Two promises of a hub are settled by this: that the callbacks of a session come in order, and that a
shutdown tells every session's handler that the session is closed. Neither is kept by all runs, and
of each it is said by which runs it is kept.
-/

namespace SessionHub

namespace Node

/-- A node on whose floor nobody was yet. -/
structure Vacant (n : Node) : Prop where
  sessions : n.floor.sessions = #[]
  roster : n.floor.roster = []
  active : n.floor.journal.active = 0

variable {hs : Handlers} {keys : KeyLayout} {n : Node} {h : List HubNote} {c : HubCall}
  {W G : List HubStance}

/-- The books of a run that has not begun. -/
theorem Vacant.books (v : Vacant n) : Books n.handlers n.membership.keys n [] none [] [] := by
  have nobody : n.floor.sessions.size = 0 := by rw [v.sessions, Array.size_empty]
  have absent : ∀ r, ¬ r < n.floor.sessions.size := fun r there => by
    rw [nobody] at there
    exact Nat.not_lt_zero r there
  constructor
  · refine ⟨rfl, rfl, ?_, fun r there => absurd there (absent r),
      fun r there => absurd there (absent r), fun r there => absurd there (absent r)⟩
    rw [v.roster]
    exact fun e he => absurd he List.not_mem_nil
  · exact fun w hw => absurd hw List.not_mem_nil
  · intro r
    rw [if_neg (absent r)]
    rfl
  · intro r
    rw [if_neg (absent r)]
    rfl
  · intro r
    rw [if_neg fun there => absent r there.1]
    rfl
  · rw [v.active, untold, nobody]
    rfl
  · exact fun _ _ same => absurd same.symm (Option.some_ne_none _)
  · exact fun w hw => absurd hw List.not_mem_nil
  · exact fun w hw => absurd hw List.not_mem_nil
  · exact fun _ last => absurd last.symm (Option.some_ne_none _)

/-- Callbacks are apart where there are none. -/
theorem apartness_nil : Apartness [] none [] where
  reads _ hw := nomatch hw
  reading _ _ same := nomatch same
  alone _ := Nat.zero_le 1
  admitted _ some' := nomatch some'
  hungUp _ called := nomatch called
  running _ _ same := nomatch same
  waiting _ hw := nomatch hw
  asking _ _ asked := nomatch asked
  opens _ hw := nomatch hw
  speaks _ hw := nomatch hw
  balance _ _ := rfl
  orderly r := by simp [Orderly, Undisturbed]

/-- **Every program that a hub is called for keeps to the conduct**, and owes nothing when it ends. -/
theorem program_heeds (f : Finds hs keys (.ofCall c) n)
    (there : ∀ r, c = .hangUp r ∨ c = .disconnect r → r < n.floor.sessions.size) :
    (HubCall.program c).Heeds (conduct hs keys) (Over c) (.ofCall c) n := by
  have ends : ∀ r, r < n.floor.sessions.size → (do
      disconnect r
      return none : HubProgram (Option SessionRef)).Heeds (conduct hs keys)
        (fun g _ a => g.due = false ∧ g.owes = none ∧ g.hosts = a) (.ofCall c) n := by
    intro r there
    have none' : ∀ r' ∈ ([] : List SessionRef), r' < n.floor.sessions.size := nofun
    have only : false = true → n.closing.begun = true ∧
        ∀ e ∈ n.floor.roster, e.2 = r ∨ e.2 ∈ ([] : List SessionRef) := nofun
    apply (disconnect_heeds f rfl rfl there none' only).bind
    intro g' n' _ after
    obtain ⟨rfl, _⟩ := after
    exact ⟨rfl, rfl, rfl⟩
  cases c with
  | accept path handshake outbox =>
    apply (accept_heeds f rfl rfl rfl).bind
    intro g' n' a after
    obtain ⟨rfl, _⟩ := after
    exact ⟨rfl, rfl, rfl, nofun⟩
  | message r text =>
    apply (message_heeds f rfl rfl).bind
    intro g' n' _ after
    obtain ⟨rfl, _⟩ := after
    exact ⟨rfl, rfl, rfl, nofun⟩
  | fault r fault =>
    apply (fault_heeds f rfl).bind
    intro g' n' _ after
    obtain ⟨rfl, _⟩ := after
    exact ⟨rfl, rfl, rfl, nofun⟩
  | hangUp r =>
    exact (ends r (there r (.inl rfl))).mono fun g n a done => ⟨done.1, done.2.1, done.2.2, nofun⟩
  | disconnect r =>
    exact (ends r (there r (.inr rfl))).mono fun g n a done => ⟨done.1, done.2.1, done.2.2, nofun⟩
  | broadcast path payload =>
    refine (asHub_heeds f rfl (broadcast_changesBy (aside_broadcastHere ..) Tended.aside)).discard_bind ?_
    intro g' n' _ after
    obtain ⟨rfl, _⟩ := after
    exact ⟨rfl, rfl, rfl, nofun⟩
  | send path id payload =>
    refine (asHub_heeds_tended f rfl (sendTo_tended ..)).discard_bind ?_
    intro g' n' _ after
    obtain ⟨rfl, _⟩ := after
    exact ⟨rfl, rfl, rfl, nofun⟩
  | start =>
    apply (run_heeds f rfl).bind
    intro g' n' _ after
    obtain ⟨rfl, _⟩ := after
    exact ⟨rfl, rfl, rfl, nofun⟩
  | liveness =>
    apply (livenessRound_heeds f rfl rfl).bind
    intro g' n' _ after
    obtain ⟨⟨left, last, rfl⟩, _⟩ := after
    exact ⟨rfl, rfl, rfl, nofun⟩
  | shutdown =>
    apply (shutdown_heeds f rfl rfl).bind
    intro g' n' _ after
    obtain ⟨⟨left, last, rfl⟩, _, nobody⟩ := after
    exact ⟨rfl, rfl, rfl, fun _ => nobody⟩

/-- Who was let in is on the floor. -/
theorem Books.there {cur : Option (HubCall × Standing)} (b : Books hs keys n h cur W G)
    {r : SessionRef} (admitted : ∃ x ∈ h, HubNote.admits r x = true) :
    r < n.floor.sessions.size := by
  have balance := b.hosted r
  have some' : 0 < h.countP (HubNote.admits r) := List.countP_pos_iff.mpr admitted
  by_contra absent
  rw [if_neg absent] at balance
  omega

/-- What a hub admits finds what it counts on. -/
theorem Books.admits (b : Books hs keys n h none W G)
    (admits : hub.admits c n h (W.map Stance.tag)) :
    (HubCall.program c).Heeds (conduct hs keys) (Over c) (.ofCall c) n := by
  refine program_heeds ⟨b.sound, fun r speaks => ?_, nofun, nofun, nofun, nofun⟩ fun r ends => ?_
  · refine b.there (admits.1 r ?_).1
    cases c <;> first | exact speaks | nomatch speaks
  · rcases ends with rfl | rfl
    · exact b.there (admits.1 r rfl).1
    · exact admits.2 r rfl

/-- **The discipline of a hub**: its books are kept, and callbacks are kept apart. -/
def kept (hs : Handlers) (keys : KeyLayout) : Discipline hub Standing where
  toConduct := conduct hs keys
  start := .ofCall
  ending := Over
  holds n h cur W G := Books hs keys n h cur W G ∧ Apartness h cur W
  heeds holds admits := holds.1.admits admits
  called holds admits := ⟨holds.1.called, holds.2.called admits⟩
  answered {_ _ _ w _ _ _ _} holds served := by
    obtain ⟨books, apart⟩ := holds
    obtain rfl := served
    refine ⟨books.finds w (by simp), books.answered ⟨fun _ => rfl, fun _ _ => rfl⟩ (by simp), ?_⟩
    refine apart.resumed ?_ (fun _ _ => rfl) (fun _ _ => rfl) (by simp) (by simp)
    intro _ _ same
    obtain ⟨rfl, rfl⟩ := Prod.mk.inj (Option.some.inj same)
    exact ⟨rfl, rfl⟩
  put holds put := ⟨holds.1.put put, holds.2.put put⟩
  asked holds ask := ⟨holds.1.asked ask, holds.2.asked holds.1 ask⟩
  returned holds done := ⟨holds.1.returned done, holds.2.returned⟩
  dropped holds _ := ⟨holds.1.dropped,
    holds.2.resumed (fun _ _ same => nomatch same) (fun _ _ => rfl) (fun _ _ => rfl) (by simp) (by simp)⟩
  turned holds aside :=
    ⟨holds.1.aside aside, holds.2.mute ⟨fun _ _ => rfl, fun _ _ => rfl, by simp⟩ (by simp)⟩

/-- What is kept in every run. -/
theorem kept_of_reaches (v : Vacant n) {p : HubPool} (run : hub.Reaches n p) :
    (kept n.handlers n.membership.keys).Holds p :=
  (kept n.handlers n.membership.keys).sound ⟨v.books, apartness_nil⟩ run

/-- A node is sound in every run. -/
theorem sound_of_reaches (v : Vacant n) {p : HubPool} (run : hub.Reaches n p) :
    Sound n.handlers n.membership.keys p.state := by
  obtain ⟨_, _, _, _, books, _⟩ := kept_of_reaches v run
  exact books.sound

/-- **Whoever a hub has let in has a name without a colon**, in every run. -/
theorem plain_of_reaches (v : Vacant n) {p : HubPool} (run : hub.Reaches n p) {r : SessionRef}
    (there : r < p.state.floor.sessions.size) : ':' ∉ (p.state.session r).id.text.toList :=
  (sound_of_reaches v run).plain there

/-! ## Callbacks in order -/

/-- **The callbacks of a session come in order exactly if others do not disturb it**, in every run
from a node on whose floor nobody was yet. -/
theorem orderly_iff_undisturbed (v : Vacant n) {p : HubPool} (run : hub.Reaches n p)
    (r : SessionRef) : Orderly r p.notes ↔ Undisturbed r p.notes := by
  obtain ⟨_, _, _, _, _, apart⟩ := kept_of_reaches v run
  exact apart.orderly r

/-- A node with one path, whose handler notes every callback. -/
def parlour : Node where
  id := ⟨"a"⟩
  handlers := [("/chat", .scripted [])]

theorem parlour_vacant : Vacant parlour := ⟨rfl, rfl, rfl⟩

/-- What is said to a hub whose store holds nothing: every callback ends well, every job in time. -/
def quick : (q : HubAsk) → q.Answer
  | .cluster ask => obliging [] ask
  | .callback .. => .ended .fine
  | .jobs .. => true

/-- Somebody is let in, and the handler is being told. -/
def greeted : HubPool := Pool.call hub (.accept "/chat" {} (.ofCapacity 1)) { state := parlour }

/-- Meanwhile the node shuts down. -/
def interrupted : HubPool := greeted.call hub .shutdown

theorem greeted_reached : hub.Reaches parlour greeted := .call .init ⟨nofun, nofun⟩

theorem interrupted_reached : hub.Reaches parlour interrupted := greeted_reached.call ⟨nofun, nofun⟩

/-- The session is closed while it is being opened. -/
theorem not_orderly_interrupted : ¬ Orderly 0 interrupted.notes := by
  have last : interrupted.notes = interrupted.notes.dropLast ++
      [.asked .shutdown (.callback (.scripted []) parlour.config.handlerTimeout 0 .closed)] := rfl
  rw [last, HubNote.orderly_snoc]
  intro both
  obtain ⟨_, closing, _⟩ := both
  exact absurd (closing rfl) (by decide +kernel)

/-- **Not every run is orderly**: a session can be closed before its opening is over. -/
theorem exists_not_orderly : ∃ p, hub.Reaches parlour p ∧ ¬ Orderly 0 p.notes :=
  ⟨interrupted, interrupted_reached, not_orderly_interrupted⟩

/-- In that run others disturb the session. -/
theorem not_undisturbed_interrupted :
    Vacant parlour ∧ hub.Reaches parlour interrupted ∧ ¬ Undisturbed 0 interrupted.notes :=
  ⟨parlour_vacant, interrupted_reached, fun undisturbed => not_orderly_interrupted
    ((orderly_iff_undisturbed parlour_vacant interrupted_reached 0).mpr undisturbed)⟩

/-! ## The end of everybody -/

/-- Whether a session was taken off the roster and nobody has claimed its end. -/
def Astray (n : Node) (r : SessionRef) : Prop :=
  r ∉ n.floor.registered ∧ (n.session r).finished = false

/-- Whether whoever claimed a session's end still waits, or was dropped while it waited, until the
session's route is deleted, and has not told the handler. -/
def HeldUp (p : HubPool) (r : SessionRef) : Prop :=
  begun .closed r p.notes = 0 ∧
    ∃ f ∈ p.strands ++ p.gone, f.question = routeDeletion p.state.membership.keys p.state r

/-- **A shutdown closes everybody exactly if nobody is astray or held up** when it returns, in every
run from a node on whose floor nobody was yet. -/
theorem closes_all_iff (v : Vacant n) {p : HubPool} (run : hub.Reaches n p) {a : Option SessionRef}
    (done : p.notes.getLast? = some (.returned .shutdown a)) :
    ((∀ r < p.state.floor.sessions.size, begun .closed r p.notes = 1) ∧
        p.state.floor.journal.active = 0) ↔
      ∀ r < p.state.floor.sessions.size, ¬ Astray p.state r ∧ ¬ HeldUp p r := by
  obtain ⟨W, G, waiting, tags, books, _⟩ := kept_of_reaches v run
  constructor
  · intro both r there
    obtain ⟨told, _⟩ := both
    have once := told r there
    constructor
    · intro both
      obtain ⟨_, unclaimed⟩ := both
      have balance := books.closed r
      rw [if_neg (by simp [unclaimed])] at balance
      omega
    · intro both
      obtain ⟨never, _⟩ := both
      omega
  · intro all
    have told : ∀ r < p.state.floor.sessions.size, begun .closed r p.notes = 1 := by
      intro r there
      obtain ⟨claimed, free⟩ := all r there
      have finished : (p.state.session r).finished = true := by
        by_contra unclaimed
        refine claimed ⟨?_, Bool.eq_false_iff.mpr unclaimed⟩
        rw [Floor.registered, books.nobody a done]
        exact List.not_mem_nil
      have balance := books.closed r
      rw [if_pos ⟨there, finished⟩] at balance
      by_contra never
      have owed : 0 < tally (Standing.isDebtor r) (none : Option (HubCall × Standing)) W G := by omega
      obtain ⟨w, hw, owes⟩ := exists_of_tally_pos owed
      refine free ⟨by omega, ?_⟩
      have question := books.debts w hw r (beq_iff_eq.mp owes)
      have shown : w.tag ∈ (p.strands ++ p.gone).map Strand.tag := by
        rw [List.map_append, (kept n.handlers n.membership.keys).tags_eq waiting, tags,
          ← List.map_append]
        exact List.mem_map_of_mem hw
      obtain ⟨f, hf, same⟩ := List.mem_map.mp shown
      exact ⟨f, hf, (congrArg Prod.snd same).trans (by rw [books.sound.keys]; exact question)⟩
    refine ⟨told, ?_⟩
    have nobody : untold p.state p.notes = 0 := by
      refine List.countP_eq_zero.mpr fun r hr => ?_
      rw [told r (List.mem_range.mp hr)]
      nofun
    have balance := books.active
    rw [nobody, books.uncounted] at balance
    exact (Int.add_zero _).symm.trans balance

/-- Somebody has come in, and has room for one frame. -/
def settled : HubPool := greeted.answer quick 0

/-- A frame fills the room. -/
def filled : HubPool := settled.call hub (.broadcast "/chat" "a")

/-- A second frame is sent in vain, and the session is off the roster. -/
def strayed : HubPool := filled.call hub (.broadcast "/chat" "b")

/-- Then the node shuts down. -/
def forsaken : HubPool := strayed.call hub .shutdown

theorem settled_reached : hub.Reaches parlour settled := greeted_reached.answer (fun _ => rfl) 0

theorem filled_reached : hub.Reaches parlour filled := settled_reached.call ⟨nofun, nofun⟩

theorem strayed_reached : hub.Reaches parlour strayed := filled_reached.call ⟨nofun, nofun⟩

theorem forsaken_reached : hub.Reaches parlour forsaken := strayed_reached.call ⟨nofun, nofun⟩

/-- The shutdown returns. -/
theorem forsaken_over : forsaken.notes.getLast? = some (.returned .shutdown none) := rfl

/-- **A shutdown does not close everybody in every run**: who was sent to in vain is forgotten. -/
theorem exists_not_closed : ∃ p, hub.Reaches parlour p ∧
    p.notes.getLast? = some (.returned .shutdown none) ∧ 0 < p.state.floor.sessions.size ∧
      begun .closed 0 p.notes = 0 ∧ p.state.floor.journal.active = 1 :=
  ⟨forsaken, forsaken_reached, forsaken_over, by decide +kernel⟩

/-- In that run somebody is astray or held up. -/
theorem exists_astray_forsaken : Vacant parlour ∧ hub.Reaches parlour forsaken ∧
    forsaken.notes.getLast? = some (.returned .shutdown none) ∧
      ¬ ∀ r < forsaken.state.floor.sessions.size, ¬ Astray forsaken.state r ∧ ¬ HeldUp forsaken r := by
  refine ⟨parlour_vacant, forsaken_reached, forsaken_over, fun nobody => ?_⟩
  have told := ((closes_all_iff parlour_vacant forsaken_reached forsaken_over).mpr nobody).1 0
  exact absurd (told (by decide +kernel)) (by decide +kernel)

end Node

end SessionHub

import SessionHub.Proofs.Cluster.Broadcast
import SessionHub.Proofs.Hub.Changes
import SessionHub.Proofs.Hub.Runs
import SessionHub.Proofs.Program.Run
import SessionHub.Proofs.Registry

/-!
# After the end of a node

Whoever takes a session off the roster closes it: this is how a roster is kept **tidy**, and everything
that a hub does keeps it so. A node that admits nobody any more and has nobody registered is then at
rest for good. Nobody comes to it, whatever is still under way in it, and every session that it ever let
in is closed.

A shutdown returns only when this point is reached. It may have been reached by another shutdown, or by
other programs that tore the last sessions down.
-/

namespace SessionHub

namespace Floor

variable {f f' f'' : Floor}

/-! ## Tidy changes -/

/-- A change that lets nobody in, opens no connection again, and closes whom it takes off the roster. -/
structure Tidy (f f' : Floor) : Prop where
  size : f'.sessions.size = f.sessions.size
  id : ∀ r, (f'.session r).id = (f.session r).id
  roster : f'.roster.Sublist f.roster
  closed : f.Listed → ∀ r, (f.session r).outbox.closed = true → (f'.session r).outbox.closed = true
  left : f.Listed → ∀ r ∈ f.registered, r ∉ f'.registered → (f'.session r).outbox.closed = true

theorem Tidy.refl (f : Floor) : Tidy f f where
  size := rfl
  id _ := rfl
  roster := .refl _
  closed _ _ closed := closed
  left _ _ here gone := absurd here gone

theorem Tidy.of_eq (same : f' = f) : Tidy f f' := same ▸ .refl f

theorem Tidy.listed (tidy : Tidy f f') (h : Listed f) : Listed f' where
  distinct := h.distinct.sublist (tidy.roster.map _)
  named e he := by
    obtain ⟨there, id⟩ := h.named e (tidy.roster.subset he)
    exact ⟨tidy.size ▸ there, (tidy.id e.2).trans id⟩

theorem Tidy.trans (tidy : Tidy f f') (tidy' : Tidy f' f'') : Tidy f f'' where
  size := tidy'.size.trans tidy.size
  id r := (tidy'.id r).trans (tidy.id r)
  roster := tidy'.roster.trans tidy.roster
  closed h r closed := tidy'.closed (tidy.listed h) r (tidy.closed h r closed)
  left h r here gone := by
    by_cases still : r ∈ f'.registered
    · exact tidy'.left (tidy.listed h) r still gone
    · exact tidy'.closed (tidy.listed h) r (tidy.left h r here still)

/-- Most changes leave the sessions and the roster alone. -/
theorem tidy_of_still (still : Still f f') : Tidy f f' := by
  obtain ⟨sessions, roster⟩ := still
  have same : ∀ r, f'.session r = f.session r := fun r => by
    rw [session, sessions]
    rfl
  refine ⟨congrArg Array.size sessions, fun r => by rw [same], roster ▸ .refl _,
    fun _ r was => by rw [same]; exact was, fun _ r here gone => ?_⟩
  rw [registered, roster] at gone
  exact absurd here gone

/-- A session may change in anything but its name, and is not opened again. -/
theorem tidy_modifySession (r : SessionRef) (change : Session → Session) (f : Floor)
    (id : (change (f.session r)).id = (f.session r).id)
    (closed : (f.session r).outbox.closed = true → (change (f.session r)).outbox.closed = true) :
    Tidy f (f.modifySession r change) where
  size := size_modifySession f r change
  id r' := by
    rw [session_modifySession]
    split
    · rename_i here
      rw [← here.1, id]
    · rfl
  roster := .refl _
  closed _ r' was := by
    rw [session_modifySession]
    split
    · rename_i here
      rw [← here.1] at was ⊢
      exact closed was
    · exact was
  left _ _ here gone := absurd here gone

/-- What is handed to some sessions is a tidy change. -/
theorem Aside.tidy_of_handed (aside : Aside f f') {payload : String} {rs : List SessionRef}
    (handed : f.Listed → Handed payload rs f f') : Tidy f f' where
  size := aside.size
  id := aside.id
  roster := aside.roster
  closed h r was := by
    by_cases here : r ∈ rs
    · cases room : (f.session r).hasRoom with
      | true =>
        rw [((handed h).taken r here room).1]
        exact was
      | false => exact ((handed h).lost r here room).2.1
    · rw [((handed h).others r here).1]
      exact was
  left h r was gone := by
    by_cases here : r ∈ rs
    · cases room : (f.session r).hasRoom with
      | true => exact absurd ((handed h).taken r here room).2 gone
      | false => exact ((handed h).lost r here room).2.1
    · exact absurd (((handed h).others r here).2.mpr was) gone

/-- And so is what removes some. -/
theorem Aside.tidy_of_dismissed (aside : Aside f f') {rs : List SessionRef}
    (dismissed : f.Listed → Dismissed rs f f') : Tidy f f' where
  size := aside.size
  id := aside.id
  roster := aside.roster
  closed h r was := by
    by_cases here : r ∈ rs
    · rw [((dismissed h).gone r here).2]
      rfl
    · rw [((dismissed h).others r here).1]
      exact was
  left h r was gone := by
    by_cases here : r ∈ rs
    · rw [((dismissed h).gone r here).2]
      rfl
    · exact absurd (((dismissed h).others r here).2.mpr was) gone

theorem tidy_deliver (path payload : String) (admits : Session → Bool) (f : Floor) :
    Tidy f (f.deliver path payload admits).1 :=
  (aside_deliver ..).tidy_of_handed fun h => handed_deliver_to h path payload admits

theorem tidy_sendTo (path : String) (id : SessionId) (payload : String) (f : Floor) :
    Tidy f (f.sendTo path id payload).2 := by
  cases found : f.get? path id with
  | none =>
    rw [sendTo, found]
    exact .refl f
  | some r => exact (aside_sendTo ..).tidy_of_handed fun h => (handed_sendTo h found payload).2

theorem tidy_sweepIdle (timeout : Nat) (f : Floor) : Tidy f (f.sweepIdle timeout).2 :=
  (aside_sweepIdle ..).tidy_of_dismissed fun h => (h.sweepIdle timeout).2

theorem tidy_remove (path : String) (id : SessionId) (f : Floor) : Tidy f (f.remove path id).2 := by
  cases found : f.get? path id with
  | none =>
    rw [Floor.remove, found]
    exact .refl f
  | some r =>
    have dismissed : f.Listed → Dismissed [r] f (f.remove path id).2 := by
      intro h
      obtain ⟨here, rfl, rfl⟩ := h.get?_eq_some.mp found
      exact h.dismissed here
    exact (aside_remove ..).tidy_of_dismissed dismissed

/-! ## Arrivals -/

/-- Somebody has come: it stands in the next place, on the roster or closed, and everybody else stands
where it stood. -/
structure Arrived (f f' : Floor) : Prop where
  listed : f.Listed → f'.Listed
  size : f'.sessions.size = f.sessions.size + 1
  others : ∀ r < f.sessions.size, f'.session r = f.session r
  stay : ∀ e ∈ f.roster, e ∈ f'.roster
  settled : f.sessions.size ∈ f'.registered ∨ (f'.session f.sessions.size).outbox.closed = true

theorem Arrived.record (arrived : Arrived f f') (change : Journal → Journal) :
    Arrived f (f'.record change) where
  listed h := (arrived.listed h).of_still ⟨rfl, rfl⟩
  size := arrived.size
  others := arrived.others
  stay := arrived.stay
  settled := arrived.settled

section Place

variable {s : Session}

theorem size_place : (f.place s).2.sessions.size = f.sessions.size + 1 := Array.size_push s

theorem Listed.register_place (h : Listed f) :
    Listed ((f.place s).2.register f.sessions.size).2 :=
  (h.place s).register (size_place ▸ Nat.lt_succ_self _)

/-- Who comes under a name that is free is registered. -/
theorem arrived_register (free : (f.place s).2.table ((f.place s).2.session f.sessions.size).id = none) :
    Arrived f ((f.place s).2.register f.sessions.size).2 := by
  have entered := register_of_unknown free
  constructor
  · exact Listed.register_place
  · rw [entered]
    exact size_place
  · rw [entered]
    exact fun _ there => session_place s there
  · rw [entered]
    exact fun e he => List.mem_append_left _ he
  · rw [entered]
    exact .inl (mem_registered.mpr ⟨_, List.mem_append_right _ (List.mem_singleton_self _)⟩)

/-- Who comes under a name that is taken is closed. -/
theorem arrived_refused (taken : (f.place s).2.table ((f.place s).2.session f.sessions.size).id ≠ none) :
    Arrived f (((f.place s).2.register f.sessions.size).2.close f.sessions.size) := by
  obtain ⟨_, sessions, roster⟩ := register_of_known taken
  generalize refused : ((f.place s).2.register f.sessions.size).2 = g at sessions roster ⊢
  have size : g.sessions.size = f.sessions.size + 1 := (congrArg Array.size sessions).trans size_place
  have same : ∀ r, g.session r = (f.place s).2.session r := fun r => by
    rw [session, sessions]
    rfl
  refine ⟨fun h => ?_, ?_, fun r there => ?_, fun e he => roster ▸ he, .inr ?_⟩
  · exact (refused ▸ h.register_place).aside (aside_close ..)
  · exact (size_modifySession ..).trans size
  · have other : ¬ (f.sessions.size = r ∧ f.sessions.size < g.sessions.size) :=
      fun both => Nat.ne_of_lt there both.1.symm
    rw [close, session_modifySession, if_neg other, same]
    exact session_place s there
  · have there : f.sessions.size < g.sessions.size := size ▸ Nat.lt_succ_self _
    rw [close, session_modifySession, if_pos ⟨rfl, there⟩]
    rfl

end Place

end Floor

namespace Node

variable {n n' n'' : Node}

/-- No session of a node is off the roster and open. -/
structure Kempt (n : Node) : Prop where
  listed : n.floor.Listed
  closed : ∀ r < n.floor.sessions.size, r ∉ n.floor.registered → (n.session r).outbox.closed = true

/-- **What every change of a hub keeps**: a node stops for good, admits nobody when it stops, and is
kempt if it was. -/
structure Tidies (n n' : Node) : Prop where
  begun : n.closing.begun = true → n'.closing.begun = true
  kempt : Kempt n → Kempt n'
  nobody : n.closing.begun = true →
    n'.floor.sessions.size = n.floor.sessions.size ∧ n'.floor.roster.Sublist n.floor.roster

theorem Tidies.refl (n : Node) : Tidies n n :=
  ⟨fun stops => stops, fun kempt => kempt, fun _ => ⟨rfl, .refl _⟩⟩

theorem Tidies.trans (h : Tidies n n') (h' : Tidies n' n'') : Tidies n n'' where
  begun stops := h'.begun (h.begun stops)
  kempt kempt := h'.kempt (h.kempt kempt)
  nobody stops := by
    obtain ⟨size, roster⟩ := h.nobody stops
    obtain ⟨size', roster'⟩ := h'.nobody (h.begun stops)
    exact ⟨size'.trans size, roster'.trans roster⟩

/-- A tidy change of the floor. -/
theorem tidies_of_tidy (floor : n.floor.Tidy n'.floor) (begun : n'.closing.begun = n.closing.begun) :
    Tidies n n' where
  begun stops := begun.trans stops
  kempt kempt := by
    refine ⟨floor.listed kempt.listed, fun r there gone => ?_⟩
    rw [floor.size] at there
    by_cases was : r ∈ n.floor.registered
    · exact floor.left kempt.listed r was gone
    · exact floor.closed kempt.listed r (kempt.closed r there was)
  nobody _ := ⟨floor.size, floor.roster⟩

theorem tidies_of_still (still : n.floor.Still n'.floor) (begun : n'.closing.begun = n.closing.begun) :
    Tidies n n' :=
  tidies_of_tidy (Floor.tidy_of_still still) begun

theorem tidies_record (change : Journal → Journal) (n : Node) : Tidies n (n.record change) :=
  tidies_of_still ⟨rfl, rfl⟩ rfl

/-! ## The cluster's side -/

/-- **Whatever a node does in its cluster** is tidy. -/
theorem Tended.tidy (tended : Tended n n') : n.floor.Tidy n'.floor := by
  cases tended with
  | swept change => exact Floor.tidy_of_still change.unaffected.still
  | listening broadcasts control => exact .of_eq (floor_listenTo ..)
  | givenUp sub => exact .refl _
  | refreshing => exact .of_eq (floor_startRefresh n)
  | leaving => exact .of_eq (floor_beginLeave n)
  | published => exact Floor.tidy_of_still ⟨rfl, rfl⟩
  | sent path session payload => exact Floor.tidy_sendTo ..

theorem Tended.tidies (tended : Tended n n') : Tidies n n' :=
  tidies_of_tidy tended.tidy tended.aside.begun

theorem tidy_broadcastHere (path payload : String) (admits : Session → Bool) (n : Node) :
    n.floor.Tidy (n.broadcastHere path payload admits).2.floor := by
  have counted : n.floor.Tidy (n.record (·.count .localBroadcasts)).floor :=
    Floor.tidy_of_still ⟨rfl, rfl⟩
  exact counted.trans (Floor.tidy_deliver path payload admits _)

/-! ## Sessions come and go -/

/-- Who comes to a node is registered or refused, and closed when it is refused. -/
theorem arrived_enrol (path : String) (handshake : Handshake) (outbox : Outbox) (n : Node) :
    n.floor.Arrived (n.enrol path handshake outbox).2.floor := by
  let r := n.floor.sessions.size
  let s := Session.opening (.fresh (n.named + 1)) path n.id handshake outbox n.floor.now
  let placed : Floor := { n.floor with sessions := n.floor.sessions.push s }
  let after := (placed.register r).2
  by_cases free : placed.table (placed.session r).id = none
  · have registered : placed.register r = (.ok (), after) :=
      Prod.ext (congrArg (·.1) (Floor.register_of_unknown free) :) rfl
    have floor : (n.enrol path handshake outbox).2.floor = after.record fun j =>
        (j.count .connectionsOpened).count .connectionsActive := by
      unfold enrol
      dsimp only [Floor.place]
      rw [show Floor.register n.floor.sessions.size placed = _ from registered]
    exact floor ▸ (Floor.arrived_register free).record _
  · have refused : placed.register r = (.error (.duplicate (placed.session r).id), after) :=
      Prod.ext (Floor.register_of_known free).1 rfl
    have floor : (n.enrol path handshake outbox).2.floor
        = (after.close r).record (·.count (.connectionsRejected "registry")) := by
      unfold enrol
      dsimp only [Floor.place]
      rw [show Floor.register n.floor.sessions.size placed = _ from refused]
    exact floor ▸ (Floor.arrived_refused free).record _

/-- Who comes to a node that admits is registered, or closed. -/
theorem tidies_enrol (path : String) (handshake : Handshake) (outbox : Outbox)
    (admits : n.closing.begun = false) : Tidies n (n.enrol path handshake outbox).2 := by
  have runs : n.closing.begun ≠ true := Bool.eq_false_iff.mp admits
  obtain ⟨listed, size, others, stay, settled⟩ := arrived_enrol path handshake outbox n
  refine ⟨fun stops => absurd stops runs, fun kempt => ⟨listed kempt.listed, ?_⟩,
    fun stops => absurd stops runs⟩
  intro r there gone
  rw [size] at there
  rcases Nat.lt_succ_iff_lt_or_eq.mp there with there | rfl
  · rw [show Node.session _ r = _ from others r there]
    refine kempt.closed r there fun here => gone ?_
    obtain ⟨id, entry⟩ := Floor.mem_registered.mp here
    exact Floor.mem_registered.mpr ⟨id, stay _ entry⟩
  · exact settled.resolve_left gone

/-- Whose end is claimed is off the roster and closed. -/
theorem tidies_claim (r : SessionRef) (n : Node) : Tidies n (n.claim r).2 := by
  unfold claim
  dsimp only
  split
  · exact .refl n
  · refine tidies_of_tidy ?_ rfl
    have marked := Floor.tidy_modifySession r (fun s => { s with finished := true }) n.floor rfl
      fun closed => closed
    exact (marked.trans (Floor.tidy_remove ..)).trans
      (Floor.tidy_modifySession r Session.close _ rfl fun _ => rfl)

theorem tidies_began (n : Node) (tracked : List JobRef) :
    Tidies n { n with closing := { begun := true, tracked } } where
  begun _ := rfl
  kempt kempt := ⟨kempt.listed, kempt.closed⟩
  nobody _ := ⟨rfl, .refl _⟩

theorem tidies_dropAll (jobs : List JobRef) (n : Node) :
    Tidies n (jobs.foldl (fun n j => n.drop j) n) :=
  tidies_of_tidy (.of_eq (floor_dropAll jobs n)) (aside_dropAll jobs n).begun

/-- **Whatever a program of a hub changes** is tidy. -/
theorem Worked.tidies (worked : Worked n n') : Tidies n n' := by
  cases worked with
  | tended change => exact change.tidies
  | delivered path payload => exact tidies_of_tidy (tidy_broadcastHere ..) rfl
  | evicted timeout => exact tidies_of_tidy (Floor.tidy_sweepIdle ..) rfl
  | touched r => exact tidies_of_tidy (Floor.tidy_modifySession r _ n.floor rfl fun closed => closed) rfl
  | noted _ | countedBack => exact tidies_record _ n
  | enrolled path handshake outbox admits => exact tidies_enrol path handshake outbox admits
  | claimed r => exact tidies_claim r n
  | started | ticking => exact tidies_of_still ⟨rfl, rfl⟩ rfl
  | began tracked => exact tidies_began n tracked
  | aborted message fields jobs => exact (tidies_record _ n).trans (tidies_dropAll jobs _)

/-! ## The end -/

/-- The conduct of a hub's programs as far as the end of the node is concerned. A program may come to
know that the node has begun to stop, and knows it from then on. -/
def lasting : Conduct Node HubAsk Bool where
  finds knows n := knows = true → n.closing.begun = true
  puts knows n n' knows' := Tidies n n' ∧ (knows = true → knows' = true) ∧
    (knows' = true → n'.closing.begun = true)
  asks knows _ _ knows' := knows' = knows

/-- A program knows no less in the end. -/
theorem lasting_of_worked {α : Type} {p : HubProgram α} (h : p.ChangesBy Worked n) {knows : Bool}
    (known : knows = true → n.closing.begun = true) :
    p.Heeds lasting (fun _ n _ => knows = true → n.closing.begun = true) knows n := by
  induction p generalizing n with
  | done a => exact known
  | look next ih => exact ih n h known
  | put n' next ih =>
    obtain ⟨_, worked, rest⟩ := h
    have known' : knows = true → n'.closing.begun = true := fun k => worked.tidies.begun (known k)
    exact ⟨knows, ⟨worked.tidies, fun k => k, known'⟩, ih rest known'⟩
  | call q resume ih =>
    obtain ⟨_, _, rest⟩ := h
    exact ⟨knows, rfl, fun a n' known' => ih a (rest a n' trivial) known'⟩

/-- Whoever drains a node knows that it has begun to stop. -/
theorem drain_lasting (limit : Nat) (n : Node) :
    (drain limit).Heeds lasting (fun knows n _ => knows = true ∧ n.closing.begun = true) false n := by
  unfold drain
  rw [Program.heeds_get_bind, Program.heeds_modify_bind]
  refine ⟨true, ⟨(Worked.began []).tidies, nofun, fun _ => rfl⟩, ?_⟩
  dsimp only
  split
  · exact ⟨rfl, rfl⟩
  · refine ⟨true, rfl, fun inTime n' begun => ?_⟩
    cases inTime with
    | true => exact ⟨rfl, begun rfl⟩
    | false =>
      have aborted : Tidies n' _ := (Worked.aborted "background tasks did not stop in time, aborting"
        [("timeout", (Span.ofMillis limit).text)] n.closing.tracked).tidies
      exact ⟨true, ⟨aborted, fun _ => rfl, fun _ => aborted.begun (begun rfl)⟩, rfl,
        aborted.begun (begun rfl)⟩

/-- **A shutdown returns only when the node has begun to stop.** -/
theorem shutdown_lasting (n : Node) :
    shutdown.Heeds lasting (fun _ n _ => n.closing.begun = true) false n := by
  unfold shutdown
  rw [Program.heeds_get_bind]
  split
  · rename_i ending
    exact (Bool.and_eq_true_iff.mp ending).1
  · apply (drain_lasting _ n).bind
    intro knows n' _ after
    obtain ⟨rfl, begun⟩ := after
    exact (lasting_of_worked (closeDown_worked n.clustered n') fun _ => begun).mono
      fun _ _ _ known => known rfl

/-- Every program that a hub is called for keeps the node tidy, and a shutdown returns only when the
node has begun to stop. -/
theorem program_lasting (c : HubCall) (n : Node) : (HubCall.program c).Heeds lasting
    (fun _ n _ => c = .shutdown → n.closing.begun = true) false n := by
  by_cases same : c = .shutdown
  · subst same
    exact (shutdown_lasting n).bind fun _ _ _ begun _ => begun
  · have unknown : false = true → n.closing.begun = true := nofun
    exact (lasting_of_worked (program_worked c n) unknown).mono fun _ _ _ _ other => absurd other same

/-! ## Whole runs -/

/-- A hub whose surroundings keep it tidy too: whatever else takes sessions off the roster closes them,
and nothing opens a connection again. -/
def tidyHub : System Node HubAsk HubAsk.Answer (Option SessionRef) HubCall :=
  { hub with turns := fun n n' => Aside n n' ∧ n.floor.Tidy n'.floor }

theorem tidyHub_reaches {p : HubPool} (run : tidyHub.Reaches n p) : hub.Reaches n p :=
  run.of_turns fun _ _ => And.left

/-- What is kept of such a hub: all changes since some state have been tidy, nobody is off the roster and
open, and the node has begun to stop if some program knows it or a shutdown has returned. -/
structure Lasts (base n : Node) (h : List HubNote) (cur : Option (HubCall × Bool))
    (W G : List (Stance HubAsk HubCall Bool)) : Prop where
  since : Tidies base n
  kempt : Kempt n
  known : 0 < tally (fun knows => knows) cur W G → n.closing.begun = true
  ended : ∀ a, .returned .shutdown a ∈ h → n.closing.begun = true

variable {base : Node} {h : List HubNote} {c : HubCall} {knows knows' : Bool}
  {W G : List (Stance HubAsk HubCall Bool)}

/-- A note that says of no shutdown that it returned. -/
theorem Lasts.noted {cur cur' : Option (HubCall × Bool)} {W' G' : List (Stance HubAsk HubCall Bool)}
    (l : Lasts base n h cur W G) {x : HubNote} (other : ∀ a, x ≠ .returned .shutdown a)
    (same : tally (fun knows => knows) cur' W' G' = tally (fun knows => knows) cur W G) :
    Lasts base n (h ++ [x]) cur' W' G' where
  since := l.since
  kempt := l.kempt
  known knows := l.known (same ▸ knows)
  ended a noted := by
    rcases List.mem_append.mp noted with noted | last
    · exact l.ended a noted
    · exact absurd (List.mem_singleton.mp last).symm (other a)

/-- A tidy change. -/
theorem Lasts.changed {cur cur' : Option (HubCall × Bool)} (l : Lasts base n h cur W G)
    (tidies : Tidies n n')
    (known : 0 < tally (fun knows => knows) cur' W G → n'.closing.begun = true) :
    Lasts base n' (h ++ [.changed n n']) cur' W G := by
  refine ⟨l.since.trans tidies, tidies.kempt l.kempt, known, fun a noted => ?_⟩
  rcases List.mem_append.mp noted with noted | last
  · exact tidies.begun (l.ended a noted)
  · nomatch List.mem_singleton.mp last

theorem Lasts.put (l : Lasts base n h (some (c, knows)) W G)
    (put : lasting.puts knows n n' knows') :
    Lasts base n' (h ++ [.changed n n']) (some (c, knows')) W G := by
  obtain ⟨tidies, _, begun⟩ := put
  refine l.changed tidies fun known => ?_
  have before := l.known
  rw [tally_called] at known before
  by_cases others : 0 < tally (fun knows => knows) (none : Option (HubCall × Bool)) W G
  · exact tidies.begun (before (Nat.lt_add_right _ others))
  · refine begun ?_
    by_contra unknown
    rw [if_neg unknown] at known
    exact others known

theorem Lasts.returned (l : Lasts base n h (some (c, knows)) W G) {a : Option SessionRef}
    (ending : c = .shutdown → n.closing.begun = true) :
    Lasts base n (h ++ [.returned c a]) none W G := by
  refine ⟨l.since, l.kempt, fun known => l.known ?_, fun b noted => ?_⟩
  · rw [tally_called]
    exact Nat.lt_add_right _ known
  · rcases List.mem_append.mp noted with noted | last
    · exact l.ended b noted
    · exact ending (Note.returned.inj (List.mem_singleton.mp last)).1.symm

/-- **The discipline of such a hub.** -/
def lasts (base : Node) : Discipline tidyHub Bool where
  toConduct := lasting
  start _ := false
  ending c _ n _ := c = .shutdown → n.closing.begun = true
  holds := Lasts base
  heeds _ _ := program_lasting ..
  called l _ := l.noted nofun (by rw [tally_called]; rfl)
  answered {_ _ _ w _ _ _ _} l served := by
    obtain rfl := served
    refine ⟨fun knows => l.known (tally_pos (w := w) (by simp) knows), l.noted nofun tally_answered⟩
  put l put := l.put put
  asked {_ _ _ _ _ _ _ g'} l ask := by
    obtain rfl := ask
    exact l.noted nofun tally_asked
  returned l ending := l.returned ending
  dropped l _ := l.noted nofun tally_dropped
  turned l turned := by
    have tidies := tidies_of_tidy turned.2 turned.1.begun
    exact l.changed tidies fun known => tidies.begun (l.known known)

/-- A node on whose floor nobody was yet is kempt. -/
theorem Vacant.kempt (v : Vacant n) : Kempt n where
  listed := ⟨by simp [v.roster], by simp [v.roster]⟩
  closed r there := by
    rw [v.sessions] at there
    exact absurd there (Nat.not_lt_zero r)

/-- Who asks to be let in by a node that stops is told so at once. -/
theorem go_accept_of_begun {p : HubPool} (begun : p.state.closing.begun = true) (c : HubCall)
    (path : String) (handshake : Handshake) (outbox : Outbox) :
    p.go c (HubCall.program (.accept path handshake outbox))
      = (p.turn (p.state.record (·.count (.connectionsRejected "shutting_down")))).note
          (.returned c none) := by
  have refused : p.state.refusal? path
      = some (.rejected "node is shutting down", "shutting_down") := if_pos begun
  unfold HubCall.program accept
  dsimp only [bind, Program.bind, Program.get, Pool.go]
  rw [refused]
  rfl

theorem run_accept_of_begun (begun : n.closing.begun = true) (path : String) (handshake : Handshake)
    (outbox : Outbox) {τ : Type} (serve : (q : HubAsk) → τ → q.Answer × τ) (t : τ) :
    (accept path handshake outbox).run serve n t = (.error (.rejected "node is shutting down"),
      n.record (·.count (.connectionsRejected "shutting_down")), t) := by
  have refused : n.refusal? path
      = some (.rejected "node is shutting down", "shutting_down") := if_pos begun
  unfold accept
  rw [Program.run_get_bind, refused]
  rfl

/-- **The state of rest** that a hub has reached by one point of a run, at a later one. -/
structure Rests (p p' : HubPool) : Prop where
  /-- Nobody is registered. -/
  nobody : p'.state.floor.roster = []
  /-- Nobody has come. -/
  size : p'.state.floor.sessions.size = p.state.floor.sessions.size
  /-- Everybody that is on the floor is closed. -/
  closed : ∀ r < p'.state.floor.sessions.size, (p'.state.session r).outbox.closed = true
  /-- Whoever was ever let in is on the floor. -/
  there : ∀ r, (∃ x ∈ p'.notes, HubNote.admits r x = true) → r < p'.state.floor.sessions.size
  /-- Whoever asks to be let in now is refused at once, and neither registered nor placed. -/
  refuses : ∀ path handshake outbox,
    let c := HubCall.accept path handshake outbox
    let q := p'.call tidyHub c
    q.notes.getLast? = some (.returned c none) ∧ q.strands = p'.strands ∧
      q.state.floor.sessions = p'.state.floor.sessions ∧ q.state.floor.roster = []
  /-- And is told why. -/
  reason : ∀ path handshake outbox {τ : Type} (serve : (q : HubAsk) → τ → q.Answer × τ) (t : τ),
    ((accept path handshake outbox).run serve p'.state t).1
      = .error (.rejected "node is shutting down")

/-- When a shutdown has returned, nobody is registered, the node has begun to stop, and the discipline
may be begun again from there. -/
theorem lasts_of_returned (v : Vacant n) {p : HubPool} (run : tidyHub.Reaches n p)
    {a : Option SessionRef} (returned : p.notes.getLast? = some (.returned .shutdown a)) :
    p.state.floor.roster = [] ∧ p.state.closing.begun = true ∧ (lasts p.state).Holds p := by
  obtain ⟨_, _, _, _, books, _⟩ := kept_of_reaches v (tidyHub_reaches run)
  have start : Lasts n n [] none [] [] := ⟨.refl n, v.kempt, nofun, nofun⟩
  obtain ⟨W, G, waiting, tags, l⟩ := (lasts n).sound start run
  have begun := l.ended a (List.mem_of_getLast? returned)
  have anew : Lasts p.state p.state p.notes none W G :=
    ⟨.refl _, l.kempt, fun _ => begun, fun _ _ => begun⟩
  exact ⟨books.nobody a returned, begun, W, G, waiting, tags, anew⟩

/-- **After a shutdown nothing lives**: from the moment that any shutdown returns, in every run from a
node on whose floor nobody was yet, nobody is registered any more, everybody that was ever let in is
closed, and nobody is let in. -/
theorem nothing_lives (v : Vacant n) {p p' : HubPool} (run : tidyHub.Reaches n p)
    {a : Option SessionRef} (returned : p.notes.getLast? = some (.returned .shutdown a))
    (later : Relation.ReflTransGen tidyHub.Step p p') : Rests p p' := by
  have run' : tidyHub.Reaches n p' := by
    induction later with
    | refl => exact run
    | tail _ next ih => exact .step ih next
  obtain ⟨empty, stops, holds⟩ := lasts_of_returned v run returned
  obtain ⟨_, _, _, _, l⟩ := (lasts p.state).holds_later holds later
  obtain ⟨size, roster⟩ := l.since.nobody stops
  have begun := l.since.begun stops
  have nobody : p'.state.floor.roster = [] := by
    rw [empty] at roster
    exact List.sublist_nil.mp roster
  have called : ∀ path handshake outbox, p'.call tidyHub (.accept path handshake outbox) = _ :=
    fun path handshake outbox => go_accept_of_begun (p := p'.note _) begun _ path handshake outbox
  constructor
  · exact nobody
  · exact size
  · intro r there
    refine l.kempt.closed r there ?_
    rw [Floor.registered, nobody]
    exact List.not_mem_nil
  · intro r admitted
    obtain ⟨_, _, _, _, books, _⟩ := kept_of_reaches v (tidyHub_reaches run')
    exact books.there admitted
  · intro path handshake outbox
    dsimp only
    rw [called]
    exact ⟨List.getLast?_concat, rfl, rfl, nobody⟩
  · intro path handshake outbox τ serve t
    rw [run_accept_of_begun begun]

/-- What a node hears from others is tidy. -/
theorem turns_hearBroadcast (m : Message) (n : Node) : tidyHub.turns n (n.hearBroadcast m) := by
  have noted : ∀ {change : Journal → Journal} {n : Node},
      (change n.floor.journal).active = n.floor.journal.active → tidyHub.turns n (n.record change) :=
    fun active => ⟨aside_record active, Floor.tidy_of_still ⟨rfl, rfl⟩⟩
  unfold hearBroadcast
  split
  · exact noted (by simp)
  · rename_i e _
    split
    · unfold receiveEnvelope
      split
      · exact noted (by simp)
      · obtain ⟨counted, tidy⟩ : tidyHub.turns n (n.record (·.count .receivedEnvelopes)) :=
          noted (by simp)
        refine ⟨counted.trans ⟨Floor.aside_deliver .., rfl, rfl, rfl, rfl⟩, tidy.trans ?_⟩
        exact Floor.tidy_deliver e.path e.payload (fun _ => true) _
    · exact noted (by simp)

/-- A second shutdown is called while the first one tells the last session's handler. -/
def hurried : HubPool := interrupted.call hub .shutdown

/-- The node hears something, and somebody asks to be let in. -/
def tardy : HubPool :=
  (hurried.turn (hurried.state.hearBroadcast ⟨"x", "y"⟩)).call hub (.accept "/chat" {} (.ofCapacity 1))

/-- The second shutdown returns at once, with the first one under way, and then all is at rest. -/
theorem hurried_rests : Vacant parlour ∧ tidyHub.Reaches parlour hurried ∧
    hurried.notes.getLast? = some (.returned .shutdown none) ∧
      Relation.ReflTransGen tidyHub.Step hurried tardy ∧ Rests hurried tardy := by
  have reached : tidyHub.Reaches parlour hurried :=
    ((System.Reaches.init.call (X := tidyHub) ⟨nofun, nofun⟩ : tidyHub.Reaches parlour greeted).call
      ⟨nofun, nofun⟩ : tidyHub.Reaches parlour interrupted).call ⟨nofun, nofun⟩
  have later : Relation.ReflTransGen tidyHub.Step hurried tardy :=
    .tail (.single (.turn (turns_hearBroadcast _ _))) (.call ⟨nofun, nofun⟩)
  exact ⟨parlour_vacant, reached, rfl, later, nothing_lives parlour_vacant reached rfl later⟩

end Node

end SessionHub

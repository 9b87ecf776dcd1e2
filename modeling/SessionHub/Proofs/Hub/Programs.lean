import SessionHub.Proofs.Hub.Conduct

/-!
# Every program of a hub keeps to the conduct

Admission, frames, faults, ticks, start and end of a node, one after the other. A program may end
only when it owes nothing, and has told the handler of the session that it let in; and a shutdown
only when nobody is registered any more.
-/

namespace SessionHub.Node

variable {hs : Handlers} {keys : KeyLayout} {g : Standing} {n : Node}

/-! ## Frames -/

theorem message_heeds {r : SessionRef} {text : String} (f : Finds hs keys g n) (free : g.owes = none)
    (reads : g.reads = some r) : (message r text).Heeds (conduct hs keys)
      (fun g' n' _ => g' = g ∧ Finds hs keys g' n') g n := by
  have touched : Aside n { n with floor := n.floor.touch r } :=
    ⟨Floor.aside_touch r n.floor, rfl, rfl, rfl, rfl⟩
  have f' := f.aside touched
  unfold message
  rw [Program.heeds_modify_bind]
  refine ⟨g, f.puts_aside touched, ?_⟩
  rw [Program.heeds_get_bind]
  refine (dispatch_heeds f'.sound.handlers f' (f'.reader r reads) f' free fun h =>
    .message h _ text free reads).discard ?_
  intro g' n' _ after
  obtain ⟨rfl, f⟩ := after
  exact ⟨rfl, f⟩

theorem fault_heeds {r : SessionRef} {fault : SessionFault} (f : Finds hs keys g n)
    (free : g.owes = none) : (Node.fault r fault).Heeds (conduct hs keys)
      (fun g' n' _ => g' = g ∧ Finds hs keys g' n') g n := by
  have noted : Aside n (n.record (·.warn "session fault"
      [("session_id", (n.session r).id.text), ("path", (n.session r).path),
        ("fault", fault.message)])) := aside_record (by simp)
  have f' := f.aside noted
  unfold Node.fault
  rw [Program.heeds_modify_bind]
  refine ⟨g, f.puts_aside noted, ?_⟩
  rw [Program.heeds_get_bind]
  exact (dispatchError_heeds f' free).mono (by rintro _ _ _ ⟨rfl, f⟩; exact ⟨rfl, f⟩)

/-! ## Admission -/

theorem refusal?_eq_none {path : String} (h : n.refusal? path = none) :
    n.closing.begun = false ∧ n.handlers.hasPath path = true := by
  unfold refusal? at h
  split at h
  · nomatch h
  · rename_i running
    split at h
    · rename_i handled
      exact ⟨Bool.eq_false_iff.mpr running, handled⟩
    · nomatch h

theorem tellOpened_heeds {handlers : Handlers} (same : handlers = hs) {limit : Nat}
    {r : SessionRef} (f : Finds hs keys g n) (free : g.owes = none) (hosts : g.hosts = some r)
    (due : g.due = true) :
    (do
      discard (dispatch handlers limit r .opened)
      return .ok r : HubProgram (Except Refusal SessionRef)).Heeds (conduct hs keys)
        (fun g' n' a => (g' = { g with due := false } ∧ Finds hs keys g' n') ∧ a = .ok r) g n := by
  have f' : Finds hs keys { g with due := false } n :=
    ⟨f.sound, f.reader, f.host, f.debt, f.left, f.last⟩
  refine (dispatch_heeds same f (f.host r hosts) f' free fun h =>
    .opened h limit free hosts due).discard_bind ?_
  intro g' n' _ after
  obtain ⟨rfl, f⟩ := after
  exact ⟨⟨rfl, f⟩, rfl⟩

/-- **Who is let in is told to the handler**, after its route was written. -/
theorem accept_heeds {path : String} {handshake : Handshake} {outbox : Outbox}
    (f : Finds hs keys g n) (free : g.owes = none) (alone : g.hosts = none) (undue : g.due = false) :
    (accept path handshake outbox).Heeds (conduct hs keys)
      (fun g' n' a => g' = { g with hosts := a.toOption } ∧ Finds hs keys g' n') g n := by
  have unchanged : g = { g with hosts := none } := by rw [← alone]
  unfold accept
  rw [Program.heeds_get_bind]
  cases refused : n.refusal? path with
  | some refusal =>
    have noted : Aside n (n.record (·.count (.connectionsRejected refusal.2))) :=
      aside_record (by simp)
    rw [Program.heeds_modify_bind]
    exact ⟨g, f.puts_aside noted, unchanged, f.aside noted⟩
  | none =>
    obtain ⟨admits, handled⟩ := refusal?_eq_none refused
    rw [f.sound.handlers] at handled
    obtain ⟨enters, e⟩ := f.sound.enrol path handshake outbox
    have sound := f.sound.enrolled e handled
    have m : Move hs g n _ _ := .enrolled alone admits handled e
    have there : n.floor.sessions.size < (n.enrol path handshake outbox).2.floor.sessions.size := by
      rw [e.size]
      exact Nat.lt_succ_self _
    have f₁ : Finds hs keys { g with hosts := some n.floor.sessions.size, due := true }
        (n.enrol path handshake outbox).2 := by
      have kept := f.onward m.onward sound
      refine ⟨sound, kept.reader, fun r here => ?_, kept.debt, kept.left, kept.last⟩
      obtain rfl := Option.some.inj here
      exact there
    dsimp only
    rw [Program.heeds_update_bind, enters]
    refine ⟨_, ⟨f₁, _, m, rfl⟩, ?_⟩
    rw [Program.heeds_get_bind]
    split
    · refine (asHub_heeds_tended f₁ free (writeRoute_tended ..)).discard_bind ?_
      intro g' n' _ after
      obtain ⟨rfl, f'⟩ := after
      refine (tellOpened_heeds sound.handlers f' free rfl rfl).mono ?_
      intro g' n'' a after
      obtain ⟨⟨rfl, f''⟩, rfl⟩ := after
      refine ⟨?_, f''⟩
      rw [← undue]
      rfl
    · refine (tellOpened_heeds sound.handlers f₁ free rfl rfl).mono ?_
      intro g' n'' a after
      obtain ⟨⟨rfl, f''⟩, rfl⟩ := after
      refine ⟨?_, f''⟩
      rw [← undue]
      rfl

/-! ## Many ends -/

/-- **Tearing down many sessions**, one after the other. If they are the last of the node, nobody is
registered in the end. -/
theorem disconnectAll_heeds {rs : List SessionRef} {last : Bool} (f : Finds hs keys g n)
    (free : g.owes = none) (uncounted : g.counted = false)
    (known : ∀ r ∈ rs, r < n.floor.sessions.size)
    (only : last = true → n.closing.begun = true ∧ ∀ e ∈ n.floor.roster, e.2 ∈ rs) :
    (Program.forEach disconnect rs).Heeds (conduct hs keys) (fun g' n' _ =>
      (∃ left last, g' = { g with left, last }) ∧ Finds hs keys g' n' ∧
        (last = true → n'.floor.roster = [])) g n := by
  induction rs generalizing g n with
  | nil =>
    refine ⟨⟨g.left, g.last, rfl⟩, f, fun here => ?_⟩
    exact List.eq_nil_iff_forall_not_mem.mpr fun e he => nomatch (only here).2 e he
  | cons r rest ih =>
    have only' : last = true → n.closing.begun = true ∧
        ∀ e ∈ n.floor.roster, e.2 = r ∨ e.2 ∈ rest := fun here =>
      ⟨(only here).1, fun e he => List.mem_cons.mp ((only here).2 e he)⟩
    refine (disconnect_heeds f free uncounted (known r List.mem_cons_self)
      (fun r' here => known r' (List.mem_cons_of_mem r here)) only').bind ?_
    intro g' n' _ after
    obtain ⟨rfl, f'⟩ := after
    exact ih f' free uncounted f'.left f'.last

/-! ## Start and end of a node -/

theorem run_heeds (f : Finds hs keys g n) (free : g.owes = none) : Node.run.Heeds (conduct hs keys)
    (fun g' n' _ => g' = g ∧ Finds hs keys g' n') g n := by
  have marked : Aside n { n with started := true } := ⟨.refl _, rfl, rfl, rfl, rfl⟩
  have f' := f.aside marked
  have ticking : ∀ {n' : Node}, Finds hs keys g n' →
      (Program.modify startLiveness : HubProgram Unit).Heeds (conduct hs keys)
        (fun g' n' _ => g' = g ∧ Finds hs keys g' n') g n' := fun f =>
    ⟨g, f.puts_aside (aside_startLiveness _), rfl, f.aside (aside_startLiveness _)⟩
  unfold Node.run
  rw [Program.heeds_get_bind, Program.heeds_modify_bind]
  refine ⟨g, f.puts_aside marked, ?_⟩
  split
  · exact ⟨rfl, f'⟩
  · split
    · apply (asHub_heeds_tended f' free (join_tended _)).bind
      intro g' n' _ after
      obtain ⟨rfl, f''⟩ := after
      exact ticking f''
    · exact ticking f'

/-- After the drain the node admits nobody any more. -/
theorem drain_heeds {limit : Nat} (f : Finds hs keys g n) (free : g.owes = none) :
    (drain limit).Heeds (conduct hs keys) (fun g' n' _ => (∃ left, g' = { g with left, last := true }) ∧
      Finds hs keys g' n') g n := by
  let stopped : Node := { n with closing := { begun := true, tracked := [] } }
  let g₁ : Standing := { g with left := n.floor.roster.map (·.2), last := true }
  have f₁ : Finds hs keys g₁ stopped := by
    refine ⟨(Move.began (g := g) (n := n) []).sound f.sound, f.reader, f.host, f.debt, ?_, ?_⟩
    · intro r here
      obtain ⟨e, he, rfl⟩ := List.mem_map.mp here
      exact (f.sound.listed e he).1
    · exact fun _ => ⟨rfl, fun e he => List.mem_map_of_mem he⟩
  unfold drain
  rw [Program.heeds_get_bind, Program.heeds_modify_bind]
  refine ⟨g₁, ⟨f₁, g, .began [], rfl⟩, ?_⟩
  dsimp only
  split
  · exact ⟨⟨_, rfl⟩, f₁⟩
  · refine ⟨g₁, ⟨f₁, .jobs limit _ free⟩, fun inTime n' f' => ?_⟩
    cases inTime with
    | true => exact ⟨⟨_, rfl⟩, f'⟩
    | false =>
      have aborted : Aside n' (n.closing.tracked.foldl (fun n j => n.drop j)
          (n'.record (·.warn "background tasks did not stop in time, aborting"
            [("timeout", (Span.ofMillis limit).text)]))) :=
        (aside_record (by simp)).trans (aside_dropAll ..)
      exact ⟨g₁, f'.puts_aside aborted, ⟨_, rfl⟩, f'.aside aborted⟩

/-- **A shutdown ends only when nobody is registered any more.** -/
theorem shutdown_heeds (f : Finds hs keys g n) (free : g.owes = none) (uncounted : g.counted = false) :
    shutdown.Heeds (conduct hs keys) (fun g' n' _ => (∃ left last, g' = { g with left, last }) ∧
      Finds hs keys g' n' ∧ n'.floor.roster = []) g n := by
  unfold shutdown
  rw [Program.heeds_get_bind]
  split
  · rename_i ending
    rw [Bool.and_eq_true, List.isEmpty_iff] at ending
    exact ⟨⟨_, _, rfl⟩, f, ending.2⟩
  · apply (drain_heeds f free).bind
    intro g' n' _ after
    obtain ⟨⟨left, rfl⟩, f'⟩ := after
    have ends : ∀ {n'' : Node}, Finds hs keys { g with left, last := true } n'' → (do
        let n ← Program.get
        Program.forEach disconnect n.floor.registered : HubProgram Unit).Heeds (conduct hs keys)
          (fun g' n' _ => (∃ left last, g' = { g with left, last }) ∧ Finds hs keys g' n' ∧
            n'.floor.roster = []) { g with left, last := true } n'' := by
      intro n'' f''
      rw [Program.heeds_get_bind]
      have known : ∀ r ∈ n''.floor.registered, r < n''.floor.sessions.size := by
        intro r here
        obtain ⟨e, he, rfl⟩ := List.mem_map.mp here
        exact (f''.sound.listed e he).1
      have only : true = true → n''.closing.begun = true ∧
          ∀ e ∈ n''.floor.roster, e.2 ∈ n''.floor.registered := fun _ =>
        ⟨(f''.last rfl).1, fun e he => List.mem_map_of_mem he⟩
      refine (disconnectAll_heeds f'' free uncounted known only).mono ?_
      intro g' n' _ after
      obtain ⟨⟨left, last, rfl⟩, f', none⟩ := after
      exact ⟨⟨left, last, rfl⟩, f', none rfl⟩
    split
    · apply (asHub_heeds_tended f' free (leave_tended n')).bind
      intro g' n'' _ after
      obtain ⟨rfl, f''⟩ := after
      exact ends f''
    · exact ends f'

/-! ## Liveness -/

/-- A tick evicts only sessions of the floor. -/
theorem tick_heeds {timeout : Nat} (f : Finds hs keys g n) (free : g.owes = none) :
    (asHub (tick timeout)).Heeds (conduct hs keys) (fun g' n' report => g' = g ∧
      Finds hs keys g n' ∧ ∀ r ∈ report.evicted, r < n'.floor.sessions.size) g n := by
  have evict : ∀ (report : Tick) {n' : Node}, Finds hs keys g n' → (asHub (do
      let evicted ← Program.update (onFloor (Floor.sweepIdle timeout))
      return { report with evicted })).Heeds (conduct hs keys) (fun g' n' report => g' = g ∧
        Finds hs keys g n' ∧ ∀ r ∈ report.evicted, r < n'.floor.sessions.size) g n' := by
    intro report n' f'
    have swept : Aside n' (onFloor (Floor.sweepIdle timeout) n').2 :=
      ⟨Floor.aside_sweepIdle timeout n'.floor, rfl, rfl, rfl, rfl⟩
    refine ⟨g, f'.puts_aside swept, rfl, f'.aside swept, fun r here => ?_⟩
    obtain ⟨e, he, rfl⟩ := Floor.mem_of_mem_removeAll
      (fun _ => Floor.aside_record (by simp)) _ n'.floor here
    rw [swept.floor.size]
    exact (f'.sound.listed e he).1
  show Program.Heeds _ _ (asHub (tick timeout)) g n
  unfold tick
  rw [asHub_bind]
  show Program.Heeds _ _ (asHub (if n.inCluster then _ else _)) g n
  split
  · rw [asHub_bind]
    apply (asHub_heeds_tended f free (heartbeat_tended n)).bind
    intro g' n' written after
    obtain ⟨rfl, f'⟩ := after
    rw [asHub_bind]
    apply (asHub_heeds_tended f' free (sweep_tended n')).bind
    intro g' n' dead after
    obtain ⟨rfl, f'⟩ := after
    exact evict _ f'
  · exact evict _ f

/-- **A round of the liveness job** leaves nothing owed. -/
theorem livenessRound_heeds (f : Finds hs keys g n) (free : g.owes = none)
    (uncounted : g.counted = false) : livenessRound.Heeds (conduct hs keys)
      (fun g' n' _ => (∃ left last, g' = { g with left, last }) ∧ Finds hs keys g' n') g n := by
  unfold livenessRound
  rw [Program.heeds_get_bind]
  apply (tick_heeds f free).bind
  intro g' n' report after
  obtain ⟨rfl, f', known⟩ := after
  have only : false = true → n'.closing.begun = true ∧ ∀ e ∈ n'.floor.roster, e.2 ∈ report.evicted :=
    nofun
  refine (disconnectAll_heeds f' free uncounted known only).mono ?_
  intro g' n' _ after
  obtain ⟨there, f', _⟩ := after
  exact ⟨there, f'⟩

end SessionHub.Node

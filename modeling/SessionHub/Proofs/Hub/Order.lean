import SessionHub.Proofs.Hub.Books

/-!
# The order of a session's callbacks

Of the callbacks of one session those that open it, carry its messages and close it should come in
this order: the session is closed only after it was opened, it is neither opened nor told a message
once it is being closed, and no two of these callbacks are in progress at once. A run in which this
holds of a session is **orderly** for it.

Not every run is. A reader waits for the session to be let in, for each of its own calls, and it
hangs up last, so that what the reader does is always in order; but whoever else ends a session waits
for nobody. So a run is orderly exactly if it is **undisturbed**: when someone other than the reader
closes the session, its opening is over, no message is in progress, and none follows.
-/

namespace SessionHub

/-- Whether a callback of a session is in progress. -/
def InProgress (e : Event) (r : SessionRef) (h : List HubNote) : Prop := ended e r h < begun e r h

/-- **The promised order** of a session's callbacks. -/
def Orderly (r : SessionRef) : List HubNote → Prop :=
  Always fun past x =>
    (x.begins .closed r = true → 0 < ended .opened r past) ∧
    (x.begins .opened r = true ∨ x.begins .message r = true → begun .closed r past = 0) ∧
    ∀ e e', e ≠ .error → e' ≠ .error → x.begins e r = true → ¬ InProgress e' r past

/-- Whether a note says that someone other than its reader closes a session. -/
def HubNote.shuts (r : SessionRef) : HubNote → Bool
  | .asked c q => c != .hangUp r && q.tells .closed r
  | _ => false

/-- Whether nobody but its reader closes a session before its opening is over, while a message is in
progress, or ahead of another one. -/
def Undisturbed (r : SessionRef) (h : List HubNote) : Prop :=
  ∀ pre x post, h = pre ++ x :: post → x.shuts r = true →
    0 < ended .opened r pre ∧ ¬ InProgress .message r pre ∧ begun .message r post = 0

namespace HubNote

variable {h : List HubNote} {x : HubNote} {e : Event} {r : SessionRef}

theorem ended_snoc : ended e r (h ++ [x]) = ended e r h + if ends e r x then 1 else 0 := by
  rw [ended, List.countP_append, List.countP_singleton]
  rfl

theorem orderly_snoc : Orderly r (h ++ [x]) ↔ Orderly r h ∧
    (x.begins .closed r = true → 0 < ended .opened r h) ∧
    (x.begins .opened r = true ∨ x.begins .message r = true → begun .closed r h = 0) ∧
    ∀ e e', e ≠ .error → e' ≠ .error → x.begins e r = true → ¬ InProgress e' r h :=
  always_snoc

/-- A callback that was begun is found in the notes. -/
theorem begun_pos : 0 < begun e r h ↔ ∃ x ∈ h, x.begins e r = true := List.countP_pos_iff

theorem undisturbed_snoc : Undisturbed r (h ++ [x]) ↔ Undisturbed r h ∧
    (x.shuts r = true → 0 < ended .opened r h ∧ ¬ InProgress .message r h) ∧
    (x.begins .message r = true → ∀ y ∈ h, y.shuts r = false) := by
  constructor
  · intro all
    refine ⟨fun pre y post split shuts => ?_, fun shuts => ?_, fun speaks y hy => ?_⟩
    · obtain ⟨done, calm, none⟩ := all pre y (post ++ [x]) (by simp [split]) shuts
      refine ⟨done, calm, ?_⟩
      rw [begun_snoc] at none
      omega
    · obtain ⟨done, calm, _⟩ := all h x [] rfl shuts
      exact ⟨done, calm⟩
    · by_contra shuts
      obtain ⟨pre, post, rfl⟩ := List.append_of_mem hy
      obtain ⟨_, _, none⟩ := all pre y (post ++ [x]) (by simp) (by simpa using shuts)
      rw [begun_snoc, speaks, if_pos rfl] at none
      omega
  · intro both pre y post split shuts
    obtain ⟨former, now, none⟩ := both
    rcases snoc_eq_append_cons split with ⟨rfl, rfl, rfl⟩ | ⟨post', rfl, rfl⟩
    · obtain ⟨done, calm⟩ := now shuts
      exact ⟨done, calm, rfl⟩
    · obtain ⟨done, calm, rest⟩ := former pre y post' rfl shuts
      refine ⟨done, calm, ?_⟩
      rw [begun_snoc, rest, if_neg]
      intro speaks
      have := none speaks y (by simp)
      rw [shuts] at this
      nomatch this

/-- A note that no callback begins or ends with, and that nobody is called with. -/
structure Mute (x : HubNote) : Prop where
  begins : ∀ e r, begins e r x = false
  ends : ∀ e r, ends e r x = false
  called : ∀ c, x ≠ .called c

end HubNote

namespace Standing

/-- Whether a program serves a session's reader. -/
def isReader (r : SessionRef) (g : Standing) : Bool := g.reads == some r

end Standing

namespace Node

/-- **What keeps callbacks apart**: a session's reader makes one call at a time, none before the
session was let in, and none after it has hung up; only the host of a session opens it, and only its
reader tells its messages. -/
structure Apartness (h : List HubNote) (cur : Option (HubCall × Standing)) (W : List HubStance) :
    Prop where
  reads : ∀ w ∈ W, w.standing.reads = w.call.speaker?
  reading : ∀ c g, cur = some (c, g) → g.reads = c.speaker?
  alone : ∀ r, tally (Standing.isReader r) cur W [] ≤ 1
  admitted : ∀ r, 0 < tally (Standing.isReader r) cur W [] → 0 < h.countP (HubNote.admits r)
  hungUp : ∀ r, .called (.hangUp r) ∈ h → 0 < h.countP (HubNote.admits r) ∧
    tally (Standing.isReader r) cur W [] = 0
  running : ∀ c g, cur = some (c, g) → .called c ∈ h
  waiting : ∀ w ∈ W, .called w.call ∈ h
  asking : ∀ c q, .asked c q ∈ h → .called c ∈ h
  opens : ∀ w ∈ W, ∀ r, w.question.tells .opened r = true → w.standing.hosts = some r
  speaks : ∀ w ∈ W, ∀ r, w.question.tells .message r = true → w.standing.reads = some r
  balance : ∀ e r, begun e r h = ended e r h + W.countP fun w => w.question.tells e r
  orderly : ∀ r, Orderly r h ↔ Undisturbed r h

variable {hs : Handlers} {keys : KeyLayout} {n n' : Node} {h : List HubNote} {c : HubCall}
  {g g' : Standing} {W G l₁ l₂ : List HubStance} {w : HubStance} {r : SessionRef} {x : HubNote}

/-- Where none of the callbacks that are ordered begins, the order is as it was. -/
theorem orderly_iff_of_quiet (quiet : ∀ e, e ≠ .error → x.begins e r = false)
    (same : Orderly r h ↔ Undisturbed r h) : Orderly r (h ++ [x]) ↔ Undisturbed r (h ++ [x]) := by
  have unshut : x.shuts r = false := by
    have closed := quiet .closed nofun
    cases x with
    | asked c q => exact Bool.and_eq_false_imp.mpr fun _ => closed
    | _ => rfl
  have opened := quiet .opened nofun
  have message := quiet .message nofun
  have closed := quiet .closed nofun
  rw [HubNote.orderly_snoc, HubNote.undisturbed_snoc, same, opened, message, closed, unshut]
  refine and_congr_right fun _ => ⟨fun _ => ⟨nofun, nofun⟩, fun _ => ⟨nofun, by simp, ?_⟩⟩
  intro e e' known _ begins
  rw [quiet e known] at begins
  nomatch begins

/-- Who was let in stays so. -/
theorem admitted_snoc (admitted : 0 < h.countP (HubNote.admits r)) :
    0 < (h ++ [x]).countP (HubNote.admits r) := by
  rw [HubNote.admits_snoc]
  exact Nat.lt_of_lt_of_le admitted (Nat.le_add_right ..)

/-- A note with which no callback begins or ends, of whatever is done. -/
theorem Apartness.mute {cur : Option (HubCall × Standing)} (a : Apartness h cur W) (mute : x.Mute)
    (open' : ∀ c q, x ≠ .asked c q) : Apartness (h ++ [x]) cur W where
  reads := a.reads
  reading := a.reading
  alone := a.alone
  admitted r some' := admitted_snoc (a.admitted r some')
  hungUp r called := by
    cases List.mem_append.mp called with
    | inl called => exact (a.hungUp r called).imp_left admitted_snoc
    | inr called => exact absurd (List.mem_singleton.mp called).symm (mute.called _)
  running c g cur := List.mem_append_left _ (a.running c g cur)
  waiting w hw := List.mem_append_left _ (a.waiting w hw)
  asking c q asked := by
    cases List.mem_append.mp asked with
    | inl asked => exact List.mem_append_left _ (a.asking c q asked)
    | inr asked => exact absurd (List.mem_singleton.mp asked).symm (open' c q)
  opens := a.opens
  speaks := a.speaks
  balance e r := by
    rw [HubNote.begun_snoc, HubNote.ended_snoc, mute.begins, mute.ends]
    exact a.balance e r
  orderly r := orderly_iff_of_quiet (fun e _ => mute.begins e r) (a.orderly r)

/-- **A reader makes one call at a time**, and none after the last, and so the hub admits it. -/
theorem Apartness.called (a : Apartness h none W) (admits : hub.admits c n h (W.map Stance.tag)) :
    Apartness (h ++ [.called c]) (some (c, .ofCall c)) W := by
  have unread : ∀ r, c.reader? = some r → tally (Standing.isReader r) none W [] = 0 := by
    intro r reads
    have others := (admits.1 r reads).2.1
    unfold tally
    simp only [Option.toList_none, List.countP_nil, Nat.zero_add, Nat.add_zero]
    refine List.countP_eq_zero.mpr fun w hw => ?_
    rw [Standing.isReader, a.reads w hw, beq_iff_eq]
    intro speaks
    refine others w.tag (List.mem_map_of_mem hw) ?_
    show w.call.reader? = some r
    cases called : w.call <;> rw [called] at speaks <;> first | exact speaks | nomatch speaks
  have reader : ∀ r, Standing.isReader r (.ofCall c) = true → c.reader? = some r := by
    intro r speaks
    rw [Standing.isReader, Standing.ofCall, beq_iff_eq] at speaks
    cases c <;> first | exact speaks | nomatch speaks
  have quiet : ∀ e r, HubNote.begins e r (.called c) = false := fun _ _ => rfl
  constructor
  · exact a.reads
  · intro _ _ same
    obtain ⟨rfl, rfl⟩ := Prod.mk.inj (Option.some.inj same)
    rfl
  · intro r
    rw [tally_called]
    split
    · rename_i speaks
      exact Nat.le_of_eq (congrArg (· + 1) (unread r (reader r speaks)))
    · exact a.alone r
  · intro r
    rw [tally_called]
    split
    · rename_i speaks
      exact fun _ => admitted_snoc (List.countP_pos_iff.mpr (admits.1 r (reader r speaks)).1)
    · exact fun some' => admitted_snoc (a.admitted r some')
  · intro r called
    rw [tally_called]
    cases List.mem_append.mp called with
    | inl called =>
      obtain ⟨admitted, unread⟩ := a.hungUp r called
      refine ⟨admitted_snoc admitted, ?_⟩
      rw [unread, if_neg fun speaks => (admits.1 r (reader r speaks)).2.2 called]
    | inr called =>
      obtain rfl := Note.called.inj (List.mem_singleton.mp called)
      refine ⟨admitted_snoc (List.countP_pos_iff.mpr (admits.1 r rfl).1), ?_⟩
      rw [unread r rfl]
      rfl
  · intro _ _ same
    obtain ⟨rfl, rfl⟩ := Prod.mk.inj (Option.some.inj same)
    simp
  · exact fun w hw => List.mem_append_left _ (a.waiting w hw)
  · intro c' q asked
    have asked : .asked c' q ∈ h := by simpa using asked
    exact List.mem_append_left _ (a.asking c' q asked)
  · exact a.opens
  · exact a.speaks
  · intro e r
    rw [HubNote.begun_snoc, HubNote.ended_snoc]
    exact a.balance e r
  · exact fun r => orderly_iff_of_quiet (fun e _ => quiet e r) (a.orderly r)

/-- A strand that goes on or is dropped ends the callback that it waited for. -/
theorem Apartness.resumed {cur : Option (HubCall × Standing)} (a : Apartness h none (l₁ ++ w :: l₂))
    (goes : ∀ c g, cur = some (c, g) → c = w.call ∧ g = w.standing)
    (ends : ∀ e r, x.ends e r = w.question.tells e r) (quiet : ∀ e r, x.begins e r = false)
    (open' : ∀ c q, x ≠ .asked c q) (uncalled : ∀ c, x ≠ .called c) :
    Apartness (h ++ [x]) cur (l₁ ++ l₂) := by
  have sub := ((List.sublist_cons_self w l₂).append_left l₁).subset
  have fewer : ∀ r, tally (Standing.isReader r) cur (l₁ ++ l₂) []
      ≤ tally (Standing.isReader r) none (l₁ ++ w :: l₂) [] := by
    intro r
    rw [← tally_answered]
    cases cur with
    | none => exact Nat.add_le_add_right (Nat.zero_le _) _
    | some now =>
      obtain ⟨c, g⟩ := now
      obtain ⟨rfl, rfl⟩ := goes c g rfl
      exact Nat.le_refl _
  constructor
  · exact fun w' hw => a.reads w' (sub hw)
  · intro c g same
    obtain ⟨rfl, rfl⟩ := goes c g same
    exact a.reads w (by simp)
  · exact fun r => Nat.le_trans (fewer r) (a.alone r)
  · exact fun r some' => admitted_snoc (a.admitted r (Nat.lt_of_lt_of_le some' (fewer r)))
  · intro r called
    cases List.mem_append.mp called with
    | inl called =>
      obtain ⟨admitted, unread⟩ := a.hungUp r called
      exact ⟨admitted_snoc admitted, Nat.le_zero.mp (Nat.le_trans (fewer r) (Nat.le_of_eq unread))⟩
    | inr called => exact absurd (List.mem_singleton.mp called).symm (uncalled _)
  · intro c g same
    obtain ⟨rfl, rfl⟩ := goes c g same
    exact List.mem_append_left _ (a.waiting w (by simp))
  · exact fun w' hw => List.mem_append_left _ (a.waiting w' (sub hw))
  · intro c q asked
    cases List.mem_append.mp asked with
    | inl asked => exact List.mem_append_left _ (a.asking c q asked)
    | inr asked => exact absurd (List.mem_singleton.mp asked).symm (open' c q)
  · exact fun w' hw => a.opens w' (sub hw)
  · exact fun w' hw => a.speaks w' (sub hw)
  · intro e r
    have before := a.balance e r
    rw [HubNote.begun_snoc, HubNote.ended_snoc, quiet, ends]
    simp only [List.countP_append, List.countP_cons] at before ⊢
    simp only [Bool.false_eq_true, if_false]
    omega
  · exact fun r => orderly_iff_of_quiet (fun e _ => quiet e r) (a.orderly r)

/-- Where a program goes over to, it serves the same reader. -/
theorem Apartness.moved (a : Apartness h (some (c, g)) W) (same : g'.reads = g.reads)
    (mute : x.Mute) (open' : ∀ c q, x ≠ .asked c q) : Apartness (h ++ [x]) (some (c, g')) W := by
  have a' := a.mute mute open'
  have tallies : ∀ r, tally (Standing.isReader r) (some (c, g')) W []
      = tally (Standing.isReader r) (some (c, g)) W [] := by
    intro r
    rw [tally_called, tally_called, Standing.isReader, Standing.isReader, same]
  refine { a' with reading := ?_, alone := ?_, admitted := ?_, hungUp := ?_, running := ?_ }
  · intro _ _ same'
    obtain ⟨rfl, rfl⟩ := Prod.mk.inj (Option.some.inj same')
    exact same.trans (a.reading c g rfl)
  · intro r
    rw [tallies]
    exact a.alone r
  · intro r
    rw [tallies]
    exact a'.admitted r
  · intro r
    rw [tallies]
    exact a'.hungUp r
  · intro _ _ same'
    obtain ⟨rfl, rfl⟩ := Prod.mk.inj (Option.some.inj same')
    exact a'.running c g rfl

theorem Apartness.put (a : Apartness h (some (c, g)) W) (put : (conduct hs keys).puts g n n' g') :
    Apartness (h ++ [.changed n n']) (some (c, g')) W := by
  obtain ⟨_, g₁, m, same⟩ := put
  refine a.moved ?_ ⟨fun _ _ => rfl, fun _ _ => rfl, by simp⟩ (by simp)
  rw [same]
  cases m <;> rfl

theorem Apartness.returned (a : Apartness h (some (c, g)) W) {b : Option SessionRef} :
    Apartness (h ++ [.returned c b]) none W := by
  have a' := a.mute (x := .returned c b) ⟨fun _ _ => rfl, fun _ _ => rfl, by simp⟩ (by simp)
  have fewer : ∀ r, tally (Standing.isReader r) none W []
      ≤ tally (Standing.isReader r) (some (c, g)) W [] := by
    intro r
    rw [tally_called]
    exact Nat.le_add_right ..
  exact {
    a' with
    reading := fun _ _ same => nomatch same
    alone := fun r => Nat.le_trans (fewer r) (a.alone r)
    admitted := fun r some' => a'.admitted r (Nat.lt_of_lt_of_le some' (fewer r))
    hungUp := fun r called => (a'.hungUp r called).imp_right fun unread =>
      Nat.le_zero.mp (Nat.le_trans (fewer r) (Nat.le_of_eq unread))
    running := fun _ _ same => nomatch same }

/-! ## What is apart when a callback begins -/

/-- A callback in progress is what some program waits for. -/
theorem Apartness.waits {cur : Option (HubCall × Standing)} (a : Apartness h cur W) {e : Event}
    (progress : InProgress e r h) : ∃ w ∈ W, w.question.tells e r = true := by
  have balance := a.balance e r
  unfold InProgress at progress
  have some' : 0 < W.countP fun w => w.question.tells e r := by omega
  exact List.countP_pos_iff.mp some'

/-- What was never begun is not in progress. -/
theorem not_inProgress {e : Event} (never : begun e r h = 0) : ¬ InProgress e r h := by
  rw [InProgress, never]
  exact Nat.not_lt_zero _

/-- Who was let in has no host any more. -/
theorem Books.unhosted {cur : Option (HubCall × Standing)} (b : Books hs keys n h cur W G)
    (admitted : 0 < h.countP (HubNote.admits r)) : tally (Standing.isHost r) cur W G = 0 := by
  have balance := b.hosted r
  split at balance <;> omega

/-- A session that was closed was shut by others, or its reader has hung up. -/
theorem Apartness.shut_or_hungUp {cur : Option (HubCall × Standing)} (a : Apartness h cur W)
    (closed : begun .closed r h ≠ 0) :
    (∃ y ∈ h, y.shuts r = true) ∨ .called (.hangUp r) ∈ h := by
  obtain ⟨y, hy, closes⟩ := HubNote.begun_pos.mp (Nat.pos_of_ne_zero closed)
  cases y with
  | asked c q =>
    by_cases own : c = .hangUp r
    · exact .inr (own ▸ a.asking c q hy)
    · exact .inl ⟨_, hy, by rw [HubNote.shuts, bne_iff_ne.mpr own]; exact closes⟩
  | _ => nomatch closes

/-- **When a session is opened, nothing else is in progress**, unless others have shut it already. -/
theorem opening_apart (b : Books hs keys n h (some (c, g)) W G) (a : Apartness h (some (c, g)) W)
    (host : g.hosts = some r) (due : g.due = true) (undisturbed : Undisturbed r h) :
    begun .closed r h = 0 ∧ ∀ e, e ≠ .error → ¬ InProgress e r h := by
  have hosting : 0 < tally (Standing.isHost r) (some (c, g)) W G := by
    rw [tally_called, if_pos (by simp [Standing.isHost, host])]
    exact Nat.succ_pos _
  have outside : h.countP (HubNote.admits r) = 0 := by
    by_contra admitted
    have := b.unhosted (Nat.pos_of_ne_zero admitted)
    omega
  have unopened : begun .opened r h = 0 := by
    have balance := b.opened r
    rw [tally_called, if_pos (by simp [Standing.isDue, host, due])] at balance
    split at balance <;> omega
  have unclosed : begun .closed r h = 0 := by
    by_contra closed
    rcases a.shut_or_hungUp closed with ⟨y, hy, shuts⟩ | called
    · obtain ⟨pre, post, rfl⟩ := List.append_of_mem hy
      obtain ⟨done, _, _⟩ := undisturbed pre y post rfl shuts
      have balance := a.balance .opened r
      rw [ended, List.countP_append] at balance
      unfold ended at done
      omega
    · have := (a.hungUp r called).1
      omega
  refine ⟨unclosed, fun e known progress => ?_⟩
  cases e with
  | opened => exact not_inProgress unopened progress
  | closed => exact not_inProgress unclosed progress
  | error => exact known rfl
  | message =>
    obtain ⟨w, hw, tells⟩ := a.waits progress
    have read : 0 < tally (Standing.isReader r) (some (c, g)) W [] :=
      tally_pos (List.mem_append_left [] hw) (by simp [Standing.isReader, a.speaks w hw r tells])
    have := a.admitted r read
    omega

/-- **When a message is told, nothing else is in progress**, unless others have shut the session
already. -/
theorem message_apart (b : Books hs keys n h (some (c, g)) W G) (a : Apartness h (some (c, g)) W)
    (reads : g.reads = some r) (unshut : ∀ y ∈ h, y.shuts r = false) :
    begun .closed r h = 0 ∧ ∀ e, e ≠ .error → ¬ InProgress e r h := by
  have alone := a.alone r
  have reading : 0 < tally (Standing.isReader r) (some (c, g)) W [] := by
    rw [tally_called, if_pos (by simp [Standing.isReader, reads])]
    exact Nat.succ_pos _
  rw [tally_called, if_pos (by simp [Standing.isReader, reads])] at alone
  have unhosted := b.unhosted (a.admitted r reading)
  have unclosed : begun .closed r h = 0 := by
    by_contra closed
    rcases a.shut_or_hungUp closed with ⟨y, hy, shuts⟩ | called
    · rw [unshut y hy] at shuts
      nomatch shuts
    · have := (a.hungUp r called).2
      omega
  refine ⟨unclosed, fun e known progress => ?_⟩
  obtain ⟨w, hw, tells⟩ := a.waits progress
  cases e with
  | closed => exact not_inProgress unclosed progress
  | error => exact known rfl
  | opened =>
    have hosting : 0 < tally (Standing.isHost r) (some (c, g)) W G :=
      tally_pos (List.mem_append_left G hw) (by simp [Standing.isHost, a.opens w hw r tells])
    omega
  | message =>
    have other : 0 < tally (Standing.isReader r) (none : Option (HubCall × Standing)) W [] :=
      tally_pos (List.mem_append_left [] hw) (by simp [Standing.isReader, a.speaks w hw r tells])
    omega

/-- **When a reader has hung up, its session's opening is over**, and no message is in progress. -/
theorem hungUp_apart {cur : Option (HubCall × Standing)} (b : Books hs keys n h cur W G)
    (a : Apartness h cur W) (called : .called (.hangUp r) ∈ h) :
    0 < ended .opened r h ∧ ¬ InProgress .message r h := by
  obtain ⟨admitted, unread⟩ := a.hungUp r called
  have unhosted := b.unhosted admitted
  constructor
  · have told : tally (Standing.isDue r) cur W G = 0 := by
      refine Nat.le_zero.mp (Nat.le_trans (tally_mono fun g due => ?_) (Nat.le_of_eq unhosted))
      exact (Bool.and_eq_true_iff.mp due).1
    have balance := (b.opened r).trans (b.hosted r).symm
    by_contra never
    have progress : InProgress .opened r h := by
      unfold InProgress
      omega
    obtain ⟨w, hw, tells⟩ := a.waits progress
    have hosting : 0 < tally (Standing.isHost r) cur W G :=
      tally_pos (List.mem_append_left G hw) (by simp [Standing.isHost, a.opens w hw r tells])
    omega
  · intro progress
    obtain ⟨w, hw, tells⟩ := a.waits progress
    have reading : 0 < tally (Standing.isReader r) cur W [] :=
      tally_pos (List.mem_append_left [] hw) (by simp [Standing.isReader, a.speaks w hw r tells])
    omega

/-- **When a session is closed** after its opening is over, neither is in progress. -/
theorem closing_apart (b : Books hs keys n h (some (c, g)) W G) (owes : g.owes = some r)
    (done : 0 < ended .opened r h) : ¬ InProgress .opened r h ∧ ¬ InProgress .closed r h := by
  constructor
  · have balance := b.opened r
    unfold InProgress
    split at balance <;> omega
  · have balance := b.closed r
    rw [tally_called, if_pos (by simp [Standing.isDebtor, owes])] at balance
    refine not_inProgress ?_
    split at balance <;> omega

/-- With which callback of a session a question begins. -/
theorem HubNote.begins_callback {handler : Handler} {limit : Nat} {o : Occasion} {e : Event}
    {r r' : SessionRef} : HubNote.begins e r (.asked c (.callback handler limit r' o))
      = (r' == r && o.event == e) := rfl

/-- **The order is kept from one question to the next** exactly if others do not disturb it. -/
theorem orderly_asked (b : Books hs keys n h (some (c, g)) W G) (a : Apartness h (some (c, g)) W)
    {q : HubAsk} (question : Question keys g n q g') (r : SessionRef) :
    Orderly r (h ++ [.asked c q]) ↔ Undisturbed r (h ++ [.asked c q]) := by
  -- Only a callback of this session can upset its order.
  by_cases quiet : ∀ e, e ≠ .error → HubNote.begins e r (.asked c q) = false
  · exact orderly_iff_of_quiet quiet (a.orderly r)
  rw [HubNote.orderly_snoc, HubNote.undisturbed_snoc, a.orderly r, HubNote.shuts]
  cases question with
  | cluster | jobs | forget => exact absurd (fun _ _ => rfl) quiet
  | error => simp [HubNote.begins_callback, Occasion.event] at quiet
  | @opened r' handler limit free hosts due =>
    obtain rfl : r' = r := by
      by_contra other
      simp [HubNote.begins_callback, other] at quiet
    simp only [HubNote.begins_callback, HubAsk.tells, Occasion.event, BEq.rfl, Bool.true_and]
    constructor
    · exact fun both => ⟨both.1, by simp, by simp⟩
    · intro both
      obtain ⟨calm, _, _⟩ := both
      obtain ⟨unclosed, apart⟩ := opening_apart b a hosts due calm
      exact ⟨calm, by simp, fun _ => unclosed, fun _ e' _ known _ => apart e' known⟩
  | @message r' handler limit text free reads =>
    obtain rfl : r' = r := by
      by_contra other
      simp [HubNote.begins_callback, other] at quiet
    simp only [HubNote.begins_callback, HubAsk.tells, Occasion.event, BEq.rfl, Bool.true_and]
    constructor
    · intro both
      obtain ⟨calm, _, unclosed, _⟩ := both
      refine ⟨calm, by simp, fun _ y hy => ?_⟩
      by_contra shuts
      have closed : 0 < begun .closed r' h := HubNote.begun_pos.mpr ⟨y, hy, by
        cases y <;> simp_all [HubNote.shuts, HubNote.begins]⟩
      have := unclosed (.inr trivial)
      omega
    · intro both
      obtain ⟨calm, _, unshut⟩ := both
      obtain ⟨unclosed, apart⟩ := message_apart b a reads (unshut trivial)
      exact ⟨calm, by simp, fun _ => unclosed, fun _ e' _ known _ => apart e' known⟩
  | @closed r' handler limit owes counted =>
    obtain rfl : r' = r := by
      by_contra other
      simp [HubNote.begins_callback, other] at quiet
    simp only [HubNote.begins_callback, HubAsk.tells, Occasion.event, BEq.rfl, Bool.true_and]
    constructor
    · intro both
      obtain ⟨calm, done, _, apart⟩ := both
      exact ⟨calm, fun _ => ⟨done trivial, apart .closed .message (by simp) (by simp) rfl⟩, by simp⟩
    · intro both
      obtain ⟨calm, shut, _⟩ := both
      have due : 0 < ended .opened r' h ∧ ¬ InProgress .message r' h := by
        by_cases own : c = .hangUp r'
        · exact hungUp_apart b a (own ▸ a.running c g rfl)
        · exact shut (by simpa using own)
      obtain ⟨opening, closing⟩ := closing_apart b owes due.1
      refine ⟨calm, fun _ => due.1, by simp, fun _ e' _ known _ => ?_⟩
      cases e' with
      | opened => exact opening
      | message => exact due.2
      | closed => exact closing
      | error => exact absurd rfl known

/-- **Every question of a program keeps callbacks apart.** -/
theorem Apartness.asked (b : Books hs keys n h (some (c, g)) W G) (a : Apartness h (some (c, g)) W)
    {q : HubAsk} (ask : (conduct hs keys).asks g n q g') :
    Apartness (h ++ [.asked c q]) none (W ++ [⟨c, q, g'⟩]) := by
  obtain ⟨_, question⟩ := ask
  have reads : g'.reads = g.reads := by cases question <;> rfl
  have same : ∀ r, tally (Standing.isReader r) none (W ++ [⟨c, q, g'⟩]) []
      = tally (Standing.isReader r) (some (c, g)) W [] := by
    intro r
    rw [tally_asked, tally_called, tally_called, Standing.isReader, Standing.isReader, reads]
  have member : ∀ {P : HubStance → Prop}, (∀ w ∈ W, P w) → P ⟨c, q, g'⟩ →
      ∀ w ∈ W ++ [⟨c, q, g'⟩], P w := by
    intro P all new w hw
    cases List.mem_append.mp hw with
    | inl hw => exact all w hw
    | inr hw =>
      rw [List.mem_singleton.mp hw]
      exact new
  have called : .called c ∈ h := a.running c g rfl
  constructor
  · exact member a.reads (reads.trans (a.reading c g rfl))
  · exact fun _ _ same => nomatch same
  · intro r
    rw [same]
    exact a.alone r
  · intro r
    rw [same]
    exact fun some' => admitted_snoc (a.admitted r some')
  · intro r hangsUp
    have hangsUp : .called (.hangUp r) ∈ h := by simpa using hangsUp
    rw [same]
    exact (a.hungUp r hangsUp).imp_left admitted_snoc
  · exact fun _ _ same => nomatch same
  · exact member (fun w hw => List.mem_append_left _ (a.waiting w hw)) (List.mem_append_left _ called)
  · intro c' q' asked
    cases List.mem_append.mp asked with
    | inl asked => exact List.mem_append_left _ (a.asking c' q' asked)
    | inr asked =>
      obtain ⟨rfl, rfl⟩ := Note.asked.inj (List.mem_singleton.mp asked)
      exact List.mem_append_left _ called
  · refine member a.opens fun r tells => ?_
    cases question with
    | opened _ _ _ host _ =>
      simp [HubAsk.tells, Occasion.event] at tells
      rw [← tells]
      exact host
    | _ => simp [HubAsk.tells, Occasion.event] at tells
  · refine member a.speaks fun r tells => ?_
    cases question with
    | message _ _ _ _ spoken =>
      simp [HubAsk.tells, Occasion.event] at tells
      rw [← tells]
      exact spoken
    | _ => simp [HubAsk.tells, Occasion.event] at tells
  · intro e r
    have open' : HubNote.ends e r (.asked c q) = false := rfl
    rw [HubNote.begun_snoc, HubNote.ended_snoc, HubNote.begins, open', List.countP_append,
      List.countP_singleton, if_neg Bool.false_ne_true, a.balance e r]
    exact Nat.add_assoc ..
  · exact fun r => orderly_asked b a question r

end Node

end SessionHub

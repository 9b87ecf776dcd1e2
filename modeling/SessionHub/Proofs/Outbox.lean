import Mathlib.Data.List.TakeWhile
import SessionHub.Outbox
import SessionHub.Proofs.Program.History

/-!
# Frames that an outbox refuses

An outbox refuses a frame for one of three causes: it is closed, its receiving half is gone, or its queue
is full. The second cause closes it, so that what later frames are refused for depends on all that was
done before. The counter of refused frames misses the first cause.

What it misses can be told from the uses of an outbox alone (`late`): every frame that is sent after
somebody has closed the outbox, or after a frame was sent to a receiving half that was gone. The counter
and these together are all refusals, and the counter alone is all of them in exactly those histories in
which nobody sends to a closed outbox (`refused_eq_iff`).
-/

namespace SessionHub.Outbox

/-! ## Sending -/

section Send

variable {o : Outbox} (text : String)

theorem send_of_closed (closed : o.closed = true) : o.send text = (.error .closed, o) := if_pos closed

theorem send_of_gone (unclosed : o.closed = false) (gone : o.received = false) :
    o.send text = (.error .closed, { o with closed := true, refused := o.refused + 1 }) := by
  rw [send, if_neg (by simp [unclosed]), if_pos (by simp [gone])]

theorem send_of_full (unclosed : o.closed = false) (there : o.received = true)
    (full : o.capacity ≤ o.queue.length) :
    o.send text = (.error .queueFull, { o with refused := o.refused + 1 }) := by
  rw [send, if_neg (by simp [unclosed]), if_neg (by simp [there]), if_pos full]

theorem send_of_room (unclosed : o.closed = false) (there : o.received = true)
    (room : o.queue.length < o.capacity) :
    o.send text = (.ok (), { o with queue := o.queue ++ [text] }) := by
  rw [send, if_neg (by simp [unclosed]), if_neg (by simp [there]), if_neg (Nat.not_le.mpr room)]

end Send

theorem receive_snd (o : Outbox) : o.receive.2 = { o with queue := o.queue.tail } := by
  obtain ⟨capacity, queue, closed, received, refused⟩ := o
  cases queue <;> rfl

/-! ## Histories of uses -/

/-- What is done with an outbox from either side. -/
inductive Use where
  | send (text : String)
  | close
  | receive
  | abandon
  deriving Repr, DecidableEq

namespace Use

/-- Whether a use is the sending of a frame. -/
def isSend : Use → Bool
  | .send _ => true
  | _ => false

/-- What a use makes of an outbox. -/
def perform : Use → Outbox → Outbox
  | .send text, o => (o.send text).2
  | .close, o => o.close
  | .receive, o => o.receive.2
  | .abandon, o => o.abandon

/-- Whether a use is the sending of a frame that comes back with a fault. -/
def isRefused (o : Outbox) : Use → Bool
  | .send text => !(o.send text).1.isOk
  | _ => false

end Use

/-- An outbox after some uses. -/
def after (o : Outbox) (uses : List Use) : Outbox := uses.foldl (fun o u => u.perform o) o

/-- How many frames an outbox refuses in the course of some uses. -/
def refusals : List Use → Outbox → Nat
  | [], _ => 0
  | u :: rest, o => (if u.isRefused o then 1 else 0) + refusals rest (u.perform o)

/-- Whether an outbox is closed that was used like this: it was closed, or a frame was sent after the
receiving half had gone. -/
def isShut (past : List Use) : Bool :=
  past.contains .close || (past.dropWhile (· != .abandon)).any Use.isSend

/-- How many frames of some uses, behind others, are sent to an outbox that is closed by then. -/
def late (past : List Use) : List Use → Nat
  | [] => 0
  | u :: rest => (if u.isSend && isShut past then 1 else 0) + late (past ++ [u]) rest

/-! ## What the past tells of an outbox -/

/-- An outbox that is used once more is closed if it was, if it is closed then, or if a frame is sent then
for which nobody is there. -/
theorem isShut_snoc (past : List Use) (u : Use) :
    isShut (past ++ [u]) = (isShut past || u == .close || u.isSend && past.contains .abandon) := by
  have tail : ((past ++ [u]).dropWhile (· != .abandon)).any Use.isSend
      = ((past.dropWhile (· != .abandon)).any Use.isSend || u.isSend && past.contains .abandon) := by
    rw [List.dropWhile_append]
    cases gone : past.contains .abandon with
    | false =>
      have none : past.dropWhile (· != .abandon) = [] := by
        refine List.dropWhile_eq_nil_iff.mpr fun v there => bne_iff_ne.mpr fun same => ?_
        rw [← same, List.contains_eq_mem, decide_eq_false_iff_not] at gone
        exact gone there
      rw [none]
      cases u <;> rfl
    | true =>
      have kept : (past.dropWhile (· != .abandon)).isEmpty = false := by
        refine List.isEmpty_eq_false_iff.mpr fun none => ?_
        have all := List.dropWhile_eq_nil_iff.mp none .abandon (by simpa using gone)
        simp at all
      rw [kept, if_neg Bool.false_ne_true, List.any_append, List.any_cons, List.any_nil, Bool.or_false,
        Bool.and_true]
  have shut : (past ++ [u]).contains .close = (past.contains .close || u == .close) := by
    rw [List.contains_append]
    cases u <;> rfl
  unfold isShut
  rw [tail, shut]
  cases past.contains .close <;> cases (past.dropWhile (· != .abandon)).any Use.isSend <;>
    cases u == .close <;> rfl

/-- Whether an outbox is what it has to be after some uses. -/
structure Recalls (past : List Use) (o : Outbox) : Prop where
  closed : o.closed = isShut past
  received : o.received = !past.contains .abandon

/-- What one use adds to the counter, with what it should have added and did not. -/
def Use.counts (past : List Use) (u : Use) (o : Outbox) : Prop :=
  (u.perform o).refused + (if u.isSend && isShut past then 1 else 0)
    = o.refused + (if u.isRefused o then 1 else 0)

variable {past : List Use} {o : Outbox}

theorem Recalls.send (h : Recalls past o) (text : String) :
    Recalls (past ++ [.send text]) (o.send text).2 ∧ (Use.send text).counts past o := by
  obtain ⟨closed, received⟩ := h
  have recalls : (o.send text).2.closed = (isShut past || past.contains .abandon) →
      (o.send text).2.received = o.received → Recalls (past ++ [.send text]) (o.send text).2 := by
    intro shut same
    refine ⟨?_, ?_⟩
    · rw [shut, isShut_snoc]
      simp [Use.isSend, show (Use.send text == .close) = false from rfl]
    · rw [same, received, List.contains_append]
      simp
  show _ ∧ (o.send text).2.refused + (if isShut past then 1 else 0)
    = o.refused + if !(o.send text).1.isOk then 1 else 0
  rw [← closed] at recalls ⊢
  cases shut : o.closed with
  | true =>
    rw [shut, send_of_closed text shut] at recalls
    rw [send_of_closed text shut]
    exact ⟨recalls shut rfl, rfl⟩
  | false =>
    cases there : o.received with
    | false =>
      rw [received, Bool.not_eq_false'] at there
      rw [shut, there, send_of_gone text shut (by rw [received, there]; rfl)] at recalls
      rw [send_of_gone text shut (by rw [received, there]; rfl)]
      exact ⟨recalls rfl rfl, rfl⟩
    | true =>
      have present : past.contains .abandon = false := by
        rw [received, Bool.not_eq_true'] at there
        exact there
      rw [shut, present] at recalls
      by_cases full : o.capacity ≤ o.queue.length
      · rw [send_of_full text shut there full] at recalls ⊢
        exact ⟨recalls shut rfl, rfl⟩
      · rw [send_of_room text shut there (Nat.not_le.mp full)] at recalls ⊢
        exact ⟨recalls shut rfl, rfl⟩

/-- **One use**: the outbox goes on being what its past says, and the counter grows with every refusal
but those of a closed outbox. -/
theorem Recalls.perform (h : Recalls past o) (u : Use) :
    Recalls (past ++ [u]) (u.perform o) ∧ u.counts past o := by
  cases u with
  | send text => exact h.send text
  | close =>
    refine ⟨⟨?_, ?_⟩, rfl⟩
    · rw [isShut_snoc, beq_self_eq_true, Bool.or_true]
      rfl
    · exact h.received.trans (by simp)
  | receive =>
    rw [Use.counts, Use.perform, receive_snd]
    refine ⟨⟨?_, ?_⟩, rfl⟩
    · rw [isShut_snoc]
      exact h.closed.trans (by simp [Use.isSend, show (Use.receive == .close) = false from rfl])
    · exact h.received.trans (by simp)
  | abandon =>
    refine ⟨⟨?_, ?_⟩, rfl⟩
    · rw [isShut_snoc]
      exact h.closed.trans (by simp [Use.isSend, show (Use.abandon == .close) = false from rfl])
    · rw [List.contains_append]
      simp [Use.perform, abandon]

theorem recalls_nil (capacity : Nat) : Recalls [] (ofCapacity capacity) := ⟨rfl, rfl⟩

/-! ## The counter -/

/-- The counter and what it has missed are all refusals. -/
theorem Recalls.refused_add_late (h : Recalls past o) (uses : List Use) :
    (o.after uses).refused + late past uses = o.refused + refusals uses o := by
  induction uses generalizing past o with
  | nil => rfl
  | cons u rest ih =>
    obtain ⟨recalls, counts⟩ := h.perform u
    have later := ih recalls
    unfold Use.counts at counts
    show ((u.perform o).after rest).refused + (_ + late (past ++ [u]) rest) = o.refused + (_ + _)
    omega

/-- Nothing is sent late if nobody sends to a closed outbox. -/
theorem late_eq_zero_iff (uses : List Use) : late past uses = 0 ↔
    ∀ pre u post, uses = pre ++ u :: post → u.isSend = true → isShut (past ++ pre) = false := by
  induction uses generalizing past with
  | nil => simp [late]
  | cons v rest ih =>
    rw [late, Nat.add_eq_zero_iff, ih]
    constructor
    · rintro ⟨here, there⟩ pre u post split sends
      cases pre with
      | nil =>
        obtain ⟨rfl, rfl⟩ := List.cons.inj split
        simpa [sends] using here
      | cons w pre =>
        obtain ⟨rfl, rest_eq⟩ := List.cons.inj split
        simpa using there pre u post rest_eq sends
    · intro all
      refine ⟨?_, fun pre u post split sends => ?_⟩
      · cases sends : v.isSend with
        | false => simp
        | true =>
          have unshut := all [] v rest rfl sends
          rw [List.append_nil] at unshut
          simp [unshut]
      · have unshut := all (v :: pre) u post (by rw [split]; rfl) sends
        simpa using unshut

/-- **What the counter of refused frames tells.** In every history of an outbox it tells all frames that
were refused, less those that were sent to an outbox that was closed by then; so it tells all of them
exactly if nobody ever sends to a closed outbox. -/
theorem refused_eq_iff (capacity : Nat) (uses : List Use) :
    ((ofCapacity capacity).after uses).refused + late [] uses = refusals uses (ofCapacity capacity) ∧
      (((ofCapacity capacity).after uses).refused = refusals uses (ofCapacity capacity) ↔
        Always (fun past u => u.isSend = true → isShut past = false) uses) := by
  have counted := (recalls_nil capacity).refused_add_late uses
  rw [show (ofCapacity capacity).refused = 0 from rfl, Nat.zero_add] at counted
  refine ⟨counted, ?_⟩
  have missing : ((ofCapacity capacity).after uses).refused = refusals uses (ofCapacity capacity) ↔
      late [] uses = 0 := by omega
  rw [missing, late_eq_zero_iff]
  exact Iff.rfl

/-- A frame that is sent to an outbox after it was closed is refused, and not counted. -/
theorem exists_uncounted : ¬ ∀ (capacity : Nat) (uses : List Use),
    ((ofCapacity capacity).after uses).refused = refusals uses (ofCapacity capacity) := fun all =>
  absurd (all 1 [.close, .send "late"]) (by decide)

end SessionHub.Outbox

import SessionHub.Proofs.Hub.Aside
import SessionHub.Proofs.Names

/-!
# Admission and the claim of an end

Two steps change who is on a node's floor for good. To **enrol** a session puts it on the floor and
on the roster under a name that nobody had, so that the roster never refuses. To **claim** a
session's end takes it off the roster and marks it, and whoever finds it marked claims nothing.

A node is **sound** if the roster names only sessions of the floor whose end was not claimed, each
under its name; if no two sessions of the floor have one name; and if every session's path has a
handler.
-/

namespace SessionHub.Node

/-- What holds of the sessions of a node with some handlers and a layout of keys. -/
structure Sound (hs : Handlers) (keys : KeyLayout) (n : Node) : Prop where
  handlers : n.handlers = hs
  keys : n.membership.keys = keys
  listed : ∀ e ∈ n.floor.roster, e.2 < n.floor.sessions.size ∧ (n.session e.2).id = e.1 ∧
    (n.session e.2).finished = false
  fresh : ∀ r < n.floor.sessions.size, ∃ k ≤ n.named, (n.session r).id = .fresh k
  distinct : ∀ r < n.floor.sessions.size, ∀ r' < n.floor.sessions.size,
    (n.session r).id = (n.session r').id → r = r'
  handled : ∀ r < n.floor.sessions.size, hs.hasPath (n.session r).path

variable {hs : Handlers} {keys : KeyLayout} {n n' : Node}

theorem Sound.aside (h : Sound hs keys n) (c : Aside n n') : Sound hs keys n' where
  handlers := c.handlers.trans h.handlers
  keys := c.keys.trans h.keys
  listed e he := by
    obtain ⟨there, id, finished⟩ := h.listed e (c.floor.roster.subset he)
    exact ⟨c.floor.size ▸ there, (c.floor.id e.2).trans id, (c.floor.finished e.2).trans finished⟩
  fresh r there := by
    rw [c.floor.size] at there
    obtain ⟨k, old, id⟩ := h.fresh r there
    exact ⟨k, c.named ▸ old, (c.floor.id r).trans id⟩
  distinct r there r' there' same := by
    rw [c.floor.size] at there there'
    refine h.distinct r there r' there' ?_
    rw [← show _ = (n.session r).id from c.floor.id r, ← show _ = (n.session r').id from c.floor.id r']
    exact same
  handled r there := by
    rw [c.floor.size] at there
    rw [show (n'.session r).path = (n.session r).path from c.floor.path r]
    exact h.handled r there

/-- **The name of a session that was let in has no colon.** -/
theorem Sound.plain (h : Sound hs keys n) {r : SessionRef} (there : r < n.floor.sessions.size) :
    ':' ∉ (n.session r).id.text.toList := by
  obtain ⟨k, _, id⟩ := h.fresh r there
  rw [id]
  exact colon_not_mem_freshText k

/-! ## Admission -/

/-- What enrolling a session on a path comes to: it stands in the next place, under the next name. -/
structure Enrolled (path : String) (n n' : Node) : Prop where
  size : n'.floor.sessions.size = n.floor.sessions.size + 1
  others : ∀ r < n.floor.sessions.size, n'.session r = n.session r
  id : (n'.session n.floor.sessions.size).id = .fresh (n.named + 1)
  path : (n'.session n.floor.sessions.size).path = path
  finished : (n'.session n.floor.sessions.size).finished = false
  roster : n'.floor.roster = n.floor.roster ++ [(.fresh (n.named + 1), n.floor.sessions.size)]
  named : n'.named = n.named + 1
  handlers : n'.handlers = n.handlers
  keys : n'.membership.keys = n.membership.keys
  begun : n'.closing.begun = n.closing.begun
  active : n'.floor.journal.active = n.floor.journal.active + 1

/-- The next name is on no roster of a sound node. -/
theorem Sound.lookup_next (h : Sound hs keys n) :
    n.floor.roster.lookup (SessionId.fresh (n.named + 1)) = none := by
  refine List.lookup_eq_none_iff.mpr fun e he => bne_iff_ne.mpr fun same => ?_
  obtain ⟨there, id, _⟩ := h.listed e he
  obtain ⟨k, old, name⟩ := h.fresh e.2 there
  have := SessionId.fresh_inj ((same.trans id.symm).trans name)
  omega

/-- **A name that nobody had is not refused**: the session is let in. -/
theorem Sound.enrol (h : Sound hs keys n) (path : String) (handshake : Handshake)
    (outbox : Outbox) : (n.enrol path handshake outbox).1 = .ok n.floor.sessions.size ∧
      Enrolled path n (n.enrol path handshake outbox).2 := by
  let s := Session.opening (.fresh (n.named + 1)) path n.id handshake outbox n.floor.now
  let placed : Floor := { n.floor with sessions := n.floor.sessions.push s }
  have here : placed.session n.floor.sessions.size = s := by
    simp [Floor.session, placed, Array.getD_eq_getD_getElem?]
  have others : ∀ r < n.floor.sessions.size, placed.session r = n.session r :=
    fun _ there => Floor.session_place s there
  let listed : Floor :=
    { placed with roster := n.floor.roster ++ [(.fresh (n.named + 1), n.floor.sessions.size)] }
  have registered : placed.register n.floor.sessions.size = (.ok (), listed) := by
    unfold Floor.register
    rw [here]
    dsimp only [s, Session.opening]
    rw [if_neg (by rw [show placed.roster = n.floor.roster from rfl, h.lookup_next]; nofun)]
  have enrolled : n.enrol path handshake outbox = (.ok n.floor.sessions.size,
      { n with
        named := n.named + 1
        floor := listed.record fun j => (j.count .connectionsOpened).count .connectionsActive }) := by
    unfold Node.enrol
    dsimp only [Floor.place]
    rw [show Floor.register n.floor.sessions.size placed = _ from registered]
  rw [enrolled]
  refine ⟨rfl, Array.size_push s, others, ?_, ?_, ?_, rfl, rfl, rfl, rfl, rfl, ?_⟩
  · exact (congrArg Session.id here :)
  · exact (congrArg Session.path here :)
  · exact (congrArg Session.finished here :)
  · simp [listed, placed, Floor.record]

/-- A node is sound after it has let in somebody on a path that has a handler. -/
theorem Sound.enrolled {path : String} (h : Sound hs keys n) (e : Enrolled path n n')
    (handled : hs.hasPath path) : Sound hs keys n' := by
  have place : ∀ {r}, r < n'.floor.sessions.size →
      r < n.floor.sessions.size ∨ r = n.floor.sessions.size := fun there => by
    rw [e.size] at there
    omega
  have apart : ∀ r < n.floor.sessions.size,
      (n'.session r).id ≠ (n'.session n.floor.sessions.size).id := by
    intro r there same
    obtain ⟨k, old, id⟩ := h.fresh r there
    rw [e.others r there, e.id, id] at same
    have := SessionId.fresh_inj same
    omega
  constructor
  · exact e.handlers.trans h.handlers
  · exact e.keys.trans h.keys
  · intro entry he
    rw [e.roster] at he
    cases List.mem_append.mp he with
    | inl he =>
      obtain ⟨there, id, finished⟩ := h.listed entry he
      rw [e.size, e.others entry.2 there]
      exact ⟨Nat.lt_succ_of_lt there, id, finished⟩
    | inr he =>
      obtain rfl := List.mem_singleton.mp he
      exact ⟨by rw [e.size]; exact Nat.lt_succ_self _, e.id, e.finished⟩
  · intro r there
    rcases place there with there | rfl
    · obtain ⟨k, old, id⟩ := h.fresh r there
      exact ⟨k, by rw [e.named]; exact Nat.le_succ_of_le old, by rw [e.others r there, id]⟩
    · exact ⟨n.named + 1, Nat.le_of_eq e.named.symm, e.id⟩
  · intro r there r' there' same
    rcases place there with there | rfl <;> rcases place there' with there' | rfl
    · rw [e.others r there, e.others r' there'] at same
      exact h.distinct r there r' there' same
    · exact absurd same (apart r there)
    · exact absurd same.symm (apart r' there')
    · rfl
  · intro r there
    rcases place there with there | rfl
    · rw [e.others r there]
      exact h.handled r there
    · rw [e.path]
      exact handled

/-! ## The claim of an end -/

/-- What claiming a session's end comes to. -/
structure Claimed (r : SessionRef) (n n' : Node) : Prop where
  size : n'.floor.sessions.size = n.floor.sessions.size
  id : ∀ r', (n'.session r').id = (n.session r').id
  path : ∀ r', (n'.session r').path = (n.session r').path
  here : (n'.session r).finished = true
  others : ∀ r', r' ≠ r → (n'.session r').finished = (n.session r').finished
  roster : n'.floor.roster.Sublist n.floor.roster
  off : ∀ e ∈ n'.floor.roster, e.2 ≠ r
  named : n'.named = n.named
  handlers : n'.handlers = n.handlers
  keys : n'.membership.keys = n.membership.keys
  begun : n'.closing.begun = n.closing.begun
  active : n'.floor.journal.active = n.floor.journal.active

/-- An end that was claimed is not claimed again. -/
theorem claim_of_finished {r : SessionRef} (finished : (n.session r).finished = true) :
    n.claim r = (false, n) := by
  simp [claim, finished]

/-- The roster of a sound node has one entry for each name on it. -/
theorem Sound.lookup_listed (h : Sound hs keys n) {e : SessionId × SessionRef}
    (he : e ∈ n.floor.roster) : n.floor.roster.lookup e.1 = some e.2 := by
  obtain ⟨there, id, _⟩ := h.listed e he
  cases found : n.floor.roster.lookup e.1 with
  | none => exact absurd rfl (bne_iff_ne.mp (List.lookup_eq_none_iff.mp found e he))
  | some r =>
    obtain ⟨l₁, l₂, split, _⟩ := List.lookup_eq_some_iff.mp found
    obtain ⟨there', id', _⟩ := h.listed (e.1, r) (by simp [split])
    rw [h.distinct r there' e.2 there (id'.trans id.symm)]

/-- **The first that asks claims the end**, and the session is off the roster. -/
theorem Sound.claim (h : Sound hs keys n) {r : SessionRef} (there : r < n.floor.sessions.size)
    (first : (n.session r).finished = false) :
    (n.claim r).1 = true ∧ Claimed r n (n.claim r).2 := by
  let marked := n.floor.modifySession r fun s => { s with finished := true }
  have session : ∀ r', marked.session r' = if r = r' then { n.session r' with finished := true }
      else n.session r' := by
    intro r'
    simp only [marked, Floor.session_modifySession, there, and_true]
    rfl
  let removed := (marked.remove (n.session r).path (n.session r).id).2
  have claimed : n.claim r = (true, { n with floor := removed.close r }) := by
    simp only [Node.claim, first]
    rfl
  have aside : marked.Aside (removed.close r) :=
    (Floor.aside_remove ..).trans (Floor.aside_close r _)
  have off : ∀ e ∈ removed.roster, e.2 ≠ r := by
    intro e he same
    have before : e ∈ n.floor.roster := (Floor.aside_remove _ _ marked).roster.subset he
    obtain ⟨_, id, _⟩ := h.listed e before
    rw [same] at id
    have found : marked.get? (n.session r).path (n.session r).id = some r := by
      unfold Floor.get?
      rw [show marked.roster.lookup (n.session r).id = some r by
        rw [id, ← same]; exact h.lookup_listed before]
      simp [session]
    have gone : e ∈ n.floor.roster.filter (·.1 != (n.session r).id) := by
      simp only [removed, Floor.remove, found] at he
      exact he
    exact absurd id.symm (bne_iff_ne.mp (List.mem_filter.mp gone).2)
  rw [claimed]
  refine ⟨rfl, ?_⟩
  exact {
    size := aside.size.trans (Floor.size_modifySession ..)
    id := fun r' => by
      refine (aside.id r').trans ?_
      rw [session]
      split <;> rfl
    path := fun r' => by
      refine (aside.path r').trans ?_
      rw [session]
      split <;> rfl
    here := by
      refine (aside.finished r).trans ?_
      rw [session, if_pos rfl]
    others := fun r' other => by
      refine (aside.finished r').trans ?_
      rw [session, if_neg (Ne.symm other)]
    roster := aside.roster
    off := off
    named := rfl
    handlers := rfl
    keys := rfl
    begun := rfl
    active := aside.active }

theorem Sound.claimed {r : SessionRef} (h : Sound hs keys n) (c : Claimed r n n') :
    Sound hs keys n' where
  handlers := c.handlers.trans h.handlers
  keys := c.keys.trans h.keys
  listed e he := by
    obtain ⟨there, id, finished⟩ := h.listed e (c.roster.subset he)
    exact ⟨c.size ▸ there, (c.id e.2).trans id, (c.others e.2 (c.off e he)).trans finished⟩
  fresh r' there := by
    rw [c.size] at there
    obtain ⟨k, old, id⟩ := h.fresh r' there
    exact ⟨k, c.named ▸ old, (c.id r').trans id⟩
  distinct r' there r'' there' same := by
    rw [c.size] at there there'
    rw [c.id, c.id] at same
    exact h.distinct r' there r'' there' same
  handled r' there := by
    rw [c.size] at there
    rw [c.path]
    exact h.handled r' there

end SessionHub.Node

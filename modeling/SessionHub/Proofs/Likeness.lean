import SessionHub.Proofs.Delivery

/-!
# Delivery on two floors that are alike

What a delivery comes to is decided by the roster and, session by session, by its name, its path and its
outbox. So two floors on which these agree cannot be told apart by what is sent, whatever else sets their
sessions apart. What may is said by a **likeness**: a relation of sessions that a frame sent to both of
them keeps, each at the instant that its own floor shows. There are two of use. Floors that show the same
instant stay alike in everything, and whatever they show, they stay alike in everything but when something
was last carried over a session.
-/

namespace SessionHub

/-! ## Sessions -/

namespace Session

/-- Two sessions that differ at most in when something was last carried over them. -/
def Alike (s s' : Session) : Prop := ∃ t, s' = { s with lastActive := t }

/-- **A likeness of sessions**, those on the left at one instant and those on the right at another:
what decides whether a frame is taken agrees, and what a frame does to both keeps them alike. -/
structure Likeness (R : Session → Session → Prop) (t t' : Nat) : Prop where
  id : ∀ {s s'}, R s s' → s'.id = s.id
  path : ∀ {s s'}, R s s' → s'.path = s.path
  outbox : ∀ {s s'}, R s s' → s'.outbox = s.outbox
  put : ∀ {s s'} (o : Outbox), R s s' → R { s with outbox := o } { s' with outbox := o }
  touch : ∀ {s s'}, R s s' → R (s.touch t) (s'.touch t')

/-- At one instant, to be the same is a likeness. -/
theorem likeness_eq (t : Nat) : Likeness Eq t t where
  id same := by rw [same]
  path same := by rw [same]
  outbox same := by rw [same]
  put _ same := by rw [same]
  touch same := by rw [same]

theorem likeness_alike (t t' : Nat) : Likeness Alike t t' where
  id := by rintro s _ ⟨_, rfl⟩; rfl
  path := by rintro s _ ⟨_, rfl⟩; rfl
  outbox := by rintro s _ ⟨_, rfl⟩; rfl
  put _ := by rintro ⟨u, rfl⟩; exact ⟨u, rfl⟩
  touch := by rintro s _ ⟨_, rfl⟩; exact ⟨t', rfl⟩

variable {R : Session → Session → Prop} {t t' : Nat} {s s' : Session}

theorem Likeness.isActive (h : Likeness R t t') (like : R s s') : s'.isActive = s.isActive :=
  congrArg Outbox.isActive (h.outbox like)

theorem Likeness.close (h : Likeness R t t') (like : R s s') : R s.close s'.close := by
  unfold Session.close
  rw [h.outbox like]
  exact h.put s.outbox.close like

/-- **A frame is taken by both or by neither.** -/
theorem Likeness.send (h : Likeness R t t') (like : R s s') (text : String) :
    (s'.send t' text).1 = (s.send t text).1 ∧ R (s.send t text).2 (s'.send t' text).2 := by
  unfold Session.send
  rw [h.outbox like]
  match s.outbox.send text with
  | (.ok (), o) => exact ⟨rfl, h.touch (h.put o like)⟩
  | (.error _, o) => exact ⟨rfl, h.put o like⟩

end Session

namespace Floor

/-! ## Floors -/

/-- Two floors with the same roster and, place by place, sessions of a kind. -/
structure Like (R : Session → Session → Prop) (f f' : Floor) : Prop where
  roster : f'.roster = f.roster
  size : f'.sessions.size = f.sessions.size
  session : ∀ r, R (f.session r) (f'.session r)

/-- Two floors that are alike at the instants that they show. -/
structure Matches (R : Session → Session → Prop) (f f' : Floor) : Prop extends Like R f f' where
  clocks : Session.Likeness R f.now f'.now

variable {R : Session → Session → Prop} {f f' g g' : Floor}

/-- What leaves sessions and roster alone is no matter on either floor. -/
theorem Like.of_still (h : Like R f f') (left : f.Still g) (right : f'.Still g') : Like R g g' where
  roster := right.2.trans (h.roster.trans left.2.symm)
  size := by rw [right.1, left.1, h.size]
  session r := by
    rw [Floor.session, Floor.session, left.1, right.1]
    exact h.session r

/-- A floor is its roster and its sessions. -/
theorem like_eq_iff : Like Eq f f' ↔ f.Still f' := by
  constructor
  · intro h
    refine ⟨Array.ext h.size fun r there there' => ?_, h.roster⟩
    have same := h.session r
    rw [session, session, Array.getD_eq_getD_getElem?, Array.getD_eq_getD_getElem?,
      Array.getElem?_eq_getElem there, Array.getElem?_eq_getElem there'] at same
    exact same.symm
  · intro still
    refine ⟨still.2, congrArg Array.size still.1, fun r => ?_⟩
    rw [session, session, still.1]

/-! ## One session -/

theorem Matches.modifySession (h : Matches R f f') {r : SessionRef} {change change' : Session → Session}
    (like : R (change (f.session r)) (change' (f'.session r))) :
    Matches R (f.modifySession r change) (f'.modifySession r change') where
  roster := h.roster
  size := by rw [size_modifySession, size_modifySession, h.size]
  session r' := by
    rw [session_modifySession, session_modifySession, h.size]
    split
    · rename_i here
      rw [← here.1]
      exact like
    · exact h.session r'
  clocks := h.clocks

/-- What is written down sets no floors apart. -/
theorem Matches.record (h : Matches R f f') (change change' : Journal → Journal) :
    Matches R (f.record change) (f'.record change') :=
  ⟨⟨h.roster, h.size, h.session⟩, h.clocks⟩

theorem Matches.path (h : Matches R f f') (r : SessionRef) :
    (f'.session r).path = (f.session r).path :=
  h.clocks.path (h.session r)

theorem Matches.id (h : Matches R f f') (r : SessionRef) : (f'.session r).id = (f.session r).id :=
  h.clocks.id (h.session r)

theorem Matches.send (h : Matches R f f') (r : SessionRef) (text : String) :
    ∃ outcome g g', f.send r text = (outcome, g) ∧ f'.send r text = (outcome, g') ∧ Matches R g g' := by
  obtain ⟨outcome, like⟩ := h.clocks.send (h.session r) text
  exact ⟨_, _, _, rfl, Prod.ext outcome rfl, h.modifySession like⟩

theorem Matches.get? (h : Matches R f f') (path : String) (id : SessionId) :
    f'.get? path id = f.get? path id := by
  rw [Floor.get?, Floor.get?, h.roster]
  exact congrArg (Option.filter · _) (funext fun r => by rw [h.path r])

theorem Matches.remove (h : Matches R f f') (path : String) (id : SessionId) :
    Matches R (f.remove path id).2 (f'.remove path id).2 := by
  rw [Floor.remove, Floor.remove, h.get? path id]
  cases f.get? path id with
  | none => exact h
  | some r =>
    have listed : Matches R { f with roster := f.roster.filter (·.1 != id) }
        { f' with roster := f'.roster.filter (·.1 != id) } :=
      ⟨⟨congrArg (List.filter _) h.roster, h.size, h.session⟩, h.clocks⟩
    exact listed.modifySession (h.clocks.close (h.session r))

theorem Matches.expel (h : Matches R f f') (path complaint : String) (r : SessionRef)
    (fault : TransportFault) :
    Matches R (f.expel path complaint r fault) (f'.expel path complaint r fault) := by
  unfold Floor.expel
  dsimp only
  rw [h.id r]
  exact (h.record _ _).remove path _

/-! ## Delivery -/

/-- **One session of a broadcast** fares alike on both floors. -/
theorem Matches.deliverTo (h : Matches R f f') (path payload : String) (report : Delivery)
    (r : SessionRef) :
    (Floor.deliverTo path payload f' report r).2 = (Floor.deliverTo path payload f report r).2 ∧
      Matches R (Floor.deliverTo path payload f report r).1
        (Floor.deliverTo path payload f' report r).1 := by
  -- Who is not active is not even tried, on either floor.
  have tried : ∃ outcome g g',
      (if (f.session r).isActive then f.send r payload else (.error .closed, f)) = (outcome, g) ∧
        (if (f'.session r).isActive then f'.send r payload else (.error .closed, f'))
          = (outcome, g') ∧ Matches R g g' := by
    rw [h.clocks.isActive (h.session r)]
    split
    · exact h.send r payload
    · exact ⟨_, _, _, rfl, rfl, h⟩
  obtain ⟨outcome, g, g', left, right, like⟩ := tried
  rw [Floor.deliverTo, Floor.deliverTo, left, right]
  match outcome with
  | .ok () => exact ⟨rfl, like⟩
  | .error fault =>
    dsimp only
    rw [like.id r]
    exact ⟨rfl, like.expel path _ r fault⟩

theorem Matches.deliverAll (h : Matches R f f') (path payload : String) (rs : List SessionRef)
    (report : Delivery) :
    (Floor.deliverAll path payload rs f' report).2 = (Floor.deliverAll path payload rs f report).2 ∧
      Matches R (Floor.deliverAll path payload rs f report).1
        (Floor.deliverAll path payload rs f' report).1 := by
  induction rs generalizing f f' report with
  | nil => exact ⟨rfl, h⟩
  | cons r rest ih =>
    obtain ⟨same, like⟩ := h.deliverTo path payload report r
    rw [Floor.deliverAll, Floor.deliverAll]
    dsimp only
    rw [same]
    exact ih like _

theorem Matches.onPath (h : Matches R f f') (path : String) : f'.onPath path = f.onPath path := by
  rw [Floor.onPath, Floor.onPath, registered, registered, h.roster]
  exact List.filter_congr fun r _ => by rw [h.path r]

/-- **A payload that is delivered on a path fares alike on both floors**, if whoever chooses the sessions
does not tell them apart either. -/
theorem Matches.deliver (h : Matches R f f') (path payload : String) (admits : Session → Bool)
    (blind : ∀ {s s'}, R s s' → admits s' = admits s) :
    (f'.deliver path payload admits).2 = (f.deliver path payload admits).2 ∧
      Matches R (f.deliver path payload admits).1 (f'.deliver path payload admits).1 := by
  have targets : ((f'.onPath path).filter fun r => admits (f'.session r))
      = (f.onPath path).filter fun r => admits (f.session r) := by
    rw [h.onPath path]
    exact List.filter_congr fun r _ => blind (h.session r)
  rw [Floor.deliver, Floor.deliver, targets]
  exact h.deliverAll path payload _ {}

theorem Matches.sendTo (h : Matches R f f') (path : String) (id : SessionId) (payload : String) :
    (f'.sendTo path id payload).1 = (f.sendTo path id payload).1 ∧
      Matches R (f.sendTo path id payload).2 (f'.sendTo path id payload).2 := by
  rw [Floor.sendTo, Floor.sendTo, h.get? path id]
  cases f.get? path id with
  | none => exact ⟨rfl, h⟩
  | some r =>
    obtain ⟨outcome, g, g', left, right, like⟩ := h.send r payload
    dsimp only
    rw [left, right]
    match outcome with
    | .ok () => exact ⟨rfl, like⟩
    | .error fault => exact ⟨rfl, like.expel path _ r fault⟩

end Floor

end SessionHub

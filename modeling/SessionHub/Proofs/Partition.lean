import SessionHub.Proofs.Registry

/-!
# A broadcast divides the sessions it is addressed to

A broadcast is addressed to the registered sessions of a path that a predicate admits. It **divides**
them: those with room take the payload and stay, the others are taken off the roster and closed without
it, and the report counts the former and names the latter. Bystanders are as they were.

The order in which the sessions are gone through is the roster's, and nothing depends on it: whether a
session has room is its own affair, and what happens to one of them leaves the others' queues alone.
-/

namespace SessionHub

namespace Floor

/-- The sessions a broadcast is addressed to. -/
def addressees (f : Floor) (path : String) (admits : Session → Bool) : List SessionRef :=
  (f.onPath path).filter fun r => admits (f.session r)

/-- **What a payload comes to for those it is addressed to**, and what is reported. -/
structure Divides (payload : String) (members : List SessionRef) (f f' : Floor)
    (report : Delivery) : Prop where
  /-- Everybody is counted or named. -/
  tally : report.delivered + report.removed.length = members.length
  /-- Who is active and has room takes the payload at the tail of the queue, once, and stays; its
  idle clock starts anew, and nothing else changes for it. -/
  served : ∀ r ∈ members, (f.session r).hasRoom = true →
    f'.session r = (f.session r).taking f.now payload ∧ r ∈ f'.registered
  /-- Who is not gets nothing, is off the roster and closed, and is named once. -/
  dropped : ∀ r ∈ members, (f.session r).hasRoom = false →
    (f'.session r).outbox.queue = (f.session r).outbox.queue ∧ r ∉ f'.registered ∧
      (f'.session r).outbox.closed = true ∧ report.removed.count (f.session r).id = 1
  /-- Nobody else is named. -/
  named : ∀ id ∈ report.removed, ∃ r ∈ members,
    (f.session r).hasRoom = false ∧ (f.session r).id = id
  /-- Nothing changes for bystanders. -/
  bystanders : ∀ r ∉ members,
    f'.session r = f.session r ∧ (r ∈ f'.registered ↔ r ∈ f.registered)

variable {start f : Floor} {path : String} {members rs : List SessionRef}

/-- Whatever is done on a floor that begins with nobody registered, its roster stays a table of its
sessions. -/
theorem Reaches.listed {h : List Done} (nobody : start.roster = []) (reached : Reaches start h f) :
    Listed f := by
  induction reached with
  | init => exact ⟨by simp [nobody], by simp [nobody]⟩
  | act _ possible ih => exact (performed ih possible).listed

/-- Registered sessions are named apart. -/
theorem Listed.nodup_ids (h : Listed f) (distinct : members.Nodup)
    (here : ∀ r ∈ members, r ∈ f.registered) : (members.map fun r => (f.session r).id).Nodup :=
  distinct.map_on fun r here' r' here'' same => h.inj (here r here') (here r' here'') same

/-- One round over sessions of a path divides them. -/
theorem Listed.divides (h : Listed f) (distinct : rs.Nodup) (here : ∀ r ∈ rs, r ∈ f.onPath path)
    (payload : String) :
    Divides payload rs f (deliverAll path payload rs f {}).1 (deliverAll path payload rs f {}).2 := by
  have report := report_deliverAll h distinct here payload {}
  rw [Nat.zero_add, List.nil_append] at report
  have handed : Handed payload rs f (deliverAll path payload rs f {}).1 :=
    handed_deliverAll h distinct here {}
  rw [report]
  constructor
  · have parts := List.length_eq_countP_add_countP (l := rs) fun r => (f.session r).hasRoom
    simpa [List.countP_eq_length_filter] using parts.symm
  · exact handed.taken
  · intro r member full
    obtain ⟨gone, closed, queue⟩ := handed.lost r member full
    refine ⟨queue, gone, closed, List.count_eq_one_of_mem ?_ ?_⟩
    · apply h.nodup_ids (distinct.filter _)
      exact fun r' kept => (mem_onPath.mp (here r' (List.mem_of_mem_filter kept))).1
    · exact List.mem_map.mpr ⟨r, List.mem_filter.mpr ⟨member, by rw [full]; rfl⟩, rfl⟩
  · intro id removed
    obtain ⟨r, kept, rfl⟩ := List.mem_map.mp removed
    obtain ⟨member, full⟩ := List.mem_filter.mp kept
    exact ⟨r, member, (Bool.not_eq_true' _).mp full, rfl⟩
  · exact handed.others

/-- Another order of the same sessions. -/
theorem Divides.perm {payload : String} {f' : Floor} {report : Delivery} (order : rs.Perm members)
    (h : Divides payload rs f f' report) : Divides payload members f f' report where
  tally := h.tally.trans order.length_eq
  served r member := h.served r (order.mem_iff.mpr member)
  dropped r member := h.dropped r (order.mem_iff.mpr member)
  named id removed := by
    obtain ⟨r, member, full⟩ := h.named id removed
    exact ⟨r, order.mem_iff.mp member, full⟩
  bystanders r away := h.bystanders r (mt order.mem_iff.mp away)

/-- **A broadcast divides those it is addressed to**, on every floor whose roster is a table of its
sessions, and it does so in whatever order it goes through them. -/
theorem deliver_divides (h : Listed f) (path payload : String) (admits : Session → Bool) :
    Divides payload (f.addressees path admits) f (f.deliver path payload admits).1
        (f.deliver path payload admits).2 ∧
      ∀ rs, rs.Perm (f.addressees path admits) →
        Divides payload (f.addressees path admits) f (deliverAll path payload rs f {}).1
          (deliverAll path payload rs f {}).2 := by
  have distinct : (f.addressees path admits).Nodup := (h.nodup.filter _).filter _
  have here : ∀ r ∈ f.addressees path admits, r ∈ f.onPath path :=
    fun _ kept => List.mem_of_mem_filter kept
  refine ⟨h.divides distinct here payload, fun rs order => ?_⟩
  apply Divides.perm order
  exact h.divides (order.nodup_iff.mpr distinct) (fun r listed => here r (order.mem_iff.mp listed))
    payload

/-- Three sessions on one path and one on another: the first has room, the second has none left, and the
receiver of the third is gone. -/
def gallery : Floor :=
  let s (id path : String) := Session.opening ⟨id⟩ path ⟨"n"⟩ {} (.ofCapacity 1) 0
  { now := 7
    sessions := #[s "a" "/x", { s "b" "/x" with outbox := { capacity := 1, queue := ["old"] } },
      { s "c" "/x" with outbox := (Outbox.ofCapacity 1).abandon }, s "d" "/y"] }

/-- A broadcast to three sessions, gone through backwards: one takes it. -/
theorem gallery_divided : ∃ h f, Reaches gallery h f ∧ Listed f ∧
    f.addressees "/x" (fun _ => true) = [0, 1, 2] ∧
    (deliverAll "/x" "hello" [2, 1, 0] f {}).2 = ⟨1, [⟨"c"⟩, ⟨"b"⟩]⟩ ∧
    Divides "hello" [0, 1, 2] f (deliverAll "/x" "hello" [2, 1, 0] f {}).1
      (deliverAll "/x" "hello" [2, 1, 0] f {}).2 := by
  have one := (Reaches.init : Reaches gallery [] gallery).act (a := .add 0) (show 0 < 4 by decide)
  have two := one.act (a := .add 1) (show 1 < 4 by decide)
  have three := two.act (a := .add 2) (show 2 < 4 by decide)
  have all := three.act (a := .add 3) (show 3 < 4 by decide)
  have listed := Reaches.listed (by rfl) all
  exact ⟨_, _, all, listed, by decide, by decide,
    (deliver_divides listed "/x" "hello" fun _ => true).2 [2, 1, 0] (by decide)⟩

end Floor

end SessionHub

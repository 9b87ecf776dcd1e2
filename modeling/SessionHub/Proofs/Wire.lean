import SessionHub.Proofs.Json.Tagged
import SessionHub.Wire

/-!
# What nodes say is understood

An envelope, a liveness record and an announcement are read back as they were written, whatever texts
they hold. Their times have 64 bits, as every clock's time has, and this is all that is asked of them.

None of the three is ever taken for another. Envelopes and liveness records have no **tag**, and so they
are no announcements. Otherwise each kind lacks a column that the reader of another kind asks for; an
announcement shares the node's name with a liveness record, which is why the two have to agree on the
type of what they share.
-/

namespace SessionHub

/-- Whether a time fits into 64 bits with a sign. -/
def IsTime (t : Int) : Prop := -(twoTo 63 : Int) ≤ t ∧ t < (twoTo 63 : Int)

open Json (Cell Column Schema)

theorem IsTime.admits {t : Int} (time : IsTime t) : Column.integer.admits (.integer t) = true :=
  Bool.and_eq_true_iff.mpr ⟨decide_eq_true time.1, decide_eq_true time.2⟩

/-! ## Rows that fit -/

theorem Envelope.fits {e : Envelope} (time : IsTime e.timestamp) :
    List.Forall₂ (fun c v => c.2.admits v = true) Envelope.schema.columns e.row :=
  .cons rfl (.cons rfl (.cons rfl (.cons time.admits .nil)))

theorem Beacon.fits {b : Beacon} (beat : IsTime b.lastBeat) (start : IsTime b.startedAt) :
    List.Forall₂ (fun c v => c.2.admits v = true) Beacon.schema.columns b.row :=
  .cons rfl (.cons beat.admits (.cons start.admits .nil))

namespace Announcement

/-- The columns of an announcement, its tag first. -/
def schema : Schema := leaveSchema.tagged tag

/-- An announcement as a row of those columns. -/
def row : Announcement → List Cell
  | .leave node => [.text leaveTag, .text node.text]

theorem toJson_eq (a : Announcement) : a.toJson = schema.toJson a.row := rfl

theorem fits (a : Announcement) :
    List.Forall₂ (fun c v => c.2.admits v = true) schema.columns a.row :=
  .cons rfl (.cons rfl .nil)

end Announcement

/-! ## Read back -/

/-- **An envelope is read back.** -/
theorem Envelope.decode_encode {e : Envelope} (time : IsTime e.timestamp) :
    Envelope.decode e.encode = .ok e := by
  have read : Envelope.schema.read e.encode = .ok e.row := Json.Schema.read_text (by decide) (fits time)
  rw [Envelope.decode, read]
  rfl

/-- **A liveness record is read back.** -/
theorem Beacon.decode_encode {b : Beacon} (beat : IsTime b.lastBeat) (start : IsTime b.startedAt) :
    Beacon.decode b.encode = .ok b := by
  have read : Beacon.schema.read b.encode = .ok b.row :=
    Json.Schema.read_text (by decide) (fits beat start)
  rw [Beacon.decode, read]
  rfl

/-- **An announcement is read back.** -/
theorem Announcement.decode_encode (a : Announcement) : Announcement.decode a.encode = .ok a := by
  obtain ⟨node⟩ := a
  have fits : List.Forall₂ (fun c v => c.2.admits v = true) leaveSchema.columns [.text node.text] :=
    .cons rfl .nil
  obtain ⟨content, taken, read⟩ := Schema.readTagged_tagged tag (by decide) fits leaveTag
    "internally tagged enum ControlMessage"
  rw [Announcement.decode, encode, toJson_eq, schema, row, read]
  simp only [taken]
  rfl

/-! ## Mistaken for each other -/

/-- **An envelope is no announcement**: it has no tag. -/
theorem Announcement.decode_envelope {e : Envelope} (time : IsTime e.timestamp) :
    ∃ f, Announcement.decode e.encode = .error f := by
  have untagged : ∀ c ∈ Envelope.schema.columns, c.1 ≠ tag := by decide
  obtain ⟨f, refused⟩ := Json.Schema.readTagged_text leaveTag "internally tagged enum ControlMessage"
    (Envelope.fits time) untagged
  refine ⟨f, ?_⟩
  rw [Announcement.decode, Envelope.encode, Envelope.toJson, refused]

/-- **Nor is a liveness record.** -/
theorem Announcement.decode_beacon {b : Beacon} (beat : IsTime b.lastBeat) (start : IsTime b.startedAt) :
    ∃ f, Announcement.decode b.encode = .error f := by
  have untagged : ∀ c ∈ Beacon.schema.columns, c.1 ≠ tag := by decide
  obtain ⟨f, refused⟩ := Json.Schema.readTagged_text leaveTag "internally tagged enum ControlMessage"
    (Beacon.fits beat start) untagged
  refine ⟨f, ?_⟩
  rw [Announcement.decode, Beacon.encode, Beacon.toJson, refused]

/-- **An announcement is no envelope**: it has none of the columns. -/
theorem Envelope.decode_announcement (a : Announcement) : ∃ f, Envelope.decode a.encode = .error f := by
  obtain ⟨f, refused⟩ := Schema.read_incomplete Envelope.schema ("path", .text)
    a.fits (by decide) (by decide) (by decide)
  exact ⟨f, congrArg (Except.map ofRow) refused⟩

/-- **A liveness record is no envelope**: it has no path. -/
theorem Envelope.decode_beacon {b : Beacon} (beat : IsTime b.lastBeat) (start : IsTime b.startedAt) :
    ∃ f, Envelope.decode b.encode = .error f := by
  obtain ⟨f, refused⟩ := Schema.read_incomplete Envelope.schema ("path", .text)
    (Beacon.fits beat start) (by decide) (by decide) (by decide)
  exact ⟨f, congrArg (Except.map ofRow) refused⟩

/-- **An envelope is no liveness record**: it has no beat. -/
theorem Beacon.decode_envelope {e : Envelope} (time : IsTime e.timestamp) :
    ∃ f, Beacon.decode e.encode = .error f := by
  obtain ⟨f, refused⟩ := Schema.read_incomplete Beacon.schema ("lastHeartbeatAt", .integer)
    (Envelope.fits time) (by decide) (by decide) (by decide)
  exact ⟨f, congrArg (Except.map ofRow) refused⟩

/-- **Nor is an announcement**, although it names a node. -/
theorem Beacon.decode_announcement (a : Announcement) : ∃ f, Beacon.decode a.encode = .error f := by
  obtain ⟨f, refused⟩ := Schema.read_incomplete Beacon.schema ("lastHeartbeatAt", .integer)
    a.fits (by decide) (by decide) (by decide)
  exact ⟨f, congrArg (Except.map ofRow) refused⟩

/-- **What a node says is understood by one reader only**, whatever texts it holds: that of its kind
gives back what was said, and the other two refuse it. -/
theorem understood_by_own_reader {e : Envelope} {b : Beacon} (a : Announcement) (sent : IsTime e.timestamp)
    (beat : IsTime b.lastBeat) (start : IsTime b.startedAt) :
    (Envelope.decode e.encode = .ok e ∧
      (∃ f, Beacon.decode e.encode = .error f) ∧ ∃ f, Announcement.decode e.encode = .error f) ∧
    (Beacon.decode b.encode = .ok b ∧
      (∃ f, Envelope.decode b.encode = .error f) ∧ ∃ f, Announcement.decode b.encode = .error f) ∧
    (Announcement.decode a.encode = .ok a ∧
      (∃ f, Envelope.decode a.encode = .error f) ∧ ∃ f, Beacon.decode a.encode = .error f) :=
  ⟨⟨Envelope.decode_encode sent, Beacon.decode_envelope sent, Announcement.decode_envelope sent⟩,
    ⟨Beacon.decode_encode beat start, Envelope.decode_beacon beat start,
      Announcement.decode_beacon beat start⟩,
    ⟨a.decode_encode, Envelope.decode_announcement a, Beacon.decode_announcement a⟩⟩

/-! ## Awkward messages -/

/-- Quotes, backslashes, control characters and a character outside the basic plane, at the first time
of all. -/
def awkwardEnvelope : Envelope where
  path := "/\"a\\b\""
  payload := "\x00\n\x1f\x7f😀"
  source := ⟨"\t\u2028"⟩
  timestamp := -(twoTo 63 : Int)

/-- No name, the last time of all and the first. -/
def awkwardBeacon : Beacon where
  node := ⟨""⟩
  lastBeat := (twoTo 63 : Int) - 1
  startedAt := -(twoTo 63 : Int)

/-- A name that would be a tag if its quotes were not escaped. -/
def awkwardAnnouncement : Announcement := .leave ⟨"n\",\"type\":\"join😀"⟩

theorem awkward_understood :
    (Envelope.decode awkwardEnvelope.encode = .ok awkwardEnvelope ∧
      (∃ f, Beacon.decode awkwardEnvelope.encode = .error f) ∧
        ∃ f, Announcement.decode awkwardEnvelope.encode = .error f) ∧
    (Beacon.decode awkwardBeacon.encode = .ok awkwardBeacon ∧
      (∃ f, Envelope.decode awkwardBeacon.encode = .error f) ∧
        ∃ f, Announcement.decode awkwardBeacon.encode = .error f) ∧
    (Announcement.decode awkwardAnnouncement.encode = .ok awkwardAnnouncement ∧
      (∃ f, Envelope.decode awkwardAnnouncement.encode = .error f) ∧
        ∃ f, Beacon.decode awkwardAnnouncement.encode = .error f) :=
  understood_by_own_reader _ ⟨by decide, by decide⟩ ⟨by decide, by decide⟩ ⟨by decide, by decide⟩

end SessionHub

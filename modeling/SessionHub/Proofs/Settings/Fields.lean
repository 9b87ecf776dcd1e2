import SessionHub.Proofs.Settings.Groups
import SessionHub.Settings.Environment

/-!
# The fields of the settings

Every setting is a **field** of one of three groups. A field has a name in the settings file, a kind of
value, and perhaps a variable of the environment, with a way to read the variable's text. Its value in a
group is written as a document, so that all fields are spoken of alike; a group is known by the values of
its fields.

The tables of fields stand here by themselves, and what reads a group out of a document is faithful to
them (`ServerSettings.faithful` and the two after it).
-/

namespace SessionHub

open Json (Mismatch)

variable {α : Type}

/-! ## Kinds of value -/

/-- A kind of value. A number is below a bound. -/
inductive Kind where
  | text
  | flag
  | number (bound : Nat)

/-- Whether a document is a value of a kind. -/
def Kind.Admits : Kind → Json → Prop
  | .text, v => ∃ t, v = .str t
  | .flag, v => ∃ b, v = .bool b
  | .number bound, v => ∃ n, n < bound ∧ v = .nat n

/-- A text, unless it is empty. -/
def heldText (text : String) : Option Json := if text = "" then none else some (.str text)

/-- A truth value in one of its four spellings, upper or lower case. -/
def heldFlag (text : String) : Option Json :=
  if text.map Char.toLower ∈ ["true", "1", "yes", "on"] then some (.bool true)
  else if text.map Char.toLower ∈ ["false", "0", "no", "off"] then some (.bool false)
  else none

/-- The number that a text writes in decimal digits, behind a plus sign or without one. -/
def numeral? (text : String) : Option Nat :=
  match text.toList with
  | [] => none
  | ['+'] => none
  | '+' :: digits => Text.decimalFrom 0 digits
  | digits => Text.decimalFrom 0 digits

/-- A number from one to a highest one. -/
def heldNumber (high : Nat) (text : String) : Option Json :=
  ((numeral? text).filter fun n => 1 ≤ n && n ≤ high).map .nat

theorem heldFlag_eq (text : String) : (parseBool? text).map Json.bool = heldFlag text := by
  unfold parseBool? heldFlag
  simp only [List.mem_cons, List.not_mem_nil, or_false]
  split
  · rfl
  · split <;> rfl

theorem unsigned?_eq (bound : Nat) (text : String) :
    Text.unsigned? bound text = (numeral? text).filter (· < bound) := by
  unfold Text.unsigned? numeral?
  split
  · rename_i digits signed
    rw [signed]
    cases digits <;> rfl
  · rename_i unsigned
    cases chars : text.toList with
    | nil => rfl
    | cons c digits =>
      have bare : c ≠ '+' := by
        rintro rfl
        exact unsigned digits chars
      split
      · rename_i nothing
        nomatch nothing
      · rename_i same
        exact absurd (List.cons.inj same).1 bare
      · rename_i same
        exact absurd (List.cons.inj same).1 bare
      · rfl

/-- Above the highest number the bound of the type does not matter. -/
theorem heldNumber_eq {bound high : Nat} (room : high < bound) (text : String) :
    (parseNat? bound 1 high text).map Json.nat = heldNumber high text := by
  rw [parseNat?, unsigned?_eq, heldNumber, Option.filter_filter]
  congr 2
  funext n
  by_cases small : n ≤ high
  · simp [small, Nat.lt_of_le_of_lt small room]
  · simp [small]

/-! ## Fields -/

/-- A field of a group. -/
structure Field (α : Type) where
  name : String
  kind : Kind
  /-- Its value in a group. -/
  value : α → Json
  /-- The variable that stands above it, and what a text of the variable holds. -/
  above : Option (String × (String → Option Json)) := none

/-- What documents show of a field. -/
def Field.aspect (f : Field α) : Aspect α where
  name := f.name
  admits := f.kind.Admits
  shows v g := f.value g = v

theorem map_eq_ok {β : Type} {read : Except Mismatch β} {change : β → α} {g : α}
    (h : read.map change = .ok g) : ∃ x, read = .ok x ∧ change x = g := by
  cases read with
  | error m => nomatch h
  | ok x => exact ⟨x, rfl, Except.ok.inj h⟩

theorem textSetting_eq_ok {v : Json} {t : String} : textSetting v = .ok t ↔ v = .str t := by
  cases v <;> simp [textSetting]

theorem boolSetting_eq_ok {v : Json} {b : Bool} : boolSetting v = .ok b ↔ v = .bool b := by
  cases v <;> simp [boolSetting]

theorem natSetting_eq_ok {expected : String} {bound : Nat} {v : Json} {n : Nat} :
    natSetting expected bound v = .ok n ↔ n < bound ∧ v = .nat n := by
  unfold natSetting
  split
  · rename_i m
    split
    · rename_i range
      simp only [Except.ok.injEq, Json.nat, Json.num.injEq, Json.Number.int.injEq]
      omega
    · rename_i range
      simp only [reduceCtorEq, Json.nat, Json.num.injEq, Json.Number.int.injEq, false_iff]
      omega
  · rename_i other
    simp only [reduceCtorEq, false_iff, not_and]
    exact fun _ same => other n same

section Puts

variable {name : String} {value : α → Json} {held : Option (String × (String → Option Json))}

theorem puts_text {set : String → α → α} (valued : ∀ t g, value (set t g) = .str t) :
    Setting.Puts ⟨name, fun v g => (textSetting v).map fun t => set t g⟩
      (Field.aspect ⟨name, .text, value, held⟩) where
  name := rfl
  shown put := by
    obtain ⟨t, read, rfl⟩ := map_eq_ok put
    obtain rfl := textSetting_eq_ok.mp read
    exact ⟨⟨t, rfl⟩, valued t _⟩
  able := by
    rintro v ⟨t, rfl⟩ g
    exact ⟨set t g, rfl⟩

theorem puts_flag {set : Bool → α → α} (valued : ∀ b g, value (set b g) = .bool b) :
    Setting.Puts ⟨name, fun v g => (boolSetting v).map fun b => set b g⟩
      (Field.aspect ⟨name, .flag, value, held⟩) where
  name := rfl
  shown put := by
    obtain ⟨b, read, rfl⟩ := map_eq_ok put
    obtain rfl := boolSetting_eq_ok.mp read
    exact ⟨⟨b, rfl⟩, valued b _⟩
  able := by
    rintro v ⟨b, rfl⟩ g
    exact ⟨set b g, rfl⟩

theorem puts_number {expected : String} {bound : Nat} {set : Nat → α → α}
    (valued : ∀ n g, value (set n g) = .nat n) :
    Setting.Puts ⟨name, fun v g => (natSetting expected bound v).map fun n => set n g⟩
      (Field.aspect ⟨name, .number bound, value, held⟩) where
  name := rfl
  shown put := by
    obtain ⟨n, read, rfl⟩ := map_eq_ok put
    obtain ⟨small, rfl⟩ := natSetting_eq_ok.mp read
    exact ⟨⟨n, small, rfl⟩, valued n _⟩
  able := by
    rintro v ⟨n, small, rfl⟩ g
    have read : natSetting expected bound (.nat n) = .ok n := natSetting_eq_ok.mpr ⟨small, rfl⟩
    exact ⟨set n g, congrArg (Except.map fun n => set n g) read⟩

end Puts

/-! ## The tables -/

namespace ServerSettings

def fields : List (Field ServerSettings) := [
  ⟨"host", .text, fun s => .str s.host, some ("SWITCHBOARD_HOST", heldText)⟩,
  ⟨"port", .number (twoTo 16), fun s => .nat s.port, some ("SWITCHBOARD_PORT", heldNumber 65535)⟩,
  ⟨"sendQueueCapacity", .number (twoTo 64), fun s => .nat s.sendQueueCapacity, none⟩,
  ⟨"maxMessageSize", .number (twoTo 64), fun s => .nat s.maxMessageSize, none⟩,
  ⟨"handlerTimeoutMs", .number (twoTo 64), fun s => .nat s.handlerTimeoutMs, none⟩,
  ⟨"shutdownTimeoutMs", .number (twoTo 64), fun s => .nat s.shutdownTimeoutMs, none⟩]

end ServerSettings

namespace ClusterSettings

def fields : List (Field ClusterSettings) := [
  ⟨"enabled", .flag, fun s => .bool s.enabled, some ("SWITCHBOARD_CLUSTER_ENABLED", heldFlag)⟩,
  ⟨"sessionTimeoutMs", .number (twoTo 64), fun s => .nat s.sessionTimeoutMs,
    some ("SWITCHBOARD_SESSION_TIMEOUT_MS", heldNumber 86400000)⟩,
  ⟨"heartbeatIntervalMs", .number (twoTo 64), fun s => .nat s.heartbeatIntervalMs,
    some ("SWITCHBOARD_HEARTBEAT_INTERVAL_MS", heldNumber 86400000)⟩,
  ⟨"storeUrl", .text, fun s => .str s.storeUrl, some ("SWITCHBOARD_STORE_URL", heldText)⟩,
  ⟨"keyPrefix", .text, fun s => .str s.keyPrefix, some ("SWITCHBOARD_KEY_PREFIX", heldText)⟩,
  ⟨"storeTimeoutMs", .number (twoTo 64), fun s => .nat s.storeTimeoutMs, none⟩]

end ClusterSettings

namespace LoggingSettings

def fields : List (Field LoggingSettings) := [
  ⟨"level", .text, fun s => .str s.level, some ("SWITCHBOARD_LOG_LEVEL", heldText)⟩,
  ⟨"json", .flag, fun s => .bool s.json, none⟩]

end LoggingSettings

/-- Two groups that show the same have the same values. -/
theorem value_eq_of_shows {fields : List (Field α)} {g g' : α}
    (same : ∀ a ∈ fields.map Field.aspect, ∃ v, a.shows v g ∧ a.shows v g') :
    ∀ f ∈ fields, f.value g = f.value g' := by
  intro f hf
  obtain ⟨v, here, there⟩ := same f.aspect (List.mem_map_of_mem hf)
  exact Eq.trans here there.symm

/-- **The settings of the listener put the values of its fields**, each its own and no other. -/
theorem ServerSettings.faithful : Faithful settings (fields.map Field.aspect) where
  distinct := by decide
  puts := .cons (puts_text fun _ _ => rfl) (.cons (puts_number fun _ _ => rfl)
    (.cons (puts_number fun _ _ => rfl) (.cons (puts_number fun _ _ => rfl)
      (.cons (puts_number fun _ _ => rfl) (.cons (puts_number fun _ _ => rfl) .nil)))))
  leaves := by
    simp only [settings, fields, List.map_cons, List.map_nil, List.forall_mem_cons, Field.aspect]
    refine ⟨?_, ?_, ?_, ?_, ?_, ?_, nofun⟩ <;> refine ⟨?_, ?_, ?_, ?_, ?_, ?_, nofun⟩ <;>
      intro other v g g' put w shown <;> first
        | exact absurd rfl other
        | obtain ⟨x, _, rfl⟩ := map_eq_ok put
          exact shown
  known g g' same := by
    have equal := value_eq_of_shows same
    simp only [fields, List.forall_mem_cons, Json.str.injEq, Json.nat, Json.num.injEq,
      Json.Number.int.injEq, Int.ofNat_inj] at equal
    obtain ⟨host, port, queue, message, handler, shutdown, _⟩ := equal
    cases g
    cases g'
    simp only [ServerSettings.mk.injEq]
    exact ⟨host, port, queue, message, handler, shutdown⟩

theorem ClusterSettings.faithful : Faithful settings (fields.map Field.aspect) where
  distinct := by decide
  puts := .cons (puts_flag fun _ _ => rfl) (.cons (puts_number fun _ _ => rfl)
    (.cons (puts_number fun _ _ => rfl) (.cons (puts_text fun _ _ => rfl)
      (.cons (puts_text fun _ _ => rfl) (.cons (puts_number fun _ _ => rfl) .nil)))))
  leaves := by
    simp only [settings, fields, List.map_cons, List.map_nil, List.forall_mem_cons, Field.aspect]
    refine ⟨?_, ?_, ?_, ?_, ?_, ?_, nofun⟩ <;> refine ⟨?_, ?_, ?_, ?_, ?_, ?_, nofun⟩ <;>
      intro other v g g' put w shown <;> first
        | exact absurd rfl other
        | obtain ⟨x, _, rfl⟩ := map_eq_ok put
          exact shown
  known g g' same := by
    have equal := value_eq_of_shows same
    simp only [fields, List.forall_mem_cons, Json.str.injEq, Json.bool.injEq, Json.nat, Json.num.injEq,
      Json.Number.int.injEq, Int.ofNat_inj] at equal
    obtain ⟨enabled, session, heartbeat, url, start, store, _⟩ := equal
    cases g
    cases g'
    simp only [ClusterSettings.mk.injEq]
    exact ⟨enabled, session, heartbeat, url, start, store⟩

theorem LoggingSettings.faithful : Faithful settings (fields.map Field.aspect) where
  distinct := by decide
  puts := .cons (puts_text fun _ _ => rfl) (.cons (puts_flag fun _ _ => rfl) .nil)
  leaves := by
    simp only [settings, fields, List.map_cons, List.map_nil, List.forall_mem_cons, Field.aspect]
    refine ⟨?_, ?_, nofun⟩ <;> refine ⟨?_, ?_, nofun⟩ <;>
      intro other v g g' put w shown <;> first
        | exact absurd rfl other
        | obtain ⟨x, _, rfl⟩ := map_eq_ok put
          exact shown
  known g g' same := by
    have equal := value_eq_of_shows same
    simp only [fields, List.forall_mem_cons, Json.str.injEq, Json.bool.injEq] at equal
    obtain ⟨level, json, _⟩ := equal
    cases g
    cases g'
    simp only [LoggingSettings.mk.injEq]
    exact ⟨level, json⟩

/-! ## The groups -/

/-- What a document shows of one of the three groups: whatever the group's reader makes of it. -/
def groupAspect {β : Type} (name : String) (read : Json → Except Mismatch β) (part : α → β) : Aspect α where
  name
  admits v := ∃ x, read v = .ok x
  shows v s := read v = .ok (part s)

theorem puts_group {β : Type} {name : String} {read : Json → Except Mismatch β} {part : α → β}
    {set : β → α → α} (valued : ∀ x s, part (set x s) = x) :
    Setting.Puts ⟨name, fun v s => (read v).map fun x => set x s⟩ (groupAspect name read part) where
  name := rfl
  shown put := by
    obtain ⟨x, read, rfl⟩ := map_eq_ok put
    exact ⟨⟨x, read⟩, read.trans (congrArg Except.ok (valued x _).symm)⟩
  able := by
    rintro v ⟨x, read⟩ s
    exact ⟨set x s, congrArg (Except.map fun x => set x s) read⟩

/-- What documents show of all settings. -/
def Settings.aspects : List (Aspect Settings) := [
  groupAspect "server" ServerSettings.ofJson Settings.server,
  groupAspect "cluster" ClusterSettings.ofJson Settings.cluster,
  groupAspect "logging" LoggingSettings.ofJson Settings.logging]

theorem Settings.faithful : Faithful groups aspects where
  distinct := by decide
  puts := .cons (puts_group fun _ _ => rfl) (.cons (puts_group fun _ _ => rfl)
    (.cons (puts_group fun _ _ => rfl) .nil))
  leaves := by
    simp only [groups, aspects, List.forall_mem_cons, groupAspect]
    refine ⟨?_, ?_, ?_, nofun⟩ <;> refine ⟨?_, ?_, ?_, nofun⟩ <;>
      intro other v g g' put w shown <;> first
        | exact absurd rfl other
        | obtain ⟨x, _, rfl⟩ := map_eq_ok put
          exact shown
  known s s' same := by
    simp only [aspects, List.forall_mem_cons, groupAspect] at same
    obtain ⟨⟨_, server, server'⟩, ⟨_, cluster, cluster'⟩, ⟨_, logging, logging'⟩, _⟩ := same
    cases s
    cases s'
    simp only [Settings.mk.injEq]
    exact ⟨Except.ok.inj (server.symm.trans server'), Except.ok.inj (cluster.symm.trans cluster'),
      Except.ok.inj (logging.symm.trans logging')⟩

end SessionHub

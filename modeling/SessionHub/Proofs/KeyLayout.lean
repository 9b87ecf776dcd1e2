import SessionHub.KeyLayout
import SessionHub.Proofs.Glob

/-!
# The names of a cluster

Whoever listens to a cluster's broadcasts hears the channel of every path, and can tell the path from
the channel. Neither depends on what characters the prefix and the path are made of.

Of two clusters with different prefixes neither has a channel of the other: the channel of a path or of
the announcements tells whose it is. Their keys are not as well apart. Where one cluster looks for
records, keys of another may stand, and `Trespasses` says of which two clusters this is true.
-/

namespace SessionHub

theorem behind?_append (start text : List Char) : behind? start (start ++ text) = some text := by
  induction start with
  | nil => rfl
  | cons c start ih => rw [List.cons_append, behind?, if_pos rfl, ih]

theorem eq_append_of_behind? {start text rest : List Char} (h : behind? start text = some rest) :
    text = start ++ rest := by
  induction start generalizing text with
  | nil => exact Option.some.inj h
  | cons c start ih =>
    cases text with
    | nil => nomatch h
    | cons d text =>
      rw [behind?] at h
      split at h
      · rename_i same
        rw [same, ih h, List.cons_append]
      · nomatch h

namespace KeyLayout

/-- **The path is told from the channel.** -/
theorem channelPath?_broadcastChannel (keys : KeyLayout) (path : String) :
    keys.channelPath? (keys.broadcastChannel path) = some path := by
  have channel : (keys.broadcastChannel path).toList
      = (keys.start ++ ":broadcast:").toList ++ path.toList := String.toList_append
  rw [channelPath?, channel, behind?_append, Option.map_some, String.ofList_toList]

/-- **A channel is read as a path's exactly if it is the channel of that path.** -/
theorem channelPath?_eq_some_iff {keys : KeyLayout} {channel path : String} :
    keys.channelPath? channel = some path ↔ channel = keys.broadcastChannel path := by
  constructor
  · intro told
    obtain ⟨rest, behind, rfl⟩ := Option.map_eq_some_iff.mp told
    apply String.toList_inj.mp
    rw [eq_append_of_behind? behind]
    simp [broadcastChannel]
  · rintro rfl
    exact channelPath?_broadcastChannel keys path

/-- The pattern of all broadcast channels is the beginning that they share, escaped, and any run. -/
theorem broadcastPattern_eq (keys : KeyLayout) :
    keys.broadcastPattern = Glob.escape (keys.start ++ ":broadcast:") ++ "*" := by
  have plain : Glob.escapeChars ":broadcast:".toList = ":broadcast:".toList := by decide
  apply String.toList_inj.mp
  simp only [broadcastPattern, Glob.escape, String.toList_append, String.toList_ofList,
    Glob.escapeChars_append, plain, List.append_assoc]
  rfl

/-- **Every path's channel is heard.** -/
theorem matches_broadcastChannel (keys : KeyLayout) (path : String) :
    Glob.matches_ keys.broadcastPattern (keys.broadcastChannel path) = true := by
  rw [broadcastPattern_eq, Glob.matches_escape_run_iff]
  exact ⟨path.toList, String.toList_append.symm⟩

/-- **No route is kept where a node's record is**: no key of a record begins as the keys of routes do. -/
theorem not_routeStart_prefix_nodeKey (keys : KeyLayout) (node : NodeId) :
    ¬ keys.routeStart.toList <+: (keys.nodeKey node).toList := by
  intro h
  obtain ⟨text, same⟩ := h
  have lists : keys.start.toList ++ (":route:".toList ++ text)
      = keys.start.toList ++ (":node:".toList ++ node.text.toList) := by
    simpa only [nodeKey, nodeStart, routeStart, String.toList_append, List.append_assoc] using same
  have rest := List.append_cancel_left lists
  exact absurd (List.cons.inj (List.cons.inj rest).2).1 (by decide)

theorem nodeKey_ne_routeKey (keys : KeyLayout) (node : NodeId) (path : String)
    (session : SessionId) : keys.nodeKey node ≠ keys.routeKey path session := by
  intro same
  refine keys.not_routeStart_prefix_nodeKey node ?_
  rw [same, routeKey, String.toList_append, String.toList_append, String.toList_append]
  simp only [List.append_assoc, List.prefix_append]

/-- Records of two nodes are kept apart. -/
theorem nodeKey_inj {keys : KeyLayout} {a b : NodeId} (same : keys.nodeKey a = keys.nodeKey b) :
    a = b := by
  have lists : keys.nodeStart.toList ++ a.text.toList = keys.nodeStart.toList ++ b.text.toList := by
    simpa only [nodeKey, String.toList_append] using congrArg String.toList same
  have text : a.text = b.text := String.toList_inj.mp (List.append_cancel_left lists)
  cases a
  cases b
  exact congrArg NodeId.mk text

/-! ## Two clusters -/

variable {p q : KeyLayout}

theorem eq_of_append (rest : String) (same : p.start ++ rest = q.start ++ rest) : p = q := by
  have lists : p.start.toList ++ rest.toList = q.start.toList ++ rest.toList := by
    rw [← String.toList_append, ← String.toList_append, same]
  have start : p.start = q.start := String.toList_inj.mp (List.append_cancel_right lists)
  cases p
  cases q
  exact congrArg KeyLayout.mk start

/-- **The channel of announcements tells whose it is.** -/
theorem controlChannel_inj (same : p.controlChannel = q.controlChannel) : p = q :=
  eq_of_append _ same

/-- And so does the channel of a path, to whoever knows the path. -/
theorem eq_of_channelPath? {path : String}
    (told : p.channelPath? (q.broadcastChannel path) = some path) : p = q := by
  have channel : q.broadcastChannel path = p.broadcastChannel path := channelPath?_eq_some_iff.mp told
  refine (eq_of_append (":broadcast:" ++ path) ?_).symm
  rw [← String.append_assoc, ← String.append_assoc]
  exact channel

/-- **Who listens to a cluster's announcements hears no other channel.** -/
theorem matches_controlPattern_iff {channel : String} :
    Glob.matches_ p.controlPattern channel = true ↔ channel = p.controlChannel :=
  Glob.matches_escape_iff ..

/-- Keys of one cluster may stand where another looks for records: the names of the one all stand there,
or the prefix of the other goes on where a record or a route of the one may. -/
def Trespasses (q p : KeyLayout) : Prop :=
  p.nodeStart.toList <+: (q.start ++ ":").toList ∨ q.nodeStart.toList <+: (p.start ++ ":").toList ∨
    q.routeStart.toList <+: (p.start ++ ":").toList

instance (q p : KeyLayout) : Decidable (Trespasses q p) := by
  unfold Trespasses
  infer_instance

/-- Two beginnings of one text, the first of which goes on with a word between colons: if the second is
the longer one, it goes on behind the word. -/
theorem prefix_of_longer {a b word text : List Char} (plain : ':' ∉ word)
    (shorter : a.length < b.length) (first : a ++ ':' :: (word ++ [':']) <+: text)
    (second : b ++ [':'] <+: text) : a ++ ':' :: (word ++ [':']) <+: b ++ [':'] := by
  rcases List.prefix_or_prefix_of_prefix first second with here | here
  · exact here
  obtain ⟨rest, whole⟩ := here
  obtain ⟨c, rfl⟩ : a <+: b := List.prefix_of_prefix_length_le (List.prefix_append ..)
    (⟨':' :: rest, by simpa using whole⟩ : b <+: a ++ ':' :: (word ++ [':'])) (Nat.le_of_lt shorter)
  simp only [List.append_assoc, List.append_cancel_left_eq] at whole
  cases c with
  | nil => exact absurd shorter (by simp)
  | cons x c =>
    obtain ⟨rfl, inner⟩ := List.cons.inj whole
    -- The colon behind the longer beginning is the one behind the word, for the word has none.
    rcases List.eq_nil_or_concat rest with rfl | ⟨rest, last, rfl⟩
    · obtain rfl := List.append_cancel_right inner
      simp
    · have inside : (c ++ ':' :: rest) ++ [last] = word ++ [':'] := by simpa using inner
      obtain rfl := (List.append_inj' inside rfl).1
      exact absurd plain (by simp)

/-- Where a name of one cluster stands among another's records, one of their prefixes goes on behind
the other. -/
theorem prefix_or_prefix (distinct : p ≠ q) {word text : List Char} (plain : ':' ∉ word)
    (record : p.nodeStart.toList <+: text) (name : q.start.toList ++ ':' :: (word ++ [':']) <+: text) :
    p.nodeStart.toList <+: (q.start ++ ":").toList ∨
      q.start.toList ++ ':' :: (word ++ [':']) <+: (p.start ++ ":").toList := by
  have node : p.nodeStart.toList = p.start.toList ++ ':' :: (['n', 'o', 'd', 'e'] ++ [':']) :=
    String.toList_append
  have colon : ∀ k : KeyLayout, (k.start ++ ":").toList = k.start.toList ++ [':'] :=
    fun k => String.toList_append
  rw [node] at record ⊢
  rw [colon, colon]
  have within : ∀ {a more : List Char}, a ++ ':' :: more <+: text → a ++ [':'] <+: text :=
    fun {a more} h => List.IsPrefix.trans ⟨more, by simp⟩ h
  rcases Nat.lt_trichotomy p.start.toList.length q.start.toList.length with less | same | more
  · exact .inl (prefix_of_longer (by decide) less record (within name))
  · have starts : p.start.toList = q.start.toList :=
      (List.prefix_of_prefix_length_le ((List.prefix_append ..).trans record)
        ((List.prefix_append ..).trans name) (Nat.le_of_eq same)).eq_of_length same
    exact absurd (eq_of_append "" (by rw [String.toList_inj.mp starts])) distinct
  · exact .inr (prefix_of_longer plain more name (within record))

/-- **If a record stands among another cluster's, its cluster trespasses.** -/
theorem trespasses_of_nodeKey (distinct : p ≠ q) {node : NodeId}
    (found : p.nodeStart.toList <+: (q.nodeKey node).toList) : Trespasses q p := by
  have start : q.nodeStart.toList = q.start.toList ++ ':' :: (['n', 'o', 'd', 'e'] ++ [':']) :=
    String.toList_append
  have name : q.nodeStart.toList <+: (q.nodeKey node).toList := by
    rw [nodeKey, String.toList_append]
    exact List.prefix_append ..
  rw [start] at name
  rcases prefix_or_prefix distinct (by decide) found name with here | here
  · exact .inl here
  · exact .inr (.inl (start ▸ here))

/-- **If a route does, too.** -/
theorem trespasses_of_routeKey (distinct : p ≠ q) {path : String} {session : SessionId}
    (found : p.nodeStart.toList <+: (q.routeKey path session).toList) : Trespasses q p := by
  have start : q.routeStart.toList = q.start.toList ++ ':' :: (['r', 'o', 'u', 't', 'e'] ++ [':']) :=
    String.toList_append
  have name : q.routeStart.toList <+: (q.routeKey path session).toList := by
    rw [routeKey, String.toList_append, String.toList_append, String.toList_append, List.append_assoc,
      List.append_assoc]
    exact List.prefix_append ..
  rw [start] at name
  rcases prefix_or_prefix distinct (by decide) found name with here | here
  · exact .inl here
  · exact .inr (.inr (start ▸ here))

/-- **A cluster that trespasses has a key among the other's records**, of a record or of a route. -/
theorem Trespasses.exists_key (h : Trespasses q p) :
    (∃ node, p.nodeStart.toList <+: (q.nodeKey node).toList) ∨
      ∃ path session, p.nodeStart.toList <+: (q.routeKey path session).toList := by
  have split : p.nodeStart.toList = (p.start ++ ":").toList ++ "node:".toList := by simp [nodeStart]
  rcases h with inside | ⟨rest, goes⟩ | ⟨rest, goes⟩
  · refine .inl ⟨⟨""⟩, inside.trans ?_⟩
    simp [nodeKey, nodeStart]
  · refine .inl ⟨⟨String.ofList (rest ++ "node:".toList)⟩, ?_⟩
    rw [split, ← goes, nodeKey]
    simp
  · refine .inr ⟨String.ofList (rest ++ "node".toList), ⟨""⟩, ?_⟩
    rw [split, ← goes, routeKey]
    simp

end KeyLayout

end SessionHub

import SessionHub.Proofs.KeyLayout

/-!
# Names are read as they are written

Keys and channels are written in one way and read in three: a route is taken apart again, a path is told
from its channel, and patterns pick the channels to listen to. A prefix and a path may be made of any
characters, those that divide a name and those that mean something in a pattern among them.

`names_exact` says that all the same nothing is misread. What is read as a route is the key of that
route, for the name of a session holds no colon; what a pattern picks is what can be read as a channel;
and the word behind the prefix tells names of one family from those of another.
-/

namespace SessionHub

variable {mark : Char} {text before after : List Char}

theorem splitLast?_eq_none_iff : splitLast? mark text = none ↔ mark ∉ text := by
  induction text with
  | nil => simp [splitLast?]
  | cons c text ih =>
    rw [splitLast?, List.mem_cons, not_or, ← ih]
    cases inner : splitLast? mark text with
    | some parts => simp
    | none =>
      dsimp only
      split
      · rename_i same
        simp [same]
      · rename_i other
        simpa using Ne.symm other

theorem splitLast?_append (before : List Char) (last : mark ∉ after) :
    splitLast? mark (before ++ mark :: after) = some (before, after) := by
  induction before with
  | nil => rw [List.nil_append, splitLast?, splitLast?_eq_none_iff.mpr last]; exact if_pos rfl
  | cons c before ih => rw [List.cons_append, splitLast?, ih]

/-- **A text is divided at its last mark.** -/
theorem splitLast?_eq_some_iff :
    splitLast? mark text = some (before, after) ↔ text = before ++ mark :: after ∧ mark ∉ after := by
  constructor
  · intro divided
    induction text generalizing before with
    | nil => exact nomatch divided
    | cons c text ih =>
      rw [splitLast?] at divided
      cases inner : splitLast? mark text with
      | some parts =>
        obtain ⟨first, rest⟩ := parts
        rw [inner] at divided
        obtain ⟨rfl, rfl⟩ := Prod.mk.inj (Option.some.inj divided)
        obtain ⟨rfl, last⟩ := ih inner
        exact ⟨rfl, last⟩
      | none =>
        rw [inner] at divided
        obtain ⟨rfl, whole⟩ := Option.ite_none_right_eq_some.mp divided
        obtain ⟨rfl, rfl⟩ := Prod.mk.inj (Option.some.inj whole)
        exact ⟨rfl, splitLast?_eq_none_iff.mp inner⟩
  · intro h
    obtain ⟨rfl, last⟩ := h
    exact splitLast?_append before last

namespace KeyLayout

variable {keys : KeyLayout}

/-- **A key is read as a route exactly if it is the key of that route**, of a session with a name that
holds no colon. -/
theorem route?_eq_some_iff {key path : String} {session : SessionId} :
    keys.route? key = some (path, session) ↔
      key = keys.routeKey path session ∧ session.text ≠ "" ∧ ':' ∉ session.text.toList := by
  have written : (keys.routeKey path session).toList
      = keys.routeStart.toList ++ (path.toList ++ ':' :: session.text.toList) := by
    simp [routeKey]
  constructor
  · intro read
    obtain ⟨rest, behind, read⟩ := Option.bind_eq_some_iff.mp read
    obtain ⟨⟨before, after⟩, divided, read⟩ := Option.bind_eq_some_iff.mp read
    dsimp only at read
    split at read
    · exact absurd read (Option.some_ne_none _).symm
    · rename_i named
      obtain ⟨rfl, rfl⟩ := Prod.mk.inj (Option.some.inj read)
      obtain ⟨rfl, last⟩ := splitLast?_eq_some_iff.mp divided
      refine ⟨String.toList_inj.mp ?_, by simpa using named, by simpa using last⟩
      rw [eq_append_of_behind? behind, written]
      simp
  · intro h
    obtain ⟨rfl, named, last⟩ := h
    rw [route?, written, behind?_append]
    show (splitLast? ':' (path.toList ++ ':' :: session.text.toList)).bind _ = _
    rw [splitLast?_append _ last]
    show (if session.text.toList.isEmpty = true then none else _) = _
    rw [if_neg (by simpa using named), String.ofList_toList, String.ofList_toList]

/-- **Who listens to the broadcasts hears the channels that are read as a path's.** -/
theorem matches_broadcastPattern_iff {channel : String} :
    Glob.matches_ keys.broadcastPattern channel = true ↔ ∃ path, keys.channelPath? channel = some path := by
  rw [broadcastPattern_eq, Glob.matches_escape_run_iff]
  constructor
  · intro h
    obtain ⟨rest, whole⟩ := h
    exact ⟨String.ofList rest, by rw [channelPath?, ← whole, behind?_append, Option.map_some]⟩
  · intro h
    obtain ⟨path, told⟩ := h
    obtain ⟨rest, behind, -⟩ := Option.map_eq_some_iff.mp told
    exact ⟨rest, (eq_append_of_behind? behind).symm⟩

/-! ## Families of names -/

/-- What a cluster has names for. -/
inductive Named where
  | record (node : NodeId)
  | route (path : String) (session : SessionId)
  | broadcasts (path : String)
  | announcements
  deriving Repr, DecidableEq

/-- A family of names: keys of records and of routes, channels of broadcasts and of announcements. -/
inductive Family where
  | node
  | route
  | broadcast
  | control
  deriving Repr, DecidableEq

def Named.family : Named → Family
  | .record _ => .node
  | .route .. => .route
  | .broadcasts _ => .broadcast
  | .announcements => .control

/-- The name of something in a cluster. -/
def name (keys : KeyLayout) : Named → String
  | .record node => keys.nodeKey node
  | .route path session => keys.routeKey path session
  | .broadcasts path => keys.broadcastChannel path
  | .announcements => keys.controlChannel

/-- The letter behind the prefix and a colon. -/
def Family.initial : Family → Char
  | .node => 'n'
  | .route => 'r'
  | .broadcast => 'b'
  | .control => 'c'

theorem Family.initial_inj {f g : Family} (same : f.initial = g.initial) : f = g := by
  cases f <;> cases g <;> first | rfl | exact absurd same (by decide)

theorem exists_initial (keys : KeyLayout) (x : Named) :
    ∃ rest, (keys.name x).toList = keys.start.toList ++ ':' :: x.family.initial :: rest := by
  cases x with
  | record node =>
    refine ⟨"ode:".toList ++ node.text.toList, ?_⟩
    simp [name, nodeKey, nodeStart, Named.family, Family.initial]
  | route path session =>
    refine ⟨"oute:".toList ++ path.toList ++ ":".toList ++ session.text.toList, ?_⟩
    simp [name, routeKey, routeStart, Named.family, Family.initial]
  | broadcasts path =>
    refine ⟨"roadcast:".toList ++ path.toList, ?_⟩
    simp [name, broadcastChannel, Named.family, Family.initial]
  | announcements =>
    refine ⟨"ontrol".toList, ?_⟩
    simp [name, controlChannel, Named.family, Family.initial]

/-- **A name of one family is none of another.** -/
theorem family_eq_of_name_eq {x y : Named} (same : keys.name x = keys.name y) : x.family = y.family := by
  obtain ⟨rest, hx⟩ := exists_initial keys x
  obtain ⟨rest', hy⟩ := exists_initial keys y
  rw [same, hy, List.append_cancel_left_eq] at hx
  exact (Family.initial_inj (List.cons.inj (List.cons.inj hx).2).1).symm

/-- **Names are exact**, whatever prefix they share. A route is read from its own key and from no other
text; the pattern of all broadcasts picks what is read as the channel of a path, and that is the channel
of this path; the pattern of announcements picks their channel; and no name belongs to two families. -/
theorem names_exact (keys : KeyLayout) :
    (∀ key path session, keys.route? key = some (path, session) ↔
      key = keys.routeKey path session ∧ session.text ≠ "" ∧ ':' ∉ session.text.toList) ∧
    (∀ channel, (Glob.matches_ keys.broadcastPattern channel = true ↔
        ∃ path, keys.channelPath? channel = some path) ∧
      ∀ path, keys.channelPath? channel = some path ↔ channel = keys.broadcastChannel path) ∧
    (∀ channel, Glob.matches_ keys.controlPattern channel = true ↔ channel = keys.controlChannel) ∧
    ∀ x y : Named, keys.name x = keys.name y → x.family = y.family :=
  ⟨fun _ _ _ => route?_eq_some_iff,
    fun _ => ⟨matches_broadcastPattern_iff, fun _ => channelPath?_eq_some_iff⟩,
    fun _ => matches_controlPattern_iff, fun _ _ => family_eq_of_name_eq⟩

example : (⟨"a:route:*"⟩ : KeyLayout).route? "a:route:*:route:/rooms:lobby:s1"
    = some ("/rooms:lobby", ⟨"s1"⟩) := by decide

end KeyLayout

end SessionHub

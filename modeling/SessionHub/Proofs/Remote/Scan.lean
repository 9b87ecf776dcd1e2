import SessionHub.Proofs.Entries
import SessionHub.Proofs.Glob
import SessionHub.Remote.Scan

/-!
# Both stores scan alike

A store in memory looks through its table for the keys that begin in a way. A remote store is sent a
pattern instead, gives the keys in as many rounds as it likes, and is asked for their values at the
end. What the server owes is little: the rounds end, they name only keys that fit the pattern and
every key it holds that does, and it gives the values in the order in which it is asked for them. How
the keys are split, in which order they come, how often and in how many rounds, and which cursors the
rounds go by, is left to it.

Nothing else can come of it than what the store in memory finds: the pattern fits exactly the keys that
begin in the way, the keys are put in order and each is kept once, and a list of pairs in ascending
order of their keys is known by what is among them.
-/

namespace SessionHub.Remote

variable {holds : String → Option String} {start key k v : String} {keys : List String}

/-! ## Keys in order -/

theorem mem_insertKey : k ∈ insertKey key keys ↔ k = key ∨ k ∈ keys := by
  induction keys with
  | nil => exact List.mem_cons
  | cons other rest ih =>
    unfold insertKey
    split
    · exact List.mem_cons
    split
    · rename_i same
      subst same
      rw [List.mem_cons, ← or_assoc, or_self]
    · rw [List.mem_cons, ih, List.mem_cons, or_left_comm]

theorem insertKey_sorted (key : String) (sorted : keys.Pairwise (· < ·)) :
    (insertKey key keys).Pairwise (· < ·) := by
  induction keys with
  | nil => exact List.pairwise_singleton ..
  | cons other rest ih =>
    obtain ⟨least, sorted'⟩ := List.pairwise_cons.mp sorted
    unfold insertKey
    split
    · rename_i before
      refine List.pairwise_cons.mpr ⟨fun k hk => ?_, sorted⟩
      rcases List.mem_cons.mp hk with rfl | hk
      · exact before
      · exact String.lt_trans before (least k hk)
    split
    · exact sorted
    · rename_i notBefore other
      refine List.pairwise_cons.mpr ⟨fun k hk => ?_, ih sorted'⟩
      rcases mem_insertKey.mp hk with rfl | hk
      · exact Std.lt_of_le_of_ne (String.not_lt.mp notBefore) (Ne.symm other)
      · exact least k hk

theorem mem_ascending : k ∈ ascending keys ↔ k ∈ keys := by
  induction keys with
  | nil => exact Iff.rfl
  | cons key keys ih => rw [ascending, List.foldr_cons, mem_insertKey, ← ascending, ih, List.mem_cons]

/-- **The keys of a scan are in ascending order**, each once. -/
theorem ascending_sorted (keys : List String) : (ascending keys).Pairwise (· < ·) := by
  induction keys with
  | nil => exact .nil
  | cons key keys ih => exact insertKey_sorted key ih

namespace Scan

/-! ## Keys with their values -/

theorem pairs_map (keys : List String) (holds : String → Option String) :
    pairs keys (keys.map holds) = keys.filterMap fun k => (holds k).map fun v => (k, v) := by
  rw [pairs, ← List.map_prod_left_eq_zip, List.filterMap_map]
  rfl

theorem mem_pairs_map : (k, v) ∈ pairs keys (keys.map holds) ↔ k ∈ keys ∧ holds k = some v := by
  rw [pairs_map, List.mem_filterMap]
  constructor
  · rintro ⟨key, here, found⟩
    obtain ⟨v, value, same⟩ := Option.map_eq_some_iff.mp found
    obtain ⟨rfl, rfl⟩ := Prod.mk.inj same
    exact ⟨here, value⟩
  · rintro ⟨here, value⟩
    exact ⟨k, here, Option.map_eq_some_iff.mpr ⟨v, value, rfl⟩⟩

theorem pairs_map_ascending (sorted : keys.Pairwise (· < ·)) :
    Store.Ascending (pairs keys (keys.map holds)) := by
  rw [pairs_map, Store.Ascending, List.pairwise_filterMap]
  refine sorted.imp fun {a b} less e he e' he' => ?_
  obtain ⟨_, _, rfl⟩ := Option.map_eq_some_iff.mp he
  obtain ⟨_, _, rfl⟩ := Option.map_eq_some_iff.mp he'
  exact less

/-! ## The rounds -/

/-- The rounds of a scan that ends name all its keys. -/
theorem run_of_ends {more : List Batch} {last : Batch} (goesOn : ∀ b ∈ more, b.next ≠ 0)
    (ends : last.next = 0) (s : Scan) :
    run (more ++ [last]) s = some (ascending (s.found ++ (more ++ [last]).flatMap (·.keys))) := by
  induction more generalizing s with
  | nil =>
    rw [List.nil_append, run, receive, if_pos ends]
    simp
  | cons b more ih =>
    rw [List.cons_append, run, receive, if_neg (goesOn b List.mem_cons_self)]
    dsimp only
    rw [ih fun b here => goesOn b (List.mem_cons_of_mem _ here)]
    simp

/-- What a server answers from a command on that goes with a cursor: the first round, and to the next
command, which goes with the cursor that came with the round, the rounds after it. -/
def Answers (serve : Nat → Command → Except StoreFault Reply) (pattern : String) :
    (n cursor : Nat) → List Batch → Prop
  | _, _, [] => True
  | n, cursor, b :: rest =>
    (serve n ["SCAN", toString cursor, "MATCH", pattern, "COUNT", toString roundSize]).bind
        (·.read Batch.ofReply?) = .ok b
      ∧ Answers serve pattern (n + 1) b.next rest

/-- **What is assumed of a server** that is scanned for a pattern while what it holds does not
change. -/
structure Serves (holds : String → Option String) (pattern : String) (rounds : List Batch)
    (serve : Nat → Command → Except StoreFault Reply) : Prop where
  /-- It answers the scan with some rounds. -/
  answers : Answers serve pattern 0 0 rounds
  /-- The last of them, and no other, comes with the cursor zero. -/
  ends : ∃ more last, rounds = more ++ [last] ∧ (∀ b ∈ more, b.next ≠ 0) ∧ last.next = 0
  /-- A key that is named fits the pattern. -/
  only : ∀ b ∈ rounds, ∀ k ∈ b.keys, Glob.matches_ pattern k = true
  /-- A key with a value that fits the pattern is named. -/
  every : ∀ k, (holds k).isSome = true → Glob.matches_ pattern k = true → ∃ b ∈ rounds, k ∈ b.keys
  /-- Asked for the values of keys, it gives them in the order of the keys. -/
  values : ∀ n keys, keys ≠ [] → (serve n (valuesCommand keys)).bind valuesOf = .ok (keys.map holds)

variable {serve : Nat → Command → Except StoreFault Reply} {rounds : List Batch}

namespace Stage

/-- A scan that is over stays over. -/
theorem after_of_ended {n : Nat} {outcome : Except StoreFault (List (String × String))}
    (here : after serve start n = .ended outcome) : after serve start (n + 1) = .ended outcome := by
  rw [after, here]
  rfl

/-- A round that is answered. -/
theorem after_round {s : Scan} {n : Nat} {b : Batch} (here : after serve start n = .rounds s)
    (begins : s.start = start)
    (answers : Answers serve (pattern start) n s.cursor (b :: rounds)) :
    after serve start (n + 1) = (s.receive b).elim .rounds withKeys := by
  subst begins
  rw [after, here]
  show take (serve n s.command) (.rounds s) = _
  simp only [take, command, answers.1]
  cases s.receive b <;> rfl

/-- **The rounds that a server answers are the rounds of the scan.** -/
theorem after_run {s : Scan} {n : Nat} {more : List Batch} {last : Batch}
    (goesOn : ∀ b ∈ more, b.next ≠ 0) (ends : last.next = 0)
    (here : after serve start n = .rounds s) (begins : s.start = start)
    (answers : Answers serve (pattern start) n s.cursor (more ++ [last])) :
    ∃ found, run (more ++ [last]) s = some found ∧
      after serve start (n + (more ++ [last]).length) = withKeys found := by
  induction more generalizing s n with
  | nil =>
    have next := after_round here begins answers
    rw [receive, if_pos ends] at next
    refine ⟨_, ?_, next⟩
    rw [List.nil_append, run, receive, if_pos ends]
  | cons b more ih =>
    have on : b.next ≠ 0 := goesOn b List.mem_cons_self
    have next := after_round here begins answers
    rw [receive, if_neg on] at next
    obtain ⟨found, rest, asked⟩ :=
      ih (fun b here => goesOn b (List.mem_cons_of_mem _ here)) next begins answers.2
    refine ⟨found, ?_, ?_⟩
    · rw [List.cons_append, run, receive, if_neg on]
      exact rest
    · rw [List.cons_append, List.length_cons, Nat.add_comm _ 1, ← Nat.add_assoc]
      exact asked

/-- **Keys are asked for once, all together**; without keys nothing is. -/
theorem after_withKeys {n : Nat} (here : after serve start n = withKeys keys)
    (values : keys ≠ [] → (serve n (valuesCommand keys)).bind valuesOf = .ok (keys.map holds)) :
    after serve start (n + 1) = .ended (.ok (pairs keys (keys.map holds))) := by
  cases keys with
  | nil => exact after_of_ended here
  | cons key rest =>
    rw [after, here]
    show take (serve n (valuesCommand (key :: rest))) (.values (key :: rest)) = _
    rw [take, values (List.cons_ne_nil _ _)]
    rfl

end Stage

/-- **A scan comes to an end**, with the pairs that its rounds and its values make. -/
theorem Serves.ends_with (server : Serves holds (pattern start) rounds serve) :
    ∃ found, result start rounds (·.map holds) = some found ∧
      Stage.after serve start (rounds.length + 1) = .ended (.ok found) := by
  obtain ⟨more, last, rfl, goesOn, ends⟩ := server.ends
  have begun : Stage.after serve start 0 = .rounds { start } := rfl
  obtain ⟨keys, named, asked⟩ := Stage.after_run goesOn ends begun rfl server.answers
  refine ⟨pairs keys (keys.map holds), ?_, ?_⟩
  · rw [result, named]
    cases keys <;> rfl
  · rw [Nat.zero_add] at asked
    exact Stage.after_withKeys asked (server.values _ keys)

variable {s : Store} {now : Nat}

/-- The keys of all rounds, with their values, are what a store in memory finds that holds the
same. -/
theorem Serves.result_eq (server : Serves (s.value? now) (pattern start) rounds serve)
    (keyed : s.Keyed) : result start rounds (·.map (s.value? now)) = some (s.pairs now start) := by
  obtain ⟨more, last, rfl, goesOn, ends⟩ := server.ends
  let keys := ascending ((more ++ [last]).flatMap (·.keys))
  have fits : ∀ k, Glob.matches_ (pattern start) k = true ↔ Store.startsWith k start = true := by
    intro k
    rw [pattern, Glob.matches_escape_run_iff, Store.startsWith, List.isPrefixOf_iff_prefix]
  have named : ∀ k, k ∈ keys ↔ ∃ b ∈ more ++ [last], k ∈ b.keys := fun k =>
    mem_ascending.trans List.mem_flatMap
  have same : pairs keys (keys.map (s.value? now)) = s.pairs now start := by
    refine (pairs_map_ascending (ascending_sorted _)).ext (Store.pairs_ascending keyed now start) ?_
    rintro ⟨k, v⟩
    rw [mem_pairs_map, Store.mem_pairs_iff keyed, ← fits, named]
    constructor
    · rintro ⟨⟨b, round, here⟩, value⟩
      exact ⟨value, server.only b round k here⟩
    · rintro ⟨value, fit⟩
      exact ⟨server.every k (by rw [value]; rfl) fit, value⟩
  rw [result, run_of_ends goesOn ends, ← same]
  show some (if keys.isEmpty then [] else pairs keys (keys.map (s.value? now))) = _
  cases keys <;> rfl

/-- **Both stores scan alike.** Whatever a store in memory holds, and whatever the beginning: a scan of
a server that holds the same ends with what the store in memory answers, however the server splits its
keys. -/
theorem scan_alike (keyed : s.Keyed) (available : s.available = true)
    (server : Serves (s.value? now) (pattern start) rounds serve) :
    Stage.after serve start (rounds.length + 1) = .ended (s.serve now (.scan start)).1 := by
  obtain ⟨found, list, ended⟩ := server.ends_with
  obtain rfl := Option.some.inj (list.symm.trans (server.result_eq keyed))
  rw [ended, Store.serve, if_pos available]
  rfl

/-! ## A server that repeats itself -/

/-- Some values, one of them over at the time 10. -/
def shelf : Store where
  entries := [("a*b:2", ⟨"two", 90⟩), ("axb:3", ⟨"other", 90⟩), ("a*b", ⟨"one", 90⟩),
    ("a*b:0", ⟨"old", 10⟩)]

/-- Three rounds: one of them without keys, and one key in two of them. -/
def helpings : List Batch := [⟨17, ["a*b:2"]⟩, ⟨5, []⟩, ⟨0, ["a*b", "a*b:2"]⟩]

/-- A text as a server sends it. -/
def sent (text : String) : Reply := .octets (Text.utf8Bytes text.toList)

/-- The server of the shelf: each cursor brings its round. -/
def counter (_ : Nat) : Command → Except StoreFault Reply
  | "SCAN" :: cursor :: _ =>
    match [("0", 0), ("17", 1), ("5", 2)].lookup cursor with
    | some round =>
      let b := helpings.getD round default
      .ok (.list [sent (toString b.next), .list (b.keys.map sent)])
    | none => .ok (.failure "ERR invalid cursor")
  | "MGET" :: keys =>
    .ok (.list (keys.map fun k => ((shelf.value? 10 k).map sent).getD .nothing))
  | _ => .ok (.failure "ERR unknown command")

theorem valuesOf_list {items : List Reply} {values : List (Option String)}
    (each : items.mapM Reply.maybeText? = some values) : valuesOf (.list items) = .ok values := by
  simp only [valuesOf, Reply.read, Reply.items, each]

/-- Asked for the values of any keys, the server gives what is on the shelf. -/
theorem values_counter (n : Nat) (keys : List String) :
    (counter n (valuesCommand keys)).bind valuesOf = .ok (keys.map (shelf.value? 10)) := by
  have held : ∀ e ∈ shelf.entries, (sent e.2.value).maybeText? = some (some e.2.value) := by decide
  have each : ∀ k, (((shelf.value? 10 k).map sent).getD .nothing).maybeText?
      = some (shelf.value? 10 k) := by
    intro k
    cases found : shelf.value? 10 k with
    | none => rfl
    | some v =>
      obtain ⟨e, live, rfl⟩ := Option.map_eq_some_iff.mp found
      exact held (k, e) (mem_of_lookup (Option.filter_eq_some_iff.mp live).1)
  refine valuesOf_list ?_
  rw [List.mapM_map]
  simp only [Function.comp_def, each]
  exact List.mapM_pure

theorem serves_counter : Serves (shelf.value? 10) (pattern "a*b") helpings counter where
  answers := ⟨rfl, rfl, rfl, trivial⟩
  ends := ⟨helpings.take 2, ⟨0, ["a*b", "a*b:2"]⟩, rfl, by decide, rfl⟩
  only := by decide
  every k held fits := by
    have named : ∀ k ∈ shelf.entries.map (·.1), (shelf.value? 10 k).isSome = true →
        Glob.matches_ (pattern "a*b") k = true → ∃ b ∈ helpings, k ∈ b.keys := by decide
    obtain ⟨v, value⟩ := Option.isSome_iff_exists.mp held
    obtain ⟨e, live, -⟩ := Option.map_eq_some_iff.mp value
    exact named k (List.mem_map_of_mem (mem_of_lookup (Option.filter_eq_some_iff.mp live).1)) held fits
  values n keys _ := values_counter n keys

/-- The star of the beginning stands for itself, and what is over is not found. -/
theorem scan_alike_counter :
    Stage.after counter "a*b" 4 = .ended (.ok [("a*b", "one"), ("a*b:2", "two")]) :=
  scan_alike (s := shelf) (by unfold Store.Keyed; decide) rfl serves_counter

end Scan

end SessionHub.Remote

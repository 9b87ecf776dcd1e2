import SessionHub.Proofs.Tables
import SessionHub.Store.Memory

/-!
# What a store holds

What a store says of a key, now and later, changes only by a write of the key or a deletion of it. A
write holds for its lifetime, a deletion until the next write. What a store throws away in passing,
because its lifetime is over, was never to be seen again.

All of this rests on there being no key twice in the table, which every call keeps.
-/

namespace SessionHub.Store

/-- No key stands twice in the table. -/
def Keyed (s : Store) : Prop := (s.entries.map (·.1)).Nodup

variable {s : Store} {now t : Nat} {k : String}

theorem keyed_filter (keyed : s.Keyed) (keep : String × Entry → Bool) :
    Keyed { s with entries := s.entries.filter keep } :=
  keyed.sublist (List.filter_sublist.map _)

theorem keyed_insert (keyed : s.Keyed) (now : Nat) (key value : String) (ttl : Nat) :
    (s.insert now key value ttl).Keyed := by
  have rest := keyed_filter keyed (·.1 != key)
  unfold Keyed insert
  rw [List.map_append, List.nodup_append]
  refine ⟨rest, by simp, fun k hk k' hk' => ?_⟩
  obtain ⟨e, he, rfl⟩ := List.mem_map.mp hk
  obtain rfl : k' = key := by simpa using hk'
  simpa using (List.mem_filter.mp he).2

/-- **Every call keeps it.** -/
theorem Keyed.perform (keyed : s.Keyed) (now : Nat) (call : StoreCall) :
    (s.perform now call).2.Keyed := by
  cases call with
  | set key value ttl => exact keyed_insert keyed now key value ttl
  | get key =>
    dsimp only [Store.perform]
    split
    · exact keyed
    · exact keyed_filter keyed _
  | delete key => exact keyed_filter keyed _
  | scan start => exact keyed_filter keyed _
  | publish channel payload => exact keyed
  | subscribe pattern => exact keyed

/-! ## Values, now and later -/

/-- What is over now is over later. -/
theorem isLive_later {e : Entry} (later : now ≤ t) (live : e.isLive t = true) :
    e.isLive now = true := by
  unfold Entry.isLive at live ⊢
  exact decide_eq_true (Nat.lt_of_le_of_lt later (of_decide_eq_true live))

/-- What will be seen is seen already. -/
theorem value?_earlier {v : String} (earlier : now ≤ t) (seen : s.value? t k = some v) :
    s.value? now k = some v := by
  obtain ⟨e, found, rfl⟩ := Option.map_eq_some_iff.mp seen
  obtain ⟨found, live⟩ := Option.filter_eq_some_iff.mp found
  refine Option.map_eq_some_iff.mpr ⟨e, ?_, rfl⟩
  exact Option.filter_eq_some_iff.mpr ⟨found, isLive_later earlier live⟩

/-- What is thrown away because it is over is not missed. -/
theorem value?_filter (keyed : s.Keyed) {keep : String × Entry → Bool}
    (kept : ∀ e : Entry, e.isLive t = true → keep (k, e) = true) :
    value? { s with entries := s.entries.filter keep } t k = s.value? t k := by
  unfold value?
  rw [lookup_filter keyed]
  cases s.entries.lookup k with
  | none => rfl
  | some e =>
    cases live : e.isLive t with
    | true => simp [Option.filter_some, kept e live, live]
    | false => simp [Option.filter_some, live]

theorem value?_insert (now : Nat) (key value : String) (ttl : Nat) :
    (s.insert now key value ttl).value? t k
      = if k = key then (if t < now + ttl then some value else none) else s.value? t k := by
  unfold value? insert
  dsimp only
  rw [List.lookup_append]
  split
  · rename_i same
    subst same
    have gone : (s.entries.filter (·.1 != k)).lookup k = none := by
      rw [← Option.not_isSome_iff_eq_none, isSome_lookup]
      simp
    rw [gone, Option.none_or]
    by_cases live : t < now + ttl <;> simp [Entry.isLive, Option.filter_some, live]
  · rename_i other
    rw [lookup_filter_ne other, List.lookup_cons, beq_false_of_ne other]
    simp

theorem value?_erase (key : String) :
    (s.erase key).value? t k = if k = key then none else s.value? t k := by
  unfold value? erase
  dsimp only
  split
  · rename_i same
    subst same
    have gone : (s.entries.filter (·.1 != k)).lookup k = none := by
      rw [← Option.not_isSome_iff_eq_none, isSome_lookup]
      simp
    rw [gone]
    rfl
  · rename_i other
    rw [lookup_filter_ne other]

/-- **What a store says of a key from now on**, after a call. -/
theorem value?_perform (keyed : s.Keyed) (later : now ≤ t) (call : StoreCall) (k : String) :
    (s.perform now call).2.value? t k = match call with
      | .set key value ttl =>
        if k = key then (if t < now + ttl then some value else none) else s.value? t k
      | .delete key => if k = key then none else s.value? t k
      | _ => s.value? t k := by
  cases call with
  | set key value ttl => exact value?_insert now key value ttl
  | get key =>
    dsimp only [perform]
    split
    · rfl
    · refine value?_filter keyed fun e live => ?_
      simp [isLive_later later live]
  | delete key => exact value?_erase key
  | scan start => exact value?_filter keyed fun e live => isLive_later later live
  | publish channel payload => rfl
  | subscribe pattern => rfl

/-! ## Scans -/

theorem startsWith_append (start text : String) : startsWith (start ++ text) start = true := by
  rw [startsWith, String.toList_append, List.isPrefixOf_iff_prefix]
  exact List.prefix_append ..

theorem insertPair_perm (pair : String × String) (l : List (String × String)) :
    (insertPair pair l).Perm (pair :: l) := by
  induction l with
  | nil => exact .refl _
  | cons other rest ih =>
    unfold insertPair
    split
    · exact .refl _
    · exact (ih.cons other).trans (.swap pair other rest)

/-- What a scan finds, in some order. -/
theorem pairs_perm (s : Store) (now : Nat) (start : String) :
    (s.pairs now start).Perm ((s.entries.filter fun e =>
      e.2.isLive now && startsWith e.1 start).map fun e => (e.1, e.2.value)) := by
  have sorted : ∀ l : List (String × String), (l.foldr insertPair []).Perm l := by
    intro l
    induction l with
    | nil => exact .refl _
    | cons pair rest ih => exact (insertPair_perm ..).trans (ih.cons pair)
  exact sorted _

/-- **A scan finds the live entries whose key has the beginning**, and nothing else. -/
theorem mem_pairs {start : String} {r : String × String} : r ∈ s.pairs now start ↔
    ∃ e ∈ s.entries, e.2.isLive now = true ∧ startsWith e.1 start = true ∧ (e.1, e.2.value) = r := by
  rw [(pairs_perm s now start).mem_iff, List.mem_map]
  simp only [List.mem_filter, Bool.and_eq_true, and_assoc]

/-- No key is found twice. -/
theorem pairs_nodup (keyed : s.Keyed) (now : Nat) (start : String) :
    ((s.pairs now start).map (·.1)).Nodup := by
  refine ((pairs_perm s now start).map _).nodup_iff.mpr ?_
  rw [List.map_map]
  exact (keyed_filter keyed _)

/-- **A scan finds the values of the keys that have the beginning.** -/
theorem mem_pairs_iff (keyed : s.Keyed) {start v : String} :
    (k, v) ∈ s.pairs now start ↔ s.value? now k = some v ∧ startsWith k start = true := by
  rw [mem_pairs]
  constructor
  · rintro ⟨⟨key, e⟩, here, live, begins, same⟩
    obtain ⟨rfl, rfl⟩ := Prod.mk.inj same
    rw [value?, lookup_of_mem keyed here, Option.filter_some, if_pos live]
    exact ⟨rfl, begins⟩
  · rintro ⟨value, begins⟩
    obtain ⟨e, live, rfl⟩ := Option.map_eq_some_iff.mp value
    obtain ⟨found, live⟩ := Option.filter_eq_some_iff.mp live
    exact ⟨(k, e), mem_of_lookup found, live, begins, rfl⟩

/-- **The keys with a value** are as many as the table has live entries. -/
theorem size_eq (keyed : s.Keyed) (now : Nat) : ∃ keys : List String,
    keys.Nodup ∧ (∀ k, k ∈ keys ↔ (s.value? now k).isSome = true) ∧ s.size now = keys.length := by
  let live : String × Entry → Bool := fun e => e.2.isLive now
  have distinct : ((s.entries.filter live).map (·.1)).Nodup := keyed_filter keyed live
  refine ⟨(s.entries.filter live).map (·.1), distinct, fun k => ?_, ?_⟩
  · rw [← isSome_lookup, lookup_filter keyed, value?, Option.isSome_map]
  · rw [List.length_map, size]

/-! ## The order of what a scan finds -/

/-- Pairs in ascending order of their keys, no key twice. -/
def Ascending (l : List (String × String)) : Prop := l.Pairwise (·.1 < ·.1)

theorem insertPair_sorted (pair : String × String) {l : List (String × String)}
    (sorted : l.Pairwise (·.1 ≤ ·.1)) : (insertPair pair l).Pairwise (·.1 ≤ ·.1) := by
  induction l with
  | nil => exact List.pairwise_singleton ..
  | cons other rest ih =>
    obtain ⟨least, sorted'⟩ := List.pairwise_cons.mp sorted
    unfold insertPair
    split
    · rename_i before
      refine List.pairwise_cons.mpr ⟨fun e he => ?_, sorted⟩
      rcases List.mem_cons.mp he with rfl | he
      · exact before
      · exact String.le_trans before (least e he)
    · rename_i behind
      refine List.pairwise_cons.mpr ⟨fun e he => ?_, ih sorted'⟩
      rcases List.mem_cons.mp ((insertPair_perm pair rest).mem_iff.mp he) with rfl | he
      · exact (String.le_total ..).resolve_right behind
      · exact least e he

/-- **A scan puts what it finds in ascending order**, no key twice. -/
theorem pairs_ascending (keyed : s.Keyed) (now : Nat) (start : String) :
    Ascending (s.pairs now start) := by
  have sorted : ∀ l : List (String × String), (l.foldr insertPair []).Pairwise (·.1 ≤ ·.1) := by
    intro l
    induction l with
    | nil => exact .nil
    | cons pair rest ih => exact insertPair_sorted pair ih
  have distinct : (s.pairs now start).Pairwise (·.1 ≠ ·.1) :=
    List.pairwise_map.mp (pairs_nodup keyed now start)
  refine ((sorted _).and distinct).imp ?_
  rintro a b ⟨le, ne⟩
  exact Std.lt_of_le_of_ne le ne

/-- **Pairs in order are known by what is among them.** -/
theorem Ascending.ext {l l' : List (String × String)} (h : Ascending l) (h' : Ascending l')
    (same : ∀ e, e ∈ l ↔ e ∈ l') : l = l' := eq_of_ascending h h' same

end SessionHub.Store

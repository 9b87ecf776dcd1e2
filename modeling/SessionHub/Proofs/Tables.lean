import Mathlib.Data.List.Basic

/-!
# Tables and places

A table is a list of pairs, read by the first entry of a name. Where no name stands twice every entry
is the one that is read. Places are numbered from the first, and what stands in a place stays there
until that place is changed.
-/

namespace SessionHub

section Tables

variable {α β : Type} [BEq α] [LawfulBEq α]

/-- A table has an entry for whoever stands in it. -/
theorem isSome_lookup (table : List (α × β)) (k : α) :
    (table.lookup k).isSome ↔ k ∈ table.map (·.1) := by
  rw [List.lookup_isSome_iff, List.mem_map]
  exact exists_congr fun entry => and_congr_right fun _ => beq_iff_eq.trans eq_comm

theorem lookup_filter_ne {k k' : α} (other : k' ≠ k) (l : List (α × β)) :
    (l.filter (·.1 != k)).lookup k' = l.lookup k' := by
  induction l with
  | nil => rfl
  | cons entry rest ih =>
    obtain ⟨key, x⟩ := entry
    rw [List.filter_cons]
    by_cases h : key = k
    · rw [if_neg (by simp [h]), ih, List.lookup_cons, beq_false_of_ne (h ▸ other)]
    · rw [if_pos (by simp [h]), List.lookup_cons, List.lookup_cons, ih]

/-- What is left of a table without double entries is read as before, as far as it is left. -/
theorem lookup_filter {table : List (α × β)} (distinct : (table.map (·.1)).Nodup)
    (keep : α × β → Bool) (k : α) :
    (table.filter keep).lookup k = (table.lookup k).filter fun x => keep (k, x) := by
  induction table with
  | nil => rfl
  | cons entry rest ih =>
    obtain ⟨key, x⟩ := entry
    obtain ⟨absent, others⟩ := List.nodup_cons.mp distinct
    rw [List.lookup_cons, List.filter_cons]
    by_cases same : k = key
    · subst same
      have gone : rest.lookup k = none := by
        rw [← Option.not_isSome_iff_eq_none, isSome_lookup]
        exact absent
      rw [beq_self_eq_true, Option.filter_some]
      split
      · rw [List.lookup_cons, beq_self_eq_true]
      · rw [ih others, gone]
        rfl
    · rw [beq_false_of_ne same]
      split
      · rw [List.lookup_cons, beq_false_of_ne same]
        exact ih others
      · exact ih others

theorem lookup_of_mem {table : List (α × β)} (distinct : (table.map (·.1)).Nodup) {e : α × β}
    (he : e ∈ table) : table.lookup e.1 = some e.2 := by
  induction table with
  | nil => exact absurd he List.not_mem_nil
  | cons head table ih =>
    obtain ⟨absent, distinct⟩ := List.nodup_cons.mp distinct
    rcases List.mem_cons.mp he with rfl | he
    · rw [List.lookup_cons, beq_self_eq_true]
    · have other : (e.1 == head.1) = false :=
        beq_false_of_ne fun same => absent (List.mem_map.mpr ⟨e, he, same⟩)
      rw [List.lookup_cons, other]
      exact ih distinct he

theorem mem_of_lookup {table : List (α × β)} {k : α} {x : β} (found : table.lookup k = some x) :
    (k, x) ∈ table := by
  obtain ⟨before, after, split, _⟩ := List.lookup_eq_some_iff.mp found
  exact split ▸ List.mem_append_right before List.mem_cons_self

end Tables

/-- A table in ascending order of its names is known by its entries. -/
theorem eq_of_ascending {β : Type} {table table' : List (String × β)}
    (h : table.Pairwise (·.1 < ·.1)) (h' : table'.Pairwise (·.1 < ·.1))
    (same : ∀ e, e ∈ table ↔ e ∈ table') : table = table' := by
  have distinct : ∀ {table : List (String × β)}, table.Pairwise (·.1 < ·.1) → table.Nodup := fun h =>
    h.imp fun {a b} less (e : a = b) => String.lt_irrefl a.1 (e ▸ less)
  have perm : table.Perm table' :=
    (List.perm_ext_iff_of_nodup (distinct h) (distinct h')).mpr same
  exact perm.eq_of_pairwise
    (fun a b _ _ less more => absurd (String.lt_trans less more) (String.lt_irrefl _)) h h'

section Places

variable {α : Type} [Inhabited α]

theorem getD_modify (xs : Array α) (i j : Nat) (change : α → α) :
    (xs.modify i change).getD j default
      = if i = j ∧ i < xs.size then change (xs.getD j default) else xs.getD j default := by
  simp only [Array.getD_eq_getD_getElem?, Array.getElem?_modify]
  by_cases same : i = j
  · subst same
    by_cases there : i < xs.size
    · simp [there]
    · simp [there]
  · simp [same]

/-- To put in a place what stands there changes nothing. -/
theorem modify_getD_self (xs : Array α) (i : Nat) : xs.modify i (fun _ => xs.getD i default) = xs := by
  refine Array.ext (Array.size_modify ..) fun j _ there => ?_
  rw [Array.getElem_modify]
  split
  · rename_i same
    subst same
    rw [Array.getD_eq_getD_getElem?, Array.getElem?_eq_getElem there, Option.getD_some]
  · rfl

/-- What is put in a place last stands there. -/
theorem modify_modify_const {β : Type} (xs : Array β) (i : Nat) (change : β → β) (x : β) :
    (xs.modify i change).modify i (fun _ => x) = xs.modify i fun _ => x := by
  refine Array.ext (by simp) fun j _ _ => ?_
  rw [Array.getElem_modify, Array.getElem_modify, Array.getElem_modify]
  split <;> rfl

theorem getD_push_of_lt {xs : Array α} {i : Nat} (x : α) (there : i < xs.size) :
    (xs.push x).getD i default = xs.getD i default := by
  rw [Array.getD_eq_getD_getElem?, Array.getD_eq_getD_getElem?, Array.getElem?_push_lt there,
    Array.getElem?_eq_getElem there]

theorem getD_push (xs : Array α) (x : α) (i : Nat) :
    (xs.push x).getD i default = if i = xs.size then x else xs.getD i default := by
  rw [Array.getD_eq_getD_getElem?, Array.getD_eq_getD_getElem?, Array.getElem?_push]
  split <;> rfl

end Places

end SessionHub

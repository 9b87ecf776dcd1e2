import SessionHub.Proofs.Tables
import SessionHub.Settings.Merge

/-!
# Objects by their members

An object may hold a name twice, and then the last member of that name counts. Putting its members in
order drops the others, and two objects in order are laid over each other name by name. So what an
object says is what it holds under each **name**, and this is all that is said here of settling and of
merging: under a name a settled object holds the settled value, and a merged one holds the upper value
over the lower, unless the upper one is null.
-/

namespace SessionHub.Json

variable {members lower upper placed : List (String × Json)}

/-- Members in ascending order of their names, no name twice. -/
def Ordered (members : List (String × Json)) : Prop := members.Pairwise (·.1 < ·.1)

theorem Ordered.distinct (h : Ordered members) : (members.map (·.1)).Nodup :=
  List.pairwise_map.mpr (h.imp fun {a b} less (same : a.1 = b.1) =>
    absurd (same ▸ less) (String.lt_irrefl a.1))

/-! ## A member put in its place -/

theorem lookup_member (name : String) (value : Json) (members : List (String × Json)) (k : String) :
    ((name, value) :: members).lookup k = if k = name then some value else members.lookup k := by
  rw [List.lookup_cons]
  split
  · rename_i same
    rw [if_pos (eq_of_beq same)]
  · rename_i other
    rw [if_neg (ne_of_beq_false other)]

theorem lookup_insertMember (name : String) (value : Json) (members : List (String × Json)) (k : String) :
    (insertMember name value members).lookup k = if k = name then some value else members.lookup k := by
  induction members with
  | nil => exact lookup_member name value [] k
  | cons m rest ih =>
    obtain ⟨n, v⟩ := m
    rw [insertMember]
    split
    · exact lookup_member ..
    · split
      · rename_i same
        subst same
        rw [lookup_member, lookup_member]
        split <;> rfl
      · rename_i other
        rw [lookup_member, lookup_member, ih]
        by_cases here : k = n
        · rw [if_pos here, if_neg (here ▸ Ne.symm other), if_pos here]
        · rw [if_neg here, if_neg here]

theorem mem_insertMember {name : String} {value : Json} {m : String × Json}
    (h : m ∈ insertMember name value members) : m = (name, value) ∨ m ∈ members := by
  induction members with
  | nil => exact .inl (List.mem_singleton.mp h)
  | cons head rest ih =>
    obtain ⟨n, v⟩ := head
    rw [insertMember] at h
    split at h
    · exact List.mem_cons.mp h
    · split at h
      · exact (List.mem_cons.mp h).imp id (List.mem_cons_of_mem _)
      · rcases List.mem_cons.mp h with rfl | h
        · exact .inr List.mem_cons_self
        · exact (ih h).imp id (List.mem_cons_of_mem _)

theorem ordered_insertMember (name : String) (value : Json) (h : Ordered members) :
    Ordered (insertMember name value members) := by
  induction members with
  | nil => exact List.pairwise_singleton ..
  | cons head rest ih =>
    obtain ⟨n, v⟩ := head
    obtain ⟨least, ordered⟩ := List.pairwise_cons.mp h
    rw [insertMember]
    split
    · rename_i before
      refine List.pairwise_cons.mpr ⟨fun m hm => ?_, h⟩
      rcases List.mem_cons.mp hm with rfl | hm
      · exact before
      · exact String.lt_trans before (least m hm)
    · rename_i behind
      split
      · rename_i same
        subst same
        exact List.pairwise_cons.mpr ⟨least, ordered⟩
      · rename_i other
        refine List.pairwise_cons.mpr ⟨fun m hm => ?_, ih ordered⟩
        rcases mem_insertMember hm with rfl | hm
        · exact Std.lt_of_le_of_ne (String.not_lt.mp behind) (Ne.symm other)
        · exact least m hm

/-! ## Settled objects -/

theorem memberOf?_cons (k : String) (m : String × Json) (members : List (String × Json)) :
    memberOf? k (m :: members) = (memberOf? k members).or (if m.1 = k then some m.2 else none) := by
  have from_ : ∀ (members : List (String × Json)) (found : Option Json),
      members.foldl (fun found m => if m.1 = k then some m.2 else found) found
        = (memberOf? k members).or found := by
    intro members
    induction members with
    | nil => exact fun found => rfl
    | cons m members ih =>
      intro found
      rw [memberOf?, List.foldl_cons, List.foldl_cons, ih, ih]
      split <;> cases memberOf? k members <;> rfl
  exact from_ members _

/-- Where no name stands twice, the last member of a name is the first. -/
theorem memberOf?_eq_lookup (distinct : (members.map (·.1)).Nodup) (k : String) :
    memberOf? k members = members.lookup k := by
  induction members with
  | nil => rfl
  | cons m members ih =>
    obtain ⟨absent, distinct⟩ := List.nodup_cons.mp distinct
    rw [memberOf?_cons, ih distinct, List.lookup_cons]
    by_cases same : m.1 = k
    · subst same
      have none : members.lookup m.1 = none := by
        rw [← Option.not_isSome_iff_eq_none, isSome_lookup]
        exact absent
      rw [none, if_pos rfl, beq_self_eq_true]
      rfl
    · rw [if_neg same, beq_false_of_ne (Ne.symm same), Option.or_none]

theorem lookup_settledMembers (placed members : List (String × Json)) (k : String) :
    (settledMembers placed members).lookup k
      = ((memberOf? k members).map settled).or (placed.lookup k) := by
  induction members generalizing placed with
  | nil => rw [settledMembers]; rfl
  | cons m members ih =>
    obtain ⟨name, value⟩ := m
    rw [settledMembers, ih, lookup_insertMember, memberOf?_cons]
    by_cases same : name = k
    · subst same
      rw [if_pos rfl, if_pos rfl]
      cases memberOf? name members <;> rfl
    · rw [if_neg (Ne.symm same), if_neg same, Option.or_none]

theorem ordered_settledMembers (h : Ordered placed) (members : List (String × Json)) :
    Ordered (settledMembers placed members) := by
  induction members generalizing placed with
  | nil => rwa [settledMembers]
  | cons m members ih =>
    rw [settledMembers]
    exact ih (ordered_insertMember m.1 m.2.settled h)

/-- The members of a settled object. -/
theorem settled_obj (members : List (String × Json)) :
    (Json.obj members).settled = .obj (settledMembers [] members) := by rw [settled]

theorem ordered_settled (members : List (String × Json)) : Ordered (settledMembers [] members) :=
  ordered_settledMembers .nil members

/-- **Under a name a settled document holds the settled value.** -/
theorem lookup_settled (members : List (String × Json)) (k : String) :
    (settledMembers [] members).lookup k = (memberOf? k members).map settled := by
  rw [lookup_settledMembers]
  exact Option.or_none

/-! ## Merged objects -/

/-- What comes of two values, one over the other: the lower one stays where there is nothing above it, or
null. -/
def overlay (lower : Option Json) : Option Json → Option Json
  | none | some .null => lower
  | some value => some (lower.elim value fun below => merge below value)

theorem overlay_of_ne_null {value : Json} (there : value ≠ .null) (lower : Option Json) :
    overlay lower (some value) = some (lower.elim value fun below => merge below value) := by
  cases value with
  | null => exact absurd rfl there
  | _ => rfl

theorem ordered_mergeMembers (h : Ordered lower) (upper : List (String × Json)) :
    Ordered (mergeMembers lower upper) := by
  induction upper generalizing lower with
  | nil => rwa [mergeMembers]
  | cons m upper ih =>
    obtain ⟨name, value⟩ := m
    by_cases null : value = .null
    · subst null
      rw [mergeMembers]
      exact ih h
    · rw [mergeMembers]
      · exact ih (ordered_insertMember _ _ h)
      · exact fun same => null same

/-- **Under a name a merged object holds the upper value over the lower.** -/
theorem lookup_mergeMembers (distinct : (upper.map (·.1)).Nodup) (lower : List (String × Json))
    (k : String) : (mergeMembers lower upper).lookup k = overlay (lower.lookup k) (upper.lookup k) := by
  induction upper generalizing lower with
  | nil => rw [mergeMembers]; rfl
  | cons m upper ih =>
    obtain ⟨name, value⟩ := m
    obtain ⟨absent, others⟩ := List.nodup_cons.mp distinct
    have gone : upper.lookup name = none := by
      rw [← Option.not_isSome_iff_eq_none, isSome_lookup]
      exact absent
    by_cases null : value = .null
    · subst null
      rw [mergeMembers, ih others, lookup_member]
      split
      · rename_i here
        rw [here, gone]
        rfl
      · rfl
    · rw [mergeMembers, ih others, lookup_insertMember, lookup_member]
      · split
        · rename_i here
          rw [here, gone, overlay_of_ne_null null]
          cases lower.lookup name <;> rfl
        · rfl
      · exact fun same => null same

end SessionHub.Json

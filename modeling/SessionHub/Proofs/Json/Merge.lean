import SessionHub.Proofs.Json.Members

/-!
# Documents laid over each other

A document that a reader hands on is **settled**: in every object the names ascend and each stands once,
so that two documents which say the same are the same. Laying one settled document over another gives a
settled document again, and to lay the same one over it once more changes nothing.

What stands at a **place** of the result, a path of names, is told by what stands there in the two
documents alone, as far as the way there leads through objects in both (`Stands`). A null of the upper
document is the reason why this is said of places and not of values: below an object that both have it
leaves the lower value as it is, but in an object that only the upper document has it is a value like any
other.
-/

namespace SessionHub.Json

variable {members lower upper : List (String × Json)} {j t s : Json}

/-- Ordered members are known by what they hold under each name. -/
theorem Ordered.ext (h : Ordered lower) (h' : Ordered upper)
    (same : ∀ k, lower.lookup k = upper.lookup k) : lower = upper := by
  have held : ∀ {members : List (String × Json)}, Ordered members → ∀ m,
      m ∈ members ↔ members.lookup m.1 = some m.2 := fun h m =>
    ⟨fun here => lookup_of_mem h.distinct here, mem_of_lookup⟩
  exact eq_of_ascending h h' fun m => by rw [held h, held h', same]

/-- What holds of a document as soon as it holds of the values of an object holds of every document. -/
@[elab_as_elim]
theorem members_induction {motive : Json → Prop}
    (document : ∀ j, (∀ members, j = .obj members → ∀ m ∈ members, motive m.2) → motive j) (j : Json) :
    motive j :=
  document j fun members _ m _ => members_induction document m.2
termination_by sizeOf j
decreasing_by
  rename_i object here
  have part := List.sizeOf_lt_of_mem here
  obtain ⟨name, value⟩ := m
  simp only [object, Json.obj.sizeOf_spec, Prod.mk.sizeOf_spec] at part ⊢
  omega

/-! ## Settled documents -/

/-- A document is as a reader hands it on: to settle it changes nothing. -/
def IsSettled (j : Json) : Prop := j.settled = j

/-- An object is settled if its members are in order and their values are settled. -/
theorem isSettled_obj : IsSettled (.obj members) ↔ Ordered members ∧ ∀ m ∈ members, IsSettled m.2 := by
  constructor
  · intro h
    have same : settledMembers [] members = members := Json.obj.inj ((settled_obj members).symm.trans h)
    have ordered : Ordered members := same ▸ ordered_settled members
    refine ⟨ordered, fun m hm => ?_⟩
    have found : members.lookup m.1 = some m.2 := lookup_of_mem ordered.distinct hm
    have again := lookup_settled members m.1
    rw [same, memberOf?_eq_lookup ordered.distinct, found, Option.map_some] at again
    exact (Option.some.inj again).symm
  · rintro ⟨ordered, values⟩
    rw [IsSettled, settled_obj]
    refine congrArg Json.obj ((ordered_settled members).ext ordered fun k => ?_)
    rw [lookup_settled, memberOf?_eq_lookup ordered.distinct]
    cases found : members.lookup k with
    | none => rfl
    | some value => exact congrArg some (values _ (mem_of_lookup found))

mutual

/-- **What has been settled is settled.** -/
theorem isSettled_settled : ∀ j : Json, IsSettled j.settled
  | .null => by rw [settled.eq_def]; rfl
  | .bool _ => by rw [settled.eq_def]; rfl
  | .num _ => by rw [settled.eq_def]; rfl
  | .str _ => by rw [settled.eq_def]; rfl
  | .arr items => by
    rw [settled, IsSettled, settled]
    exact congrArg Json.arr (settledItems_settledItems items)
  | .obj members => by
    rw [settled_obj]
    exact isSettled_obj.mpr ⟨ordered_settled members, isSettled_settledMembers members [] nofun⟩

theorem settledItems_settledItems : ∀ items, settledItems (settledItems items) = settledItems items
  | [] => rfl
  | item :: rest => by
    rw [settledItems, settledItems, isSettled_settled item, settledItems_settledItems rest]

theorem isSettled_settledMembers : ∀ (members placed : List (String × Json)),
    (∀ m ∈ placed, IsSettled m.2) → ∀ m ∈ settledMembers placed members, IsSettled m.2
  | [], placed, before => by rwa [settledMembers]
  | (name, value) :: rest, placed, before => by
    rw [settledMembers]
    refine isSettled_settledMembers rest _ fun m hm => ?_
    rcases mem_insertMember hm with rfl | hm
    · exact isSettled_settled value
    · exact before m hm

end

/-! ## One place -/

/-- Whether a document is an object. -/
def IsObject (j : Json) : Prop := ∃ members, j = .obj members

/-- What stands at a place of one document that was laid over another, given what stands there in the
lower one and in the upper one. -/
inductive Stands : Option Json → Option Json → Option Json → Prop
  /-- Where the upper document has nothing, or null, the lower one is as it was. -/
  | kept {below above : Option Json} (silent : above = none ∨ above = some .null) :
    Stands below above below
  /-- Where only the upper document has something, that is taken as it is. -/
  | added {value : Json} (there : value ≠ .null) : Stands none (some value) (some value)
  /-- Of two values that are not both objects the upper one stands. -/
  | replaced {below value : Json} (there : value ≠ .null) (apart : ¬(IsObject below ∧ IsObject value)) :
    Stands (some below) (some value) (some value)
  /-- Two objects are laid over each other. -/
  | merged (lower upper : List (String × Json)) :
    Stands (some (.obj lower)) (some (.obj upper)) (some ((Json.obj lower).merge (.obj upper)))

theorem merge_obj_obj (lower upper : List (String × Json)) :
    (Json.obj lower).merge (.obj upper) = .obj (mergeMembers lower upper) := by rw [merge]

/-- What two objects give is known by what stands under each name. -/
theorem merge_eq_of_overlay {laid : List (String × Json)} (hl : Ordered lower) (hu : Ordered upper)
    (ordered : Ordered laid)
    (same : ∀ k, overlay (lower.lookup k) (upper.lookup k) = laid.lookup k) :
    (Json.obj lower).merge (.obj upper) = .obj laid := by
  rw [merge_obj_obj]
  refine congrArg Json.obj ((ordered_mergeMembers hl upper).ext ordered fun k => ?_)
  rw [lookup_mergeMembers hu.distinct, same]

/-- Unless both are objects, the upper document stands. -/
theorem merge_of_apart (apart : ¬(IsObject t ∧ IsObject s)) : t.merge s = s := by
  cases s with
  | obj upper =>
    cases t with
    | obj lower => exact absurd ⟨⟨lower, rfl⟩, upper, rfl⟩ apart
    | _ => rw [merge]; nofun
  | _ => rw [merge]; nofun

theorem stands_overlay (below above : Option Json) : Stands below above (overlay below above) := by
  match above with
  | none => exact .kept (.inl rfl)
  | some value =>
    by_cases null : value = .null
    · subst null
      exact .kept (.inr rfl)
    · rw [overlay_of_ne_null null]
      match below with
      | none => exact .added null
      | some below =>
        show Stands _ _ (some (below.merge value))
        by_cases both : IsObject below ∧ IsObject value
        · obtain ⟨⟨lower, rfl⟩, upper, rfl⟩ := both
          exact .merged lower upper
        · rw [merge_of_apart both]
          exact .replaced null both

/-- **Settled documents stay settled** when one is laid over the other. -/
theorem isSettled_merge (ht : IsSettled t) (hs : IsSettled s) : IsSettled (t.merge s) := by
  induction s using members_induction generalizing t with
  | document s ih =>
    by_cases both : IsObject t ∧ IsObject s
    · obtain ⟨⟨lower, rfl⟩, upper, rfl⟩ := both
      obtain ⟨ordered, values⟩ := isSettled_obj.mp ht
      obtain ⟨ordered', values'⟩ := isSettled_obj.mp hs
      rw [merge_obj_obj, isSettled_obj]
      have laid := ordered_mergeMembers ordered upper
      refine ⟨laid, fun m hm => ?_⟩
      have stands := stands_overlay (lower.lookup m.1) (upper.lookup m.1)
      rw [← lookup_mergeMembers ordered'.distinct, lookup_of_mem laid.distinct hm] at stands
      -- The member is one of either document's, or what two objects give: smaller ones.
      generalize below : lower.lookup m.1 = x, above : upper.lookup m.1 = y, here : some m.2 = z at stands
      cases stands with
      | kept => exact values _ (mem_of_lookup (below.trans here.symm))
      | added there => exact values' _ (mem_of_lookup (above.trans here.symm))
      | replaced there apart => exact values' _ (mem_of_lookup (above.trans here.symm))
      | merged a b =>
        rw [Option.some.inj here]
        have inner := values _ (mem_of_lookup below)
        have outer := mem_of_lookup above
        exact ih _ rfl _ outer inner (values' _ outer)
    · rwa [merge_of_apart both]

/-! ## The same document once more -/

/-- **A document laid over itself** is itself. -/
theorem merge_self (hs : IsSettled s) : s.merge s = s := by
  induction s using members_induction with
  | document s ih =>
    by_cases object : IsObject s
    · obtain ⟨members, rfl⟩ := object
      obtain ⟨ordered, values⟩ := isSettled_obj.mp hs
      refine merge_eq_of_overlay ordered ordered ordered fun k => ?_
      cases found : members.lookup k with
      | none => rfl
      | some value =>
        by_cases null : value = .null
        · subst null
          rfl
        · have here := mem_of_lookup found
          rw [overlay_of_ne_null null]
          exact congrArg some (ih members rfl _ here (values _ here))
    · exact merge_of_apart fun both => object both.1

/-- What is laid over under a name changes nothing when it is laid over once more, if this is so of the
value there, over the one below and over itself. -/
theorem overlay_overlay {below above : Option Json}
    (own : ∀ value, above = some value → value.merge value = value)
    (again : ∀ t value, below = some t → above = some value →
      (t.merge value).merge value = t.merge value) :
    overlay (overlay below above) above = overlay below above := by
  match above with
  | none => rfl
  | some value =>
    by_cases null : value = .null
    · subst null
      rfl
    · rw [overlay_of_ne_null null, overlay_of_ne_null null, Option.elim_some]
      match below with
      | none => exact congrArg some (own value rfl)
      | some t => exact congrArg some (again t value rfl rfl)

/-- **To lay a document over once more changes nothing.** -/
theorem merge_merge (ht : IsSettled t) (hs : IsSettled s) : (t.merge s).merge s = t.merge s := by
  induction s using members_induction generalizing t with
  | document s ih =>
    by_cases both : IsObject t ∧ IsObject s
    · obtain ⟨⟨lower, rfl⟩, upper, rfl⟩ := both
      obtain ⟨ordered, values⟩ := isSettled_obj.mp ht
      obtain ⟨ordered', values'⟩ := isSettled_obj.mp hs
      rw [merge_obj_obj]
      have laid := ordered_mergeMembers ordered upper
      refine merge_eq_of_overlay laid ordered' laid fun k => ?_
      rw [lookup_mergeMembers ordered'.distinct]
      refine overlay_overlay (fun value above => ?_) fun t value below above => ?_
      · exact merge_self (values' _ (mem_of_lookup above))
      · have outer := mem_of_lookup above
        exact ih _ rfl _ outer (values _ (mem_of_lookup below)) (values' _ outer)
    · rw [merge_of_apart both]
      exact merge_self hs

/-! ## All places -/

/-- What stands at a place: where a path of names leads. -/
def at? : List String → Json → Option Json
  | [], j => some j
  | name :: path, j => (j.member? name).bind (at? path)

/-- Every step of a path but the last one ends at an object. -/
def LeadsThrough (path : List String) (j : Json) : Prop :=
  ∀ start, start <+: path → start ≠ path → ∃ members, j.at? start = some (.obj members)

/-- A settled object holds under a name what its members hold. -/
theorem IsSettled.member? (h : IsSettled (.obj members)) (k : String) :
    (Json.obj members).member? k = members.lookup k :=
  memberOf?_eq_lookup (isSettled_obj.mp h).1.distinct k

theorem IsSettled.at?_cons (h : IsSettled (.obj members)) (k : String) (path : List String) :
    (Json.obj members).at? (k :: path) = (members.lookup k).bind (at? path) := by
  rw [at?, h.member?]

/-- A path leads on from wherever it has come to. -/
theorem LeadsThrough.tail {k : String} {path : List String} {value : Json}
    (leads : LeadsThrough (k :: path) j) (found : j.member? k = some value) : LeadsThrough path value := by
  intro start before proper
  obtain ⟨members, here⟩ := leads (k :: start) (List.cons_prefix_cons.mpr ⟨rfl, before⟩)
    fun same => proper (List.cons.inj same).2
  rw [at?, found] at here
  exact ⟨members, here⟩

/-- A path of more than one step leads to an object with its first. -/
theorem LeadsThrough.head {k k' : String} {path : List String} (leads : LeadsThrough (k :: k' :: path) j) :
    ∃ members, j.member? k = some (.obj members) := by
  obtain ⟨members, here⟩ := leads [k] (by simp) (by simp)
  rw [at?, funext (at?.eq_1), Option.bind_fun_some] at here
  exact ⟨members, here⟩

/-- One step leads anywhere from an object. -/
theorem leadsThrough_singleton (object : IsObject j) (k : String) : LeadsThrough [k] j := by
  intro start before proper
  rcases List.prefix_cons_iff.mp before with rfl | ⟨rest, rfl, nothing⟩
  · exact object.imp fun members same => congrArg some same
  · rw [List.prefix_nil.mp nothing] at proper
    exact absurd rfl proper

/-- **At every place to which objects lead** stands what the two documents have there, one over the
other. -/
theorem stands_merge (path : List String) (ht : IsSettled (.obj lower)) (hs : IsSettled (.obj upper))
    (leads : LeadsThrough path (.obj lower)) (leads' : LeadsThrough path (.obj upper)) :
    Stands ((Json.obj lower).at? path) ((Json.obj upper).at? path)
      (((Json.obj lower).merge (.obj upper)).at? path) := by
  induction path generalizing lower upper with
  | nil => exact .merged lower upper
  | cons k path ih =>
    have laid := isSettled_merge ht hs
    rw [merge_obj_obj] at laid ⊢
    obtain ⟨ordered', values'⟩ := isSettled_obj.mp hs
    rw [ht.at?_cons, hs.at?_cons, laid.at?_cons, lookup_mergeMembers ordered'.distinct]
    cases path with
    | nil =>
      rw [funext (at?.eq_1), Option.bind_fun_some, Option.bind_fun_some, Option.bind_fun_some]
      exact stands_overlay ..
    | cons k' path =>
      obtain ⟨inner, below⟩ := leads.head
      obtain ⟨outer, above⟩ := leads'.head
      have leads := leads.tail below
      have leads' := leads'.tail above
      rw [ht.member?] at below
      rw [hs.member?] at above
      rw [below, above]
      exact ih ((isSettled_obj.mp ht).2 _ (mem_of_lookup below)) (values' _ (mem_of_lookup above)) leads leads'

/-- Something stands where the lower document has something, or the upper one something but null. -/
theorem Stands.isSome_iff {below above laid : Option Json} (h : Stands below above laid) :
    laid.isSome ↔ below.isSome ∨ ∃ value, above = some value ∧ value ≠ .null := by
  cases h with
  | kept silent => rcases silent with rfl | rfl <;> simp
  | added there => simp [there]
  | replaced there => simp
  | merged => simp

/-- **What becomes of two settled documents**, one laid over the other. -/
structure LaidOver (lower upper laid : Json) : Prop where
  settled : IsSettled laid
  /-- To lay the upper one over the result changes nothing. -/
  again : laid.merge upper = laid
  /-- Unless both are objects, the upper one stands. -/
  apart : ¬(IsObject lower ∧ IsObject upper) → laid = upper
  /-- Of two objects, the names of the lower one are there, and those under which the upper one holds
  something but null. -/
  names : IsObject lower → IsObject upper → ∀ k, (laid.member? k).isSome ↔
    (lower.member? k).isSome ∨ ∃ value, upper.member? k = some value ∧ value ≠ .null
  /-- Of two objects, every place to which objects of both lead has what they have there. -/
  places : IsObject lower → IsObject upper → ∀ path, LeadsThrough path lower → LeadsThrough path upper →
    Stands (lower.at? path) (upper.at? path) (laid.at? path)

/-- **One document over another**: the laws of laying over, and an empty object changes no object. -/
theorem merge_lays_over (lower upper : Json) :
    LaidOver lower.settled upper.settled (lower.settled.merge upper.settled) ∧
      ∀ members, (Json.obj members).settled.merge (.obj []) = (Json.obj members).settled := by
  have ht := isSettled_settled lower
  have hs := isSettled_settled upper
  generalize lower.settled = t at ht ⊢
  generalize upper.settled = s at hs ⊢
  have places : IsObject t → IsObject s → ∀ path, LeadsThrough path t → LeadsThrough path s →
      Stands (t.at? path) (s.at? path) ((t.merge s).at? path) := by
    rintro ⟨lower, rfl⟩ ⟨upper, rfl⟩ path leads leads'
    exact stands_merge path ht hs leads leads'
  refine ⟨⟨isSettled_merge ht hs, merge_merge ht hs, merge_of_apart, fun object object' k => ?_, places⟩,
    fun members => ?_⟩
  · have one : ∀ j : Json, j.at? [k] = j.member? k := fun j => by
      rw [at?, funext (at?.eq_1), Option.bind_fun_some]
    have stands := places object object' [k] (leadsThrough_singleton object k)
      (leadsThrough_singleton object' k)
    rw [one, one, one] at stands
    exact stands.isSome_iff
  · rw [settled_obj, merge_obj_obj, mergeMembers]

/-- A null leaves what is below, and is taken along with what is new. -/
example : (Json.obj [("a", .nat 1)]).merge (.obj [("a", .null), ("b", .obj [("c", .null)])])
    = .obj [("a", .nat 1), ("b", .obj [("c", .null)])] := by cbv

end SessionHub.Json

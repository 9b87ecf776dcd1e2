import SessionHub.Proofs.Json.Foreign

/-!
# Tagged records are read back

A tagged record is written with its **tag** as the first column. Its reader keeps every other member as
the document that it was written as, and takes the columns out of those documents afterwards. So a row is
read back in two passes (`Schema.readTagged_tagged`): the first finds the tag and the members, the second
the cells in the members.
-/

namespace SessionHub.Json

/-- The schema with a tag before its columns. -/
def Schema.tagged (tag : String) (schema : Schema) : Schema where
  title := schema.title
  columns := (tag, .text) :: schema.columns

/-! ## The members -/

theorem readTag_renderString (known : String) (rest : List Char) :
    readTag known (renderString known ++ rest) = .ok rest := by
  rw [readTag, readText_renderString]
  simp only [if_true]

/-- The loop over the members behind the tag keeps them as they were written. -/
theorem readTaggedMembers_behind {tag : String} (known : String) {entries : Entries} {fuel : Nat}
    (enough : entries.length < fuel) (fits : ∀ e ∈ entries, e.1.2.admits e.2 = true)
    (others : ∀ e ∈ entries, e.1.1 ≠ tag) (rest : List Char) :
    readTaggedMembers tag known fuel false true (renderMembers (Entries.members entries) ++ rest)
      = .ok (Entries.members entries, '\x7d' :: rest) := by
  induction entries generalizing fuel with
  | nil =>
    obtain ⟨fuel, rfl⟩ := Nat.exists_eq_succ_of_ne_zero (Nat.ne_of_gt enough)
    rw [Entries.members, List.map_nil, renderMembers, List.singleton_append, readTaggedMembers,
      nextName_closing]
    rfl
  | cons e entries ih =>
    obtain ⟨fuel, rfl⟩ := Nat.exists_eq_succ_of_ne_zero (Nat.ne_of_gt (Nat.zero_lt_of_lt enough))
    have onward := ih (Nat.lt_of_succ_lt_succ enough) (fun e' he => fits e' (List.mem_cons_of_mem _ he))
      (fun e' he => others e' (List.mem_cons_of_mem _ he))
    have cell := readValue_toJson (fits e List.mem_cons_self)
      (endsNumber_renderMembers (Entries.members entries) rest)
    rw [Entries.members_cons, renderMembers_cons_append, readTaggedMembers, nextName_renderString]
    simp only [others e List.mem_cons_self, if_false, readColon_cons, Except.bind, fuelFor, cell, onward]

/-! ## The cells -/

/-- **A cell is taken out of its document.** -/
theorem ofJson_toJson {column : Column} {cell : Cell} (fits : column.admits cell = true) :
    column.ofJson cell.toJson = .ok cell := by
  cases column with
  | text =>
    cases cell with
    | text => rfl
    | integer => nomatch fits
  | integer =>
    cases cell with
    | text => nomatch fits
    | integer value =>
      simp only [Column.admits, Bool.and_eq_true, decide_eq_true_eq] at fits
      rw [Cell.toJson, Column.ofJson, integerOf_int fits.2]
      rfl

/-- The second pass takes the entries one after the other, as the reader of a text does. -/
theorem takeMembers_members {schema : Schema} {entries : Entries} {taken : Taken} {row : List Cell}
    (known : ∀ e ∈ entries, schema.columns.lookup e.1.1 = some e.1.2)
    (fits : ∀ e ∈ entries, e.1.2.admits e.2 = true)
    (fresh : ∀ e ∈ entries, taken.lookup e.1.1 = none)
    (distinct : (entries.map (·.1.1)).Nodup)
    (complete : rowOf (Entries.taken entries ++ taken) schema.columns = .ok row) :
    schema.takeMembers taken (Entries.members entries) = .ok row := by
  induction entries generalizing taken with
  | nil =>
    rw [Entries.members, List.map_nil, Schema.takeMembers]
    exact complete
  | cons e entries ih =>
    obtain ⟨absent, distinct⟩ := List.nodup_cons.mp distinct
    have taking : Entries.taken (e :: entries) ++ taken
        = Entries.taken entries ++ ((e.1.1, e.2) :: taken) := by
      simp [Entries.taken]
    rw [Entries.members_cons, Schema.takeMembers]
    simp only [known e List.mem_cons_self, fresh e List.mem_cons_self, Option.isSome_none,
      Bool.false_eq_true, if_false, ofJson_toJson (fits e List.mem_cons_self)]
    refine ih (fun e' he => known e' (List.mem_cons_of_mem _ he))
      (fun e' he => fits e' (List.mem_cons_of_mem _ he)) (fun e' he => ?_) distinct (taking ▸ complete)
    rw [List.lookup_cons,
      beq_false_of_ne fun same : e'.1.1 = e.1.1 => absent (List.mem_map.mpr ⟨e', he, same⟩)]
    exact fresh e' (List.mem_cons_of_mem _ he)

/-! ## The record -/

/-- **A tagged row is read back**, when the names are different, that of the tag among them, and every
cell fits its column. -/
theorem Schema.readTagged_tagged {schema : Schema} (tag : String)
    (distinct : ((schema.tagged tag).columns.map (·.1)).Nodup) {row : List Cell}
    (fits : List.Forall₂ (fun c v => c.2.admits v = true) schema.columns row) (known title : String) :
    ∃ content, schema.ofUntagged content = .ok row ∧
      readTagged tag known title ((schema.tagged tag).toJson (.text known :: row)).text.toList
        = .ok (content, []) := by
  obtain ⟨absent, distinct⟩ := List.nodup_cons.mp distinct
  obtain ⟨entries, columns, rfl, written, admitted⟩ := Schema.exists_entries fits
  have names : (entries.map (·.1.1)).Nodup := by
    rw [columns, List.map_map] at distinct
    exact distinct
  have others : ∀ e ∈ entries, e.1.1 ≠ tag := fun e he same =>
    absent (List.mem_map.mpr ⟨e.1, columns ▸ List.mem_map_of_mem he, same⟩)
  refine ⟨.members (Entries.members entries), ?_, ?_⟩
  · have taken : schema.takeMembers [] (Entries.members entries) = .ok (entries.map (·.2)) :=
      takeMembers_members (columns ▸ Entries.known names) admitted (fun _ _ => rfl) names
        (columns ▸ Entries.complete names)
    rw [Schema.ofUntagged]
    simp only [taken]
    rfl
  · have document : (schema.tagged tag).toJson (.text known :: entries.map (·.2))
        = .obj ((tag, .str known) :: Entries.members entries) := by
      rw [Schema.toJson] at written
      rw [Schema.toJson, Schema.tagged, List.zip_cons_cons, List.map_cons, Json.obj.inj written]
      rfl
    obtain ⟨s, braced, -, first, -, enough⟩ :=
      render_obj_cons (tag, .str known) (Entries.members entries)
    have members : readTaggedMembers tag known (s.length + 1) true false s
        = .ok (Entries.members entries, ['\x7d']) := by
      rw [List.length_cons, Entries.length_members] at enough
      have behind := readTaggedMembers_behind known (Nat.lt_of_succ_lt_succ enough) admitted others []
      rw [List.append_nil] at behind
      rw [readTaggedMembers, first]
      simp only [if_true, Bool.false_eq_true, if_false, readColon_cons, Except.bind, render,
        readTag_renderString, behind]
    rw [document, text, String.toList_ofList, braced, readTagged, skipBlanks_cons rfl]
    simp only [members]
    rfl

end SessionHub.Json

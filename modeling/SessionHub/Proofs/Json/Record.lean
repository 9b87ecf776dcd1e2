import Mathlib.Data.List.Forall2
import SessionHub.Json.Record
import SessionHub.Proofs.Json.Lexeme
import SessionHub.Proofs.Tables

/-!
# Records are read back

A row that fits its columns is written as an object, and that text is read as the same row
(`Schema.read_text`), for every schema whose columns have different names. The reader takes the
members in the order in which they were written; the invariant of its loop is that what it has taken
so far is what the columns behind it hold.
-/

namespace SessionHub.Json

theorem skipBlanks_cons {c : Char} (word : isBlank c = false) (s : List Char) :
    skipBlanks (c :: s) = c :: s := by
  rw [skipBlanks, List.dropWhile_cons, word]
  rfl

/-! ## Cells -/

theorem readText_renderString (expected value : String) (rest : List Char) :
    readText expected (renderString value ++ rest) = .ok (value, rest) := by
  rw [renderString_append, readText, skipBlanks_cons rfl]
  simp only [readString_renderString]

theorem read_text (value : String) (rest : List Char) :
    Column.text.read (renderString value ++ rest) = .ok (.text value, rest) := by
  rw [Column.read, readText_renderString]
  rfl

/-- A digit is neither a blank nor a sign. -/
theorem digit_not_blank {c : Char} {d : Nat} (digit : Text.digit? c = some d) :
    isBlank c = false ∧ c ≠ '-' := by
  unfold Text.digit? at digit
  split at digit
  · rename_i range
    refine ⟨?_, fun same => ?_⟩
    · simp only [isBlank, Bool.or_eq_false_iff, decide_eq_false_iff_not]
      refine ⟨⟨⟨?_, ?_⟩, ?_⟩, ?_⟩ <;> rintro rfl <;> exact absurd range.1 (by decide)
    · subst same
      exact absurd range.1 (by decide)
  · nomatch digit

theorem integerOf_int {value : Int} (small : value < twoTo 63) (expected : String) :
    integerOf expected (.int value) = .ok value := by
  rw [integerOf, if_pos small]

theorem le_maxWord {n : Nat} (small : n ≤ twoTo 63) : n ≤ maxWord := Nat.le_trans small (by decide)

/-- An integer starts with a digit. The value is left open here, so that nothing tries to compute
with the bound. -/
theorem read_of_digit {c : Char} {d : Nat} (digit : Text.digit? c = some d) {s rest : List Char}
    {value : Int} (small : value < twoTo 63) (number : readNumber false (c :: s) = .ok (.int value, rest)) :
    Column.integer.read (c :: s) = .ok (.integer value, rest) := by
  obtain ⟨word, unsigned⟩ := digit_not_blank digit
  unfold Column.read
  simp only [skipBlanks_cons word]
  rw [digit, Option.isSome_some, if_pos rfl, number]
  simp only [integerOf_int small]

/-- Or with a sign. -/
theorem read_of_sign {s rest : List Char} {value : Int} (small : value < twoTo 63)
    (number : readNumber true s = .ok (.int value, rest)) :
    Column.integer.read ('-' :: s) = .ok (.integer value, rest) := by
  unfold Column.read
  simp only [skipBlanks_cons (c := '-') rfl, number, integerOf_int small]

theorem readNumber_natural {n : Nat} (small : n < twoTo 63) {rest : List Char}
    (ends : EndsNumber rest) : readNumber false (Nat.toDigits 10 n ++ rest) = .ok (.int n, rest) := by
  rw [readNumber_toDigits (le_maxWord (Nat.le_of_lt small)) ends, readNumberEnd_of_endsNumber ends]
  rfl

theorem readNumber_negative {n : Nat} (positive : 0 < n) (small : n ≤ twoTo 63) {rest : List Char}
    (ends : EndsNumber rest) :
    readNumber true (Nat.toDigits 10 n ++ rest) = .ok (.int (-(n : Int)), rest) := by
  rw [readNumber_toDigits (le_maxWord small) ends, readNumberEnd_of_endsNumber ends,
    if_neg (by decide), if_pos ⟨positive, small⟩]

/-- **How an integer is written**: its digits, or a sign and the digits. -/
theorem render_integer (value : Int) :
    (∃ n : Nat, value = n ∧ (Cell.integer value).toJson.render = Nat.toDigits 10 n) ∨
      ∃ n : Nat, 0 < n ∧ value = -(n : Int) ∧
        (Cell.integer value).toJson.render = '-' :: Nat.toDigits 10 n := by
  cases value with
  | ofNat n =>
    refine .inl ⟨n, rfl, ?_⟩
    show (Nat.repr n).toList = _
    simp [Nat.repr]
  | negSucc n =>
    refine .inr ⟨n + 1, Nat.succ_pos n, Int.negSucc_eq n, ?_⟩
    show ("-" ++ Nat.repr (n + 1)).toList = _
    simp [Nat.repr]

theorem read_integer {value : Int} (fits : Column.integer.admits (.integer value) = true)
    {rest : List Char} (ends : EndsNumber rest) :
    Column.integer.read ((Cell.integer value).toJson.render ++ rest) = .ok (.integer value, rest) := by
  simp only [Column.admits, Bool.and_eq_true, decide_eq_true_eq] at fits
  rcases render_integer value with ⟨n, rfl, digits⟩ | ⟨n, positive, rfl, digits⟩
  · have number := readNumber_natural (Int.ofNat_lt.mp fits.2) ends
    obtain ⟨c, cs, d, split, digit, _⟩ := Text.toDigits_head n
    rw [digits]
    rw [split, List.cons_append] at number ⊢
    exact read_of_digit digit fits.2 number
  · rw [digits]
    exact read_of_sign fits.2 (readNumber_negative positive (by omega) ends)

/-- **A cell is read back** by the column that it fits, if no number follows it. -/
theorem read_toJson {column : Column} {cell : Cell} (fits : column.admits cell = true)
    {rest : List Char} (ends : EndsNumber rest) :
    column.read (cell.toJson.render ++ rest) = .ok (cell, rest) := by
  cases column with
  | text =>
    cases cell with
    | text value => exact read_text value rest
    | integer => nomatch fits
  | integer =>
    cases cell with
    | text => nomatch fits
    | integer value => exact read_integer fits ends

/-! ## Members -/

theorem nextName_closing (first : Bool) (rest : List Char) :
    nextName first ('\x7d' :: rest) = .ok none := rfl

/-- A name and its colon. -/
theorem nextName_renderString (name : String) (rest : List Char) :
    nextName false (',' :: (renderString name ++ ':' :: rest)) = .ok (some (name, ':' :: rest)) := by
  rw [renderString_append]
  show (readString _).map some = _
  rw [readString_renderString]
  rfl

/-- The first member stands behind no comma. -/
theorem nextName_first (name : String) (rest : List Char) :
    nextName true (renderString name ++ rest) = nextName false (',' :: (renderString name ++ rest)) :=
  rfl

theorem readColon_cons (rest : List Char) : readColon (':' :: rest) = .ok rest := rfl

/-- Behind a member stands a comma or a brace, and so no number goes on. -/
theorem endsNumber_renderMembers (members : List (String × Json)) (rest : List Char) :
    EndsNumber (renderMembers members ++ rest) := by
  cases members with
  | nil =>
    rw [renderMembers]
    exact endsNumber_cons rfl (by decide) (by decide) (by decide)
  | cons =>
    rw [renderMembers, List.cons_append]
    exact endsNumber_cons rfl (by decide) (by decide) (by decide)

/-- The entries of a row: its cells with their columns. -/
abbrev Entries := List ((String × Column) × Cell)

/-- What is taken when some entries have been read, the last one first. -/
def Entries.taken (entries : Entries) : Taken := (entries.map fun e => (e.1.1, e.2)).reverse

/-- Entries as the members of an object. -/
def Entries.members (entries : Entries) : List (String × Json) :=
  entries.map fun e => (e.1.1, e.2.toJson)

theorem Entries.members_cons (e : (String × Column) × Cell) (entries : Entries) :
    Entries.members (e :: entries) = (e.1.1, e.2.toJson) :: Entries.members entries := rfl

theorem Entries.length_members (entries : Entries) :
    (Entries.members entries).length = entries.length := List.length_map ..

/-- A row is complete when every column was taken. -/
theorem rowOf_of_lookup {taken : Taken} {entries : Entries}
    (found : ∀ e ∈ entries, taken.lookup e.1.1 = some e.2) :
    rowOf taken (entries.map (·.1)) = .ok (entries.map (·.2)) := by
  induction entries with
  | nil => rfl
  | cons e entries ih =>
    rw [List.map_cons, rowOf, found e List.mem_cons_self,
      ih fun e he => found e (List.mem_cons_of_mem _ he)]
    rfl

/-- Where the names are different, every entry's column is found. -/
theorem Entries.known {entries : Entries} (distinct : (entries.map (·.1.1)).Nodup) :
    ∀ e ∈ entries, (entries.map (·.1)).lookup e.1.1 = some e.1.2 := by
  intro e he
  have once : ((entries.map (·.1)).map (·.1)).Nodup := by
    rw [List.map_map]
    exact distinct
  exact lookup_of_mem once (List.mem_map_of_mem he)

/-- Where the names are different, the entries make up a row. -/
theorem Entries.complete {entries : Entries} (distinct : (entries.map (·.1.1)).Nodup) :
    rowOf (Entries.taken entries ++ []) (entries.map (·.1)) = .ok (entries.map (·.2)) := by
  rw [List.append_nil]
  refine rowOf_of_lookup fun e he => ?_
  have once : ((Entries.taken entries).map (·.1)).Nodup := by
    rw [Entries.taken, List.map_reverse, (List.reverse_perm _).nodup_iff, List.map_map]
    exact distinct
  have there : (e.1.1, e.2) ∈ Entries.taken entries :=
    List.mem_reverse.mpr (List.mem_map.mpr ⟨e, he, rfl⟩)
  exact lookup_of_mem once there

/-- **The loop over the members**: it takes the entries that were written, one after the other. -/
theorem readMembers_renderMembers {schema : Schema} {entries : Entries} {taken : Taken}
    {row : List Cell} {fuel : Nat} (enough : entries.length < fuel)
    (known : ∀ e ∈ entries, schema.columns.lookup e.1.1 = some e.1.2)
    (fits : ∀ e ∈ entries, e.1.2.admits e.2 = true)
    (fresh : ∀ e ∈ entries, taken.lookup e.1.1 = none)
    (distinct : (entries.map (·.1.1)).Nodup)
    (complete : rowOf (Entries.taken entries ++ taken) schema.columns = .ok row) (rest : List Char) :
    schema.readMembers fuel false taken (renderMembers (Entries.members entries) ++ rest)
      = .ok (row, '\x7d' :: rest) := by
  induction entries generalizing fuel taken with
  | nil =>
    obtain ⟨fuel, rfl⟩ := Nat.exists_eq_succ_of_ne_zero (Nat.ne_of_gt enough)
    rw [Entries.taken, List.map_nil, List.reverse_nil, List.nil_append] at complete
    rw [Entries.members, List.map_nil, renderMembers, List.singleton_append, Schema.readMembers,
      nextName_closing]
    simp only [complete]
  | cons e entries ih =>
    obtain ⟨fuel, rfl⟩ := Nat.exists_eq_succ_of_ne_zero (Nat.ne_of_gt (Nat.zero_lt_of_lt enough))
    obtain ⟨absent, distinct⟩ := List.nodup_cons.mp distinct
    have cell := read_toJson (fits e List.mem_cons_self)
      (endsNumber_renderMembers (Entries.members entries) rest)
    have written : renderMembers (Entries.members (e :: entries)) ++ rest
        = ',' :: (renderString e.1.1 ++ ':' :: (e.2.toJson.render ++
            (renderMembers (Entries.members entries) ++ rest))) := by
      rw [Entries.members, List.map_cons, renderMembers]
      simp [Entries.members]
    have taking : Entries.taken (e :: entries) ++ taken
        = Entries.taken entries ++ ((e.1.1, e.2) :: taken) := by
      simp [Entries.taken]
    rw [written, Schema.readMembers, nextName_renderString]
    simp only [known e List.mem_cons_self, fresh e List.mem_cons_self, Option.isSome_none,
      Bool.false_eq_true, if_false, readColon_cons]
    simp only [Except.bind, cell]
    refine ih (Nat.lt_of_succ_lt_succ enough) (fun e' he => known e' (List.mem_cons_of_mem _ he))
      (fun e' he => fits e' (List.mem_cons_of_mem _ he)) (fun e' he => ?_) distinct (taking ▸ complete)
    have other : (e'.1.1 == e.1.1) = false :=
      beq_false_of_ne fun same => absent (List.mem_map.mpr ⟨e', he, same⟩)
    rw [List.lookup_cons, other]
    exact fresh e' (List.mem_cons_of_mem _ he)

/-- A member takes more than its comma. -/
theorem length_lt_length_renderMembers (members : List (String × Json)) :
    members.length < (renderMembers members).length := by
  induction members with
  | nil => exact Nat.zero_lt_succ _
  | cons member members ih =>
    rw [renderMembers]
    simp only [List.length_cons, List.length_append]
    omega

/-- Of an object with members, what stands behind the brace is read as behind a comma; and there is
fuel enough for all members. -/
theorem render_obj_cons (m : String × Json) (members : List (String × Json)) :
    ∃ s, (Json.obj (m :: members)).render = '\x7b' :: s ∧ renderMembers (m :: members) = ',' :: s ∧
      nextName true s = .ok (some (m.1, ':' :: (m.2.render ++ renderMembers members))) ∧
      nextName false (',' :: s) = .ok (some (m.1, ':' :: (m.2.render ++ renderMembers members))) ∧
      (m :: members).length < s.length + 1 := by
  obtain ⟨name, value⟩ := m
  have long := length_lt_length_renderMembers ((name, value) :: members)
  rw [renderMembers] at long
  exact ⟨_, by rw [render], by rw [renderMembers],
    (nextName_first ..).trans (nextName_renderString ..), nextName_renderString .., long⟩

/-! ## Rows -/

/-- A row that fits its columns, as entries. -/
theorem Schema.exists_entries {schema : Schema} {row : List Cell}
    (fits : List.Forall₂ (fun c v => c.2.admits v = true) schema.columns row) :
    ∃ entries : Entries, schema.columns = entries.map (·.1) ∧ row = entries.map (·.2) ∧
      schema.toJson row = .obj (Entries.members entries) ∧ ∀ e ∈ entries, e.1.2.admits e.2 = true := by
  obtain ⟨entries, columns, rfl⟩ :
      ∃ entries : Entries, schema.columns = entries.map (·.1) ∧ row = entries.map (·.2) :=
    ⟨schema.columns.zip row, (List.map_fst_zip (Nat.le_of_eq fits.length_eq)).symm,
      (List.map_snd_zip (Nat.le_of_eq fits.length_eq.symm)).symm⟩
  refine ⟨entries, columns, rfl, ?_, ?_⟩
  · rw [Schema.toJson, columns, List.zip_map', List.map_map]
    rfl
  · rw [columns, List.forall₂_map_left_iff, List.forall₂_map_right_iff, List.forall₂_same] at fits
    exact fits

theorem Schema.readRow_of_members {schema : Schema} {s rest : List Char} {row : List Cell}
    (h : schema.readMembers (s.length + 1) true [] s = .ok (row, '\x7d' :: rest)) :
    schema.readRow ('\x7b' :: s) = .ok (row, rest) := by
  rw [Schema.readRow, show skipBlanks ('\x7b' :: s) = '\x7b' :: s from rfl]
  simp only [h]
  rfl

/-- **A row is read back**, when the columns have different names and every cell fits its column. -/
theorem Schema.read_text {schema : Schema} (distinct : (schema.columns.map (·.1)).Nodup)
    {row : List Cell} (fits : List.Forall₂ (fun c v => c.2.admits v = true) schema.columns row) :
    schema.read (schema.toJson row).text = .ok row := by
  obtain ⟨entries, columns, rfl, written, admitted⟩ := Schema.exists_entries fits
  have names : (entries.map (·.1.1)).Nodup := by
    rw [columns, List.map_map] at distinct
    exact distinct
  have known : ∀ e ∈ entries, schema.columns.lookup e.1.1 = some e.1.2 := columns ▸ Entries.known names
  have complete : rowOf (Entries.taken entries ++ []) schema.columns = .ok (entries.map (·.2)) :=
    columns ▸ Entries.complete names
  obtain ⟨s, braced, behind⟩ : ∃ s, (Json.obj (Entries.members entries)).render = '\x7b' :: s ∧
      schema.readMembers (s.length + 1) true [] s = .ok (entries.map (·.2), ['\x7d']) := by
    cases entries with
    | nil =>
      refine ⟨['\x7d'], by rw [Entries.members, List.map_nil, render], ?_⟩
      rw [Schema.readMembers, nextName_closing]
      simp only [show rowOf [] schema.columns = .ok [] from complete]
      rfl
    | cons e entries =>
      obtain ⟨s, braced, comma, first, next, enough⟩ :=
        render_obj_cons (e.1.1, e.2.toJson) (Entries.members entries)
      rw [← Entries.members_cons] at braced comma enough
      rw [Entries.length_members] at enough
      have loop := readMembers_renderMembers enough known admitted (fun _ _ => rfl) names complete []
      rw [List.append_nil, comma, Schema.readMembers, next] at loop
      refine ⟨s, braced, ?_⟩
      rw [Schema.readMembers, first]
      exact loop
  rw [Schema.read, written, text, String.toList_ofList, braced, Schema.readRow_of_members behind]
  rfl

end SessionHub.Json

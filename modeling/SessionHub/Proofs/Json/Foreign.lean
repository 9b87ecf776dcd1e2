import SessionHub.Proofs.Json.Record

/-!
# Records of another kind are refused

A reader of records that is given the text of a record of another kind refuses it, whatever the cells
hold. A record without the tag is refused where the tag is asked for, and a record without one of the
columns is refused for the column that is missing. Neither reader can tell the kind from the beginning,
so what is shown of their loops is that they get through every member, known or not, and come to the
closing brace with the tag or the column still missing.
-/

namespace SessionHub.Json

variable {rest : List Char} {members : List (String × Json)} {fuel : Nat}

/-- What a member is written as, and what follows it. -/
theorem renderMembers_cons_append (name : String) (value : Json) (rest : List Char) :
    renderMembers ((name, value) :: members) ++ rest
      = ',' :: (renderString name ++ ':' :: (value.render ++ (renderMembers members ++ rest))) := by
  rw [renderMembers]
  simp

/-! ## A record without the tag -/

theorem ne_of_digit {c k : Char} {d : Nat} (digit : Text.digit? c = some d)
    (other : Text.digit? k = none) : c ≠ k := by
  rintro rfl
  rw [other] at digit
  nomatch digit

theorem readScalar_of_digit {c : Char} {d : Nat} (digit : Text.digit? c = some d) (s : List Char) :
    readScalar (c :: s) = (readNumber false (c :: s)).map fun (n, rest) => (.num n, rest) := by
  unfold readScalar
  split
  · rename_i nothing
    nomatch nothing
  all_goals rename_i same; obtain ⟨rfl, rfl⟩ := List.cons.inj same
  iterate 5 exact absurd rfl (ne_of_digit digit rfl)
  rw [digit]
  rfl

/-- A cell starts with no bracket and no blank. -/
theorem head_toJson (cell : Cell) : ∃ c s, cell.toJson.render = c :: s ∧ isBlank c = false ∧
    c ≠ '[' ∧ c ≠ '\x7b' := by
  cases cell with
  | text value => exact ⟨'"', _, by rw [Cell.toJson, render, renderString], rfl, by decide, by decide⟩
  | integer value =>
    rcases render_integer value with ⟨n, _, digits⟩ | ⟨n, _, _, digits⟩
    · obtain ⟨c, cs, d, split, digit, _⟩ := Text.toDigits_head n
      refine ⟨c, cs, digits.trans split, (digit_not_blank digit).1, ?_, ?_⟩ <;> rintro rfl <;>
        cases digit
    · exact ⟨'-', _, digits, rfl, by decide, by decide⟩

theorem readScalar_toJson {column : Column} {cell : Cell} (fits : column.admits cell = true)
    (ends : EndsNumber rest) : readScalar (cell.toJson.render ++ rest) = .ok (cell.toJson, rest) := by
  cases cell with
  | text value =>
    rw [Cell.toJson, render, renderString_append, readScalar, readString_renderString]
    rfl
  | integer value =>
    cases column with
    | text => cases fits
    | integer =>
      simp only [Column.admits, Bool.and_eq_true, decide_eq_true_eq] at fits
      rcases render_integer value with ⟨n, rfl, digits⟩ | ⟨n, positive, rfl, digits⟩
      · have number := readNumber_natural (Int.ofNat_lt.mp fits.2) ends
        obtain ⟨c, cs, d, split, digit, _⟩ := Text.toDigits_head n
        rw [digits]
        rw [split, List.cons_append] at number ⊢
        rw [readScalar_of_digit digit, number]
        rfl
      · rw [digits, List.cons_append, readScalar, readNumber_negative positive (by omega) ends]
        rfl

/-- **A cell is read as the document that it was written as.** -/
theorem readValue_toJson {column : Column} {cell : Cell} (fits : column.admits cell = true)
    (ends : EndsNumber rest) (fuel depth : Nat) :
    readValue (fuel + 1) depth (cell.toJson.render ++ rest) = .ok (cell.toJson, rest) := by
  have scalar := readScalar_toJson fits ends
  obtain ⟨c, s, split, word, list, object⟩ := head_toJson cell
  rw [split, List.cons_append] at scalar ⊢
  rw [readValue, skipBlanks_cons word]
  split
  · rename_i same
    exact absurd (List.cons.inj same).1 list
  · rename_i same
    exact absurd (List.cons.inj same).1 object
  · exact scalar

/-- The loop over the members of a record without the tag. -/
theorem readTaggedMembers_untagged {tag : String} (known : String) {entries : Entries}
    (enough : entries.length < fuel) (fits : ∀ e ∈ entries, e.1.2.admits e.2 = true)
    (others : ∀ e ∈ entries, e.1.1 ≠ tag) (rest : List Char) :
    ∃ f, readTaggedMembers tag known fuel false false (renderMembers (Entries.members entries) ++ rest)
      = .error f := by
  induction entries generalizing fuel with
  | nil =>
    obtain ⟨fuel, rfl⟩ := Nat.exists_eq_succ_of_ne_zero (Nat.ne_of_gt enough)
    rw [Entries.members, List.map_nil, renderMembers, List.singleton_append, readTaggedMembers,
      nextName_closing]
    exact ⟨_, rfl⟩
  | cons e entries ih =>
    obtain ⟨fuel, rfl⟩ := Nat.exists_eq_succ_of_ne_zero (Nat.ne_of_gt (Nat.zero_lt_of_lt enough))
    obtain ⟨f, refused⟩ := ih (Nat.lt_of_succ_lt_succ enough)
      (fun e' he => fits e' (List.mem_cons_of_mem _ he))
      (fun e' he => others e' (List.mem_cons_of_mem _ he))
    have cell := readValue_toJson (fits e List.mem_cons_self)
      (endsNumber_renderMembers (Entries.members entries) rest)
    rw [Entries.members, List.map_cons, renderMembers_cons_append, readTaggedMembers,
      nextName_renderString]
    simp only [others e List.mem_cons_self, if_false, readColon_cons]
    simp only [Except.bind, fuelFor]
    rw [show List.map _ entries = Entries.members entries from rfl, cell]
    simp only [refused]
    exact ⟨f, rfl⟩

/-- **A record without the tag is refused by a reader of tagged ones.** -/
theorem Schema.readTagged_text {schema : Schema} {row : List Cell} {tag : String}
    (known title : String)
    (fits : List.Forall₂ (fun c v => c.2.admits v = true) schema.columns row)
    (others : ∀ c ∈ schema.columns, c.1 ≠ tag) :
    ∃ f, readTagged tag known title (schema.toJson row).text.toList = .error f := by
  obtain ⟨entries, columns, rfl, written, admitted⟩ := Schema.exists_entries fits
  have untagged : ∀ e ∈ entries, e.1.1 ≠ tag := fun e he => others e.1 (columns ▸ List.mem_map_of_mem he)
  obtain ⟨s, braced, f, refused⟩ : ∃ s, (Json.obj (Entries.members entries)).render = '\x7b' :: s ∧
      ∃ f, readTaggedMembers tag known (s.length + 1) true false s = .error f := by
    cases entries with
    | nil => exact ⟨['\x7d'], by rw [Entries.members, List.map_nil, render], _, rfl⟩
    | cons e entries =>
      obtain ⟨s, braced, comma, first, next, enough⟩ :=
        render_obj_cons (e.1.1, e.2.toJson) (Entries.members entries)
      rw [← Entries.members_cons] at braced comma enough
      rw [Entries.length_members] at enough
      obtain ⟨f, refused⟩ := readTaggedMembers_untagged known enough admitted untagged []
      rw [List.append_nil, comma, readTaggedMembers, next] at refused
      refine ⟨s, braced, f, ?_⟩
      rw [readTaggedMembers, first]
      exact refused
  rw [written, text, String.toList_ofList, braced]
  refine ⟨f, ?_⟩
  rw [readTagged, skipBlanks_cons rfl]
  simp only [refused]

/-! ## A record without a column -/

theorem skipDigits_toDigits (n : Nat) (ends : EndsNumber rest) :
    skipDigits (Nat.toDigits 10 n ++ rest) = rest := by
  have digits : ∀ c ∈ Nat.toDigits 10 n, (Text.digit? c).isSome = true :=
    fun c hc => Text.isSome_digit? (Text.decimalFrom_toDigits n) hc
  rw [skipDigits, List.dropWhile_append_of_pos digits]
  cases rest with
  | nil => rfl
  | cons c rest => rw [List.dropWhile_cons, (ends c rest rfl).1, Option.isSome_none, if_neg Bool.false_ne_true]

/-- **The digits of a number are passed over**, however many. -/
theorem skipNumber_toDigits (n : Nat) (ends : EndsNumber rest) :
    skipNumber (Nat.toDigits 10 n ++ rest) = .ok rest := by
  obtain ⟨c, cs, d, split, digit, zero⟩ := Text.toDigits_head n
  have all := skipDigits_toDigits n ends
  rw [split, List.cons_append] at all ⊢
  unfold skipNumber
  split
  case' h_1 same =>
    obtain ⟨rfl, rfl⟩ := List.cons.inj same
    obtain ⟨-, rfl⟩ := zero (Option.some.inj (digit.symm.trans rfl))
    rw [List.nil_append, nextDigit?_of_endsNumber ends, Option.isSome_none, if_neg Bool.false_ne_true]
  case' h_2 => rw [nextDigit?, digit, Option.map_some, Option.isSome_some, if_pos rfl, all]
  -- Behind the digits stands neither a point nor an exponent.
  all_goals
    simp only [pure, Except.pure, bind, Except.bind]
    split
    · exact absurd rfl (ends _ _ rfl).2.1
    · exact absurd rfl (ends _ _ rfl).2.2.1
    · exact absurd rfl (ends _ _ rfl).2.2.2
    · rfl

theorem skipWord_of_digit {c : Char} {d : Nat} (digit : Text.digit? c = some d) (s : List Char) :
    skipWord (c :: s) = (skipNumber (c :: s)).map (none, ·) := by
  rw [skipWord, skipBlanks_cons (digit_not_blank digit).1]
  split
  · rename_i nothing
    nomatch nothing
  all_goals rename_i same; obtain ⟨rfl, rfl⟩ := List.cons.inj same
  iterate 7 exact absurd rfl (ne_of_digit digit rfl)
  rw [digit]
  rfl

/-- A cell is one word. -/
theorem skipWord_toJson (cell : Cell) (ends : EndsNumber rest) :
    skipWord (cell.toJson.render ++ rest) = .ok (none, rest) := by
  cases cell with
  | text value =>
    rw [Cell.toJson, render, renderString_append]
    show (skipString _).map _ = _
    rw [skipString_renderString]
    rfl
  | integer value =>
    rcases render_integer value with ⟨n, _, digits⟩ | ⟨n, _, _, digits⟩
    · have number := skipNumber_toDigits n ends
      obtain ⟨c, cs, d, split, digit, _⟩ := Text.toDigits_head n
      rw [digits]
      rw [split, List.cons_append] at number ⊢
      rw [skipWord_of_digit digit, number]
      rfl
    · rw [digits, List.cons_append]
      show (skipNumber _).map _ = _
      rw [skipNumber_toDigits n ends]
      rfl

/-- **A cell is passed over.** -/
theorem skipValue_toJson (cell : Cell) (ends : EndsNumber rest) :
    skipValue (cell.toJson.render ++ rest) = .ok rest := by
  rw [skipValue, skipValueWith, skipWord_toJson cell ends]
  rfl

/-- A row is incomplete while a column has not been taken. -/
theorem rowOf_of_missing {taken : Taken} {columns : List (String × Column)} {c : String × Column}
    (asked : c ∈ columns) (untaken : taken.lookup c.1 = none) :
    ∃ m, rowOf taken columns = .error m := by
  induction columns with
  | nil => exact absurd asked List.not_mem_nil
  | cons column columns ih =>
    rw [rowOf]
    cases found : taken.lookup column.1 with
    | none => exact ⟨_, rfl⟩
    | some cell =>
      rcases List.mem_cons.mp asked with rfl | asked
      · exact absurd (untaken.symm.trans found) (Option.some_ne_none cell).symm
      · obtain ⟨m, incomplete⟩ := ih asked
        exact ⟨m, by rw [incomplete]; rfl⟩

/-- The loop over the members of a record that lacks a column. -/
theorem Schema.readMembers_incomplete {schema : Schema} {c : String × Column}
    (asked : c ∈ schema.columns) {entries : Entries} {taken : Taken} (enough : entries.length < fuel)
    (fits : ∀ e ∈ entries, e.1.2.admits e.2 = true)
    (agree : ∀ e ∈ entries, ∀ column, schema.columns.lookup e.1.1 = some column → column = e.1.2)
    (absent : ∀ e ∈ entries, e.1.1 ≠ c.1) (untaken : taken.lookup c.1 = none) (rest : List Char) :
    ∃ f, schema.readMembers fuel false taken (renderMembers (Entries.members entries) ++ rest)
      = .error f := by
  induction entries generalizing fuel taken with
  | nil =>
    obtain ⟨fuel, rfl⟩ := Nat.exists_eq_succ_of_ne_zero (Nat.ne_of_gt enough)
    obtain ⟨m, incomplete⟩ := rowOf_of_missing asked untaken
    rw [Entries.members, List.map_nil, renderMembers, List.singleton_append, Schema.readMembers,
      nextName_closing]
    simp only [incomplete]
    exact ⟨_, rfl⟩
  | cons e entries ih =>
    obtain ⟨fuel, rfl⟩ := Nat.exists_eq_succ_of_ne_zero (Nat.ne_of_gt (Nat.zero_lt_of_lt enough))
    have onward := fun {taken} => @ih fuel taken (Nat.lt_of_succ_lt_succ enough)
      (fun e' he => fits e' (List.mem_cons_of_mem _ he))
      (fun e' he => agree e' (List.mem_cons_of_mem _ he))
      (fun e' he => absent e' (List.mem_cons_of_mem _ he))
    have ends := endsNumber_renderMembers (Entries.members entries) rest
    rw [Entries.members_cons, renderMembers_cons_append, Schema.readMembers, nextName_renderString]
    cases known : schema.columns.lookup e.1.1 with
    | none =>
      simp only [known, readColon_cons, Except.bind, skipValue_toJson e.2 ends]
      exact onward untaken
    | some column =>
      obtain rfl := agree e List.mem_cons_self column known
      cases twice : (taken.lookup e.1.1).isSome with
      | true =>
        simp only [known, twice, if_true]
        exact ⟨_, rfl⟩
      | false =>
        simp only [known, twice, Bool.false_eq_true, if_false, readColon_cons, Except.bind,
          read_toJson (fits e List.mem_cons_self) ends]
        refine onward ?_
        rw [List.lookup_cons, beq_false_of_ne (absent e List.mem_cons_self).symm]
        exact untaken

/-- **A record of another schema is refused**, if it lacks a column and where the two schemas share a
column they agree on its type. -/
theorem Schema.read_incomplete (schema : Schema) (c : String × Column) {other : Schema} {row : List Cell}
    (fits : List.Forall₂ (fun c v => c.2.admits v = true) other.columns row)
    (agree : ∀ k ∈ schema.columns, ∀ k' ∈ other.columns, k.1 = k'.1 → k.2 = k'.2)
    (asked : c ∈ schema.columns) (absent : ∀ k ∈ other.columns, k.1 ≠ c.1) :
    ∃ f, schema.read (other.toJson row).text = .error f := by
  obtain ⟨entries, columns, rfl, written, admitted⟩ := Schema.exists_entries fits
  have column : ∀ e ∈ entries, e.1 ∈ other.columns := fun e he => columns ▸ List.mem_map_of_mem he
  have untaken : ([] : Taken).lookup c.1 = none := rfl
  obtain ⟨s, braced, f, refused⟩ : ∃ s, (Json.obj (Entries.members entries)).render = '\x7b' :: s ∧
      ∃ f, schema.readMembers (s.length + 1) true [] s = .error f := by
    cases entries with
    | nil =>
      obtain ⟨m, incomplete⟩ := rowOf_of_missing asked untaken
      refine ⟨['\x7d'], by rw [Entries.members, List.map_nil, render], ?_⟩
      rw [Schema.readMembers, nextName_closing]
      simp only [incomplete]
      exact ⟨_, rfl⟩
    | cons e entries =>
      obtain ⟨s, braced, comma, first, next, enough⟩ :=
        render_obj_cons (e.1.1, e.2.toJson) (Entries.members entries)
      rw [← Entries.members_cons] at braced comma enough
      rw [Entries.length_members] at enough
      obtain ⟨f, refused⟩ := Schema.readMembers_incomplete asked enough admitted
        (fun e he k known => agree (e.1.1, k) (mem_of_lookup known) e.1 (column e he) rfl)
        (fun e he => absent e.1 (column e he)) untaken []
      rw [List.append_nil, comma, Schema.readMembers, next] at refused
      refine ⟨s, braced, f, ?_⟩
      rw [Schema.readMembers, first]
      exact refused
  rw [Schema.read, written, text, String.toList_ofList, braced, Schema.readRow, skipBlanks_cons rfl]
  simp only [refused]
  exact ⟨f, rfl⟩

end SessionHub.Json

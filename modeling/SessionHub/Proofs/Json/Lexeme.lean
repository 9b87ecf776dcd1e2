import SessionHub.Json.Printer
import SessionHub.Json.Lexeme

/-!
# The words of a JSON text are read back

What the printer writes for a string or for an integer is read as that string or integer, and
nothing behind it is touched. A string needs no condition on what follows it, for it has a quote at
its end. An integer does: what follows must not go on with the number. Inside a record it never does,
because a comma or a brace follows.
-/

namespace SessionHub

namespace Text

theorem hexDigit?_hexChar {d : Nat} (small : d < 16) : hexDigit? (hexChar d) = some d :=
  (by decide : ∀ d : Fin 16, hexDigit? (hexChar d.val) = some d.val) ⟨d, small⟩

theorem digit?_digitChar {d : Nat} (small : d < 10) : digit? (Nat.digitChar d) = some d :=
  (by decide : ∀ d : Fin 10, digit? (Nat.digitChar d) = some d.val) ⟨d, small⟩

theorem decimalFrom_append (ds es : List Char) (read : Nat) :
    decimalFrom read (ds ++ es) = (decimalFrom read ds).bind fun n => decimalFrom n es := by
  induction ds generalizing read with
  | nil => rfl
  | cons c ds ih =>
    simp only [List.cons_append, decimalFrom]
    cases digit? c with
    | none => rfl
    | some d => exact ih (read * 10 + d)

/-- **Decimal digits are read back** as the number that was written. -/
theorem decimalFrom_toDigits (n : Nat) : decimalFrom 0 (Nat.toDigits 10 n) = some n := by
  induction n using Nat.strongRecOn with
  | ind n ih =>
    rw [Nat.toDigits_eq_if (by decide)]
    split
    · rename_i small
      simp [decimalFrom, digit?_digitChar small]
    · rename_i large
      have last : n % 10 < 10 := Nat.mod_lt n (by decide)
      rw [decimalFrom_append, ih (n / 10) (by omega)]
      simp only [Option.bind_some, decimalFrom, digit?_digitChar last]
      congr 1
      omega

/-- Whoever reads on does not come to less. -/
theorem le_of_decimalFrom {ds : List Char} {read n : Nat} (h : decimalFrom read ds = some n) :
    read ≤ n := by
  induction ds generalizing read with
  | nil => exact Nat.le_of_eq (Option.some.inj h)
  | cons c ds ih =>
    rw [decimalFrom] at h
    cases digit : digit? c with
    | none =>
      rw [digit] at h
      nomatch h
    | some d =>
      rw [digit] at h
      have := ih h
      omega

/-- What denotes a number is digits only. -/
theorem isSome_digit? {ds : List Char} {read n : Nat} (h : decimalFrom read ds = some n) {c : Char}
    (here : c ∈ ds) : (digit? c).isSome = true := by
  induction ds generalizing read with
  | nil => nomatch here
  | cons c' ds ih =>
    rw [decimalFrom] at h
    obtain ⟨d, digit, h⟩ := Option.bind_eq_some_iff.mp h
    rcases List.mem_cons.mp here with rfl | here
    · rw [digit, Option.isSome_some]
    · exact ih h here

/-- A number starts with a digit, and with a zero only if it is zero. -/
theorem toDigits_head (n : Nat) : ∃ c cs d, Nat.toDigits 10 n = c :: cs ∧ digit? c = some d ∧
    (d = 0 → n = 0 ∧ cs = []) := by
  induction n using Nat.strongRecOn with
  | ind n ih =>
    rw [Nat.toDigits_eq_if (by decide)]
    split
    · rename_i small
      exact ⟨_, [], n, rfl, digit?_digitChar small, fun zero => ⟨zero, rfl⟩⟩
    · rename_i large
      obtain ⟨c, cs, d, split, digit, zero⟩ := ih (n / 10) (by omega)
      refine ⟨c, _, d, by rw [split, List.cons_append], digit, fun none => ?_⟩
      have := (zero none).1
      omega

theorem utf8Size_cons (c : Char) (s : List Char) : utf8Size (c :: s) = c.utf8Size + utf8Size s := rfl

end Text

namespace Json

/-! ## Strings -/

/-- A unit of two zeros and two digits. -/
theorem readUnit_hexChar {c : Char} (control : c.toNat < 0x20) (s : List Char) :
    readUnit ('0' :: '0' :: Text.hexChar (c.toNat / 16) :: Text.hexChar (c.toNat % 16) :: s)
      = .ok (c.toNat, s) := by
  have zero : Text.hexDigit? '0' = some 0 := rfl
  have high : Text.hexDigit? (Text.hexChar (c.toNat / 16)) = some (c.toNat / 16) :=
    Text.hexDigit?_hexChar (by omega)
  have low : Text.hexDigit? (Text.hexChar (c.toNat % 16)) = some (c.toNat % 16) :=
    Text.hexDigit?_hexChar (by omega)
  have long : ¬ Text.utf8Size ('0' :: '0' :: Text.hexChar (c.toNat / 16) ::
      Text.hexChar (c.toNat % 16) :: s) < 4 := by
    have size := Char.utf8Size_pos
    have := size (Text.hexChar (c.toNat / 16))
    have := size (Text.hexChar (c.toNat % 16))
    have := size '0'
    simp only [Text.utf8Size_cons]
    omega
  rw [readUnit, if_neg long]
  simp only [zero, high, low]
  rw [show ((0 * 16 + 0) * 16 + c.toNat / 16) * 16 + c.toNat % 16 = c.toNat by omega]

/-- A character by its number: two zeros and two digits. -/
theorem readNumbered_hexChar {c : Char} (control : c.toNat < 0x20) (s : List Char) :
    readNumbered ('0' :: '0' :: Text.hexChar (c.toNat / 16) :: Text.hexChar (c.toNat % 16) :: s)
      = .ok (c, s) := by
  rw [readNumbered, readUnit_hexChar control]
  show (if 0xDC00 ≤ c.toNat ∧ c.toNat ≤ 0xDFFF then _ else _) = _
  rw [if_neg (by omega), if_neg (by omega), Char.ofNat_toNat]

/-- How a character may stand in a string: behind a backslash by a letter, or by its number, or as it
is. -/
theorem escapedChar_cases (c : Char) :
    (∃ l, escapedChar c = ['\\', l] ∧ lettered? l = some c ∧ l ≠ 'u') ∨
    (c.toNat < 0x20 ∧ escapedChar c
      = ['\\', 'u', '0', '0', Text.hexChar (c.toNat / 16), Text.hexChar (c.toNat % 16)]) ∨
    (escapedChar c = [c] ∧ c ≠ '"' ∧ c ≠ '\\' ∧ ¬ c.toNat < 0x20) := by
  unfold escapedChar
  split
  · exact .inl ⟨'"', by subst_vars; exact ⟨rfl, rfl, by decide⟩⟩
  rename_i quote
  split
  · exact .inl ⟨'\\', by subst_vars; exact ⟨rfl, rfl, by decide⟩⟩
  rename_i backslash
  split
  · exact .inl ⟨'b', by subst_vars; exact ⟨rfl, rfl, by decide⟩⟩
  split
  · exact .inl ⟨'f', by subst_vars; exact ⟨rfl, rfl, by decide⟩⟩
  split
  · exact .inl ⟨'n', by subst_vars; exact ⟨rfl, rfl, by decide⟩⟩
  split
  · exact .inl ⟨'r', by subst_vars; exact ⟨rfl, rfl, by decide⟩⟩
  split
  · exact .inl ⟨'t', by subst_vars; exact ⟨rfl, rfl, by decide⟩⟩
  split
  · rename_i control
    exact .inr (.inl ⟨control, rfl⟩)
  · rename_i control
    exact .inr (.inr ⟨rfl, quote, backslash, control⟩)

theorem readEscape_letter {l c : Char} (letter : lettered? l = some c) (other : l ≠ 'u')
    (s : List Char) : readEscape (l :: s) = .ok (c, s) := by
  unfold readEscape
  split
  · rename_i nothing
    nomatch nothing
  · rename_i numbered
    exact absurd (List.cons.inj numbered).1 other
  · rename_i same
    obtain ⟨rfl, rfl⟩ := List.cons.inj same
    rw [letter]

/-- **One character is read back**, escaped or not. -/
theorem readStringWith_escapedChar (fuel : Nat) (taken : List Char) (c : Char) (s : List Char) :
    readStringWith (fuel + 1) taken (escapedChar c ++ s) = readStringWith fuel (c :: taken) s := by
  rcases escapedChar_cases c with ⟨l, escaped, letter, other⟩ | ⟨control, escaped⟩ |
    ⟨plain, quote, backslash, visible⟩
  · rw [escaped, List.cons_append, List.cons_append, List.nil_append, readStringWith,
      if_neg (by decide), if_pos rfl, readEscape_letter letter other]
  · rw [escaped]
    simp only [List.cons_append, List.nil_append, readStringWith, readEscape,
      readNumbered_hexChar control s]
    rfl
  · rw [plain, List.singleton_append, readStringWith, if_neg quote, if_neg backslash, if_neg visible]

theorem readStringWith_flatMap_escapedChar (cs : List Char) {fuel : Nat} (enough : cs.length < fuel)
    (taken rest : List Char) :
    readStringWith fuel taken (cs.flatMap escapedChar ++ '"' :: rest)
      = .ok (String.ofList (taken.reverse ++ cs), rest) := by
  induction cs generalizing fuel taken with
  | nil =>
    obtain ⟨fuel, rfl⟩ := Nat.exists_eq_succ_of_ne_zero (Nat.ne_of_gt enough)
    simp [readStringWith]
  | cons c cs ih =>
    obtain ⟨fuel, rfl⟩ := Nat.exists_eq_succ_of_ne_zero (Nat.ne_of_gt (Nat.zero_lt_of_lt enough))
    rw [List.flatMap_cons, List.append_assoc, readStringWith_escapedChar,
      ih (Nat.lt_of_succ_lt_succ enough)]
    simp

theorem length_le_length_flatMap_escapedChar (cs : List Char) :
    cs.length ≤ (cs.flatMap escapedChar).length := by
  induction cs with
  | nil => exact Nat.le_refl _
  | cons c cs ih =>
    have one : 1 ≤ (escapedChar c).length := by
      unfold escapedChar
      repeat' split
      all_goals exact Nat.succ_le_succ (Nat.zero_le _)
    rw [List.flatMap_cons, List.length_append, List.length_cons]
    omega

theorem renderString_append (s : String) (rest : List Char) :
    renderString s ++ rest = '"' :: (s.toList.flatMap escapedChar ++ '"' :: rest) := by
  simp [renderString]

/-- **A string is read back.** -/
theorem readString_renderString (s : String) (rest : List Char) :
    readString (s.toList.flatMap escapedChar ++ '"' :: rest) = .ok (s, rest) := by
  have enough : s.toList.length < (s.toList.flatMap escapedChar ++ '"' :: rest).length + 1 := by
    have := length_le_length_flatMap_escapedChar s.toList
    rw [List.length_append]
    omega
  rw [readString, readStringWith_flatMap_escapedChar _ enough]
  simp

/-- **One character is passed over**, escaped or not. -/
theorem skipStringWith_escapedChar (fuel : Nat) (c : Char) (s : List Char) :
    skipStringWith (fuel + 1) (escapedChar c ++ s) = skipStringWith fuel s := by
  rcases escapedChar_cases c with ⟨l, escaped, letter, other⟩ | ⟨control, escaped⟩ |
    ⟨plain, quote, backslash, visible⟩
  · rw [escaped, List.cons_append, List.cons_append, List.nil_append]
    simp [skipStringWith, letter]
  · rw [escaped]
    simp only [List.cons_append, List.nil_append, skipStringWith, readUnit_hexChar control s]
    rfl
  · rw [plain]
    simp only [List.singleton_append, skipStringWith]
    rw [if_neg quote, if_neg backslash, if_neg visible]

/-- **A string is passed over.** -/
theorem skipString_renderString (s : String) (rest : List Char) :
    skipString (s.toList.flatMap escapedChar ++ '"' :: rest) = .ok rest := by
  have steps : ∀ (cs : List Char) (fuel : Nat), cs.length < fuel →
      skipStringWith fuel (cs.flatMap escapedChar ++ '"' :: rest) = .ok rest := by
    intro cs
    induction cs with
    | nil =>
      intro fuel enough
      obtain ⟨fuel, rfl⟩ := Nat.exists_eq_succ_of_ne_zero (Nat.ne_of_gt enough)
      rfl
    | cons c cs ih =>
      intro fuel enough
      obtain ⟨fuel, rfl⟩ := Nat.exists_eq_succ_of_ne_zero (Nat.ne_of_gt (Nat.zero_lt_of_lt enough))
      rw [List.flatMap_cons, List.append_assoc, skipStringWith_escapedChar]
      exact ih fuel (Nat.lt_of_succ_lt_succ enough)
  refine steps _ _ ?_
  have := length_le_length_flatMap_escapedChar s.toList
  rw [List.length_append]
  omega

/-! ## Integers -/

/-- Whether a text does not go on with a number. -/
def EndsNumber (s : List Char) : Prop :=
  ∀ c rest, s = c :: rest → Text.digit? c = none ∧ c ≠ '.' ∧ c ≠ 'e' ∧ c ≠ 'E'

theorem endsNumber_cons {c : Char} {rest : List Char} (digit : Text.digit? c = none)
    (point : c ≠ '.') (small : c ≠ 'e') (capital : c ≠ 'E') : EndsNumber (c :: rest) := by
  intro c' rest' same
  obtain ⟨rfl, rfl⟩ := List.cons.inj same
  exact ⟨digit, point, small, capital⟩

theorem nextDigit?_of_endsNumber {rest : List Char} (ends : EndsNumber rest) :
    nextDigit? rest = none := by
  cases rest with
  | nil => rfl
  | cons c rest => rw [nextDigit?, (ends c rest rfl).1, Option.map_none]

theorem readDigits_append {ds rest : List Char} (ends : EndsNumber rest) {read n : Nat}
    (denotes : Text.decimalFrom read ds = some n) (fits : n ≤ maxWord) (negative : Bool) :
    readDigits negative read (ds ++ rest) = readNumberEnd negative n rest := by
  induction ds generalizing read with
  | nil =>
    obtain rfl := Option.some.inj denotes
    cases rest with
    | nil => rfl
    | cons c rest =>
      rw [List.nil_append, readDigits, (ends c rest rfl).1]
  | cons c ds ih =>
    rw [Text.decimalFrom] at denotes
    cases digit : Text.digit? c with
    | none =>
      rw [digit] at denotes
      nomatch denotes
    | some d =>
      rw [digit] at denotes
      have := Text.le_of_decimalFrom denotes
      rw [List.cons_append, readDigits, digit]
      dsimp only
      rw [if_neg (by omega)]
      exact ih denotes

/-- **The digits of a number are read back**, as far as 64 bits hold it. -/
theorem readNumber_toDigits {n : Nat} (fits : n ≤ maxWord) {rest : List Char}
    (ends : EndsNumber rest) (negative : Bool) :
    readNumber negative (Nat.toDigits 10 n ++ rest) = readNumberEnd negative n rest := by
  obtain ⟨c, cs, d, split, digit, zero⟩ := Text.toDigits_head n
  have denotes := Text.decimalFrom_toDigits n
  rw [split, Text.decimalFrom, digit] at denotes
  rw [split, List.cons_append, readNumber, digit]
  cases d with
  | zero =>
    obtain ⟨rfl, rfl⟩ := zero rfl
    rw [List.nil_append, nextDigit?_of_endsNumber ends]
    rfl
  | succ d =>
    rw [Option.bind_some, Nat.zero_mul, Nat.zero_add] at denotes
    exact readDigits_append ends denotes fits negative

/-- What stands behind an integer. -/
theorem readNumberEnd_of_endsNumber {rest : List Char} (ends : EndsNumber rest) (negative : Bool)
    (n : Nat) : readNumberEnd negative n rest =
      if !negative then .ok (.int n, rest)
      else if 0 < n ∧ n ≤ twoTo 63 then .ok (.int (-(n : Int)), rest)
      else .ok (.double (-(Float.ofNat n)).toBits, rest) := by
  unfold readNumberEnd
  split
  · exact absurd rfl (ends _ _ rfl).2.1
  · exact absurd rfl (ends _ _ rfl).2.2.1
  · exact absurd rfl (ends _ _ rfl).2.2.2
  · rfl

end Json

end SessionHub

import SessionHub.Names

/-!
# Fresh names are apart

A fresh name is a counter in hexadecimal digits, cut in two. The digits can be read back, however
many zeros stand before them; so two counters never give one name. Digits and hyphens are all that a
fresh name is made of, so it has no colon, and keys that have names between colons can be told apart.
-/

namespace SessionHub

namespace Text

/-- The number that hexadecimal digits denote, after those already read. -/
def hexFrom (read : Nat) (digits : List Char) : Nat :=
  digits.foldl (fun n c => 16 * n + (hexDigit? c).getD 0) read

theorem hexFrom_append (read : Nat) (ds ds' : List Char) :
    hexFrom read (ds ++ ds') = hexFrom (hexFrom read ds) ds' :=
  List.foldl_append

/-- A digit of base sixteen is read as what it denotes. -/
theorem hexDigit?_digitChar {d : Nat} (small : d < 16) : hexDigit? (Nat.digitChar d) = some d :=
  (by decide : ∀ d : Fin 16, hexDigit? (Nat.digitChar d) = some d.val) ⟨d, small⟩

/-- Digits are read back as the number that was written. -/
theorem hexFrom_toDigits (n : Nat) : hexFrom 0 (Nat.toDigits 16 n) = n := by
  induction n using Nat.strongRecOn with
  | ind n ih =>
    rw [Nat.toDigits_eq_if (by decide)]
    split
    · rename_i small
      simp [hexFrom, hexDigit?_digitChar small]
    · rename_i large
      have last : n % 16 < 16 := Nat.mod_lt n (by decide)
      rw [hexFrom_append, ih (n / 16) (by omega)]
      simp only [hexFrom, List.foldl_cons, List.foldl_nil, hexDigit?_digitChar last,
        Option.getD_some]
      omega

theorem isSome_hexDigit?_of_mem_toDigits {c : Char} {n : Nat} (h : c ∈ Nat.toDigits 16 n) :
    (hexDigit? c).isSome := by
  induction n using Nat.strongRecOn with
  | ind n ih =>
    rw [Nat.toDigits_eq_if (by decide)] at h
    split at h
    · rename_i small
      obtain rfl := List.mem_singleton.mp h
      exact Option.isSome_of_mem (hexDigit?_digitChar small)
    · rename_i large
      rcases List.mem_append.mp h with before | last
      · exact ih (n / 16) (by omega) before
      · obtain rfl := List.mem_singleton.mp last
        exact Option.isSome_of_mem (hexDigit?_digitChar (Nat.mod_lt n (by decide)))

/-- Zeros in front denote nothing. -/
theorem hexFrom_replicate_zero (k : Nat) : hexFrom 0 (List.replicate k '0') = 0 := by
  induction k with
  | zero => rfl
  | succ k ih => exact ih

end Text

theorem toList_hexPlaces (width n : Nat) : (hexPlaces width n).toList
    = List.replicate (width - (Nat.toDigits 16 n).length) '0' ++ Nat.toDigits 16 n := by
  simp [hexPlaces, Text.hexText]

/-- Places filled by a number are read back as the number. -/
theorem hexFrom_hexPlaces (width n : Nat) : Text.hexFrom 0 (hexPlaces width n).toList = n := by
  rw [toList_hexPlaces, Text.hexFrom_append, Text.hexFrom_replicate_zero, Text.hexFrom_toDigits]

theorem width_le_length_hexPlaces (width n : Nat) : width ≤ (hexPlaces width n).toList.length := by
  rw [toList_hexPlaces, List.length_append, List.length_replicate]
  omega

theorem isSome_hexDigit?_of_mem_hexPlaces {c : Char} {width n : Nat}
    (h : c ∈ (hexPlaces width n).toList) : (Text.hexDigit? c).isSome := by
  rw [toList_hexPlaces] at h
  rcases List.mem_append.mp h with zero | digit
  · obtain rfl := List.eq_of_mem_replicate zero
    rfl
  · exact Text.isSome_hexDigit?_of_mem_toDigits digit

theorem toList_freshText (n : Nat) : (freshText n).toList
    = (hexPlaces 12 n).toList.take 8 ++ ('-' :: (hexPlaces 12 n).toList.drop 8)
      ++ "-7000-8000-000000000000".toList := by
  have parts : freshText n = String.ofList ((hexPlaces 12 n).toList.take 8) ++ "-"
      ++ String.ofList ((hexPlaces 12 n).toList.drop 8) ++ "-7000-8000-000000000000" := rfl
  have hyphen : "-".toList = ['-'] := rfl
  simp only [parts, String.toList_append, String.toList_ofList, hyphen, List.append_assoc,
    List.cons_append, List.nil_append]

/-- A fresh name is made of digits and hyphens. -/
theorem digit_or_hyphen_of_mem_freshText {c : Char} {n : Nat} (h : c ∈ (freshText n).toList) :
    (Text.hexDigit? c).isSome ∨ c = '-' := by
  rw [toList_freshText] at h
  rcases List.mem_append.mp h with count | rest
  · rcases List.mem_append.mp count with high | low
    · exact .inl (isSome_hexDigit?_of_mem_hexPlaces (List.mem_of_mem_take high))
    · rcases List.mem_cons.mp low with hyphen | low
      · exact .inr hyphen
      · exact .inl (isSome_hexDigit?_of_mem_hexPlaces (List.mem_of_mem_drop low))
  · have fixed : ("-7000-8000-000000000000".toList.all fun c =>
        (Text.hexDigit? c).isSome || c == '-') = true := by decide +kernel
    simpa using List.all_eq_true.mp fixed c rest

/-- **A fresh name has no colon.** -/
theorem colon_not_mem_freshText (n : Nat) : ':' ∉ (freshText n).toList := fun colon =>
  absurd (digit_or_hyphen_of_mem_freshText colon) (by decide)

/-- **Two counters never give one name.** -/
theorem freshText_inj {n m : Nat} (h : freshText n = freshText m) : n = m := by
  have lists := congrArg String.toList h
  rw [toList_freshText, toList_freshText] at lists
  have whole := List.append_cancel_right lists
  have lengths : ((hexPlaces 12 n).toList.take 8).length = ((hexPlaces 12 m).toList.take 8).length := by
    have := width_le_length_hexPlaces 12 n
    have := width_le_length_hexPlaces 12 m
    simp only [List.length_take]
    omega
  obtain ⟨high, low⟩ := List.append_inj whole lengths
  have digits : (hexPlaces 12 n).toList = (hexPlaces 12 m).toList := by
    rw [← List.take_append_drop 8 (hexPlaces 12 n).toList, high, (List.cons.inj low).2,
      List.take_append_drop]
  rw [← hexFrom_hexPlaces 12 n, digits, hexFrom_hexPlaces]

theorem SessionId.fresh_inj {n m : Nat} (h : SessionId.fresh n = SessionId.fresh m) : n = m :=
  freshText_inj (congrArg SessionId.text h)

end SessionHub

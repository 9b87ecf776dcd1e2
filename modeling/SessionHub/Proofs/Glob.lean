import SessionHub.Proofs.Glob.Search

/-!
# Patterns and what they fit

How a pattern is spelled says what it fits: `matches_exact` reads the bytes of a pattern as tokens and
the bytes of a text as their pieces. A text that is escaped stands for its own bytes. No byte of a
character that is written plainly means anything else, because in UTF-8 every byte of a longer character
lies above the ASCII ones; and where the bytes of one text begin another, its characters do. So an
escaped text in front of a pattern fits that text and then what the pattern fits (`escape_exact`).
-/

namespace SessionHub

namespace Glob

/-! ## How tokens are spelled -/

/-- Whether a byte stands for itself. -/
def IsPlain (b : UInt8) : Prop := b ≠ 42 ∧ b ≠ 63 ∧ b ≠ 92

/-- How tokens are spelled as the bytes of a pattern. -/
inductive Spelled : List Token → List UInt8 → Prop
  | nil : Spelled [] []
  /-- An asterisk is any run of bytes. -/
  | run {p : List Token} {bytes : List UInt8} (rest : Spelled p bytes) :
    Spelled (.run :: p) (42 :: bytes)
  /-- A question mark is any one byte. -/
  | one {p : List Token} {bytes : List UInt8} (rest : Spelled p bytes) :
    Spelled (.one :: p) (63 :: bytes)
  /-- A byte behind a backslash is itself. -/
  | escaped {p : List Token} {bytes : List UInt8} (b : UInt8) (rest : Spelled p bytes) :
    Spelled (.byte b :: p) (92 :: b :: bytes)
  /-- And so is a backslash with nothing behind it. -/
  | slash : Spelled [.byte 92] [92]
  /-- Every other byte is itself. -/
  | plain {p : List Token} {bytes : List UInt8} {b : UInt8} (own : IsPlain b) (rest : Spelled p bytes) :
    Spelled (.byte b :: p) (b :: bytes)

variable {p : List Token} {b : UInt8} {bytes text rest : List UInt8}

theorem tokens_cons (plain : IsPlain b) : tokens (b :: rest) = .byte b :: tokens rest := by
  obtain ⟨star, mark, slash⟩ := plain
  rw [tokens] <;> simp_all

theorem tokens_append (plain : ∀ b ∈ bytes, IsPlain b) :
    tokens (bytes ++ rest) = bytes.map .byte ++ tokens rest := by
  induction bytes with
  | nil => rfl
  | cons b bytes ih =>
    rw [List.cons_append, tokens_cons (plain b List.mem_cons_self),
      ih fun b hb => plain b (List.mem_cons_of_mem _ hb), List.map_cons, List.cons_append]

theorem spelled_tokens (bytes : List UInt8) : Spelled (tokens bytes) bytes := by
  fun_induction tokens bytes with
  | case1 => exact .nil
  | case2 rest ih => exact .run ih
  | case3 rest ih => exact .one ih
  | case4 => exact .slash
  | case5 b rest ih => exact .escaped b ih
  | case6 b rest star mark last slash ih =>
    refine .plain ⟨star, mark, ?_⟩ ih
    rintro rfl
    cases rest with
    | nil => exact last rfl rfl
    | cons c rest => exact slash c rest rfl rfl

/-- **A pattern spells its tokens and no others.** -/
theorem spelled_iff : Spelled p bytes ↔ p = tokens bytes := by
  constructor
  · intro spelled
    induction spelled with
    | nil => rfl
    | run _ ih => rw [ih, tokens]
    | one _ ih => rw [ih, tokens]
    | escaped b _ ih => rw [ih, tokens]
    | slash => rfl
    | plain own _ ih => rw [ih, tokens_cons own]
  · rintro rfl
    exact spelled_tokens bytes

/-- **What a pattern fits.** A search for a fit comes to its end, and it ends well exactly if the bytes
of the text can be split into pieces as the pattern spells them. -/
theorem matches_exact (pattern text : String) :
    (∃ rounds, Search.after rounds
        { pattern := tokens (Text.utf8Bytes pattern.toList), text := Text.utf8Bytes text.toList }
        = .inl (matches_ pattern text)) ∧
      (matches_ pattern text = true ↔ ∃ p pieces, Spelled p (Text.utf8Bytes pattern.toList) ∧
        List.Forall₂ Token.Admits p pieces ∧ pieces.flatten = Text.utf8Bytes text.toList) := by
  refine ⟨⟨_, Search.after_of_toGo_lt (Nat.lt_succ_self _)⟩, ?_⟩
  rw [matches_, fits_iff]
  constructor
  · intro h
    obtain ⟨pieces, whole, admitted⟩ := h
    exact ⟨_, pieces, spelled_tokens _, admitted, whole⟩
  · intro h
    obtain ⟨p, pieces, spelled, admitted, whole⟩ := h
    obtain rfl := spelled_iff.mp spelled
    exact ⟨pieces, whole, admitted⟩

example : matches_ "a*b?\\*" "axxbyb-*" = true := by decide

/-! ## Bytes that stand for themselves -/

/-- A run alone fits every text. -/
theorem fits_run (text : List UInt8) : fits [.run] text = true :=
  fits_iff.mpr (splits_run.mpr ⟨[], List.nil_suffix, splits_nil.mpr rfl⟩)

/-- Bytes that stand for themselves fit themselves and nothing else. -/
theorem fits_bytes_append : fits (bytes.map .byte ++ p) text = true ↔
    ∃ rest, text = bytes ++ rest ∧ fits p rest = true := by
  simp only [fits_iff]
  induction bytes generalizing text with
  | nil => simp
  | cons b bytes ih =>
    rw [List.map_cons, List.cons_append, splits_cons]
    constructor
    · intro h
      obtain ⟨_, others, rfl, rfl, split⟩ := h
      obtain ⟨rest, rfl, behind⟩ := ih.mp split
      exact ⟨rest, rfl, behind⟩
    · intro h
      obtain ⟨rest, rfl, split⟩ := h
      exact ⟨[b], bytes ++ rest, rfl, rfl, ih.mpr ⟨rest, rfl, split⟩⟩

/-! ## Escapes -/

/-- A byte of a character that is an ASCII byte is the character itself. -/
theorem toNat_of_mem_utf8EncodeChar {c : Char} (hb : b ∈ String.utf8EncodeChar c)
    (ascii : b.toNat < 0x80) : c.toNat = b.toNat := by
  have value : c.toNat = c.val.toNat := rfl
  have high : ∀ {k : Nat}, b = UInt8.ofNat k → 0x80 ≤ k → ¬ k < 0x100 := by
    intro k here low bound
    rw [here, UInt8.toNat_ofNat'] at ascii
    omega
  unfold String.utf8EncodeChar at hb
  dsimp only at hb
  split at hb
  · rename_i small
    obtain rfl := List.mem_singleton.mp hb
    rw [UInt8.toNat_ofNat', value]
    omega
  -- All bytes of a longer character lie above the ASCII ones.
  · exfalso
    split at hb
    · simp only [List.mem_cons, List.not_mem_nil, or_false] at hb
      rcases hb with here | here <;> exact high here (by omega) (by omega)
    split at hb
    · simp only [List.mem_cons, List.not_mem_nil, or_false] at hb
      rcases hb with here | here | here <;> exact high here (by omega) (by omega)
    · simp only [List.mem_cons, List.not_mem_nil, or_false] at hb
      rcases hb with here | here | here | here <;> exact high here (by omega) (by omega)

/-- **Every byte of a character that is no pattern character stands for itself.** -/
theorem isPlain_of_mem {c : Char} (ordinary : isMeta c = false) :
    ∀ b ∈ String.utf8EncodeChar c, IsPlain b := by
  intro b hb
  have same : ∀ m : Char, m.toNat < 0x80 → b = UInt8.ofNat m.toNat → c = m := by
    intro m ascii here
    have number : b.toNat = m.toNat := by
      rw [here, UInt8.toNat_ofNat']
      omega
    have := toNat_of_mem_utf8EncodeChar hb (by omega)
    exact Char.toNat_inj.mp (this.trans number)
  simp only [isMeta, Bool.or_eq_false_iff, decide_eq_false_iff_not] at ordinary
  exact ⟨fun here => ordinary.1.1.1.1 (same '*' (by decide) here),
    fun here => ordinary.1.1.1.2 (same '?' (by decide) here),
    fun here => ordinary.2 (same '\\' (by decide) here)⟩

theorem utf8Bytes_append (cs ds : List Char) :
    Text.utf8Bytes (cs ++ ds) = Text.utf8Bytes cs ++ Text.utf8Bytes ds := List.flatMap_append

theorem escapeChars_append (cs ds : List Char) :
    escapeChars (cs ++ ds) = escapeChars cs ++ escapeChars ds := by
  induction cs with
  | nil => rfl
  | cons c cs ih =>
    rw [List.cons_append, escapeChars, escapeChars, ih]
    split <;> rfl

/-- **An escaped text stands for its bytes.** -/
theorem tokens_escapeChars (cs : List Char) :
    tokens (Text.utf8Bytes (escapeChars cs) ++ rest)
      = (Text.utf8Bytes cs).map .byte ++ tokens rest := by
  induction cs with
  | nil => rfl
  | cons c cs ih =>
    have single : ∀ cs, Text.utf8Bytes (c :: cs) = String.utf8EncodeChar c ++ Text.utf8Bytes cs :=
      fun _ => rfl
    rw [escapeChars]
    cases special : isMeta c with
    | false =>
      rw [if_neg Bool.false_ne_true, single, single, List.append_assoc,
        tokens_append (isPlain_of_mem special), ih, List.map_append, List.append_assoc]
    | true =>
      have escaped : ∃ b, String.utf8EncodeChar c = [b] := by
        simp only [isMeta, Bool.or_eq_true, decide_eq_true_eq] at special
        rcases special with (((rfl | rfl) | rfl) | rfl) | rfl <;> exact ⟨_, rfl⟩
      obtain ⟨b, byte⟩ := escaped
      have slash : Text.utf8Bytes ('\\' :: c :: escapeChars cs)
          = 92 :: b :: Text.utf8Bytes (escapeChars cs) := by
        rw [show Text.utf8Bytes ('\\' :: c :: escapeChars cs)
          = 92 :: (String.utf8EncodeChar c ++ Text.utf8Bytes (escapeChars cs)) from rfl, byte]
        rfl
      rw [if_pos rfl, slash, single, byte, List.cons_append, List.cons_append, tokens, ih]
      rfl

/-- Different characters have different bytes. -/
theorem utf8Bytes_inj {cs ds : List Char} (same : Text.utf8Bytes cs = Text.utf8Bytes ds) : cs = ds := by
  have texts : String.ofList cs = String.ofList ds := by
    rw [← String.toByteArray_inj, String.toByteArray_ofList, String.toByteArray_ofList]
    exact congrArg List.toByteArray same
  exact String.ofList_injective texts

/-- The bytes of a character, at the beginning of some text, tell the character. -/
theorem prefix_of_utf8Bytes {cs ds : List Char}
    (begins : Text.utf8Bytes cs <+: Text.utf8Bytes ds) : cs <+: ds := by
  induction cs generalizing ds with
  | nil => exact List.nil_prefix
  | cons c cs ih =>
    cases ds with
    | nil =>
      have none : String.utf8EncodeChar c = [] :=
        (List.append_eq_nil_iff.mp (List.prefix_nil.mp begins)).1
      exact absurd none (List.ne_nil_of_length_pos (by simp [Char.utf8Size_pos]))
    | cons d ds =>
      obtain ⟨rest, whole⟩ := begins
      have bytes : String.utf8EncodeChar c ++ (Text.utf8Bytes cs ++ rest)
          = String.utf8EncodeChar d ++ Text.utf8Bytes ds := by
        rw [← List.append_assoc]
        exact whole
      have decoded := congrArg (fun l => (List.toByteArray l).utf8DecodeChar? 0) bytes
      simp only [List.toByteArray_append, ByteArray.utf8DecodeChar?_utf8EncodeChar_append,
        Option.some.injEq] at decoded
      subst decoded
      rw [List.cons_prefix_cons]
      exact ⟨rfl, ih ⟨rest, List.append_cancel_left bytes⟩⟩

theorem utf8Bytes_prefix_iff {cs ds : List Char} :
    Text.utf8Bytes cs <+: Text.utf8Bytes ds ↔ cs <+: ds := by
  refine ⟨prefix_of_utf8Bytes, ?_⟩
  intro h
  obtain ⟨rest, rfl⟩ := h
  exact ⟨Text.utf8Bytes rest, (utf8Bytes_append ..).symm⟩

/-- **An escaped text in front of a pattern** fits that text and then what the pattern fits. -/
theorem matches_escape_append_iff (literal pattern text : String) :
    matches_ (escape literal ++ pattern) text = true ↔
      ∃ rest, text = literal ++ rest ∧ matches_ pattern rest = true := by
  have spelled : tokens (Text.utf8Bytes (escape literal ++ pattern).toList)
      = (Text.utf8Bytes literal.toList).map .byte ++ tokens (Text.utf8Bytes pattern.toList) := by
    rw [String.toList_append, escape, String.toList_ofList, utf8Bytes_append, tokens_escapeChars]
  rw [matches_, spelled, fits_bytes_append]
  constructor
  · intro h
    obtain ⟨bytes, whole, fit⟩ := h
    obtain ⟨rest, chars⟩ := utf8Bytes_prefix_iff.mp ⟨bytes, whole.symm⟩
    rw [← chars, utf8Bytes_append, List.append_cancel_left_eq] at whole
    refine ⟨String.ofList rest, String.toList_inj.mp (by simp [chars]), ?_⟩
    rw [matches_, String.toList_ofList, whole]
    exact fit
  · intro h
    obtain ⟨rest, rfl, fit⟩ := h
    exact ⟨_, by rw [String.toList_append, utf8Bytes_append], fit⟩

/-- **An escaped text and then any run fits what begins with the text**, and nothing else. -/
theorem matches_escape_run_iff (start text : String) :
    matches_ (escape start ++ "*") text = true ↔ start.toList <+: text.toList := by
  rw [matches_escape_append_iff]
  constructor
  · intro h
    obtain ⟨rest, rfl, -⟩ := h
    rw [String.toList_append]
    exact List.prefix_append ..
  · intro h
    obtain ⟨rest, chars⟩ := h
    exact ⟨String.ofList rest, String.toList_inj.mp (by simp [chars]), fits_run _⟩

/-- **An escaped text fits itself and nothing else.** -/
theorem matches_escape_iff (text other : String) : matches_ (escape text) other = true ↔ other = text := by
  have whole := matches_escape_append_iff text "" other
  rw [String.append_empty] at whole
  rw [whole]
  constructor
  · intro h
    obtain ⟨rest, rfl, fit⟩ := h
    have none : Text.utf8Bytes rest.toList = [] := splits_nil.mp (fits_iff.mp fit)
    rw [show rest = "" from String.toList_inj.mp (utf8Bytes_inj none), String.append_empty]
  · rintro rfl
    exact ⟨"", String.append_empty.symm, rfl⟩

/-- **Escaping is exact.** In front of a pattern an escaped text takes itself off and nothing else; alone
it fits itself only, and with a run behind it what begins with it. -/
theorem escape_exact :
    (∀ literal pattern text : String, matches_ (escape literal ++ pattern) text = true ↔
      ∃ rest, text = literal ++ rest ∧ matches_ pattern rest = true) ∧
    (∀ literal text : String, matches_ (escape literal) text = true ↔ text = literal) ∧
    (∀ literal text : String, matches_ (escape literal ++ "*") text = true ↔
      ∃ rest, text = literal ++ rest) := by
  refine ⟨matches_escape_append_iff, matches_escape_iff, fun literal text => ?_⟩
  rw [matches_escape_append_iff]
  exact exists_congr fun rest => and_iff_left (fits_run _)

end Glob

end SessionHub

import SessionHub.Text.Utf8

/-!
# Patterns over channel names

A pattern is a run of tokens over bytes: `*` stands for any run, `?` for any single byte, a
backslash takes the byte behind it literally (and itself, when it is the last), and every other
byte stands for itself — brackets too.

A **search** takes tokens and bytes off together, from the left. A run is taken for empty at first.
Where a token does not take the byte before it, the search goes back to the last run, which takes one
byte more; no run before that is ever gone back to. A search keeps where it may go back to and how it
got from there to where it stands, so it is plain that it comes to an end.
-/

namespace SessionHub.Glob

/-- What a pattern is made of. -/
inductive Token where
  | run
  | one
  | byte (value : UInt8)
  deriving Repr, DecidableEq

/-- The tokens of a pattern's bytes. -/
def tokens : List UInt8 → List Token
  | [] => []
  | 42 :: rest => .run :: tokens rest
  | 63 :: rest => .one :: tokens rest
  | [92] => [.byte 92]
  | 92 :: b :: rest => .byte b :: tokens rest
  | b :: rest => .byte b :: tokens rest

/-- Whether a token stands for one byte and takes this one. -/
def Token.takes : Token → UInt8 → Bool
  | .run, _ => false
  | .one, _ => true
  | .byte c, b => b == c

theorem Token.ne_run_of_takes {k : Token} {b : UInt8} (h : k.takes b = true) : k ≠ .run := by
  rintro rfl
  exact nomatch h

/-! ## Searches -/

/-- Where a search may go back to: the tokens behind the last run, and the text behind what this run has
taken so far. -/
structure Retreat where
  pattern : List Token
  text : List UInt8
  deriving Repr, DecidableEq

/-- How a search got from there to where it stands: token by token and byte by byte, over no run. -/
def Retreat.LeadsTo (r : Retreat) (pattern : List Token) (text : List UInt8) : Prop :=
  ∃ met taken, (∀ k ∈ met, k ≠ .run) ∧ met.length = taken.length ∧
    r.pattern = met ++ pattern ∧ r.text = taken ++ text

theorem Retreat.leadsTo_self (pattern : List Token) (text : List UInt8) :
    LeadsTo ⟨pattern, text⟩ pattern text :=
  ⟨[], [], nofun, rfl, rfl, rfl⟩

theorem Retreat.LeadsTo.next {r : Retreat} {k : Token} {b : UInt8} {pattern : List Token}
    {text : List UInt8} (h : r.LeadsTo (k :: pattern) (b :: text)) (other : k ≠ .run) :
    r.LeadsTo pattern text := by
  obtain ⟨met, taken, plain, length, tokens, bytes⟩ := h
  refine ⟨met ++ [k], taken ++ [b], ?_, by simp [length], by simp [tokens], by simp [bytes]⟩
  intro k' hk'
  rcases List.mem_append.mp hk' with earlier | last
  · exact plain k' earlier
  · rw [List.mem_singleton.mp last]
    exact other

/-- A search for how a pattern fits a text: the tokens and the text that are left, and where it may go
back to. -/
structure Search where
  pattern : List Token
  text : List UInt8
  retreat : Option Retreat := none
  since : ∀ r ∈ retreat, r.LeadsTo pattern text := by nofun

namespace Search

/-- A search behind a run that ends here. -/
def behindRun (pattern : List Token) (text : List UInt8) : Search where
  pattern
  text
  retreat := some ⟨pattern, text⟩
  since _ hr := Option.some.inj hr ▸ Retreat.leadsTo_self pattern text

/-- Goes back to the last run, which takes one byte more. Without a run, or with no text left for it,
nothing fits. -/
def goBack : Option Retreat → Bool ⊕ Search
  | some ⟨pattern, _ :: text⟩ => .inr (behindRun pattern text)
  | _ => .inl false

/-- One round of a search: whether the pattern fits, or how the search goes on. Where the text is over,
only runs may be left. -/
def round : Search → Bool ⊕ Search
  | ⟨pattern, [], _, _⟩ => .inl (pattern.all (· == .run))
  | ⟨.run :: pattern, text, _, _⟩ => .inr (behindRun pattern text)
  | ⟨k :: pattern, b :: text, retreat, since⟩ =>
    if taken : k.takes b then
      .inr ⟨pattern, text, retreat, fun r hr => (since r hr).next (Token.ne_run_of_takes taken)⟩
    else goBack retreat
  | ⟨[], _ :: _, retreat, _⟩ => goBack retreat

/-! Passing a run leaves fewer tokens to go back to, and going back leaves less text; between the two
the text that is left gets shorter. -/

/-- The length of what a search may go back to. -/
def span (s : Search) : Nat :=
  match s.retreat with
  | none => s.pattern.length + s.text.length
  | some r => r.pattern.length + r.text.length

/-- A bound for the rounds that are left. -/
def toGo (s : Search) : Nat := s.span * (s.span + 1) + s.text.length

theorem length_le_span (s : Search) : s.pattern.length + s.text.length ≤ s.span := by
  obtain ⟨pattern, text, retreat, since⟩ := s
  cases retreat with
  | none => exact Nat.le_refl _
  | some r =>
    obtain ⟨met, taken, _, _, tokens, bytes⟩ := since r rfl
    simp only [span, tokens, bytes, List.length_append]
    omega

theorem toGo_lt_of_span {s s' : Search} (less : s'.span < s.span) : s'.toGo < s.toGo := by
  have within := s'.length_le_span
  have squares : (s'.span + 1) * (s'.span + 2) ≤ s.span * (s.span + 1) :=
    Nat.mul_le_mul less (Nat.succ_le_succ less)
  have grown : (s'.span + 1) * (s'.span + 2) = s'.span * (s'.span + 1) + 2 * (s'.span + 1) := by
    rw [← Nat.add_mul, Nat.mul_comm]
  unfold toGo
  omega

theorem span_goBack {r : Option Retreat} {s' : Search} (h : goBack r = .inr s') :
    ∃ r' ∈ r, s'.span < r'.pattern.length + r'.text.length := by
  unfold goBack at h
  split at h
  · obtain rfl := Sum.inr.inj h
    exact ⟨_, rfl, by simp [span, behindRun]⟩
  · exact nomatch h

/-- **Every round brings a search nearer to its end.** -/
theorem toGo_round {s s' : Search} (h : s.round = .inr s') : s'.toGo < s.toGo := by
  have back : ∀ {r : Option Retreat}, s.retreat = r → goBack r = .inr s' → s'.toGo < s.toGo := by
    intro r here gone
    obtain ⟨r', hr', less⟩ := span_goBack gone
    obtain rfl := Option.mem_def.mp hr'
    refine toGo_lt_of_span ?_
    rw [show s.span = r'.pattern.length + r'.text.length by simp only [span, here]]
    exact less
  unfold round at h
  split at h
  · exact nomatch h
  · rename_i pattern text retreat since _
    obtain rfl := Sum.inr.inj h
    refine toGo_lt_of_span (Nat.lt_of_lt_of_le ?_ (length_le_span _))
    simp [span, behindRun]
  · rename_i k pattern b text retreat since _
    split at h
    · obtain rfl := Sum.inr.inj h
      cases retreat with
      | none =>
        refine toGo_lt_of_span ?_
        simp only [span, List.length_cons]
        omega
      | some r => simp [toGo, span]
    · exact back rfl h
  · exact back rfl h

/-- What a search comes to. -/
@[semireducible] def verdict (s : Search) : Bool :=
  match _next : s.round with
  | .inl fits => fits
  | .inr s' => s'.verdict
termination_by s.toGo
decreasing_by exact toGo_round _next

end Search

/-- Whether some tokens fit a text. -/
def fits (pattern : List Token) (text : List UInt8) : Bool :=
  Search.verdict { pattern, text }

/-- Whether a pattern fits a text. -/
def matches_ (pattern text : String) : Bool :=
  fits (tokens (Text.utf8Bytes pattern.toList)) (Text.utf8Bytes text.toList)

/-- Whether a character is taken literally only behind a backslash. -/
def isMeta (c : Char) : Bool := c = '*' || c = '?' || c = '[' || c = ']' || c = '\\'

/-- The pattern that fits a text and nothing else. -/
def escapeChars : List Char → List Char
  | [] => []
  | c :: rest => if isMeta c then '\\' :: c :: escapeChars rest else c :: escapeChars rest

/-- The pattern that fits a text and nothing else. -/
def escape (text : String) : String := String.ofList (escapeChars text.toList)

end SessionHub.Glob

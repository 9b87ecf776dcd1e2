import Mathlib.Data.List.Forall2
import Mathlib.Data.List.Infix
import SessionHub.Glob

/-!
# A search misses no fit

A pattern fits a text if the text **splits** into one piece for each token, of the kind that the token
stands for. A search does not try all splits: it goes back to the last run only, and forgets every run
before that. `matches_exact` says that it finds a fit all the same whenever there is one, and that it
comes to its end.

What carries the proof is what is still **open** to a search: that the rest of the pattern fits the rest
of the text, or that the pattern behind the last run fits somewhere further on. No round changes whether
anything is open. Where a round passes a run it gives up what was open to the run before; but that would
have had to pass the same run later on, and from here this run gets there by itself (`splits_of_open`).
-/

namespace SessionHub.Glob

variable {k : Token} {p q : List Token} {b : UInt8} {text : List UInt8}

/-! ## Splits -/

/-- What pieces a token stands for: any run of bytes, any one byte, or its own byte. -/
def Token.Admits : Token → List UInt8 → Prop
  | .run, _ => True
  | .one, piece => ∃ b, piece = [b]
  | .byte b, piece => piece = [b]

/-- Whether a text can be split into one piece for each token. -/
def Splits (p : List Token) (text : List UInt8) : Prop :=
  ∃ pieces, pieces.flatten = text ∧ List.Forall₂ Token.Admits p pieces

theorem splits_nil : Splits [] text ↔ text = [] := by
  constructor
  · intro h
    obtain ⟨pieces, rfl, admitted⟩ := h
    cases admitted
    rfl
  · rintro rfl
    exact ⟨[], rfl, .nil⟩

theorem splits_cons : Splits (k :: p) text ↔
    ∃ piece rest, text = piece ++ rest ∧ k.Admits piece ∧ Splits p rest := by
  constructor
  · intro h
    obtain ⟨pieces, rfl, admitted⟩ := h
    obtain ⟨piece, others, here, rest, rfl⟩ := List.forall₂_cons_left_iff.mp admitted
    exact ⟨piece, others.flatten, rfl, here, others, rfl, rest⟩
  · intro h
    obtain ⟨piece, _, rfl, here, pieces, rfl, rest⟩ := h
    exact ⟨piece :: pieces, rfl, .cons here rest⟩

theorem splits_append : Splits (p ++ q) text ↔
    ∃ first rest, text = first ++ rest ∧ Splits p first ∧ Splits q rest := by
  induction p generalizing text with
  | nil => simp [splits_nil]
  | cons k p ih =>
    rw [List.cons_append, splits_cons]
    constructor
    · intro h
      obtain ⟨piece, others, rfl, here, split⟩ := h
      obtain ⟨first, rest, rfl, left, right⟩ := ih.mp split
      exact ⟨piece ++ first, rest, by simp, splits_cons.mpr ⟨piece, first, rfl, here, left⟩, right⟩
    · intro h
      obtain ⟨_, rest, rfl, split, right⟩ := h
      obtain ⟨piece, first, rfl, here, left⟩ := splits_cons.mp split
      exact ⟨piece, first ++ rest, by simp, here, ih.mpr ⟨first, rest, rfl, left, right⟩⟩

/-- A run in front may end before any later suffix. -/
theorem splits_run : Splits (.run :: p) text ↔ ∃ rest, rest <:+ text ∧ Splits p rest := by
  rw [splits_cons]
  constructor
  · intro h
    obtain ⟨piece, rest, rfl, -, split⟩ := h
    exact ⟨rest, List.suffix_append .., split⟩
  · intro h
    obtain ⟨rest, ⟨piece, rfl⟩, split⟩ := h
    exact ⟨piece, rest, rfl, trivial, split⟩

/-- It ends here, or it takes the next byte. -/
theorem splits_run_iff : Splits (.run :: p) text ↔
    Splits p text ∨ ∃ b rest, text = b :: rest ∧ Splits (.run :: p) rest := by
  rw [splits_run]
  constructor
  · intro h
    obtain ⟨rest, suffix, split⟩ := h
    cases text with
    | nil =>
      obtain rfl := List.suffix_nil.mp suffix
      exact .inl split
    | cons b text =>
      rcases List.suffix_cons_iff.mp suffix with rfl | later
      · exact .inl split
      · exact .inr ⟨b, text, rfl, splits_run.mpr ⟨rest, later, split⟩⟩
  · rintro (split | ⟨b, rest, rfl, split⟩)
    · exact ⟨text, List.suffix_rfl, split⟩
    · obtain ⟨u, later, split⟩ := splits_run.mp split
      exact ⟨u, later.trans (List.suffix_cons ..), split⟩

/-- Any other token has one byte for its piece. -/
theorem admits_iff (other : k ≠ .run) (piece : List UInt8) :
    k.Admits piece ↔ ∃ b, piece = [b] ∧ k.takes b = true := by
  cases k with
  | run => exact absurd rfl other
  | one => simp [Token.Admits, Token.takes]
  | byte c => simp [Token.Admits, Token.takes]

theorem splits_cons_cons (other : k ≠ .run) :
    Splits (k :: p) (b :: text) ↔ k.takes b = true ∧ Splits p text := by
  rw [splits_cons]
  constructor
  · intro h
    obtain ⟨piece, rest, whole, admitted, split⟩ := h
    obtain ⟨c, rfl, takes⟩ := (admits_iff other piece).mp admitted
    obtain ⟨rfl, rfl⟩ := List.cons.inj whole
    exact ⟨takes, split⟩
  · intro h
    obtain ⟨takes, split⟩ := h
    exact ⟨[b], text, rfl, (admits_iff other _).mpr ⟨b, rfl, takes⟩, split⟩

/-- Tokens that are no runs take as many bytes as they are. -/
theorem length_of_splits (plain : ∀ k ∈ p, k ≠ .run) (split : Splits p text) :
    text.length = p.length := by
  induction p generalizing text with
  | nil => rw [splits_nil.mp split]; rfl
  | cons k p ih =>
    obtain ⟨piece, rest, rfl, admitted, behind⟩ := splits_cons.mp split
    obtain ⟨b, rfl, -⟩ := (admits_iff (plain k List.mem_cons_self) piece).mp admitted
    have others := ih (fun k hk => plain k (List.mem_cons_of_mem _ hk)) behind
    simp [others]

/-- Where the text is over only runs may be left. -/
theorem splits_end : Splits p [] ↔ p.all (· == .run) = true := by
  induction p with
  | nil => simp [splits_nil]
  | cons k p ih =>
    rw [List.all_cons, Bool.and_eq_true, beq_iff_eq, ← ih]
    constructor
    · intro split
      obtain ⟨piece, rest, whole, admitted, split⟩ := splits_cons.mp split
      obtain ⟨rfl, rfl⟩ := List.append_eq_nil_iff.mp whole.symm
      refine ⟨?_, split⟩
      by_contra other
      obtain ⟨b, nothing, -⟩ := (admits_iff other []).mp admitted
      exact nomatch nothing
    · intro h
      obtain ⟨rfl, split⟩ := h
      exact splits_run.mpr ⟨[], List.suffix_rfl, split⟩

/-! ## What is open to a search -/

/-- Whether the pattern behind a run fits when the run takes one byte more, or further bytes. -/
def Retreat.Open (r : Retreat) : Prop :=
  ∃ b text, r.text = b :: text ∧ Splits (.run :: r.pattern) text

/-- Whether a search may still find a fit. -/
def Search.Open (s : Search) : Prop :=
  Splits s.pattern s.text ∨ ∃ r ∈ s.retreat, r.Open

theorem open_behindRun : (Search.behindRun p text).Open ↔ Splits (.run :: p) text := by
  rw [splits_run_iff]
  simp [Search.Open, Search.behindRun, Retreat.Open]

/-- **Whatever is open to a run comes to the next run later on**, and that run gets there by itself. -/
theorem splits_of_open {r : Retreat} (since : r.LeadsTo (.run :: p) text) (isOpen : r.Open) :
    Splits (.run :: p) text := by
  obtain ⟨met, taken, plain, length, tokens, bytes⟩ := since
  obtain ⟨b, further, whole, split⟩ := isOpen
  rw [tokens] at split
  obtain ⟨u, later, split⟩ := splits_run.mp split
  obtain ⟨first, rest, rfl, passed, split⟩ := splits_append.mp split
  have within : rest <:+ text := by
    have shorter := length_of_splits plain passed
    have reach := later.length_le
    have total := congrArg List.length (bytes.symm.trans whole)
    simp only [List.length_append, List.length_cons] at reach total
    have beyond : rest <:+ r.text := by
      rw [whole]
      exact (List.suffix_append ..).trans (later.trans (List.suffix_cons ..))
    exact List.suffix_of_suffix_length_le beyond ⟨taken, bytes.symm⟩ (by omega)
  obtain ⟨v, inner, split⟩ := splits_run.mp split
  exact splits_run.mpr ⟨v, inner.trans within, split⟩

/-- **Where the text is over nothing is open to the last run**: there are too few bytes behind it. -/
theorem not_open_of_end {r : Retreat} (since : r.LeadsTo p []) : ¬ r.Open := by
  intro h
  obtain ⟨b, further, whole, split⟩ := h
  obtain ⟨met, taken, plain, length, tokens, bytes⟩ := since
  rw [tokens] at split
  obtain ⟨u, later, split⟩ := splits_run.mp split
  obtain ⟨first, rest, rfl, passed, -⟩ := splits_append.mp split
  have enough := length_of_splits plain passed
  have reach := later.length_le
  have total := congrArg List.length (bytes.symm.trans whole)
  simp only [List.length_append, List.length_cons, List.length_nil] at reach total
  omega

/-- What a round leaves open. -/
def Leaves (s : Search) : Bool ⊕ Search → Prop
  | .inl fits => fits = true ↔ s.Open
  | .inr s' => s'.Open ↔ s.Open

theorem leaves_goBack {s : Search} (stuck : ¬ Splits s.pattern s.text) :
    Leaves s (Search.goBack s.retreat) := by
  have only : s.Open ↔ ∃ r ∈ s.retreat, r.Open := or_iff_right stuck
  unfold Search.goBack
  split
  · rename_i pattern b rest here
    show (Search.behindRun pattern rest).Open ↔ s.Open
    rw [open_behindRun, only, here]
    simp [Retreat.Open]
  · rename_i nowhere
    refine iff_of_false Bool.false_ne_true ?_
    rw [only]
    intro h
    obtain ⟨⟨pattern, _⟩, here, b, rest, rfl, -⟩ := h
    exact nowhere pattern b rest here

/-- **A round changes nothing about what is open.** -/
theorem leaves_round (s : Search) : Leaves s s.round := by
  obtain ⟨pattern, text, retreat, since⟩ := s
  cases text with
  | nil =>
    have only : Search.Open ⟨pattern, [], retreat, since⟩ ↔ Splits pattern [] :=
      or_iff_left fun ⟨r, hr, isOpen⟩ => not_open_of_end (since r hr) isOpen
    exact splits_end.symm.trans only.symm
  | cons b text =>
    cases pattern with
    | nil => exact leaves_goBack (by simp [splits_nil])
    | cons k pattern =>
      by_cases run : k = .run
      · subst run
        have only : Search.Open ⟨.run :: pattern, b :: text, retreat, since⟩
            ↔ Splits (.run :: pattern) (b :: text) :=
          or_iff_left_of_imp fun ⟨r, hr, isOpen⟩ => splits_of_open (since r hr) isOpen
        exact open_behindRun.trans only.symm
      · have round : Search.round ⟨k :: pattern, b :: text, retreat, since⟩
            = if taken : k.takes b then
                .inr ⟨pattern, text, retreat, fun r hr => (since r hr).next run⟩
              else Search.goBack retreat := by
          cases k <;> first | exact absurd rfl run | rfl
        rw [round]
        split
        · rename_i taken
          refine or_congr_left ?_
          rw [splits_cons_cons run, and_iff_right taken]
        · rename_i refused
          exact leaves_goBack (mt (fun split => ((splits_cons_cons run).mp split).1) refused)

/-! ## What a search comes to -/

namespace Search

/-- A search some rounds later, or what it has come to by then. -/
def after : Nat → Search → Bool ⊕ Search
  | 0, s => .inr s
  | n + 1, s =>
    match s.round with
    | .inl fits => .inl fits
    | .inr s' => s'.after n

theorem verdict_of_inl {s : Search} {fits : Bool} (h : s.round = .inl fits) : s.verdict = fits := by
  rw [verdict]
  split
  · rename_i told
    exact Sum.inl.inj (told.symm.trans h)
  · rename_i told
    exact absurd (told.symm.trans h) Sum.inr_ne_inl

theorem verdict_of_inr {s s' : Search} (h : s.round = .inr s') : s.verdict = s'.verdict := by
  rw [verdict]
  split
  · rename_i told
    exact absurd (told.symm.trans h) Sum.inl_ne_inr
  · rename_i told
    rw [Sum.inr.inj (told.symm.trans h)]

/-- **A search comes to its verdict**, and within its bound. -/
theorem after_of_toGo_lt {n : Nat} {s : Search} (enough : s.toGo < n) : s.after n = .inl s.verdict := by
  induction n generalizing s with
  | zero => exact absurd enough (Nat.not_lt_zero _)
  | succ n ih =>
    rw [after]
    cases next : s.round with
    | inl fits => rw [verdict_of_inl next]
    | inr s' =>
      have nearer := toGo_round next
      rw [verdict_of_inr next]
      exact ih (by omega)

/-- **The verdict says whether anything was open.** -/
theorem verdict_iff (s : Search) : s.verdict = true ↔ s.Open := by
  induction bound : s.toGo using Nat.strong_induction_on generalizing s with
  | h n ih =>
    have left := leaves_round s
    cases next : s.round with
    | inl fits =>
      rw [verdict_of_inl next]
      rwa [next] at left
    | inr s' =>
      rw [next] at left
      rw [verdict_of_inr next, ih s'.toGo (bound ▸ toGo_round next) s' rfl]
      exact left

end Search

/-- **Tokens fit a text exactly if the text splits.** -/
theorem fits_iff : fits p text = true ↔ Splits p text := by
  rw [fits, Search.verdict_iff]
  simp [Search.Open]

end SessionHub.Glob

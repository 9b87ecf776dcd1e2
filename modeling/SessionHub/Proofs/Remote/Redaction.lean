import Mathlib.Data.List.Infix
import Mathlib.Data.List.TakeWhile
import SessionHub.Remote.Url

/-!
# What a log shows of a URL

The URL of a store may say who connects, with a password, and whoever reads a log is not to see that.
Who it is stands between the first `://` and the last at sign, and may itself hold either.

A URL is **divided** at both. `afterScheme?_eq_some_iff` says that the first division is at the first
`://`, also where the scheme ends in a part of one, and `Url.splitLast_append` that the second is at the
last at sign. What is shown is then a text of the scheme and the place alone, so that two URLs which differ
in nothing but who connects are shown alike (`redact_discreet`).
-/

namespace SessionHub.Remote

variable {mark : Char} {cs before after scheme rest : List Char}

namespace Url

/-! ## Marks -/

theorem split_of_not_mem (absent : mark ∉ cs) : split mark cs = (cs, none) := by
  have all : cs.dropWhile (· != mark) = [] := List.dropWhile_eq_nil_iff.mpr fun c hc =>
    bne_iff_ne.mpr fun same => absent (same ▸ hc)
  rw [split, all]

theorem split_append (absent : mark ∉ before) (after : List Char) :
    split mark (before ++ mark :: after) = (before, some after) := by
  have others : ∀ c ∈ before, (c != mark) = true := fun c hc =>
    bne_iff_ne.mpr fun same => absent (same ▸ hc)
  have behind : (before ++ mark :: after).dropWhile (· != mark) = mark :: after := by
    rw [List.dropWhile_append_of_pos others]
    simp
  have ahead : (before ++ mark :: after).takeWhile (· != mark) = before := by
    rw [List.takeWhile_append_of_pos others]
    simp
  rw [split, behind, ahead]

theorem splitLast_of_not_mem (absent : mark ∉ cs) : splitLast mark cs = (none, cs) := by
  rw [splitLast, split_of_not_mem (mt List.mem_reverse.mp absent)]
  simp

/-- **A text is divided at its last mark.** -/
theorem splitLast_append (before : List Char) (absent : mark ∉ after) :
    splitLast mark (before ++ mark :: after) = (some before, after) := by
  have turned : (before ++ mark :: after).reverse = after.reverse ++ mark :: before.reverse := by simp
  rw [splitLast, turned, split_append (mt List.mem_reverse.mp absent)]
  simp

end Url

/-! ## The end of the scheme -/

/-- What ends a scheme. -/
def schemeEnd : List Char := "://".toList

theorem afterScheme?_end (rest : List Char) : afterScheme? (schemeEnd ++ rest) = some ([], rest) := rfl

theorem afterScheme?_cons {c : Char} (elsewhere : ¬schemeEnd <+: c :: cs) :
    afterScheme? (c :: cs) = (afterScheme? cs).map fun parts => (c :: parts.1, parts.2) := by
  rw [afterScheme?]
  rintro rest rfl rfl
  exact elsewhere ⟨rest, rfl⟩

/-- A mark that begins before another one is over before it: the first character of the mark is none of
its others. -/
theorem schemeEnd_ahead {c : Char} (h : schemeEnd <+: c :: (scheme ++ schemeEnd ++ rest)) :
    schemeEnd <+: c :: scheme := by
  match scheme with
  | [] => simp [schemeEnd] at h
  | [d] => simp [schemeEnd] at h
  | d :: e :: scheme =>
    obtain ⟨rfl, rfl, rfl⟩ : ':' = c ∧ '/' = d ∧ '/' = e := by simpa [schemeEnd] using h
    exact ⟨scheme, rfl⟩

/-- **A URL is divided at its first `://`.** -/
theorem afterScheme?_eq_some_iff :
    afterScheme? cs = some (scheme, rest) ↔ cs = scheme ++ schemeEnd ++ rest ∧ ¬schemeEnd <:+: scheme := by
  constructor
  · intro divided
    induction cs generalizing scheme with
    | nil => exact nomatch divided
    | cons c cs ih =>
      by_cases here : schemeEnd <+: c :: cs
      · obtain ⟨rest', whole⟩ := here
        rw [← whole, afterScheme?_end] at divided
        obtain ⟨rfl, rfl⟩ := Prod.mk.inj (Option.some.inj divided)
        exact ⟨whole.symm, by simp [schemeEnd]⟩
      · rw [afterScheme?_cons here] at divided
        obtain ⟨⟨scheme', rest'⟩, inner, whole⟩ := Option.map_eq_some_iff.mp divided
        obtain ⟨rfl, rfl⟩ := Prod.mk.inj whole
        obtain ⟨rfl, none⟩ := ih inner
        refine ⟨rfl, fun mark => ?_⟩
        rcases List.infix_cons_iff.mp mark with ahead | later
        · exact here (ahead.trans (by simp))
        · exact none later
  · rintro ⟨rfl, none⟩
    induction scheme with
    | nil => exact afterScheme?_end rest
    | cons c scheme ih =>
      have later := ih fun inner => none (inner.trans (List.suffix_cons c scheme).isInfix)
      rw [List.cons_append, List.cons_append, afterScheme?_cons, later]
      · rfl
      · exact fun ahead => none (schemeEnd_ahead ahead).isInfix

/-! ## What is shown -/

/-- A URL names somebody if an at sign stands behind its first `://`. -/
def NamesSomebody (url : String) : Prop :=
  ∃ scheme rest : String,
    url = scheme ++ "://" ++ rest ∧ ¬schemeEnd <:+: scheme.toList ∧ '@' ∈ rest.toList

/-- What is shown of a URL that names somebody. -/
theorem redact_of_who {scheme place : String} (first : ¬schemeEnd <:+: scheme.toList)
    (last : '@' ∉ place.toList) (who : String) :
    redact (scheme ++ "://" ++ who ++ "@" ++ place) = scheme ++ "://***" ++ "@" ++ place := by
  have divided : afterScheme? (scheme ++ "://" ++ who ++ "@" ++ place).toList
      = some (scheme.toList, who.toList ++ '@' :: place.toList) :=
    afterScheme?_eq_some_iff.mpr ⟨by simp [schemeEnd], first⟩
  rw [redact, divided]
  dsimp only
  rw [Url.splitLast_append _ last]
  exact String.toList_inj.mp (by simp)

theorem redact_of_nobody {url : String} (nobody : ¬NamesSomebody url) : redact url = url := by
  rw [redact]
  cases divided : afterScheme? url.toList with
  | none => rfl
  | some parts =>
    obtain ⟨scheme, rest⟩ := parts
    obtain ⟨whole, first⟩ := afterScheme?_eq_some_iff.mp divided
    have absent : '@' ∉ rest := fun here => nobody ⟨.ofList scheme, .ofList rest,
      String.toList_inj.mp (by simp [whole, schemeEnd]), by simpa using first, by simpa using here⟩
    dsimp only
    rw [Url.splitLast_of_not_mem absent]

/-- **What a log shows of a URL does not depend on who connects**: it is the scheme, three stars for
whoever it is, and the place. A URL that names nobody is shown as it is. -/
theorem redact_discreet :
    (∀ scheme place : String, ¬schemeEnd <:+: scheme.toList → '@' ∉ place.toList →
      ∀ who who' : String,
        redact (scheme ++ "://" ++ who ++ "@" ++ place) = redact (scheme ++ "://" ++ who' ++ "@" ++ place) ∧
        redact (scheme ++ "://" ++ who ++ "@" ++ place) = scheme ++ "://***" ++ "@" ++ place) ∧
    ∀ url, ¬NamesSomebody url → redact url = url :=
  ⟨fun _ _ first last who who' =>
    ⟨(redact_of_who first last who).trans (redact_of_who first last who').symm, redact_of_who first last who⟩,
    fun _ => redact_of_nobody⟩

/-- A password that looks like the rest of a URL. -/
example : redact "redis://u:a@b://c@cache:6379/0" = "redis://***@cache:6379/0" := by cbv

end SessionHub.Remote

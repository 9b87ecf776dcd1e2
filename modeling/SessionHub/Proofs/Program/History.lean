import Mathlib.Data.List.Basic

/-!
# Histories

A history is a list with the earliest first, and it grows at its end. Two ways of speaking about
histories are enough for the rules that runs keep: a condition that **always** holds of an entry and
what came before it, and something that has happened **since** when something else has not. Both are
known of a longer history if they are known of the shorter one.
-/

namespace SessionHub

variable {β : Type}

/-- Whether every entry of a history stands well to what came before it. -/
def Always (P : List β → β → Prop) (h : List β) : Prop :=
  ∀ pre x post, h = pre ++ x :: post → P pre x

/-- Whether there was an entry of one kind, and none of another kind after it. -/
def Since (P Q : β → Prop) (h : List β) : Prop :=
  ∃ pre x post, h = pre ++ x :: post ∧ P x ∧ ∀ y ∈ post, ¬ Q y

/-- An entry of a history that has grown is the last one or an entry of the former history. -/
theorem snoc_eq_append_cons {h pre post : List β} {x y : β} (e : h ++ [x] = pre ++ y :: post) :
    (post = [] ∧ pre = h ∧ y = x) ∨ ∃ post', post = post' ++ [x] ∧ h = pre ++ y :: post' := by
  rcases List.eq_nil_or_concat post with rfl | ⟨post', z, rfl⟩
  · obtain ⟨rfl, last⟩ := List.append_inj' e rfl
    exact .inl ⟨rfl, rfl, (List.cons.inj last).1.symm⟩
  · rw [List.concat_eq_append, ← List.cons_append, ← List.append_assoc] at e
    obtain ⟨former, last⟩ := List.append_inj' e rfl
    obtain rfl := (List.cons.inj last).1
    exact .inr ⟨post', List.concat_eq_append, former⟩

/-- What is read off a history that has grown: what was read off the former one, and then off its last
entry. -/
theorem filterMap_snoc {γ : Type} (read : β → Option γ) (h : List β) (x : β) :
    (h ++ [x]).filterMap read = h.filterMap read ++ (read x).toList := by
  rw [List.filterMap_append]
  cases found : read x with
  | none => rw [List.filterMap_cons_none found]; rfl
  | some y => rw [List.filterMap_cons_some found]; rfl

@[simp] theorem always_nil (P : List β → β → Prop) : Always P [] :=
  fun pre x post e => absurd e (by simp)

theorem always_snoc {P : List β → β → Prop} {h : List β} {x : β} :
    Always P (h ++ [x]) ↔ Always P h ∧ P h x := by
  constructor
  · intro all
    refine ⟨fun pre y post e => all pre y (post ++ [x]) ?_, all h x [] rfl⟩
    rw [e, List.append_assoc, List.cons_append]
  · intro both pre y post e
    obtain ⟨former, last⟩ := both
    rcases snoc_eq_append_cons e with ⟨rfl, rfl, rfl⟩ | ⟨post', rfl, rfl⟩
    · exact last
    · exact former pre y post' rfl

@[simp] theorem not_since_nil (P Q : β → Prop) : ¬ Since P Q [] := by
  intro since
  obtain ⟨pre, x, post, e, _⟩ := since
  exact absurd e (by simp)

theorem Since.mono {P P' Q : β → Prop} {h : List β} (since : Since P Q h)
    (weaker : ∀ x ∈ h, P x → P' x) : Since P' Q h := by
  obtain ⟨pre, x, post, rfl, hP, hQ⟩ := since
  exact ⟨pre, x, post, rfl, weaker x (by simp) hP, hQ⟩

theorem since_snoc {P Q : β → Prop} {h : List β} {x : β} :
    Since P Q (h ++ [x]) ↔ P x ∨ (Since P Q h ∧ ¬ Q x) := by
  constructor
  · intro since
    obtain ⟨pre, y, post, e, hP, hQ⟩ := since
    rcases snoc_eq_append_cons e with ⟨rfl, rfl, rfl⟩ | ⟨post', rfl, rfl⟩
    · exact .inl hP
    · refine .inr ⟨⟨pre, y, post', rfl, hP, fun z hz => hQ z (by simp [hz])⟩, hQ x (by simp)⟩
  · rintro (hP | ⟨⟨pre, y, post, rfl, hP, hQ⟩, hx⟩)
    · exact ⟨h, x, [], rfl, hP, by simp⟩
    · refine ⟨pre, y, post ++ [x], by simp, hP, fun z hz => ?_⟩
      cases List.mem_append.mp hz with
      | inl hz => exact hQ z hz
      | inr hz =>
        rw [List.mem_singleton.mp hz]
        exact hx

end SessionHub

import Mathlib.Data.List.Forall2
import Mathlib.Data.List.Nodup
import SessionHub.Proofs.Json.Members
import SessionHub.Settings.Reader

/-!
# A group out of its members

A group of settings is read by visiting the members of an object one after the other, and each setting
changes the group by itself. What comes of it is said without that order: an **aspect** of a group is
what a document shows of it under one name, and a group is read from an object exactly if it shows what
stands there under every name (`Faithful.take_iff`). That takes of the settings that each puts its own
aspect in place and leaves the others alone, and that a group is known by its aspects.
-/

namespace SessionHub

open Json (Mismatch)

variable {α : Type}

/-- What documents show of a group under one name: which of them are admitted there, and which are what
a group shows. -/
structure Aspect (α : Type) where
  name : String
  admits : Json → Prop
  shows : Json → α → Prop

/-- A setting that puts an aspect in place: whatever is admitted, and nothing else. -/
structure Setting.Puts (s : Setting α) (a : Aspect α) : Prop where
  name : s.name = a.name
  shown {v : Json} {g g' : α} (put : s.put v g = .ok g') : a.admits v ∧ a.shows v g'
  able {v : Json} (admitted : a.admits v) (g : α) : ∃ g', s.put v g = .ok g'

/-- **Settings that are faithful to aspects.** -/
structure Faithful (settings : List (Setting α)) (aspects : List (Aspect α)) : Prop where
  distinct : (aspects.map (·.name)).Nodup
  puts : List.Forall₂ Setting.Puts settings aspects
  leaves : ∀ s ∈ settings, ∀ a ∈ aspects, a.name ≠ s.name → ∀ v g g', s.put v g = .ok g' →
    ∀ w, a.shows w g → a.shows w g'
  known : ∀ g g', (∀ a ∈ aspects, ∃ v, a.shows v g ∧ a.shows v g') → g = g'

namespace Faithful

variable {settings : List (Setting α)} {aspects : List (Aspect α)} {members : List (String × Json)}
  {a : Aspect α} {s : Setting α}

/-- The setting of a name and the aspect of that name belong together. -/
theorem puts_of_name (F : Faithful settings aspects) (hs : s ∈ settings) (ha : a ∈ aspects)
    (same : a.name = s.name) : s.Puts a := by
  obtain ⟨i, there, rfl⟩ := List.getElem_of_mem hs
  have there' : i < aspects.length := F.puts.length_eq ▸ there
  have mine : settings[i].Puts aspects[i] := F.puts.get there there'
  have one : aspects[i] = a :=
    List.inj_on_of_nodup_map F.distinct (List.getElem_mem _) ha (mine.name.symm.trans same.symm)
  exact one ▸ mine

/-- A name without a setting is that of no aspect. -/
theorem ne_of_unknown (F : Faithful settings aspects) {n : String}
    (unknown : settings.find? (·.name == n) = none) (ha : a ∈ aspects) : a.name ≠ n := by
  rintro rfl
  obtain ⟨i, there, rfl⟩ := List.getElem_of_mem ha
  have there' : i < settings.length := F.puts.length_eq ▸ there
  have mine : settings[i].Puts aspects[i] := F.puts.get there' there
  have := List.find?_eq_none.mp unknown _ (List.getElem_mem there')
  exact this (beq_iff_eq.mpr mine.name)

/-- **What is shown of a group that was read**: what stands under the name, or what was shown before. -/
theorem shows_of_take (F : Faithful settings aspects) (distinct : (members.map (·.1)).Nodup)
    (ha : a ∈ aspects) {g g' : α} (taken : takeMembers settings g members = .ok g') :
    (∀ v, members.lookup a.name = some v → a.admits v ∧ a.shows v g') ∧
      (members.lookup a.name = none → ∀ w, a.shows w g → a.shows w g') := by
  induction members generalizing g with
  | nil =>
    obtain rfl := Except.ok.inj taken
    exact ⟨nofun, fun _ _ shown => shown⟩
  | cons m members ih =>
    obtain ⟨n, v⟩ := m
    obtain ⟨absent, distinct⟩ := List.nodup_cons.mp distinct
    rw [takeMembers] at taken
    rw [Json.lookup_member]
    cases found : settings.find? (·.name == n) with
    | none =>
      simp only [found] at taken
      rw [if_neg (F.ne_of_unknown found ha)]
      exact ih distinct taken
    | some s =>
      simp only [found] at taken
      cases put : s.put v g with
      | error m =>
        rw [put] at taken
        nomatch taken
      | ok g₁ =>
        rw [put] at taken
        obtain ⟨now, before⟩ := ih distinct taken
        have hs : s ∈ settings := List.mem_of_find?_eq_some found
        have name : s.name = n := by simpa using List.find?_some found
        by_cases same : a.name = n
        · have gone : members.lookup a.name = none := by
            rw [← Option.not_isSome_iff_eq_none, isSome_lookup, same]
            exact absent
          rw [if_pos same]
          refine ⟨fun w here => ?_, fun none => nomatch none⟩
          obtain rfl := Option.some.inj here
          obtain ⟨admitted, shown⟩ := (F.puts_of_name hs ha (same.trans name.symm)).shown put
          exact ⟨admitted, before gone v shown⟩
        · rw [if_neg same]
          refine ⟨now, fun none w shown => before none w ?_⟩
          exact F.leaves s hs a ha (name ▸ same) v g g₁ put w shown

/-- **A group can be read** if everything is admitted that stands under a name. -/
theorem exists_take (F : Faithful settings aspects) (distinct : (members.map (·.1)).Nodup)
    (admitted : ∀ a ∈ aspects, ∀ v, members.lookup a.name = some v → a.admits v) (g : α) :
    ∃ g', takeMembers settings g members = .ok g' := by
  induction members generalizing g with
  | nil => exact ⟨g, rfl⟩
  | cons m members ih =>
    obtain ⟨n, v⟩ := m
    obtain ⟨absent, distinct⟩ := List.nodup_cons.mp distinct
    have onward : ∀ g, ∃ g', takeMembers settings g members = .ok g' := by
      refine ih distinct fun a ha w here => admitted a ha w ?_
      rw [Json.lookup_member, if_neg]
      · exact here
      · rintro rfl
        exact absent ((isSome_lookup members a.name).mp (by rw [here]; rfl))
    rw [takeMembers]
    cases found : settings.find? (·.name == n) with
    | none => exact onward g
    | some s =>
      obtain ⟨i, there, rfl⟩ := List.getElem_of_mem (List.mem_of_find?_eq_some found)
      have there' : i < aspects.length := F.puts.length_eq ▸ there
      have mine : settings[i].Puts aspects[i] := F.puts.get there there'
      have name : settings[i].name = n := by simpa using List.find?_some found
      obtain ⟨g₁, put⟩ := mine.able (admitted _ (List.getElem_mem there') v (by
        rw [Json.lookup_member, if_pos (mine.name.symm.trans name)])) g
      obtain ⟨g', taken⟩ := onward g₁
      refine ⟨g', ?_⟩
      simp only [put]
      exact taken

/-- **A group is read from members that hold every name exactly if it shows what stands there**, and all
of that is admitted. -/
theorem take_iff (F : Faithful settings aspects) (distinct : (members.map (·.1)).Nodup)
    {held : Aspect α → Json} (complete : ∀ a ∈ aspects, members.lookup a.name = some (held a))
    (defaults g : α) :
    takeMembers settings defaults members = .ok g ↔
      ∀ a ∈ aspects, a.admits (held a) ∧ a.shows (held a) g := by
  constructor
  · exact fun taken a ha => (F.shows_of_take distinct ha taken).1 _ (complete a ha)
  · intro shown
    have admitted : ∀ a ∈ aspects, ∀ v, members.lookup a.name = some v → a.admits v := by
      intro a ha v here
      obtain rfl := Option.some.inj ((complete a ha).symm.trans here)
      exact (shown a ha).1
    obtain ⟨g', taken⟩ := F.exists_take distinct admitted defaults
    have same : g' = g := F.known g' g fun a ha =>
      ⟨_, ((F.shows_of_take distinct ha taken).1 _ (complete a ha)).2, (shown a ha).2⟩
    exact same ▸ taken

end Faithful

end SessionHub

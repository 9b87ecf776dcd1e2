import SessionHub.Config
import SessionHub.Text.White

/-!
# Timers out of accepted settings

Settings are accepted if nothing that must not be zero is zero and the names that are needed are there
(`Settings.refusal?_eq_none_iff`). The timers of a hub are projected from them one by one, except for the
interval between heartbeats, which is cut to a third of the time for which a record counts as fresh.

A third of one or two milliseconds is no whole number of them but zero, and such a session timeout is
accepted like any other. There the interval is one millisecond, which is longer than a third: what the cut
is made for, that a node that lives beats in time, is not kept. Everywhere else the cut is exact: of all
intervals up to the one that is set, the interval is the longest that is not longer than a third
(`heartbeatInterval_longest`).
-/

namespace SessionHub

/-- **Settings are accepted** if no value that must not be zero is, the prefix is not blank, and a node
of a cluster has the URL of a store. -/
theorem Settings.refusal?_eq_none_iff {s : Settings} : s.refusal? = none ↔
    (∀ value ∈ s.positives, 0 < value.2) ∧ Text.isBlank s.cluster.keyPrefix = false ∧
      (s.cluster.enabled = true → Text.isBlank s.cluster.storeUrl = false) := by
  have checked : s.positives.find? (·.2 == 0) = none ↔ ∀ value ∈ s.positives, 0 < value.2 := by
    simp only [List.find?_eq_none, beq_iff_eq, Nat.pos_iff_ne_zero]
  rw [← checked, refusal?]
  cases s.positives.find? (·.2 == 0) with
  | some zero => simp
  | none =>
    cases Text.isBlank s.cluster.keyPrefix <;> cases s.cluster.enabled <;>
      cases Text.isBlank s.cluster.storeUrl <;> simp

namespace ClusterSettings

variable {c : ClusterSettings}

/-- **The interval is the longest** of those that are not longer than what is set nor than a third of
the session timeout, where a third is a millisecond at least. -/
theorem heartbeatInterval_longest (long : 3 ≤ c.sessionTimeoutMs) :
    c.heartbeatInterval ≤ c.heartbeatIntervalMs ∧ 3 * c.heartbeatInterval ≤ c.sessionTimeoutMs ∧
      ∀ i, i ≤ c.heartbeatIntervalMs → 3 * i ≤ c.sessionTimeoutMs → i ≤ c.heartbeatInterval := by
  unfold heartbeatInterval longestInterval
  refine ⟨by omega, by omega, fun i set third => by omega⟩

/-- A third of less than three milliseconds is cut to one. -/
theorem heartbeatInterval_of_short (set : 0 < c.heartbeatIntervalMs) (short : c.sessionTimeoutMs < 3) :
    c.heartbeatInterval = 1 := by
  unfold heartbeatInterval longestInterval
  omega

end ClusterSettings

/-- Accepted settings give an interval. -/
theorem Settings.heartbeatInterval_pos {s : Settings} (accepted : s.refusal? = none) :
    0 < s.cluster.heartbeatIntervalMs ∧ 0 < s.cluster.heartbeatInterval := by
  have set : 0 < s.cluster.heartbeatIntervalMs := (refusal?_eq_none_iff.mp accepted).1
    ("cluster.heartbeatIntervalMs", s.cluster.heartbeatIntervalMs) (by simp [positives])
  unfold ClusterSettings.heartbeatInterval ClusterSettings.longestInterval
  omega

namespace Config

/-- **Timers that a hub can work with**: none of them is zero, a record is fresh for as long as a session
may be idle, and a node that lives beats three times while its record is fresh, if that can be done in
whole milliseconds. -/
structure Timed (c : Config) : Prop where
  heartbeat : 0 < c.heartbeatInterval
  handler : 0 < c.handlerTimeout
  store : 0 < c.storeTimeout
  shutdown : 0 < c.shutdownTimeout
  ttl : c.cluster.ttl = c.sessionTimeout
  third : 3 ≤ c.cluster.ttl → 3 * c.heartbeatInterval ≤ c.cluster.ttl
  least : c.cluster.ttl < 3 → c.heartbeatInterval = 1

/-- **Accepted settings give such timers**, with the session timeout that is set, and the heartbeat is not
slowed down nor hurried beyond need. -/
theorem timed_of_accepted {s : Settings} (accepted : s.refusal? = none) :
    Timed (ofSettings s) ∧ (ofSettings s).cluster.ttl = s.cluster.sessionTimeoutMs ∧
      (3 ≤ s.cluster.sessionTimeoutMs → ∀ i, i ≤ s.cluster.heartbeatIntervalMs →
        3 * i ≤ s.cluster.sessionTimeoutMs → i ≤ (ofSettings s).heartbeatInterval) := by
  have positive := (Settings.refusal?_eq_none_iff.mp accepted).1
  simp only [Settings.positives, List.forall_mem_cons] at positive
  obtain ⟨-, -, handler, shutdown, -, -, store, -⟩ := positive
  obtain ⟨set, heartbeat⟩ := Settings.heartbeatInterval_pos accepted
  refine ⟨⟨heartbeat, handler, store, shutdown, rfl, fun long => ?_, ?_⟩, rfl, fun long => ?_⟩
  · exact (ClusterSettings.heartbeatInterval_longest long).2.1
  · exact ClusterSettings.heartbeatInterval_of_short set
  · exact (ClusterSettings.heartbeatInterval_longest long).2.2

/-- An interval of a minute, with a session timeout of eleven milliseconds. -/
def hasty : Settings where
  cluster := { sessionTimeoutMs := 11, heartbeatIntervalMs := 60000 }

theorem hasty_timed : hasty.refusal? = none ∧ Timed (ofSettings hasty) ∧
    3 ≤ (ofSettings hasty).heartbeatInterval := by
  have accepted : hasty.refusal? = none := by decide
  obtain ⟨timed, -, longest⟩ := timed_of_accepted accepted
  exact ⟨accepted, timed, longest (by decide) 3 (by decide) (by decide)⟩

/-- A session timeout of two milliseconds is accepted, and has no interval of a third. -/
theorem exists_slow : ∃ s : Settings, s.refusal? = none ∧
    (ofSettings s).cluster.ttl < 3 * (ofSettings s).heartbeatInterval :=
  ⟨{ cluster := { sessionTimeoutMs := 2 } }, by decide, by decide⟩

end Config

end SessionHub

import SessionHub.Journal.Basic
import SessionHub.Proofs.Tables

/-!
# What is shown of connections

Of all that is written down, three values are spoken of in what a hub promises: how many connections
were opened, how many were closed, and how many are **active**. The **surplus** is what is left of the
first when the others are taken away. Whatever else is noted or counted leaves both alone.
-/

namespace SessionHub

namespace Meter

theorem value_assign (m : Meter) (k k' : Metric) (n : Int) :
    (m.assign k n).value k' = if k' = k then n else m.value k' := by
  unfold value assign
  rw [List.lookup_cons]
  by_cases h : k' = k
  · simp [h]
  · simp [h, beq_false_of_ne h, lookup_filter_ne h]

theorem value_add (m : Meter) (k k' : Metric) (n : Int) :
    (m.add k n).value k' = m.value k' + if k' = k then n else 0 := by
  rw [add, value_assign]
  split
  · rename_i same
    rw [same]
  · rw [Int.add_zero]

end Meter

namespace Journal

/-- How many connections are active, as it is shown. -/
def active (j : Journal) : Int := j.meter.value .connectionsActive

@[simp] theorem active_note (entry : LogEntry) (j : Journal) : (j.note entry).active = j.active := rfl

@[simp] theorem active_warn (message : String) (fields : List (String × String)) (j : Journal) :
    (j.warn message fields).active = j.active := rfl

@[simp] theorem active_complain (message : String) (fields : List (String × String)) (j : Journal) :
    (j.complain message fields).active = j.active := rfl

@[simp] theorem active_count (metric : Metric) (j : Journal) :
    (j.count metric).active = j.active + if Metric.connectionsActive = metric then 1 else 0 :=
  Meter.value_add ..

@[simp] theorem active_discount (metric : Metric) (j : Journal) :
    (j.discount metric).active = j.active + if Metric.connectionsActive = metric then -1 else 0 :=
  Meter.value_add ..

@[simp] theorem active_gauge (metric : Metric) (n : Int) (j : Journal) :
    (j.gauge metric n).active = if Metric.connectionsActive = metric then n else j.active :=
  Meter.value_assign ..

/-- How many connections were opened that neither were closed nor are active, as it is shown. -/
def surplus (j : Journal) : Int :=
  j.meter.value .connectionsOpened - j.meter.value .connectionsClosed - j.active

@[simp] theorem surplus_note (entry : LogEntry) (j : Journal) :
    (j.note entry).surplus = j.surplus := rfl

@[simp] theorem surplus_warn (message : String) (fields : List (String × String)) (j : Journal) :
    (j.warn message fields).surplus = j.surplus := rfl

@[simp] theorem surplus_complain (message : String) (fields : List (String × String))
    (j : Journal) : (j.complain message fields).surplus = j.surplus := rfl

@[simp] theorem surplus_write (line : String) (j : Journal) : (j.write line).surplus = j.surplus := rfl

@[simp] theorem surplus_count (metric : Metric) (j : Journal) :
    (j.count metric).surplus = j.surplus + ((if Metric.connectionsOpened = metric then 1 else 0) -
      (if Metric.connectionsClosed = metric then 1 else 0) -
        if Metric.connectionsActive = metric then 1 else 0) := by
  simp only [surplus, active_count]
  simp only [count, Meter.value_add]
  omega

@[simp] theorem surplus_discount (metric : Metric) (j : Journal) :
    (j.discount metric).surplus = j.surplus - ((if Metric.connectionsOpened = metric then 1 else 0) -
      (if Metric.connectionsClosed = metric then 1 else 0) -
        if Metric.connectionsActive = metric then 1 else 0) := by
  simp only [surplus, active_discount]
  simp only [discount, Meter.value_add]
  split <;> split <;> split <;> omega

/-- A gauge of something else. -/
theorem surplus_gauge {metric : Metric} (opened : Metric.connectionsOpened ≠ metric)
    (closed : Metric.connectionsClosed ≠ metric) (active : Metric.connectionsActive ≠ metric) (n : Int)
    (j : Journal) : (j.gauge metric n).surplus = j.surplus := by
  simp only [surplus, active_gauge, if_neg active]
  simp only [gauge, Meter.value_assign, if_neg opened, if_neg closed]

end Journal

end SessionHub

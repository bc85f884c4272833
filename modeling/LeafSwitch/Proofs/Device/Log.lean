import LeafSwitch.Device.Log
import Mathlib.Data.List.Nodup

/-!
# Logs in order

A log is in order where its entries are told apart by their ids and none is older than the one in
front of it.
-/

namespace LeafSwitch.LogEntry

/-- A log whose entries are told apart by their ids, and stand in the order of their times. -/
structure InOrder (logs : List LogEntry) : Prop where
  /-- No two entries have the same id. -/
  distinct : (logs.map LogEntry.id).Nodup
  /-- No entry is older than one in front of it. -/
  ordered : logs.Pairwise fun a b => a.time.micros ≤ b.time.micros

/-- A log in order goes on in order with entries in order that have other ids and are not older. -/
theorem InOrder.append {a b : List LogEntry} (ha : InOrder a) (hb : InOrder b)
    (hids : ∀ x ∈ a, ∀ y ∈ b, x.id ≠ y.id)
    (htimes : ∀ x ∈ a, ∀ y ∈ b, x.time.micros ≤ y.time.micros) : InOrder (a ++ b) where
  distinct := by
    rw [List.map_append, List.nodup_append]
    refine ⟨ha.distinct, hb.distinct, ?_⟩
    intro i hi j hj
    obtain ⟨x, hx, rfl⟩ := List.mem_map.mp hi
    obtain ⟨y, hy, rfl⟩ := List.mem_map.mp hj
    exact hids x hx y hy
  ordered := List.pairwise_append.mpr ⟨ha.ordered, hb.ordered, htimes⟩

end LeafSwitch.LogEntry

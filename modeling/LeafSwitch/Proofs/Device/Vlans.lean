import LeafSwitch.Device.State
import Mathlib.Data.List.Sort

/-!
# VLAN lists

The VLANs of a device are an ascending list of positive numbers, put together by insertion. Such a
list is known by its members, so reconciling is told by what it lets in and nothing else.
-/

namespace LeafSwitch

/-- Insertion adds exactly the number inserted. -/
@[simp] theorem mem_insertAscending {n m : Int} {l : List Int} :
    m ∈ insertAscending n l ↔ m = n ∨ m ∈ l := by
  induction l with
  | nil => simp only [insertAscending, List.mem_singleton, List.not_mem_nil, or_false]
  | cons k l ih =>
    rw [insertAscending]
    split
    · exact List.mem_cons
    · split
      · rename_i hk
        rw [hk, List.mem_cons]
        tauto
      · rw [List.mem_cons, ih, List.mem_cons]
        tauto

/-- Insertion keeps a list strictly ascending. -/
theorem pairwise_insertAscending {n : Int} {l : List Int} (h : l.Pairwise (· < ·)) :
    (insertAscending n l).Pairwise (· < ·) := by
  induction l with
  | nil => exact List.pairwise_singleton ..
  | cons k l ih =>
    obtain ⟨hk, hl⟩ := List.pairwise_cons.mp h
    rw [insertAscending]
    split
    · rename_i hn
      refine List.pairwise_cons.mpr ⟨fun m hm => ?_, h⟩
      rcases List.mem_cons.mp hm with rfl | hm
      · exact hn
      · exact hn.trans (hk m hm)
    · split
      · exact h
      · refine List.pairwise_cons.mpr ⟨fun m hm => ?_, ih hl⟩
        rcases mem_insertAscending.mp hm with rfl | hm
        · omega
        · exact hk m hm

/-- The ascending list of some numbers holds the positive ones. -/
@[simp] theorem mem_ascending {m : Int} {l : List Int} : m ∈ ascending l ↔ m ∈ l ∧ 0 < m := by
  have hfold : ∀ k : List Int, m ∈ k.foldr insertAscending [] ↔ m ∈ k := by
    intro k
    induction k with
    | nil => rfl
    | cons n k ih => rw [List.foldr_cons, mem_insertAscending, ih, List.mem_cons]
  rw [ascending, hfold, List.mem_filter, decide_eq_true_iff]

/-- The ascending list of some numbers is strictly ascending. -/
theorem pairwise_ascending (l : List Int) : (ascending l).Pairwise (· < ·) := by
  rw [ascending]
  generalize l.filter (0 < ·) = k
  induction k with
  | nil => exact List.Pairwise.nil
  | cons n k ih => exact pairwise_insertAscending ih

/-- Only the positive numbers decide about the ascending list. -/
theorem ascending_congr {a b : List Int} (h : ∀ m, 0 < m → (m ∈ a ↔ m ∈ b)) :
    ascending a = ascending b := by
  refine (pairwise_ascending a).eq_of_mem_iff (pairwise_ascending b) fun m => ?_
  rw [mem_ascending, mem_ascending]
  exact and_congr_left (h m)

/-- Numbers that are there already, or are not positive, add nothing. -/
theorem ascending_append_covered {a b : List Int} (h : ∀ m ∈ b, 0 < m → m ∈ a) :
    ascending (a ++ b) = ascending a := by
  refine ascending_congr fun m hm => ?_
  rw [List.mem_append]
  exact ⟨fun hab => hab.elim id fun hb => h m hb hm, Or.inl⟩

/-- Reconciling lets in the given VLANs and those of the interfaces, as far as they are positive. -/
theorem mem_reconcileVlans {v : Int} {vlans : List Int} {interfaces : List Interface} :
    v ∈ reconcileVlans vlans interfaces ↔
      (v ∈ vlans ∨ ∃ i ∈ interfaces, i.vlan = v) ∧ 0 < v := by
  rw [reconcileVlans, mem_ascending, List.mem_append, List.mem_map]

/-- Reconciled VLANs are strictly ascending. -/
theorem pairwise_reconcileVlans (vlans : List Int) (interfaces : List Interface) :
    (reconcileVlans vlans interfaces).Pairwise (· < ·) :=
  pairwise_ascending _

end LeafSwitch

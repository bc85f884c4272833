import Mathlib.Logic.Basic
import Mathlib.Data.List.Basic

/-!
# Steps that may fail

What takes several steps comes to a result exactly if each of them does, and a list of items exactly
if each item does.
-/

namespace LeafSwitch

variable {α β ε ι : Type}

/-- Two steps come to a result where the first comes to something, and the second to the result from
there. -/
theorem bind_eq_ok_iff {x : Except ε α} {f : α → Except ε β} {b : β} :
    (x >>= f) = .ok b ↔ ∃ a, x = .ok a ∧ f a = .ok b := by
  cases x with
  | error e =>
    refine iff_of_false nofun ?_
    rintro ⟨_, ha, _⟩
    cases ha
  | ok a =>
    constructor
    · intro h
      exact ⟨a, rfl, h⟩
    · rintro ⟨_, ha, h⟩
      obtain rfl := Except.ok.inj ha
      exact h

/-- What a failure is called makes no difference to a result. -/
theorem mapError_eq_ok_iff {x : Except ι α} {f : ι → ε} {a : α} :
    x.mapError f = .ok a ↔ x = .ok a := by
  cases x with
  | error cause => exact iff_of_false nofun nofun
  | ok a' => exact ⟨fun h => congrArg Except.ok (Except.ok.inj h),
      fun h => congrArg Except.ok (Except.ok.inj h)⟩

/-- Where each item comes to a result or to one failure, a list of items comes to all the results or
to this failure. -/
theorem mapM_eq_ite {f : α → Except ε β} {p : α → Prop} [DecidablePred p] {g : α → β} {e : ε}
    (h : ∀ a, f a = if p a then .ok (g a) else .error e) (items : List α) :
    items.mapM f = if ∀ a ∈ items, p a then .ok (items.map g) else .error e := by
  induction items with
  | nil => rfl
  | cons a rest ih =>
    rw [List.mapM_cons, h a, ih]
    by_cases ha : p a
    · by_cases hrest : ∀ b ∈ rest, p b
      · rw [if_pos ha, if_pos hrest, if_pos (List.forall_mem_cons.mpr ⟨ha, hrest⟩)]
        rfl
      · rw [if_pos ha, if_neg hrest, if_neg fun hall => hrest (List.forall_mem_cons.mp hall).2]
        rfl
    · rw [if_neg ha, if_neg fun hall => ha (List.forall_mem_cons.mp hall).1]
      rfl

end LeafSwitch

import LeafSwitch.Block.Directive
import LeafSwitch.Data.Shown
import LeafSwitch.Proofs.Block.Reading
import Mathlib.Algebra.Order.Ring.Nat

/-!
# Numbers that have been read

A number has as many digits as were read, so what is read can be written out again: reading and
writing share one limit.
-/

namespace LeafSwitch

namespace Number

/-- A digit is below ten. -/
theorem digit?_lt {c : Char} {d : Nat} (h : digit? c = some d) : d < 10 := by
  obtain ⟨z, hz, rfl⟩ := Option.map_eq_some_iff.mp h
  have hrange := List.find?_some hz
  simp only [Bool.and_eq_true, decide_eq_true_eq] at hrange
  omega

/-- The digits of a run are below ten. -/
theorem digitRun_lt {cs : List Char} {digits : List Nat} {rest : List Char}
    (h : digitRun cs = some (digits, rest)) : ∀ d ∈ digits, d < 10 := by
  induction cs generalizing digits with
  | nil =>
    obtain ⟨rfl, -⟩ := Prod.mk.inj (Option.some.inj h)
    intro d hd
    exact absurd hd List.not_mem_nil
  | cons c cs ih =>
    rw [digitRun] at h
    cases hc : digit? c with
    | some first =>
      rw [hc] at h
      obtain ⟨⟨more, left⟩, hmore, hpair⟩ := Option.map_eq_some_iff.mp h
      obtain ⟨rfl, rfl⟩ := Prod.mk.inj hpair
      intro d hd
      rcases List.mem_cons.mp hd with rfl | hd
      · exact digit?_lt hc
      · exact ih hmore d hd
    | none =>
      rw [hc] at h
      dsimp only at h
      split_ifs at h
      · exact ih h
      · obtain ⟨rfl, -⟩ := Prod.mk.inj (Option.some.inj h)
        intro d hd
        exact absurd hd List.not_mem_nil

/-- Digits below ten move a number up by one place each, and fill no more than these places. -/
theorem ofDigits_lt {digits : List Nat} (h : ∀ d ∈ digits, d < 10) (high : Nat) :
    ofDigits high digits < (high + 1) * 10 ^ digits.length := by
  induction digits generalizing high with
  | nil => simp [ofDigits]
  | cons d rest ih =>
    have hd : d < 10 := h d List.mem_cons_self
    have hrest := ih (fun e he => h e (List.mem_cons_of_mem d he)) (10 * high + d)
    calc ofDigits high (d :: rest) = ofDigits (10 * high + d) rest := rfl
      _ < (10 * high + d + 1) * 10 ^ rest.length := hrest
      _ ≤ ((high + 1) * 10) * 10 ^ rest.length := Nat.mul_le_mul_right _ (by omega)
      _ = (high + 1) * 10 ^ (d :: rest).length := by
        rw [List.length_cons, Nat.pow_succ', Nat.mul_assoc]

/-- The limit on what is written out is the power of ten for the digits that may be read. -/
theorem shownLimit_eq {digits : Nat} (h : maxDigits = digits) :
    Value.shownLimit = 10 ^ digits := by
  unfold Value.shownLimit
  rw [h]
  rfl

/-- One can be written out. -/
theorem one_lt_shownLimit : 1 < Value.shownLimit := by
  obtain ⟨limit, hlimit⟩ : ∃ limit, maxDigits = limit := ⟨_, rfl⟩
  have hne : limit ≠ 0 := by
    rw [← hlimit]
    decide
  rw [shownLimit_eq hlimit]
  exact Nat.one_lt_pow hne (by decide)

/-- A number that is read has no more digits than may be read. -/
theorem natAbs_lt_of_readInteger {text : String} {n : Int} (h : readInteger text = .ok n) :
    n.natAbs < Value.shownLimit := by
  rw [readInteger] at h
  dsimp only at h
  split at h
  · contradiction
  split at h
  · contradiction
  · rename_i digits rest hrun
    split at h
    · contradiction
    rename_i hlong
    split at h
    · contradiction
    have hdigits := ofDigits_lt (digitRun_lt hrun) 0
    have hlength : 10 ^ digits.length ≤ Value.shownLimit := by
      obtain ⟨limit, hlimit⟩ : ∃ limit, maxDigits = limit := ⟨_, rfl⟩
      rw [shownLimit_eq hlimit]
      rw [hlimit] at hlong
      exact Nat.pow_le_pow_right (by decide) (Nat.not_lt.mp hlong)
    have habs : n.natAbs = ofDigits 0 digits := by
      rw [← Except.ok.inj h]
      split
      · rw [Int.natAbs_neg, Int.natAbs_natCast]
      · exact Int.natAbs_natCast _
    rw [habs]
    rw [Nat.zero_add, Nat.one_mul] at hdigits
    exact Nat.lt_of_lt_of_le hdigits hlength

end Number

/-- A VLAN is below any bound that both the number naming it and the default are below. -/
theorem vlanOfWhole_lt {n : Int} {bound : Nat} (hn : n.natAbs < bound)
    (hdefault : defaultVlan < bound) : vlanOfWhole n < bound := by
  rw [vlanOfWhole]
  split
  · exact hdefault
  · omega

/-- The VLAN of a word can be written out. -/
theorem vlanOfWord_lt (word : String) : vlanOfWord word < Value.shownLimit := by
  rw [vlanOfWord]
  have hdefault : defaultVlan < Value.shownLimit := Number.one_lt_shownLimit
  cases hread : Number.readInteger word with
  | error e => exact hdefault
  | ok n => exact vlanOfWhole_lt (Number.natAbs_lt_of_readInteger hread) hdefault

/-- A VLAN that a line names can be written out. -/
theorem lt_of_lineAction {line : List Char} {n : Nat} (h : lineAction line = .ok (.accessVlan n)) :
    n < Value.shownLimit := by
  rcases lineAction_cases h with hnone | hnone | ⟨ref, hnone⟩ | ⟨word, hplain⟩
  · cases hnone
  · cases hnone
  · cases hnone
  · rw [plainAction] at hplain
    split_ifs at hplain
    cases hplain
    exact vlanOfWord_lt _

end LeafSwitch

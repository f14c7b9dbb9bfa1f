import Mathlib

/-!
# Bit facts shared by the model

Every flag test of `sys_x86.c` is `if (word & BIT)` for a one-bit constant, and every mask the
file applies is a run of low bits. Both are reduced here, once, to `BitVec.getLsbD`, so that the
translators, the walk and the register updates each read off bits in one step.
-/

namespace SysX86

open BitVec

lemma decide_and_twoPow_eq_zero {w i : Nat} (x : BitVec w) (hi : i < w) :
    decide (x &&& twoPow w i = 0) = !x.getLsbD i := by
  rw [and_twoPow]
  cases h : x.getLsbD i
  · simp
  · have hne : twoPow w i ≠ 0#w := fun h0 => by
      simpa [getLsbD_twoPow, hi] using congrArg (fun y => y.getLsbD i) h0
    simp [hne]

lemma and_twoPow_eq_zero_iff {w i : Nat} (x : BitVec w) (hi : i < w) :
    x &&& twoPow w i = 0 ↔ x.getLsbD i = false := by
  rw [← Bool.not_eq_true', ← decide_and_twoPow_eq_zero x hi, decide_eq_true_iff]

lemma getLsbD_lowMask {w : Nat} (k i : Nat) :
    (BitVec.ofNat w (2 ^ k - 1)).getLsbD i = (decide (i < w) && decide (i < k)) := by
  rw [getLsbD_ofNat, Nat.testBit_two_pow_sub_one]

@[simp] lemma getLsbD_seven {w : Nat} (i : Nat) :
    (7#w).getLsbD i = (decide (i < w) && decide (i < 3)) :=
  getLsbD_lowMask 3 i

@[simp] lemma getLsbD_three {w : Nat} (i : Nat) :
    (3#w).getLsbD i = (decide (i < w) && decide (i < 2)) :=
  getLsbD_lowMask 2 i

lemma getLsbD_six {w : Nat} (i : Nat) :
    (6#w).getLsbD i = (decide (i < w) && (decide (i = 1) || decide (i = 2))) := by
  rw [getLsbD_ofNat]
  rcases i with _ | _ | _ | i <;> simp [Nat.testBit_succ]

@[simp] lemma getLsbD_0xFF {w : Nat} (i : Nat) :
    (255#w).getLsbD i = (decide (i < w) && decide (i < 8)) :=
  getLsbD_lowMask 8 i

@[simp] lemma getLsbD_0xFFFFFFFF {w : Nat} (i : Nat) :
    (4294967295#w).getLsbD i = (decide (i < w) && decide (i < 32)) :=
  getLsbD_lowMask 32 i

end SysX86

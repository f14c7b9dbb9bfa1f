import SysX86.Machine

/-!
# Copies to and from user space

`sys_x86_copy_to_or_from_user` copies `len` bytes with `__builtin_memcpy`, ignores its
`fault_return` argument, and returns `len` cast to `ssize_t`. Memory is one byte per 64-bit
address, and the copy is the upward byte loop `memcpy` stands for. When the two ranges do not
overlap, which `memcpy` requires, every destination byte receives its source byte and no other
byte changes. The return value is the byte count read as a signed 64-bit value: for a length of
2^63 or more it is negative, which the spec reserves for a fault.
-/

namespace SysX86

open BitVec

/-- `__builtin_memcpy (dst, src, len)`: byte `k` of the destination receives byte `k` of the
source, for `k` from `0` up to `len`. -/
def memcpy (mem : BitVec 64 → BitVec 8) (dst src : BitVec 64) : Nat → BitVec 64 → BitVec 8
  | 0 => mem
  | k + 1 =>
    let mem := memcpy mem dst src k
    Function.update mem (dst + BitVec.ofNat 64 k) (mem (src + BitVec.ofNat 64 k))

/-- `sys_x86_copy_to_or_from_user`: the memory after the copy, and the `ssize_t` it returns. -/
def sysX86CopyToOrFromUser (mem : BitVec 64 → BitVec 8) (dst src len _faultReturn : BitVec 64) :
    (BitVec 64 → BitVec 8) × Int :=
  (memcpy mem dst src len.toNat, len.toInt)

lemma add_ofNat_inj {base : BitVec 64} {j k : Nat} (hj : j < 2 ^ 64) (hk : k < 2 ^ 64)
    (h : base + BitVec.ofNat 64 j = base + BitVec.ofNat 64 k) : j = k := by
  have h' := congrArg BitVec.toNat (add_left_cancel h)
  rwa [toNat_ofNat, toNat_ofNat, Nat.mod_eq_of_lt hj, Nat.mod_eq_of_lt hk] at h'

lemma memcpy_of_not_mem (mem : BitVec 64 → BitVec 8) (dst src : BitVec 64) (len : Nat)
    (a : BitVec 64) (ha : ∀ k < len, a ≠ dst + BitVec.ofNat 64 k) :
    memcpy mem dst src len a = mem a := by
  induction len with
  | zero => rfl
  | succ k ih =>
    rw [memcpy, Function.update_noteq (ha k (Nat.lt_succ_self k))]
    exact ih fun j hj => ha j (Nat.lt_succ_of_lt hj)

lemma memcpy_dst (mem : BitVec 64 → BitVec 8) (dst src : BitVec 64) (len : Nat)
    (hlen : len ≤ 2 ^ 64)
    (hdisj : ∀ j < len, ∀ k < len, src + BitVec.ofNat 64 j ≠ dst + BitVec.ofNat 64 k) :
    ∀ j < len,
      memcpy mem dst src len (dst + BitVec.ofNat 64 j) = mem (src + BitVec.ofNat 64 j) := by
  induction len with
  | zero => intro j hj; omega
  | succ k ih =>
    intro j hj
    rw [memcpy]
    rcases Nat.lt_succ_iff_lt_or_eq.mp hj with hjk | rfl
    · have hne : dst + BitVec.ofNat 64 j ≠ dst + BitVec.ofNat 64 k :=
        fun h => absurd (add_ofNat_inj (by omega) (by omega) h) (Nat.ne_of_lt hjk)
      rw [Function.update_noteq hne]
      exact ih (by omega) (fun j' hj' k' hk' => hdisj j' (by omega) k' (by omega)) j hjk
    · rw [Function.update_same]
      exact memcpy_of_not_mem mem dst src j _ fun k' hk' => hdisj j hj k' (by omega)

/-- Over disjoint ranges the copy gives each destination byte its source byte; whatever the
ranges, it changes no byte outside the destination, and the value returned is the byte count
exactly when that count is below `2^63`; from `2^63` bytes on it is negative. -/
theorem copy_user_copies_bytes (mem : BitVec 64 → BitVec 8) (dst src len faultReturn : BitVec 64) :
    ((∀ j < len.toNat, ∀ k < len.toNat, src + BitVec.ofNat 64 j ≠ dst + BitVec.ofNat 64 k) →
        ∀ j < len.toNat, (sysX86CopyToOrFromUser mem dst src len faultReturn).1
          (dst + BitVec.ofNat 64 j) = mem (src + BitVec.ofNat 64 j)) ∧
      (∀ a, (∀ k < len.toNat, a ≠ dst + BitVec.ofNat 64 k) →
        (sysX86CopyToOrFromUser mem dst src len faultReturn).1 a = mem a) ∧
      ((sysX86CopyToOrFromUser mem dst src len faultReturn).2 = len.toNat ↔
        len.toNat < 2 ^ 63) ∧
      ((sysX86CopyToOrFromUser mem dst src len faultReturn).2 < 0 ↔ 2 ^ 63 ≤ len.toNat) := by
  have hcond := toInt_eq_toNat_cond len
  refine ⟨memcpy_dst mem dst src _ (isLt len).le, memcpy_of_not_mem mem dst src _, ?_, ?_⟩ <;>
    simp only [sysX86CopyToOrFromUser] <;> split at hcond <;> omega

theorem copy_user_copies_bytes_four :
    let mem : BitVec 64 → BitVec 8 := fun a => a.setWidth 8
    (sysX86CopyToOrFromUser mem 0x100 0x200 4 0).1 0x103 = 0x03 ∧
      (sysX86CopyToOrFromUser mem 0x100 0x200 4 0).1 0x104 = 0x04 ∧
      (sysX86CopyToOrFromUser mem 0x100 0x200 4 0).2 = 4 ∧
      (sysX86CopyToOrFromUser mem 0x100 0x200 (2 ^ 63 + 1) 0).2 < 0 := by
  intro mem
  have h := copy_user_copies_bytes mem 0x100 0x200 4 0
  exact ⟨h.1 (by decide) 3 (by decide), h.2.1 0x104 (by decide), h.2.2.1.mpr (by decide),
    (copy_user_copies_bytes mem 0x100 0x200 (2 ^ 63 + 1) 0).2.2.2.mpr (by decide)⟩

end SysX86

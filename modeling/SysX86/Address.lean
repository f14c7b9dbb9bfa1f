import SysX86.Machine

/-!
# Address predicates

`sys_x86_is_vaddr_canonical` and `sys_x86_mmu_check_paddr`, with the EPT table's
`check_vaddr`/`check_paddr` that delegate to them. The canonical test is compared with the
architectural notion, the sign extension of the low 48 bits: the code tests bits [63:48] only,
so it accepts every canonical address and, besides, exactly the addresses whose bit 47 disagrees
with bits [63:48].
-/

namespace SysX86

open BitVec

/-- `sys_x86_is_vaddr_canonical`. -/
def sysX86IsVaddrCanonical (vaddr : BitVec 64) : Bool :=
  let highBits := vaddr >>> 48
  highBits == 0 || highBits == 0xFFFF

/-- `sys_x86_mmu_check_paddr`: `paddr < (1ULL << 52)`, compared unsigned. -/
def sysX86MmuCheckPaddr (paddr : BitVec 64) : Bool :=
  paddr.ult (1 <<< 52)

/-- `sys_x86_page_table_ept_check_paddr`. -/
def sysX86PageTableEptCheckPaddr (paddr : BitVec 64) : Bool :=
  sysX86MmuCheckPaddr paddr

/-- `sys_x86_page_table_ept_check_vaddr`. -/
def sysX86PageTableEptCheckVaddr (vaddr : BitVec 64) : Bool :=
  sysX86IsVaddrCanonical vaddr

/-- A canonical x86-64 virtual address: the sign extension of its low 48 bits. -/
def IsCanonical (vaddr : BitVec 64) : Prop :=
  (vaddr.setWidth 48).signExtend 64 = vaddr

instance : DecidablePred IsCanonical := fun _ => inferInstanceAs (Decidable (_ = _))

lemma sysX86IsVaddrCanonical_iff (vaddr : BitVec 64) :
    sysX86IsVaddrCanonical vaddr = true ↔
      vaddr.toNat < 2 ^ 48 ∨ 2 ^ 64 - 2 ^ 48 ≤ vaddr.toNat := by
  have hv := vaddr.isLt
  simp only [sysX86IsVaddrCanonical, Bool.or_eq_true, beq_iff_eq, toNat_eq, toNat_ushiftRight,
    Nat.shiftRight_eq_div_pow, ofNat_eq_ofNat, toNat_ofNat]
  omega

lemma toNat_signExtend_setWidth (vaddr : BitVec 64) :
    ((vaddr.setWidth 48).signExtend 64).toNat =
      if vaddr.toNat % 2 ^ 48 < 2 ^ 47 then vaddr.toNat % 2 ^ 48
      else vaddr.toNat % 2 ^ 48 + (2 ^ 64 - 2 ^ 48) := by
  have hm := msb_eq_decide (vaddr.setWidth 48)
  cases h : (vaddr.setWidth 48).msb
  · rw [signExtend_eq_not_setWidth_not_of_msb_false h, toNat_setWidth, toNat_setWidth]
    rw [h, toNat_setWidth, eq_comm, decide_eq_false_iff_not] at hm
    split <;> omega
  · rw [signExtend_eq_not_setWidth_not_of_msb_true h, toNat_not, toNat_setWidth, toNat_not,
      toNat_setWidth]
    rw [h, toNat_setWidth, eq_comm, decide_eq_true_iff] at hm
    split <;> omega

lemma isCanonical_iff (vaddr : BitVec 64) :
    IsCanonical vaddr ↔ vaddr.toNat < 2 ^ 47 ∨ 2 ^ 64 - 2 ^ 47 ≤ vaddr.toNat := by
  have hv := vaddr.isLt
  rw [IsCanonical, toNat_eq, toNat_signExtend_setWidth]
  split <;> omega

/-- The address just above the lower canonical half passes both canonical checks. -/
theorem vaddr_canonical_accepts_bit47_set :
    sysX86IsVaddrCanonical 0x0000800000000000 = true ∧
      sysX86PageTableEptCheckVaddr 0x0000800000000000 = true ∧
      (0x0000800000000000 : BitVec 64) >>> 47 = 1 ∧ ¬IsCanonical 0x0000800000000000 := by
  decide

/-- The canonical check rejects no canonical address. -/
theorem canonical_vaddr_accepted :
    ∀ vaddr, IsCanonical vaddr → sysX86IsVaddrCanonical vaddr = true := by
  intro vaddr h
  rw [isCanonical_iff] at h
  rw [sysX86IsVaddrCanonical_iff]
  omega

theorem canonical_vaddr_accepted_at_top :
    IsCanonical 0xFFFF800000000000 ∧ sysX86IsVaddrCanonical 0xFFFF800000000000 = true :=
  ⟨by decide, canonical_vaddr_accepted _ (by decide)⟩

/-- The non-canonical addresses the check accepts are exactly those whose bits [63:47] read
`0 1...1` or `1 0...0`: bit 47 against a uniform top 16 bits. -/
theorem vaddr_canonical_false_accepts_iff (vaddr : BitVec 64) :
    (sysX86IsVaddrCanonical vaddr = true ∧ ¬IsCanonical vaddr) ↔
      vaddr >>> 47 = 1 ∨ vaddr >>> 47 = 0x1FFFE := by
  have hv := vaddr.isLt
  rw [sysX86IsVaddrCanonical_iff, isCanonical_iff]
  simp only [toNat_eq, toNat_ushiftRight, Nat.shiftRight_eq_div_pow, ofNat_eq_ofNat, toNat_ofNat]
  omega

end SysX86

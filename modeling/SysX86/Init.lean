import SysX86.Features

/-!
# Memory-attribute initialisation and TLB flushes

`sys_x86_mmu_early_init`, `sys_x86_mmu_percpu_init`, `sys_x86_mmu_mem_type_init`,
`sys_x86_pat_sync` and the two TLB flushes, each with a spec lemma that says the whole of what it
does to the CPU, so that later proofs never unfold them.
-/

namespace SysX86

open BitVec

/-- `sys_x86_mmu_early_init`. -/
def sysX86MmuEarlyInit (c : Cpu) : Cpu :=
  let c := wrmsr c X86_MSR_IA32_PAT X86_PAT_DEFAULT_VALUE
  let cr0 := c.cr0
  let cr0 := cr0 ||| 1 <<< 16
  { c with cr0 := cr0 }

/-- `sys_x86_mmu_percpu_init`. Both arms of its MTRR test keep the BIOS defaults. -/
def sysX86MmuPercpuInit (c : Cpu) : Cpu :=
  let c := wrmsr c X86_MSR_IA32_PAT X86_PAT_DEFAULT_VALUE
  let mtrrCap := rdmsr c X86_MSR_IA32_MTRR_CAP
  if mtrrCap &&& 0x400 ≠ 0 then c else c

/-- `sys_x86_mmu_mem_type_init`. -/
def sysX86MmuMemTypeInit (c : Cpu) : Cpu :=
  let mtrrDefType := rdmsr c X86_MSR_IA32_MTRR_DEF
  if mtrrDefType &&& 0x800 ≠ 0 then
    let mtrrDefType := (mtrrDefType &&& ~~~0xFF) ||| 0x06
    wrmsr c X86_MSR_IA32_MTRR_DEF mtrrDefType
  else c

/-- `sys_x86_pat_sync`: unless `targets == 1` it reads the PAT, and it writes nothing. -/
def sysX86PatSync (c : Cpu) (targets : BitVec 64) : Cpu :=
  if targets = 1 then c
  else
    let _currentPat := rdmsr c X86_MSR_IA32_PAT
    c

/-- `sys_x86_kernel_cr3`. -/
def sysX86KernelCr3 (c : Cpu) : BitVec 64 :=
  c.cr3

/-- `sys_x86_tlb_flush_global`: reload CR3 with the value it holds. The source comment says it
flushes the entire TLB; the reload keeps the entries cached as global, of which there are none
while CR4.PGE is clear. -/
def sysX86TlbFlushGlobal (c : Cpu) : Cpu :=
  let cr3 := c.cr3
  c.movToCr3 cr3

/-- `sys_x86_tlb_flush_one`. -/
def sysX86TlbFlushOne (c : Cpu) (vaddr : BitVec 64) : Cpu :=
  c.invlpg vaddr

lemma sysX86MmuEarlyInit_eq (c : Cpu) :
    sysX86MmuEarlyInit c = { c with
      msr := fun i => if i = X86_MSR_IA32_PAT then X86_PAT_DEFAULT_VALUE else c.msr i,
      cr0 := c.cr0 ||| 1 <<< 16 } := by
  simp only [sysX86MmuEarlyInit, wrmsr_eq]

lemma sysX86MmuPercpuInit_eq (c : Cpu) :
    sysX86MmuPercpuInit c = { c with
      msr := fun i => if i = X86_MSR_IA32_PAT then X86_PAT_DEFAULT_VALUE else c.msr i } := by
  simp only [sysX86MmuPercpuInit, wrmsr_eq, ite_self]

lemma sysX86MmuMemTypeInit_eq (c : Cpu) :
    sysX86MmuMemTypeInit c =
      if c.msr X86_MSR_IA32_MTRR_DEF &&& 0x800 ≠ 0 then { c with
        msr := fun i => if i = X86_MSR_IA32_MTRR_DEF
          then (c.msr X86_MSR_IA32_MTRR_DEF &&& ~~~0xFF) ||| 0x06 else c.msr i }
      else c := by
  simp only [sysX86MmuMemTypeInit, wrmsr_eq, rdmsr_eq]

@[simp] lemma sysX86PatSync_eq (c : Cpu) (targets : BitVec 64) : sysX86PatSync c targets = c := by
  simp [sysX86PatSync]

lemma sysX86TlbFlushGlobal_eq (c : Cpu) :
    sysX86TlbFlushGlobal c = { c with tlb := c.tlb.filter (·.global) } :=
  rfl

lemma mtrr_default_type_and_not_low_byte (x : BitVec 64) :
    ((x &&& ~~~0xFF) ||| 0x06) &&& ~~~0xFF = x &&& ~~~0xFF := by
  ext i
  simp only [getLsbD_and, getLsbD_or, getLsbD_not, ofNat_eq_ofNat, getLsbD_0xFF, getLsbD_six]
  by_cases h : (i : Nat) < 8 <;> simp [h]
  omega

lemma write_back_keeps_enable (x : BitVec 64) :
    ((x &&& ~~~0xFF) ||| 0x06) &&& 0x800 = x &&& 0x800 := by
  rw [show (0x800 : BitVec 64) = twoPow 64 11 by decide]
  ext i
  simp only [getLsbD_and, getLsbD_or, getLsbD_not, ofNat_eq_ofNat, getLsbD_0xFF, getLsbD_six,
    getLsbD_twoPow]
  by_cases h : 11 = (i : Nat)
  · simp [← h]
  · simp [h]

lemma write_back_idem (x : BitVec 64) :
    ((((x &&& ~~~0xFF) ||| 0x06) &&& ~~~0xFF) ||| 0x06) = (x &&& ~~~0xFF) ||| 0x06 := by
  rw [mtrr_default_type_and_not_low_byte]

end SysX86

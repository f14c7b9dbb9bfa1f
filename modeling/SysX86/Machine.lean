import SysX86.Bits

/-!
# The per-CPU machine state

`sys_x86.c` talks to one CPU through a handful of instructions: `mov` to and from CR0, CR3 and
CR4, `rdmsr`/`wrmsr`, `rdtsc`, `xgetbv`, `cpuid`, `fninit` and `invlpg`. `Cpu` holds exactly the
state those instructions read and write, and each instruction is given its architectural effect.
The C wrappers of the file (`rdmsr`, `wrmsr`, `rdtsc`) are then translated on top of them, with the
EDX:EAX split and recombination written as the C code writes it.
-/

namespace SysX86

open BitVec

/-- `X86_MSR_IA32_PAT`. -/
def X86_MSR_IA32_PAT : BitVec 32 := 0x277

/-- `X86_MSR_IA32_MTRR_CAP`. -/
def X86_MSR_IA32_MTRR_CAP : BitVec 32 := 0x0FE

/-- `X86_MSR_IA32_MTRR_DEF`. -/
def X86_MSR_IA32_MTRR_DEF : BitVec 32 := 0x2FF

/-- `X86_PAT_DEFAULT_VALUE`. -/
def X86_PAT_DEFAULT_VALUE : BitVec 64 := 0x0007010600070106

/-- The architectural index of the time-stamp counter, the MSR `rdtsc` reads. -/
def IA32_TIME_STAMP_COUNTER : BitVec 32 := 0x10

/-- The four output registers of `cpuid`, `struct x86_cpuid_leaf`. -/
structure CpuidLeaf where
  eax : BitVec 32
  ebx : BitVec 32
  ecx : BitVec 32
  edx : BitVec 32
  deriving DecidableEq, Repr

/-- The x87 control, status and tag words, the part of the FPU state `fninit` resets. -/
structure FpuState where
  controlWord : BitVec 16
  statusWord : BitVec 16
  tagWord : BitVec 16
  deriving DecidableEq, Repr

/-- What `fninit` leaves: control word 0x037F, a clear status word, every register empty. -/
def FpuState.init : FpuState := ⟨0x037F, 0, 0xFFFF⟩

/-- The register pair an instruction returns a 64-bit value in. -/
structure EdxEax where
  edx : BitVec 32
  eax : BitVec 32
  deriving DecidableEq, Repr

/-- A cached translation: the 4 KiB virtual page number it maps, and its global attribute. The
CPU caches an entry as global only when its leaf had G and CR4.PGE was set when it was filled;
`global` is that attribute, not the leaf's G bit. -/
structure TlbEntry where
  page : BitVec 64
  global : Bool
  deriving DecidableEq, Repr

/-- The state of one CPU that the functions of `sys_x86.c` read or change. `cpuid` is the table
the hardware answers `cpuid` from (leaf, subleaf); it never changes. -/
structure Cpu where
  cr0 : BitVec 64
  cr3 : BitVec 64
  cr4 : BitVec 64
  msr : BitVec 32 → BitVec 64
  xcr0 : BitVec 64
  cpuid : BitVec 32 → BitVec 32 → CpuidLeaf
  fpu : FpuState
  tlb : List TlbEntry

namespace Cpu

/-- The `rdmsr` instruction: EDX:EAX ← MSR[ECX]. -/
def rdmsrInsn (c : Cpu) (ecx : BitVec 32) : EdxEax :=
  ⟨(c.msr ecx).extractLsb' 32 32, (c.msr ecx).extractLsb' 0 32⟩

/-- The `wrmsr` instruction: MSR[ECX] ← EDX:EAX. -/
def wrmsrInsn (c : Cpu) (ecx edx eax : BitVec 32) : Cpu :=
  { c with msr := fun i => if i = ecx then edx ++ eax else c.msr i }

/-- The `xgetbv` instruction with ECX = 0: EDX:EAX ← XCR0. -/
def xgetbvInsn (c : Cpu) : EdxEax :=
  ⟨c.xcr0.extractLsb' 32 32, c.xcr0.extractLsb' 0 32⟩

/-- A write to CR3 (CR4.PCIDE clear) flushes every TLB entry not cached as global. With CR4.PGE
clear no entry is cached as global, and the write flushes the whole TLB. -/
def movToCr3 (c : Cpu) (v : BitVec 64) : Cpu :=
  { c with cr3 := v, tlb := c.tlb.filter (·.global) }

/-- `invlpg`: drop the cached translations of the 4 KiB page holding `vaddr`, global or not. -/
def invlpg (c : Cpu) (vaddr : BitVec 64) : Cpu :=
  { c with tlb := c.tlb.filter (·.page ≠ vaddr >>> 12) }

end Cpu

/-- `((uint64_t)high << 32) | low`: how `rdmsr`, `rdtsc` and `sys_x86_extended_register_size`
rebuild a 64-bit value from EDX:EAX. -/
def combineHalves (high low : BitVec 32) : BitVec 64 :=
  high.setWidth 64 <<< 32 ||| low.setWidth 64

/-- The halves `wrmsr` hands to the instruction: `low = value & 0xFFFFFFFF` and
`high = value >> 32`, each stored in a `uint32_t`. -/
def splitHalves (value : BitVec 64) : EdxEax :=
  ⟨(value >>> 32).setWidth 32, (value &&& 0xFFFFFFFF).setWidth 32⟩

/-- `rdmsr`. -/
def rdmsr (c : Cpu) (msr : BitVec 32) : BitVec 64 :=
  let out := c.rdmsrInsn msr
  combineHalves out.edx out.eax

/-- `wrmsr`. -/
def wrmsr (c : Cpu) (msr : BitVec 32) (value : BitVec 64) : Cpu :=
  let halves := splitHalves value
  c.wrmsrInsn msr halves.edx halves.eax

/-- `rdtsc`. -/
def rdtsc (c : Cpu) : BitVec 64 :=
  let out := c.rdmsrInsn IA32_TIME_STAMP_COUNTER
  combineHalves out.edx out.eax

lemma combineHalves_eq_append (high low : BitVec 32) : combineHalves high low = high ++ low := by
  ext i
  simp only [combineHalves, getLsbD_or, getLsbD_shiftLeft, getLsbD_setWidth, getLsbD_append]
  by_cases h : (i : Nat) < 32
  · simp [h]
  · simp [h, getLsbD_ge low i (by omega)]
    exact fun _ => by omega

lemma splitHalves_eq_extract (value : BitVec 64) :
    splitHalves value = ⟨value.extractLsb' 32 32, value.extractLsb' 0 32⟩ := by
  simp only [splitHalves, EdxEax.mk.injEq]
  constructor <;> ext i <;> simp

lemma extract_append_extract (value : BitVec 64) :
    value.extractLsb' 32 32 ++ value.extractLsb' 0 32 = value := by
  ext i
  simp only [getLsbD_append, getLsbD_extractLsb']
  by_cases h : (i : Nat) < 32
  · simp [h]
  · have h1 : (i : Nat) - 32 < 32 := by omega
    simp [h, h1, Nat.add_sub_cancel' (Nat.le_of_not_lt h)]

lemma extract_append_high (high low : BitVec 32) : (high ++ low).extractLsb' 32 32 = high := by
  ext i
  rw [getLsbD_extractLsb', getLsbD_append]
  simp [Nat.add_sub_cancel_left]

lemma extract_append_low (high low : BitVec 32) : (high ++ low).extractLsb' 0 32 = low := by
  ext i
  rw [getLsbD_extractLsb', getLsbD_append]
  simp

/-- The C split and recombination of a 64-bit value through EDX:EAX are mutually inverse. -/
theorem msr_halves_inverse :
    (∀ value : BitVec 64, combineHalves (splitHalves value).edx (splitHalves value).eax = value) ∧
      ∀ high low : BitVec 32, splitHalves (combineHalves high low) = ⟨high, low⟩ := by
  refine ⟨fun value => ?_, fun high low => ?_⟩
  · rw [combineHalves_eq_append, splitHalves_eq_extract, extract_append_extract]
  · rw [combineHalves_eq_append, splitHalves_eq_extract, extract_append_high, extract_append_low]

@[simp] lemma rdmsr_eq (c : Cpu) (msr : BitVec 32) : rdmsr c msr = c.msr msr := by
  rw [rdmsr, Cpu.rdmsrInsn, combineHalves_eq_append, extract_append_extract]

lemma wrmsr_eq (c : Cpu) (msr : BitVec 32) (value : BitVec 64) :
    wrmsr c msr value = { c with msr := fun i => if i = msr then value else c.msr i } := by
  simp only [wrmsr, splitHalves_eq_extract, Cpu.wrmsrInsn, extract_append_extract]

/-- Through the C wrappers, reading an MSR after writing one returns the value written to that MSR
and the old value of every other, for every 64-bit value, and the write changes nothing but the
MSR file. -/
theorem rdmsr_wrmsr (c : Cpu) (msr msr' : BitVec 32) (value : BitVec 64) :
    rdmsr (wrmsr c msr value) msr' = (if msr' = msr then value else rdmsr c msr') ∧
      { wrmsr c msr value with msr := c.msr } = c := by
  rw [rdmsr_eq, rdmsr_eq, wrmsr_eq]
  exact ⟨rfl, rfl⟩

lemma rdtsc_eq (c : Cpu) : rdtsc c = c.msr IA32_TIME_STAMP_COUNTER := by
  rw [rdtsc, Cpu.rdmsrInsn, combineHalves_eq_append, extract_append_extract]

end SysX86

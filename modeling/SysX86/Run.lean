import SysX86.Init

/-!
# Runs of the layer's operations

The operations that change CPU state, as a caller issues them one after another. Each
operation's contract is a `Footprint`, the register bits it may change, and one frame theorem
says every operation stays inside its footprint. The invariant that CR0.WP is set and the PAT
holds its default value then follows for every run that starts with `sys_x86_mmu_early_init`,
from the footprints alone except for the two operations that write the PAT.
-/

namespace SysX86

open BitVec

/-- The operations a caller issues on a CPU. -/
inductive Op where
  | mmuEarlyInit
  | mmuPercpuInit
  | mmuMemTypeInit
  | extendedRegisterInit
  | tlbFlushGlobal
  | tlbFlushOne (vaddr : BitVec 64)
  | patSync (targets : BitVec 64)
  deriving DecidableEq, Repr

/-- One operation. -/
def Op.run : Op → Cpu → Cpu
  | .mmuEarlyInit, c => sysX86MmuEarlyInit c
  | .mmuPercpuInit, c => sysX86MmuPercpuInit c
  | .mmuMemTypeInit, c => sysX86MmuMemTypeInit c
  | .extendedRegisterInit, c => sysX86ExtendedRegisterInit c
  | .tlbFlushGlobal, c => sysX86TlbFlushGlobal c
  | .tlbFlushOne vaddr, c => sysX86TlbFlushOne c vaddr
  | .patSync targets, c => sysX86PatSync c targets

/-- The states of a run of `ops` from `c`: `c`, then the state after each operation. -/
def trace (c : Cpu) (ops : List Op) : List Cpu :=
  ops.scanl (fun c op => op.run c) c

/-- The register bits an operation may change: a mask for each control register and each MSR,
and whether it may reset the x87 state. -/
structure Footprint where
  cr0 : BitVec 64
  cr3 : BitVec 64
  cr4 : BitVec 64
  msr : BitVec 32 → BitVec 64
  fpu : Bool

/-- The empty footprint. -/
def Footprint.none : Footprint :=
  ⟨0, 0, 0, fun _ => 0, false⟩

/-- The footprint of the bits `mask` of one MSR. -/
def Footprint.msrBits (index : BitVec 32) (mask : BitVec 64) : Footprint :=
  { Footprint.none with msr := fun i => if i = index then mask else 0 }

/-- `c'` agrees with `c` on every register bit outside `fp`; XCR0 and the CPUID table are
never changed. The TLB is not a register. -/
structure Footprint.Allows (fp : Footprint) (c c' : Cpu) : Prop where
  cr0 : c'.cr0 &&& ~~~fp.cr0 = c.cr0 &&& ~~~fp.cr0
  cr3 : c'.cr3 &&& ~~~fp.cr3 = c.cr3 &&& ~~~fp.cr3
  cr4 : c'.cr4 &&& ~~~fp.cr4 = c.cr4 &&& ~~~fp.cr4
  msr : ∀ i, c'.msr i &&& ~~~fp.msr i = c.msr i &&& ~~~fp.msr i
  xcr0 : c'.xcr0 = c.xcr0
  cpuid : c'.cpuid = c.cpuid
  fpu : fp.fpu = false → c'.fpu = c.fpu

/-- What each operation's contract lets it change. -/
def Op.contract : Op → Footprint
  | .mmuEarlyInit => { Footprint.msrBits X86_MSR_IA32_PAT (allOnes 64) with cr0 := 1 <<< 16 }
  | .mmuPercpuInit => Footprint.msrBits X86_MSR_IA32_PAT (allOnes 64)
  | .mmuMemTypeInit => Footprint.msrBits X86_MSR_IA32_MTRR_DEF 0xFF
  | .extendedRegisterInit => { Footprint.none with cr4 := 1 <<< 9 ||| 1 <<< 18, fpu := true }
  | .tlbFlushGlobal => Footprint.none
  | .tlbFlushOne _ => Footprint.none
  | .patSync _ => Footprint.none

lemma or_and_not_self (x m : BitVec 64) : (x ||| m) &&& ~~~m = x &&& ~~~m := by
  ext i
  simp only [getLsbD_and, getLsbD_or, getLsbD_not]
  cases x.getLsbD i <;> cases m.getLsbD i <;> simp

lemma msr_update_allows (c : Cpu) (index : BitVec 32) (v : BitVec 64) (i : BitVec 32) :
    (if i = index then v else c.msr i) &&& ~~~(if i = index then allOnes 64 else 0) =
      c.msr i &&& ~~~(if i = index then allOnes 64 else 0) := by
  split <;> simp

lemma Footprint.allows_self (fp : Footprint) (c : Cpu) : fp.Allows c c :=
  ⟨rfl, rfl, rfl, fun _ => rfl, rfl, rfl, fun _ => rfl⟩

lemma Op.run_allows (op : Op) (c : Cpu) : op.contract.Allows c (op.run c) := by
  cases op with
  | mmuEarlyInit =>
    rw [Op.run, sysX86MmuEarlyInit_eq]
    exact ⟨or_and_not_self _ _, rfl, rfl, msr_update_allows c _ _, rfl, rfl, fun _ => rfl⟩
  | mmuPercpuInit =>
    rw [Op.run, sysX86MmuPercpuInit_eq]
    exact ⟨rfl, rfl, rfl, msr_update_allows c _ _, rfl, rfl, fun _ => rfl⟩
  | mmuMemTypeInit =>
    rw [Op.run, sysX86MmuMemTypeInit_eq]
    split
    · refine ⟨rfl, rfl, rfl, fun i => ?_, rfl, rfl, fun _ => rfl⟩
      simp only [Op.contract, Footprint.msrBits]
      split
      · subst i
        exact mtrr_default_type_and_not_low_byte _
      · rfl
    · exact Footprint.allows_self _ c
  | extendedRegisterInit =>
    rw [Op.run, sysX86ExtendedRegisterInit_eq]
    exact ⟨rfl, rfl, or_and_not_self _ _, fun _ => rfl, rfl, rfl, fun h => absurd h (by decide)⟩
  | tlbFlushGlobal | tlbFlushOne _ =>
    exact ⟨rfl, rfl, rfl, fun _ => rfl, rfl, rfl, fun _ => rfl⟩
  | patSync _ => simpa [Op.run] using Footprint.allows_self _ c

/-- CR0.WP is set and the PAT MSR reads its default value. -/
structure WpPat (c : Cpu) : Prop where
  wp : c.cr0.getLsbD 16 = true
  pat : rdmsr c X86_MSR_IA32_PAT = X86_PAT_DEFAULT_VALUE

lemma wpPat_sysX86MmuEarlyInit (c : Cpu) : WpPat (sysX86MmuEarlyInit c) := by
  rw [sysX86MmuEarlyInit_eq]
  exact ⟨by simp, by simp⟩

lemma Footprint.Allows.cr0_getLsbD {fp : Footprint} {c c' : Cpu} (h : fp.Allows c c') {k : Nat}
    (hk : fp.cr0.getLsbD k = false) : c'.cr0.getLsbD k = c.cr0.getLsbD k := by
  have hbit := congrArg (·.getLsbD k) h.cr0
  by_cases hw : k < 64
  · simpa [hk, hw] using hbit
  · simp only [getLsbD_ge _ _ (Nat.le_of_not_lt hw)]

lemma Footprint.Allows.msr_eq {fp : Footprint} {c c' : Cpu} (h : fp.Allows c c') {i : BitVec 32}
    (hi : fp.msr i = 0) : c'.msr i = c.msr i := by
  simpa only [hi, ofNat_eq_ofNat, not_zero, and_allOnes] using h.msr i

lemma Footprint.Allows.wpPat {fp : Footprint} {c c' : Cpu} (h : fp.Allows c c')
    (hwp : fp.cr0.getLsbD 16 = false) (hpat : fp.msr X86_MSR_IA32_PAT = 0) (hc : WpPat c) :
    WpPat c' :=
  ⟨(h.cr0_getLsbD hwp).trans hc.wp, by rw [rdmsr_eq, h.msr_eq hpat, ← rdmsr_eq]; exact hc.pat⟩

lemma Op.run_wpPat (op : Op) {c : Cpu} (hc : WpPat c) : WpPat (op.run c) := by
  cases op with
  | mmuEarlyInit => exact wpPat_sysX86MmuEarlyInit c
  | mmuPercpuInit =>
    rw [Op.run, sysX86MmuPercpuInit_eq]
    exact ⟨hc.wp, by simp⟩
  | mmuMemTypeInit | extendedRegisterInit | tlbFlushGlobal =>
    exact (Op.run_allows _ c).wpPat rfl rfl hc
  | tlbFlushOne _ => exact ⟨hc.wp, hc.pat⟩
  | patSync _ => simpa [Op.run] using hc

lemma trace_invariant {P : Cpu → Prop} (hstep : ∀ (op : Op) c, P c → P (op.run c)) {c : Cpu}
    (hc : P c) (ops : List Op) : ∀ c' ∈ trace c ops, P c' := by
  induction ops generalizing c with
  | nil => simpa [trace] using hc
  | cons op ops ih =>
    intro c' hc'
    rcases List.mem_cons.mp hc' with rfl | h
    · exact hc
    · exact ih (hstep op c hc) c' h

/-- Every operation changes only the register bits its contract names, the MTRR default type
only when MTRRs are enabled, and along every run that starts with
`sys_x86_mmu_early_init` every state has CR0.WP set and the default PAT. -/
theorem init_ops_keep_write_protect_and_pat :
    (∀ (op : Op) c, op.contract.Allows c (op.run c)) ∧
      (∀ c, rdmsr c X86_MSR_IA32_MTRR_DEF &&& 0x800 = 0 → sysX86MmuMemTypeInit c = c) ∧
      ∀ c ops, ∀ c' ∈ (trace c (.mmuEarlyInit :: ops)).tail,
        c'.cr0.getLsbD 16 = true ∧ rdmsr c' X86_MSR_IA32_PAT = X86_PAT_DEFAULT_VALUE := by
  refine ⟨Op.run_allows, fun c h => ?_, fun c ops c' hc' => ?_⟩
  · rw [sysX86MmuMemTypeInit_eq, if_neg (by simpa using h)]
  · have h' := trace_invariant (fun op _ => op.run_wpPat) (wpPat_sysX86MmuEarlyInit c) ops c' hc'
    exact ⟨h'.wp, h'.pat⟩

theorem write_protect_and_pat_at_boot :
    let c : Cpu := ⟨0, 0, 0, fun _ => 0, 0, fun _ _ => ⟨0, 0, 0, 0⟩, FpuState.init, []⟩
    sysX86MmuMemTypeInit c = c ∧
      (sysX86MmuPercpuInit (sysX86MmuEarlyInit c)).cr0.getLsbD 16 = true ∧
      rdmsr (sysX86MmuPercpuInit (sysX86MmuEarlyInit c)) X86_MSR_IA32_PAT = X86_PAT_DEFAULT_VALUE := by
  intro c
  exact ⟨init_ops_keep_write_protect_and_pat.2.1 c (by decide),
    init_ops_keep_write_protect_and_pat.2.2 c [.mmuPercpuInit] _ (by simp [trace, Op.run])⟩

/-- Every bit any operation's contract names: CR0.WP, CR4.OSFXSR and CR4.OSXSAVE, the whole PAT,
the low byte of the MTRR default type, and the x87 state. -/
def Footprint.layer : Footprint :=
  ⟨1 <<< 16, 0, 1 <<< 9 ||| 1 <<< 18, fun i => if i = X86_MSR_IA32_PAT then allOnes 64
    else if i = X86_MSR_IA32_MTRR_DEF then 0xFF else 0, true⟩

/-- `fp` names no bit that `fp'` does not. -/
structure Footprint.Sub (fp fp' : Footprint) : Prop where
  cr0 : fp.cr0 &&& ~~~fp'.cr0 = 0
  cr3 : fp.cr3 &&& ~~~fp'.cr3 = 0
  cr4 : fp.cr4 &&& ~~~fp'.cr4 = 0
  msr : ∀ i, fp.msr i &&& ~~~fp'.msr i = 0
  fpu : fp.fpu = true → fp'.fpu = true

lemma and_not_mono {m m' x x' : BitVec 64} (hm : m &&& ~~~m' = 0)
    (h : x' &&& ~~~m = x &&& ~~~m) : x' &&& ~~~m' = x &&& ~~~m' := by
  ext i
  have hmi := congrArg (·.getLsbD i) hm
  have hi := congrArg (·.getLsbD i) h
  simp only [getLsbD_and, getLsbD_not, getLsbD_zero] at hmi hi ⊢
  cases hm' : m'.getLsbD i <;> cases hmm : m.getLsbD i <;> simp_all

lemma Footprint.Allows.mono {fp fp' : Footprint} {c c' : Cpu} (h : fp.Allows c c')
    (hsub : fp.Sub fp') : fp'.Allows c c' :=
  ⟨and_not_mono hsub.cr0 h.cr0, and_not_mono hsub.cr3 h.cr3, and_not_mono hsub.cr4 h.cr4,
    fun i => and_not_mono (hsub.msr i) (h.msr i), h.xcr0, h.cpuid,
    fun hf => h.fpu (by cases hfp : fp.fpu <;> simp_all [hsub.fpu])⟩

lemma Footprint.Allows.trans {fp : Footprint} {c c' c'' : Cpu} (h : fp.Allows c c')
    (h' : fp.Allows c' c'') : fp.Allows c c'' :=
  ⟨h'.cr0.trans h.cr0, h'.cr3.trans h.cr3, h'.cr4.trans h.cr4,
    fun i => (h'.msr i).trans (h.msr i), h'.xcr0.trans h.xcr0, h'.cpuid.trans h.cpuid,
    fun hf => (h'.fpu hf).trans (h.fpu hf)⟩

lemma Op.contract_sub_layer (op : Op) : op.contract.Sub Footprint.layer := by
  refine ⟨?_, ?_, ?_, fun i => ?_, ?_⟩ <;> cases op <;>
    simp only [Op.contract, Footprint.layer, Footprint.msrBits, Footprint.none] <;>
    (try split_ifs) <;> (try subst_vars) <;> decide

/-- Along every run of the layer's operations only the bits of `Footprint.layer` change: CR3,
XCR0 and every MSR but the PAT and the MTRR default type keep their values, CR0 changes at most
in bit 16, CR4 in bits 9 and 18, and the MTRR default type in its low byte. -/
theorem run_changes_only_layer_bits (c : Cpu) (ops : List Op) :
    ∀ c' ∈ trace c ops, Footprint.layer.Allows c c' :=
  trace_invariant (fun op _ h => h.trans ((op.run_allows _).mono op.contract_sub_layer))
    (Footprint.allows_self _ c) ops

theorem run_changes_only_layer_bits_after_early_init :
    let c : Cpu := ⟨0, 0, 0, fun _ => 0, 0, fun _ _ => ⟨0, 0, 0, 0⟩, FpuState.init, []⟩
    Footprint.layer.Allows c (sysX86MmuEarlyInit c) :=
  run_changes_only_layer_bits _ [.mmuEarlyInit] _ (by simp [trace, Op.run])

end SysX86

import SysX86.Run

/-!
# Several CPUs

Control registers, MSRs and the TLB are per CPU, and every operation of this layer acts on the
CPU that issues it: none sends an IPI, `sys_x86_pat_sync` included. A machine is one `Cpu` for
each index, and a schedule interleaves the operations of all CPUs in any order.

What a CPU ends in depends only on its own operations, in their own order. So once every CPU has
run `sys_x86_mmu_percpu_init`, all of them hold the default PAT whatever the interleaving, with
no broadcast; and CR0.WP, which only `sys_x86_mmu_early_init` sets, is set exactly on the CPUs
that ran it or came up with it set.
-/

namespace SysX86

/-! ### Runs of one CPU -/

/-- The state a CPU reaches by running `ops` in order. -/
def Op.runAll (ops : List Op) (c : Cpu) : Cpu :=
  ops.foldl (fun c op => op.run c) c

@[simp] lemma Op.runAll_nil (c : Cpu) : Op.runAll [] c = c := rfl

@[simp] lemma Op.runAll_cons (op : Op) (ops : List Op) (c : Cpu) :
    Op.runAll (op :: ops) c = Op.runAll ops (op.run c) := rfl

lemma Op.contract_cr0 {op : Op} (h : op ≠ .mmuEarlyInit) : op.contract.cr0 = 0 := by
  cases op <;> first | rfl | exact absurd rfl h

lemma Op.contract_msr_pat {op : Op} (he : op ≠ .mmuEarlyInit) (hp : op ≠ .mmuPercpuInit) :
    op.contract.msr X86_MSR_IA32_PAT = 0 := by
  cases op <;> first | rfl | decide | exact absurd rfl he | exact absurd rfl hp

lemma Op.contract_cr4 {op : Op} (h : op ≠ .extendedRegisterInit) : op.contract.cr4 = 0 := by
  cases op <;> first | rfl | exact absurd rfl h

lemma Op.run_cr4 (op : Op) (c : Cpu) :
    (op.run c).cr4 = if op = .extendedRegisterInit then c.cr4 ||| 0x40200 else c.cr4 := by
  split_ifs with h
  · subst h
    rfl
  · simpa only [Op.contract_cr4 h, BitVec.ofNat_eq_ofNat, BitVec.not_zero,
      BitVec.and_allOnes] using (Op.run_allows op c).cr4

lemma Op.run_cr0_wp (op : Op) (c : Cpu) :
    (op.run c).cr0.getLsbD 16 = (decide (op = .mmuEarlyInit) || c.cr0.getLsbD 16) := by
  by_cases h : op = .mmuEarlyInit
  · subst h
    simp [Op.run, sysX86MmuEarlyInit_eq]
  · rw [(Op.run_allows op c).cr0_getLsbD (by rw [Op.contract_cr0 h]; rfl)]
    simp [h]

lemma Op.run_pat (op : Op) (c : Cpu) :
    rdmsr (op.run c) X86_MSR_IA32_PAT =
      if op = .mmuEarlyInit ∨ op = .mmuPercpuInit then X86_PAT_DEFAULT_VALUE
      else rdmsr c X86_MSR_IA32_PAT := by
  split_ifs with h
  · rcases h with rfl | rfl
    · simp [Op.run, sysX86MmuEarlyInit_eq]
    · simp [Op.run, sysX86MmuPercpuInit_eq]
  · obtain ⟨he, hp⟩ := not_or.mp h
    rw [rdmsr_eq, rdmsr_eq]
    exact (Op.run_allows op c).msr_eq (Op.contract_msr_pat he hp)

lemma runAll_cr4 (ops : List Op) (c : Cpu) :
    (Op.runAll ops c).cr4 =
      if .extendedRegisterInit ∈ ops then c.cr4 ||| 0x40200 else c.cr4 := by
  induction ops generalizing c with
  | nil => simp
  | cons op ops ih =>
    rw [Op.runAll_cons, ih, Op.run_cr4]
    by_cases h : op = .extendedRegisterInit <;> by_cases h' : .extendedRegisterInit ∈ ops <;>
      simp [h, h', @eq_comm _ Op.extendedRegisterInit, BitVec.or_assoc]

lemma runAll_cr0_wp (ops : List Op) (c : Cpu) :
    (Op.runAll ops c).cr0.getLsbD 16 = (decide (.mmuEarlyInit ∈ ops) || c.cr0.getLsbD 16) := by
  induction ops generalizing c with
  | nil => simp
  | cons op ops ih =>
    rw [Op.runAll_cons, ih, Op.run_cr0_wp]
    simp only [List.mem_cons, @eq_comm _ Op.mmuEarlyInit, Bool.decide_or, Bool.or_assoc,
      Bool.or_left_comm]

lemma runAll_pat (ops : List Op) (c : Cpu) :
    rdmsr (Op.runAll ops c) X86_MSR_IA32_PAT =
      if .mmuEarlyInit ∈ ops ∨ .mmuPercpuInit ∈ ops then X86_PAT_DEFAULT_VALUE
      else rdmsr c X86_MSR_IA32_PAT := by
  induction ops generalizing c with
  | nil => simp
  | cons op ops ih =>
    rw [Op.runAll_cons, ih, Op.run_pat, ← ite_or]
    refine if_congr ?_ rfl rfl
    simp only [List.mem_cons, @eq_comm _ op, or_assoc, or_comm, or_left_comm]

/-! ### A machine of several CPUs -/

section Machine

variable {n : Nat}

/-- One step of a machine: CPU `e.1` runs `e.2` on its own registers. -/
def step (m : Fin n → Cpu) (e : Fin n × Op) : Fin n → Cpu :=
  Function.update m e.1 (e.2.run (m e.1))

/-- A run of a machine along a schedule that interleaves the operations of all CPUs. -/
def runSchedule (m : Fin n → Cpu) (sched : List (Fin n × Op)) : Fin n → Cpu :=
  sched.foldl step m

@[simp] lemma runSchedule_cons (m : Fin n → Cpu) (e : Fin n × Op) (sched : List (Fin n × Op)) :
    runSchedule m (e :: sched) = runSchedule (step m e) sched := rfl

/-- The operations CPU `i` runs in `sched`, in their order. -/
def ownOps (i : Fin n) (sched : List (Fin n × Op)) : List Op :=
  sched.filterMap fun e => if e.1 = i then some e.2 else none

@[simp] lemma mem_ownOps {i : Fin n} {sched : List (Fin n × Op)} {op : Op} :
    op ∈ ownOps i sched ↔ (i, op) ∈ sched := by
  simp only [ownOps, List.mem_filterMap, Option.ite_none_right_eq_some, Option.some.injEq]
  constructor
  · rintro ⟨e, he, rfl, rfl⟩
    exact he
  · exact fun h => ⟨_, h, rfl, rfl⟩

lemma runSchedule_apply (m : Fin n → Cpu) (sched : List (Fin n × Op)) (i : Fin n) :
    runSchedule m sched i = Op.runAll (ownOps i sched) (m i) := by
  induction sched generalizing m with
  | nil => rfl
  | cons e sched ih =>
    rw [runSchedule_cons, ih]
    by_cases h : e.1 = i
    · subst h
      simp [ownOps, step]
    · simp [ownOps, step, h, Function.update_noteq (Ne.symm h)]

/-- Whatever the interleaving, once every CPU has run `sys_x86_mmu_percpu_init` every CPU holds
the default PAT, so all of them agree on it. -/
theorem pat_default_on_every_cpu (m : Fin n → Cpu) (sched : List (Fin n × Op))
    (hinit : ∀ i, (i, Op.mmuPercpuInit) ∈ sched) (i : Fin n) :
    rdmsr (runSchedule m sched i) X86_MSR_IA32_PAT = X86_PAT_DEFAULT_VALUE := by
  rw [runSchedule_apply, runAll_pat, if_pos (Or.inr (mem_ownOps.mpr (hinit i)))]

theorem pat_default_on_every_cpu_of_two :
    let m : Fin 2 → Cpu :=
      fun _ => ⟨0, 0, 0, fun _ => 0, 0, fun _ _ => ⟨0, 0, 0, 0⟩, FpuState.init, []⟩
    let sched : List (Fin 2 × Op) :=
      [(0, .mmuEarlyInit), (1, .mmuPercpuInit), (0, .patSync 3), (0, .mmuPercpuInit)]
    ∀ i, rdmsr (runSchedule m sched i) X86_MSR_IA32_PAT = X86_PAT_DEFAULT_VALUE := by
  intro m sched
  exact pat_default_on_every_cpu m sched (by decide)

/-- Whatever the interleaving, CR0.WP ends set on a CPU exactly when that CPU ran
`sys_x86_mmu_early_init` or came up with it set: a CPU that runs only
`sys_x86_mmu_percpu_init` keeps the WP bit it started with. -/
theorem write_protect_iff_early_init (m : Fin n → Cpu) (sched : List (Fin n × Op)) (i : Fin n) :
    (runSchedule m sched i).cr0.getLsbD 16 =
      (decide ((i, Op.mmuEarlyInit) ∈ sched) || (m i).cr0.getLsbD 16) := by
  simp only [runSchedule_apply, runAll_cr0_wp, mem_ownOps]

/-- Whatever the interleaving, CR4 ends with OSFXSR and OSXSAVE added on exactly the CPUs that
ran `sys_x86_extended_register_init`, and unchanged on every other CPU. -/
theorem cr4_xsave_bits_iff_extended_register_init (m : Fin n → Cpu) (sched : List (Fin n × Op))
    (i : Fin n) :
    (runSchedule m sched i).cr4 =
      if (i, Op.extendedRegisterInit) ∈ sched then
        (m i).cr4 ||| BitVec.twoPow 64 9 ||| BitVec.twoPow 64 18
      else (m i).cr4 := by
  rw [runSchedule_apply, runAll_cr4, BitVec.or_assoc,
    show BitVec.twoPow 64 9 ||| BitVec.twoPow 64 18 = 0x40200 by decide]
  simp only [mem_ownOps]

end Machine

end SysX86

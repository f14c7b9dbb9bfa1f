import SysX86.Smp

/-!
# What the layer's operations do, as data

Every operation of the layer ORs fixed bits into CR0 or CR4, sets the PAT to its default, writes
back an enabled MTRR default type, resets the x87 state, or drops TLB entries by a test on the
entry. An `Effect` records which of these an operation does, and `Effect.apply` performs it;
`Op.run_eq_apply` shows that each operation of the model is exactly the effect it is given.

Two effects applied one after the other are their join, and the join is commutative,
associative and idempotent: the bits ORed, the flags set and the TLB tests all accumulate. So
any two operations commute, each is idempotent, and the state after a run depends only on which
operations it called, not on their order or on how often each was called.
-/

namespace SysX86

open BitVec

attribute [ext] Cpu

/-- The MTRR default type after `sys_x86_mmu_mem_type_init`: write-back in the low byte when
MTRRs are enabled, unchanged otherwise. -/
def mtrrWriteBack (x : BitVec 64) : BitVec 64 :=
  if x &&& 0x800 ≠ 0 then (x &&& ~~~0xFF) ||| 0x06 else x

lemma mtrrWriteBack_idem (x : BitVec 64) : mtrrWriteBack (mtrrWriteBack x) = mtrrWriteBack x := by
  by_cases h : x &&& 0x800 = 0
  · simp only [mtrrWriteBack, h, ne_eq, not_true_eq_false, if_false]
  · have h' : ((x &&& ~~~0xFF) ||| 0x06) &&& 0x800 ≠ 0 := by rwa [write_back_keeps_enable]
    simp only [mtrrWriteBack, if_pos h, if_pos h', write_back_idem]

lemma sysX86MmuMemTypeInit_eq_mtrrWriteBack (c : Cpu) :
    sysX86MmuMemTypeInit c = { c with
      msr := fun i => if i = X86_MSR_IA32_MTRR_DEF then mtrrWriteBack (c.msr i) else c.msr i } := by
  rw [sysX86MmuMemTypeInit_eq]
  split_ifs with h
  · congr 1
    funext i
    split_ifs with hi
    · subst hi
      rw [mtrrWriteBack, if_pos h]
    · rfl
  · have hm : (fun i => if i = X86_MSR_IA32_MTRR_DEF then mtrrWriteBack (c.msr i) else c.msr i) =
        c.msr := by
      funext i
      split_ifs with hi
      · subst hi
        rw [mtrrWriteBack, if_neg h]
      · rfl
    rw [hm]

/-- What an operation does to a CPU: the bits it ORs into CR0 and CR4, whether it sets the PAT
to its default, whether it writes back an enabled MTRR default type, whether it resets the x87
state, and which TLB entries it keeps. -/
@[ext] structure Effect where
  cr0 : BitVec 64
  cr4 : BitVec 64
  pat : Bool
  writeBack : Bool
  fpu : Bool
  keep : TlbEntry → Bool

namespace Effect

/-- The effect that changes nothing. -/
def none : Effect :=
  ⟨0, 0, false, false, false, fun _ => true⟩

/-- Both effects. -/
def join (e e' : Effect) : Effect :=
  ⟨e.cr0 ||| e'.cr0, e.cr4 ||| e'.cr4, e.pat || e'.pat, e.writeBack || e'.writeBack,
    e.fpu || e'.fpu, fun t => e.keep t && e'.keep t⟩

/-- Perform an effect on a CPU. -/
def apply (e : Effect) (c : Cpu) : Cpu :=
  { c with
    cr0 := c.cr0 ||| e.cr0
    cr4 := c.cr4 ||| e.cr4
    msr := fun i =>
      if e.pat ∧ i = X86_MSR_IA32_PAT then X86_PAT_DEFAULT_VALUE
      else if e.writeBack ∧ i = X86_MSR_IA32_MTRR_DEF then mtrrWriteBack (c.msr i)
      else c.msr i
    fpu := if e.fpu then FpuState.init else c.fpu
    tlb := c.tlb.filter e.keep }

lemma join_comm (e e' : Effect) : e.join e' = e'.join e := by
  ext <;> simp [join, BitVec.or_comm, Bool.or_comm, Bool.and_comm]

lemma join_assoc (e e' e'' : Effect) : (e.join e').join e'' = e.join (e'.join e'') := by
  ext <;> simp [join, BitVec.or_assoc, Bool.or_assoc, Bool.and_assoc]

lemma join_self (e : Effect) : e.join e = e := by
  ext <;> simp [join]

lemma none_join (e : Effect) : none.join e = e := by
  ext <;> simp [none, join]

lemma join_none (e : Effect) : e.join none = e := by
  rw [join_comm, none_join]

lemma apply_none (c : Cpu) : none.apply c = c := by
  simp [apply, none]

lemma msr_apply_apply (e e' : Effect) (c : Cpu) (i : BitVec 32) :
    (e'.apply (e.apply c)).msr i = ((e.join e').apply c).msr i := by
  have hne : X86_MSR_IA32_PAT ≠ X86_MSR_IA32_MTRR_DEF := by decide
  simp only [apply, join, Bool.or_eq_true]
  by_cases hp : i = X86_MSR_IA32_PAT
  · subst hp
    cases e.pat <;> cases e'.pat <;> simp [hne]
  · by_cases hm : i = X86_MSR_IA32_MTRR_DEF
    · subst hm
      cases e.writeBack <;> cases e'.writeBack <;> simp [hp, mtrrWriteBack_idem]
    · simp [hp, hm]

lemma apply_apply (e e' : Effect) (c : Cpu) : e'.apply (e.apply c) = (e.join e').apply c := by
  refine Cpu.ext (BitVec.or_assoc _ _ _) rfl (BitVec.or_assoc _ _ _)
    (funext (msr_apply_apply e e' c)) rfl rfl ?_ ?_
  · by_cases h : e.fpu <;> by_cases h' : e'.fpu <;> simp [apply, join, h, h']
  · simp [apply, join, List.filter_filter, Bool.and_comm]

end Effect

/-- What each operation does. -/
def Op.effect : Op → Effect
  | .mmuEarlyInit => { Effect.none with cr0 := 1 <<< 16, pat := true }
  | .mmuPercpuInit => { Effect.none with pat := true }
  | .mmuMemTypeInit => { Effect.none with writeBack := true }
  | .extendedRegisterInit => { Effect.none with cr4 := 0x40200, fpu := true }
  | .tlbFlushGlobal => { Effect.none with keep := (·.global) }
  | .tlbFlushOne vaddr => { Effect.none with keep := (·.page ≠ vaddr >>> 12) }
  | .patSync _ => Effect.none

lemma Op.run_eq_apply (op : Op) (c : Cpu) : op.run c = op.effect.apply c := by
  cases op <;>
    simp [Op.run, Op.effect, Effect.apply, Effect.none, sysX86MmuEarlyInit_eq,
      sysX86MmuPercpuInit_eq, sysX86MmuMemTypeInit_eq_mtrrWriteBack, sysX86ExtendedRegisterInit_eq,
      sysX86TlbFlushGlobal_eq, sysX86TlbFlushOne, Cpu.invlpg]

/-! ### Runs -/

/-- The effect of a run: the join of its operations' effects. -/
def effectOf (ops : List Op) : Effect :=
  ops.foldl (fun e op => e.join op.effect) Effect.none

lemma foldl_join_eq (ops : List Op) (e : Effect) :
    ops.foldl (fun e op => e.join op.effect) e = e.join (effectOf ops) := by
  induction ops generalizing e with
  | nil => exact (Effect.join_none e).symm
  | cons op ops ih =>
    show ops.foldl _ (e.join op.effect) = e.join (ops.foldl _ (Effect.none.join op.effect))
    rw [ih, ih, Effect.none_join, Effect.join_assoc]

lemma effectOf_cons (op : Op) (ops : List Op) :
    effectOf (op :: ops) = op.effect.join (effectOf ops) := by
  rw [effectOf, List.foldl_cons, foldl_join_eq, Effect.none_join]

lemma runAll_eq_apply (ops : List Op) (c : Cpu) : Op.runAll ops c = (effectOf ops).apply c := by
  induction ops generalizing c with
  | nil => exact (Effect.apply_none c).symm
  | cons op ops ih => rw [Op.runAll_cons, ih, Op.run_eq_apply, Effect.apply_apply, effectOf_cons]

lemma join_effectOf_of_mem {op : Op} {ops : List Op} (h : op ∈ ops) :
    op.effect.join (effectOf ops) = effectOf ops := by
  induction ops with
  | nil => cases h
  | cons op' ops ih =>
    rw [effectOf_cons, ← Effect.join_assoc]
    rcases List.mem_cons.mp h with rfl | h
    · rw [Effect.join_self]
    · rw [Effect.join_comm op.effect, Effect.join_assoc, ih h]

lemma effectOf_dedup (ops : List Op) : effectOf ops.dedup = effectOf ops := by
  induction ops with
  | nil => rfl
  | cons op ops ih =>
    by_cases h : op ∈ ops
    · rw [List.dedup_cons_of_mem h, ih, effectOf_cons, join_effectOf_of_mem h]
    · rw [List.dedup_cons_of_not_mem h, effectOf_cons, effectOf_cons, ih]

lemma effectOf_perm {ops ops' : List Op} (p : ops.Perm ops') : effectOf ops = effectOf ops' :=
  p.foldl_eq' (fun x _ y _ z => by
    rw [Effect.join_assoc, Effect.join_comm x.effect, ← Effect.join_assoc]) _

lemma effectOf_eq_of_mem_iff {ops ops' : List Op} (h : ∀ op, op ∈ ops ↔ op ∈ ops') :
    effectOf ops = effectOf ops' := by
  rw [← effectOf_dedup ops, ← effectOf_dedup ops']
  refine effectOf_perm ((List.perm_ext_iff_of_nodup (List.nodup_dedup ops)
    (List.nodup_dedup ops')).mpr fun op => ?_)
  rw [List.mem_dedup, List.mem_dedup, h]

lemma keep_effectOf (ops : List Op) (t : TlbEntry) :
    (effectOf ops).keep t = ops.all fun op => op.effect.keep t := by
  induction ops with
  | nil => rfl
  | cons op ops ih => rw [effectOf_cons, List.all_cons, ← ih]; rfl

lemma writeBack_effectOf (ops : List Op) :
    (effectOf ops).writeBack = decide (.mmuMemTypeInit ∈ ops) := by
  induction ops with
  | nil => rfl
  | cons op ops ih =>
    rw [effectOf_cons]
    show (op.effect.writeBack || (effectOf ops).writeBack) = _
    rw [ih]
    cases op <;> simp [Op.effect, Effect.none]

lemma forall_keep_iff (P : Op → Prop) (t : TlbEntry) :
    (∀ op, P op → op.effect.keep t = true) ↔
      (P .tlbFlushGlobal → t.global = true) ∧
        ∀ vaddr, P (.tlbFlushOne vaddr) → t.page ≠ vaddr >>> 12 := by
  constructor
  · intro h
    exact ⟨fun hg => h _ hg, fun vaddr hv => by simpa [Op.effect] using h _ hv⟩
  · rintro ⟨hg, ho⟩ op hop
    cases op <;> first | rfl | exact hg hop | simpa [Op.effect] using ho _ hop

/-- Any two operations of the layer commute, and each is idempotent, from every state: the order
of two calls never matters and a repeated call changes nothing. -/
theorem ops_commute_and_idempotent (op op' : Op) (c : Cpu) :
    op.run (op'.run c) = op'.run (op.run c) ∧ op.run (op.run c) = op.run c := by
  simp only [Op.run_eq_apply, Effect.apply_apply]
  exact ⟨by rw [Effect.join_comm], by rw [Effect.join_self]⟩

/-! ### Machines -/

section Machine

variable {n : Nat}

/-- Two schedules that make the same calls on the same CPUs reach the same machine, whatever the
order of the calls, their interleaving across CPUs, and how often each is repeated. -/
theorem schedule_depends_only_on_calls (m : Fin n → Cpu) (sched sched' : List (Fin n × Op))
    (h : ∀ e, e ∈ sched ↔ e ∈ sched') : runSchedule m sched = runSchedule m sched' := by
  funext i
  have hi : effectOf (ownOps i sched) = effectOf (ownOps i sched') :=
    effectOf_eq_of_mem_iff fun op => by simp only [mem_ownOps, h]
  rw [runSchedule_apply, runSchedule_apply, runAll_eq_apply, runAll_eq_apply, hi]

theorem schedule_depends_only_on_calls_retried_boot :
    let m : Fin 2 → Cpu :=
      fun _ => ⟨0, 0, 0, fun _ => 0, 0, fun _ _ => ⟨0, 0, 0, 0⟩, FpuState.init, []⟩
    runSchedule m [(0, .mmuEarlyInit), (1, .mmuPercpuInit), (0, .mmuMemTypeInit),
        (0, .mmuEarlyInit), (1, .mmuPercpuInit)] =
      runSchedule m [(0, .mmuMemTypeInit), (1, .mmuPercpuInit), (0, .mmuEarlyInit)] := by
  intro m
  refine schedule_depends_only_on_calls m _ _ fun e => ?_
  simp only [List.mem_cons, List.mem_singleton, List.not_mem_nil, or_false]
  tauto

/-- Whatever the interleaving, each CPU's TLB keeps, in order, exactly the cached translations
that none of its own flushes removes: `sys_x86_tlb_flush_global` keeps the global ones,
`sys_x86_tlb_flush_one` those of other pages, and nothing else, on this CPU or another, removes
any. -/
theorem tlb_after_schedule (m : Fin n → Cpu) (sched : List (Fin n × Op)) (i : Fin n) :
    (runSchedule m sched i).tlb.Sublist (m i).tlb ∧
      ∀ t, t ∈ (runSchedule m sched i).tlb ↔ t ∈ (m i).tlb ∧
        ((i, Op.tlbFlushGlobal) ∈ sched → t.global = true) ∧
        ∀ vaddr, (i, Op.tlbFlushOne vaddr) ∈ sched → t.page ≠ vaddr >>> 12 := by
  rw [runSchedule_apply, runAll_eq_apply]
  refine ⟨List.filter_sublist _, fun t => ?_⟩
  simp only [Effect.apply, List.mem_filter, keep_effectOf, List.all_eq_true, mem_ownOps]
  exact and_congr_right fun _ => forall_keep_iff (fun op => (i, op) ∈ sched) t

/-- Whatever the interleaving, each CPU's MTRR default type ends written back (write-back in the
low byte, when its MTRRs are enabled) exactly when that CPU ran `sys_x86_mmu_mem_type_init`, and
as the CPU came up otherwise: a call configures only the CPU that makes it. -/
theorem mtrr_default_type_after_schedule (m : Fin n → Cpu) (sched : List (Fin n × Op))
    (i : Fin n) :
    rdmsr (runSchedule m sched i) X86_MSR_IA32_MTRR_DEF =
      if (i, Op.mmuMemTypeInit) ∈ sched ∧ rdmsr (m i) X86_MSR_IA32_MTRR_DEF &&& 0x800 ≠ 0 then
        (rdmsr (m i) X86_MSR_IA32_MTRR_DEF &&& ~~~0xFF) ||| 0x06
      else rdmsr (m i) X86_MSR_IA32_MTRR_DEF := by
  have hne : X86_MSR_IA32_MTRR_DEF ≠ X86_MSR_IA32_PAT := by decide
  rw [runSchedule_apply, runAll_eq_apply, rdmsr_eq, rdmsr_eq]
  simp only [Effect.apply, writeBack_effectOf, mem_ownOps, hne, and_false, if_false, and_true,
    decide_eq_true_eq, mtrrWriteBack]
  by_cases h : (i, Op.mmuMemTypeInit) ∈ sched <;> simp [h]

end Machine

end SysX86

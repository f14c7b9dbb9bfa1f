import SysX86.Address

/-!
# The page-table flag translators

The host MMU table and the EPT table of `sys_x86.c` each encode a portable flag word
(PRESENT = 0x1, WRITE = 0x2, USER or EXECUTE = 0x4) into an architectural entry and decode an
entry back. All four encoders and decoders are the same loop over a few `if (flags & BIT)
result |= OTHER;` lines; `translateFlags` is that loop, each translator is it applied to its own
lines, and one lemma reads off every bit of the result. Round trips, the large-page split and
the walk of the next file are then bit-by-bit comparisons.
-/

namespace SysX86

open BitVec

/-- `X86_MMU_PG_P`. -/
def X86_MMU_PG_P : BitVec 64 := 0x001

/-- `X86_MMU_PG_RW`. -/
def X86_MMU_PG_RW : BitVec 64 := 0x002

/-- `X86_MMU_PG_U`. -/
def X86_MMU_PG_U : BitVec 64 := 0x004

/-- `X86_MMU_PG_PS`. -/
def X86_MMU_PG_PS : BitVec 64 := 0x080

/-- A flag translator: start from `base` and, for each rule `(test, set)` in turn,
`if (flags & test) result |= set;`. -/
def translateFlags {n m : Nat} (base : BitVec m) (rules : List (BitVec n × BitVec m))
    (flags : BitVec n) : BitVec m :=
  rules.foldl (fun acc r => if flags &&& r.1 ≠ 0 then acc ||| r.2 else acc) base

/-- Rules that each test the single bit `j` and set the single bit `k`, for `(j, k)`. -/
def bitRules (n m : Nat) (rules : List (Nat × Nat)) : List (BitVec n × BitVec m) :=
  rules.map fun r => (twoPow n r.1, twoPow m r.2)

lemma getLsbD_translateFlags {n m : Nat} (base : BitVec m) (rules : List (BitVec n × BitVec m))
    (flags : BitVec n) (i : Nat) :
    (translateFlags base rules flags).getLsbD i =
      (base.getLsbD i || rules.any fun r => !decide (flags &&& r.1 = 0) && r.2.getLsbD i) := by
  induction rules generalizing base with
  | nil => simp [translateFlags]
  | cons r rules ih =>
    simp only [translateFlags, List.foldl_cons] at ih ⊢
    rw [ih]
    split <;> simp_all [Bool.or_assoc]

lemma getLsbD_translateFlags_bitRules {n m : Nat} (base : BitVec m) (rules : List (Nat × Nat))
    (flags : BitVec n) (i : Nat) (h : ∀ r ∈ rules, r.1 < n) :
    (translateFlags base (bitRules n m rules) flags).getLsbD i =
      (base.getLsbD i ||
        rules.any fun r => flags.getLsbD r.1 && decide (r.2 < m) && decide (r.2 = i)) := by
  rw [getLsbD_translateFlags, bitRules]
  congr 1
  induction rules with
  | nil => rfl
  | cons r rules ih =>
    simp only [List.map_cons, List.any_cons, List.mem_cons, forall_eq_or_imp] at h ⊢
    rw [decide_and_twoPow_eq_zero flags h.1, getLsbD_twoPow, ih h.2, Bool.not_not, Bool.and_assoc]

lemma getLsbD_translateFlags_lowBits {n m : Nat} (flags : BitVec n) (i : Nat) (hn : 3 ≤ n)
    (hm : 3 ≤ m) :
    (translateFlags 0 (bitRules n m [(0, 0), (1, 1), (2, 2)]) flags).getLsbD i =
      (decide (i < 3) && flags.getLsbD i) := by
  rw [getLsbD_translateFlags_bitRules _ _ _ _ (by simp only [List.mem_cons, List.mem_singleton,
    List.not_mem_nil, or_false, forall_eq_or_imp, forall_eq]; omega)]
  rcases i with _ | _ | _ | i <;> simp <;> omega

/-! ## Host MMU -/

/-- `sys_x86_page_table_mmu_terminal_flags`. -/
def sysX86PageTableMmuTerminalFlags (_level : Int) (flags : BitVec 32) : BitVec 64 :=
  translateFlags 0 [(0x1, X86_MMU_PG_P), (0x2, X86_MMU_PG_RW), (0x4, X86_MMU_PG_U)] flags

/-- `sys_x86_page_table_mmu_intermediate_flags`. -/
def sysX86PageTableMmuIntermediateFlags : BitVec 64 :=
  X86_MMU_PG_RW ||| X86_MMU_PG_P

/-- `sys_x86_page_table_mmu_supports_page_size`. -/
def sysX86PageTableMmuSupportsPageSize (level : Int) : Bool :=
  match level with
  | 2 => true
  | 1 => true
  | _ => false

/-- `sys_x86_page_table_mmu_split_flags`. `~X86_MMU_PG_PS` is an `int` complement; converting
it to `uint64_t` sign-extends it to the 64-bit complement used here. -/
def sysX86PageTableMmuSplitFlags (_level : Int) (flags : BitVec 64) : BitVec 64 :=
  flags &&& ~~~X86_MMU_PG_PS

/-- `sys_x86_page_table_mmu_pt_flags_to_mmu_flags`. -/
def sysX86PageTableMmuPtFlagsToMmuFlags (flags : BitVec 64) (_level : Int) : BitVec 32 :=
  translateFlags 0 [(X86_MMU_PG_P, 0x1), (X86_MMU_PG_RW, 0x2), (X86_MMU_PG_U, 0x4)] flags

@[simp] lemma getLsbD_sysX86PageTableMmuTerminalFlags (level : Int) (flags : BitVec 32) (i : Nat) :
    (sysX86PageTableMmuTerminalFlags level flags).getLsbD i =
      (decide (i < 3) && flags.getLsbD i) := by
  rw [sysX86PageTableMmuTerminalFlags,
    show [(0x1, X86_MMU_PG_P), (0x2, X86_MMU_PG_RW), (0x4, X86_MMU_PG_U)] =
      bitRules 32 64 [(0, 0), (1, 1), (2, 2)] by decide,
    getLsbD_translateFlags_lowBits _ _ (by decide) (by decide)]

@[simp] lemma getLsbD_sysX86PageTableMmuPtFlagsToMmuFlags (flags : BitVec 64) (level : Int)
    (i : Nat) :
    (sysX86PageTableMmuPtFlagsToMmuFlags flags level).getLsbD i =
      (decide (i < 3) && flags.getLsbD i) := by
  rw [sysX86PageTableMmuPtFlagsToMmuFlags,
    show [(X86_MMU_PG_P, 0x1), (X86_MMU_PG_RW, 0x2), (X86_MMU_PG_U, 0x4)] =
      bitRules 64 32 [(0, 0), (1, 1), (2, 2)] by decide,
    getLsbD_translateFlags_lowBits _ _ (by decide) (by decide)]

/-- The host encoder and decoder are inverse on P, RW and U, at any levels, and the encoder
sets no other bit. -/
theorem mmu_flags_round_trip :
    (∀ level level' flags, sysX86PageTableMmuPtFlagsToMmuFlags
        (sysX86PageTableMmuTerminalFlags level flags) level' = flags &&& 0x7) ∧
      (∀ level level' flags, sysX86PageTableMmuTerminalFlags level
        (sysX86PageTableMmuPtFlagsToMmuFlags flags level') = flags &&& 0x7) ∧
      ∀ level flags, sysX86PageTableMmuTerminalFlags level flags &&& ~~~0x7 = 0 := by
  refine ⟨fun _ _ _ => ?_, fun _ _ _ => ?_, fun _ _ => ?_⟩ <;> ext i
  · simp [Bool.and_comm]
  · simp [Bool.and_comm]
  · simp only [getLsbD_and, getLsbD_not, ofNat_eq_ofNat, getLsbD_seven, getLsbD_zero,
      getLsbD_sysX86PageTableMmuTerminalFlags]
    by_cases h : (i : Nat) < 3 <;> simp [h]

lemma X86_MMU_PG_PS_eq_twoPow : X86_MMU_PG_PS = twoPow 64 7 := by decide

@[simp] lemma getLsbD_X86_MMU_PG_PS (i : Nat) : X86_MMU_PG_PS.getLsbD i = decide (i = 7) := by
  simp [X86_MMU_PG_PS_eq_twoPow, getLsbD_twoPow, eq_comm]

lemma and_X86_MMU_PG_PS_eq_zero (flags : BitVec 64) :
    (flags &&& X86_MMU_PG_PS = 0) ↔ flags.getLsbD 7 = false := by
  rw [X86_MMU_PG_PS_eq_twoPow]
  exact and_twoPow_eq_zero_iff flags (by decide)

@[simp] lemma getLsbD_sysX86PageTableMmuSplitFlags (level : Int) (flags : BitVec 64) (i : Nat) :
    (sysX86PageTableMmuSplitFlags level flags).getLsbD i =
      (flags.getLsbD i && !decide (i = 7)) := by
  simp only [sysX86PageTableMmuSplitFlags, getLsbD_and, getLsbD_not, getLsbD_X86_MMU_PG_PS]
  by_cases h : i < 64
  · simp [h]
  · simp [h, getLsbD_ge flags i (by omega)]

/-- How x86-64 paging reads an entry at `level`: always a leaf at level 0 (PT), a leaf at the
large-page levels 1 (PD) and 2 (PDPT) when PS is set, never a leaf at level 3 (PML4). -/
def IsLeafEntry (level : Int) (entry : BitVec 64) : Prop :=
  level = 0 ∨ ((level = 1 ∨ level = 2) ∧ entry &&& X86_MMU_PG_PS ≠ 0)

instance (level : Int) (entry : BitVec 64) : Decidable (IsLeafEntry level entry) :=
  inferInstanceAs (Decidable (_ ∨ _))

/-- Splitting a 1 GiB page: the child entries at level 1 have lost PS. -/
theorem mmu_split_flags_level_two_not_leaf :
    sysX86PageTableMmuSupportsPageSize 2 = true ∧ (0x87 : BitVec 64) &&& X86_MMU_PG_PS ≠ 0 ∧
      ¬IsLeafEntry 1 (sysX86PageTableMmuSplitFlags 2 0x87) := by
  decide

/-- Splitting a large page clears PS and changes no other bit, so the child keeps the parent's
P, RW and U. The child is a 4 KiB leaf when a 2 MiB page is split; when a 1 GiB page is split
the child at level 1 has PS clear and so reads as a pointer to a page table. -/
theorem mmu_split_flags_clears_page_size (level : Int) (flags : BitVec 64)
    (hps : flags &&& X86_MMU_PG_PS ≠ 0) :
    sysX86PageTableMmuSplitFlags level flags ^^^ flags = X86_MMU_PG_PS ∧
      sysX86PageTableMmuPtFlagsToMmuFlags (sysX86PageTableMmuSplitFlags level flags) (level - 1) =
        sysX86PageTableMmuPtFlagsToMmuFlags flags level ∧
      (level = 1 → IsLeafEntry 0 (sysX86PageTableMmuSplitFlags level flags)) ∧
      (level = 2 → ¬IsLeafEntry 1 (sysX86PageTableMmuSplitFlags level flags)) := by
  rw [Ne, and_X86_MMU_PG_PS_eq_zero, Bool.not_eq_false] at hps
  have hsplit : sysX86PageTableMmuSplitFlags level flags &&& X86_MMU_PG_PS = 0 := by
    rw [and_X86_MMU_PG_PS_eq_zero]
    simp
  refine ⟨?_, ?_, fun _ => .inl rfl, fun h2 => ?_⟩
  · ext i
    by_cases h : (i : Nat) = 7 <;> simp [h, hps]
  · ext i
    by_cases h : (i : Nat) = 7 <;> simp [h]
  · simp [IsLeafEntry, hsplit]

theorem mmu_split_flags_clears_page_size_at_both_levels :
    IsLeafEntry 0 (sysX86PageTableMmuSplitFlags 1 0x87) ∧
      ¬IsLeafEntry 1 (sysX86PageTableMmuSplitFlags 2 0x87) :=
  ⟨(mmu_split_flags_clears_page_size 1 0x87 (by decide)).2.2.1 rfl,
    (mmu_split_flags_clears_page_size 2 0x87 (by decide)).2.2.2 rfl⟩

/-- No host leaf carries PS, and splitting a leaf with PS added gives the leaf back; the split
clears PS of every entry. -/
theorem mmu_terminal_split_page_size (level : Int) (flags : BitVec 32) (entry : BitVec 64) :
    sysX86PageTableMmuTerminalFlags level flags &&& X86_MMU_PG_PS = 0 ∧
      sysX86PageTableMmuSplitFlags level
          (sysX86PageTableMmuTerminalFlags level flags ||| X86_MMU_PG_PS) =
        sysX86PageTableMmuTerminalFlags level flags ∧
      sysX86PageTableMmuSplitFlags level entry &&& X86_MMU_PG_PS = 0 := by
  refine ⟨?_, ?_, ?_⟩
  · rw [and_X86_MMU_PG_PS_eq_zero]
    simp
  · ext i
    by_cases h : (i : Nat) = 7 <;> simp [h]
  · rw [and_X86_MMU_PG_PS_eq_zero]
    simp

/-! ## EPT -/

/-- `sys_x86_page_table_ept_allowed_flags`. -/
def sysX86PageTableEptAllowedFlags (_flags : BitVec 32) : Bool :=
  true

/-- `sys_x86_page_table_ept_supports_page_size`. -/
def sysX86PageTableEptSupportsPageSize (level : Int) : Bool :=
  sysX86PageTableMmuSupportsPageSize level

/-- `sys_x86_page_table_ept_intermediate_flags`. -/
def sysX86PageTableEptIntermediateFlags : BitVec 64 :=
  0x7

/-- `sys_x86_page_table_ept_terminal_flags`: its base is R|W, and its one rule ORs 0x1 for
the portable 0x4. -/
def sysX86PageTableEptTerminalFlags (_level : Int) (flags : BitVec 32) : BitVec 64 :=
  translateFlags 0x3 [(0x4, 0x1)] flags

/-- `sys_x86_page_table_ept_split_flags`. -/
def sysX86PageTableEptSplitFlags (_level : Int) (flags : BitVec 64) : BitVec 64 :=
  flags

/-- `sys_x86_page_table_ept_pt_flags_to_mmu_flags`. -/
def sysX86PageTableEptPtFlagsToMmuFlags (flags : BitVec 64) (_level : Int) : BitVec 32 :=
  translateFlags 0 [(0x1, 0x1), (0x2, 0x2), (0x4, 0x4)] flags

lemma sysX86PageTableEptTerminalFlags_eq (level : Int) (flags : BitVec 32) :
    sysX86PageTableEptTerminalFlags level flags = 0x3 := by
  simp only [sysX86PageTableEptTerminalFlags, translateFlags, List.foldl_cons, List.foldl_nil]
  split <;> decide

lemma sysX86PageTableEptPtFlagsToMmuFlags_eq :
    sysX86PageTableEptPtFlagsToMmuFlags = sysX86PageTableMmuPtFlagsToMmuFlags :=
  rfl

/-- An EPT leaf requested with no portable flag decodes to READ|WRITE. -/
theorem ept_flags_round_trip_fails_at_zero :
    sysX86PageTableEptPtFlagsToMmuFlags (sysX86PageTableEptTerminalFlags 0 0x0) 0 ≠
      (0x0 : BitVec 32) &&& 0x7 := by
  decide

/-- Every EPT leaf uses only the R/W/X bits, decodes to exactly its own bits at any level, and
grants READ and WRITE whatever the portable flags request. -/
theorem ept_terminal_flags_read_write (level level' : Int) (flags : BitVec 32) :
    sysX86PageTableEptTerminalFlags level flags &&& ~~~0x7 = 0 ∧
      sysX86PageTableEptPtFlagsToMmuFlags (sysX86PageTableEptTerminalFlags level flags) level' =
        (sysX86PageTableEptTerminalFlags level flags).setWidth 32 ∧
      sysX86PageTableEptPtFlagsToMmuFlags (sysX86PageTableEptTerminalFlags level flags) level' &&&
        0x3 = 0x3 := by
  rw [sysX86PageTableEptTerminalFlags_eq]
  simp only [sysX86PageTableEptPtFlagsToMmuFlags]
  decide

end SysX86

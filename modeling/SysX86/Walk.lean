import SysX86.PageTable

/-!
# Walks through intermediate entries

A translation goes through the entries of the upper tables before it reaches its leaf, and both
x86-64 paging and EPT grant each of the three permission bits (P/RW/U, or R/W/X) only when every
entry on the way grants it. This file composes the translators' intermediate constants with
their leaves along walks of any depth: the EPT constant grants everything, so an EPT walk grants
what its leaf does; the host constant lacks U, so no host walk of depth one or more grants U.
-/

namespace SysX86

open BitVec

/-- The three permission bits a walk grants, as a portable flag word: the AND of each bit over
the upper-table entries `tables` and the `leaf`. -/
def walkPermissions (tables : List (BitVec 64)) (leaf : BitVec 64) : BitVec 32 :=
  ((tables.foldr (· &&& ·) leaf) &&& 0x7).setWidth 32

lemma getLsbD_foldr_and (tables : List (BitVec 64)) (leaf : BitVec 64) (i : Nat) :
    (tables.foldr (· &&& ·) leaf).getLsbD i = (tables.all (·.getLsbD i) && leaf.getLsbD i) := by
  induction tables with
  | nil => simp
  | cons t tables ih => simp [ih, Bool.and_assoc]

@[simp] lemma getLsbD_walkPermissions (tables : List (BitVec 64)) (leaf : BitVec 64) (i : Nat) :
    (walkPermissions tables leaf).getLsbD i =
      (decide (i < 3) && tables.all (·.getLsbD i) && leaf.getLsbD i) := by
  simp only [walkPermissions, getLsbD_setWidth, getLsbD_and, getLsbD_foldr_and, ofNat_eq_ofNat,
    getLsbD_seven]
  by_cases h : i < 3
  · simp [h, show i < 32 by omega, show i < 64 by omega]
  · simp [h]

@[simp] lemma getLsbD_sysX86PageTableMmuIntermediateFlags (i : Nat) :
    sysX86PageTableMmuIntermediateFlags.getLsbD i = decide (i < 2) := by
  rw [show sysX86PageTableMmuIntermediateFlags = 3#64 by decide, getLsbD_three]
  by_cases h : i < 2 <;> simp [h]
  omega

@[simp] lemma getLsbD_sysX86PageTableEptIntermediateFlags (i : Nat) :
    sysX86PageTableEptIntermediateFlags.getLsbD i = decide (i < 3) := by
  rw [show sysX86PageTableEptIntermediateFlags = 7#64 by decide, getLsbD_seven]
  by_cases h : i < 3 <;> simp [h]
  omega

/-- A user leaf under one host intermediate entry: the walk grants nothing, where the leaf
decodes to USER. -/
theorem mmu_walk_drops_user :
    walkPermissions [sysX86PageTableMmuIntermediateFlags] (sysX86PageTableMmuTerminalFlags 0 0x4) =
        0 ∧
      sysX86PageTableMmuPtFlagsToMmuFlags (sysX86PageTableMmuTerminalFlags 0 0x4) 0 = 0x4 := by
  decide

/-- Through one or more host intermediate entries a leaf keeps its P and RW and loses U. -/
theorem mmu_walk_permissions (depth : Nat) (level : Int) (flags : BitVec 32) :
    walkPermissions (List.replicate (depth + 1) sysX86PageTableMmuIntermediateFlags)
      (sysX86PageTableMmuTerminalFlags level flags) = flags &&& 0x3 := by
  ext i
  simp only [getLsbD_walkPermissions, getLsbD_sysX86PageTableMmuTerminalFlags, getLsbD_and,
    ofNat_eq_ofNat, getLsbD_three, List.all_replicate, getLsbD_sysX86PageTableMmuIntermediateFlags]
  by_cases h : (i : Nat) < 2
  · simp [h, show (i : Nat) < 3 by omega, Bool.and_comm]
  · simp [h]

/-- Through any number of EPT intermediate entries a leaf grants exactly what it decodes to. -/
theorem ept_walk_permissions (depth : Nat) (level level' : Int) (flags : BitVec 32) :
    walkPermissions (List.replicate depth sysX86PageTableEptIntermediateFlags)
        (sysX86PageTableEptTerminalFlags level flags) =
      sysX86PageTableEptPtFlagsToMmuFlags (sysX86PageTableEptTerminalFlags level flags) level' := by
  ext i
  rw [sysX86PageTableEptPtFlagsToMmuFlags_eq]
  simp only [getLsbD_walkPermissions, getLsbD_sysX86PageTableMmuPtFlagsToMmuFlags,
    List.all_replicate, getLsbD_sysX86PageTableEptIntermediateFlags]
  cases depth <;> by_cases h : (i : Nat) < 3 <;> simp [h]

end SysX86

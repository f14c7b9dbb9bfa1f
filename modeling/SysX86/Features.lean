import SysX86.Machine

/-!
# CPUID probing and the extended register state

`sys_x86_get_cpuid_subleaf`, `sys_x86_extended_register_init` and
`sys_x86_extended_register_size`. The size is compared with the standard-format XSAVE area for
the components it accounts for (the legacy region and AVX): the code adds the 256 bytes of AVX
state to the 512-byte legacy region and leaves out the 64-byte XSAVE header.
-/

namespace SysX86

open BitVec

/-- `fninit`: reset the x87 control, status and tag words. -/
def Cpu.fninit (c : Cpu) : Cpu :=
  { c with fpu := FpuState.init }

/-- `sys_x86_get_cpuid_subleaf`; `none` is its `false` return, with `out` left untouched. -/
def sysX86GetCpuidSubleaf (c : Cpu) (leaf subleaf : BitVec 32) : Option CpuidLeaf :=
  if leaf = 0 then none
  else some (c.cpuid leaf subleaf)

/-- `sys_x86_extended_register_init`. `(1 << 9) | (1 << 18)` is a positive `int`, which the OR
with `cr4` converts to `uint64_t`. -/
def sysX86ExtendedRegisterInit (c : Cpu) : Cpu :=
  let cr4 := c.cr4
  let cr4 := cr4 ||| (1 <<< 9 ||| 1 <<< 18 : BitVec 32).signExtend 64
  Cpu.fninit { c with cr4 := cr4 }

/-- `sys_x86_extended_register_size`. Its `cpuid` sets only EAX = 1; leaf 1 has no subleaves,
so the model reads subleaf 0. -/
def sysX86ExtendedRegisterSize (c : Cpu) : Nat :=
  let leaf := c.cpuid 1 0
  if leaf.ecx &&& 1 <<< 26 = 0 then 512
  else
    let out := c.xgetbvInsn
    let xcr0 := combineHalves out.edx out.eax
    let size := 512
    if xcr0 &&& 1 <<< 2 ≠ 0 then size + 256 else size

lemma sysX86ExtendedRegisterInit_eq (c : Cpu) :
    sysX86ExtendedRegisterInit c = { c with cr4 := c.cr4 ||| 0x40200, fpu := FpuState.init } :=
  rfl

lemma sysX86ExtendedRegisterSize_eq (c : Cpu) :
    sysX86ExtendedRegisterSize c =
      if (c.cpuid 1 0).ecx.getLsbD 26 then (if c.xcr0.getLsbD 2 then 768 else 512) else 512 := by
  simp only [sysX86ExtendedRegisterSize, Cpu.xgetbvInsn, combineHalves_eq_append,
    extract_append_extract, show (1 <<< 26 : BitVec 32) = twoPow 32 26 from rfl,
    show (1 <<< 2 : BitVec 64) = twoPow 64 2 from rfl, ne_eq,
    and_twoPow_eq_zero_iff _ (show 26 < 32 by decide),
    and_twoPow_eq_zero_iff _ (show 2 < 64 by decide)]
  cases (c.cpuid 1 0).ecx.getLsbD 26 <;> cases c.xcr0.getLsbD 2 <;> rfl

/-- The standard-format XSAVE area through the AVX component: the 512-byte legacy region, the
64-byte XSAVE header, and, when XCR0 enables AVX, its 256 bytes at offset 576. -/
def xsaveAreaThroughAvx (xcr0 : BitVec 64) : Nat :=
  512 + 64 + if xcr0.getLsbD 2 then 256 else 0

/-- On a CPU with XSAVE and AVX enabled, and CR4.OSXSAVE set as `sys_x86_extended_register_init`
leaves it, the size falls short of the 832-byte area. -/
theorem extended_register_size_short_of_xsave_area :
    let c : Cpu :=
      ⟨0, 0, 0x40200, fun _ => 0, 0x7, fun _ _ => ⟨0, 0, 0x04000000, 0⟩, FpuState.init, []⟩
    c.cr4.getLsbD 18 = true ∧ (c.cpuid 1 0).ecx.getLsbD 26 = true ∧ c.xcr0.getLsbD 2 = true ∧
      sysX86ExtendedRegisterSize c < 832 := by
  decide

/-- The size is never below the 512-byte FXSAVE area; it is exactly that without XSAVE, and
with XSAVE it is 64 bytes (the XSAVE header) short of the standard-format area through AVX. -/
theorem extended_register_size_legacy_plus_avx (c : Cpu) :
    512 ≤ sysX86ExtendedRegisterSize c ∧
      ((c.cpuid 1 0).ecx.getLsbD 26 = false → sysX86ExtendedRegisterSize c = 512) ∧
      ((c.cpuid 1 0).ecx.getLsbD 26 = true →
        sysX86ExtendedRegisterSize c + 64 = xsaveAreaThroughAvx c.xcr0) := by
  rw [sysX86ExtendedRegisterSize_eq, xsaveAreaThroughAvx]
  cases (c.cpuid 1 0).ecx.getLsbD 26 <;> cases c.xcr0.getLsbD 2 <;> simp

theorem extended_register_size_legacy_plus_avx_on_two_cpus :
    let legacy : Cpu := ⟨0, 0, 0, fun _ => 0, 0x3, fun _ _ => ⟨0, 0, 0, 0⟩, FpuState.init, []⟩
    let avx : Cpu :=
      ⟨0, 0, 0x40200, fun _ => 0, 0x7, fun _ _ => ⟨0, 0, 0x04000000, 0⟩, FpuState.init, []⟩
    sysX86ExtendedRegisterSize legacy = 512 ∧
      sysX86ExtendedRegisterSize avx + 64 = xsaveAreaThroughAvx avx.xcr0 :=
  ⟨(extended_register_size_legacy_plus_avx _).2.1 rfl,
    (extended_register_size_legacy_plus_avx _).2.2 rfl⟩

end SysX86

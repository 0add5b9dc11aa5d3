import Mathlib.Logic.Function.Basic
import Mathlib.Data.List.Basic
import Mathlib.Algebra.Group.Nat.Basic

/-!
# The processor state the VM-exit path reads and writes

The exit path of the hypervisor (`vm_exit_handler` and everything it calls in `ept.hpp`) reads
and writes four kinds of state: fields of the current VMCS through `read_vmx` and
`__vmx_vmwrite`, model-specific registers through `__readmsr`, control registers (`CR2`,
`CR3`), and the saved register frame `CONTEXT` that the exit stub pushed. The guest's instruction
bytes are reached through `memory::get_physical_address` and `memory::read_physical_memory`.

A `Machine` holds all of it. Every register is a 64-bit word (`BitVec 64`), as `uintptr_t`,
`size_t` and `uint64_t` are on the x64 target, so the wrap-around of the source's arithmetic
is the one of the model. Only the VMCS fields and MSRs that a modelled function touches are
named; every other field is left out (see `MODEL_MAP.json`).

The guest's virtual memory is a page map per address space (`CR3` value): a virtual page is
mapped to a physical page or not, and a physical page is backed by memory or not. The zero
physical address is `get_physical_address`'s answer for "not mapped", so no virtual page maps to
physical page 0; `GuestMemory` carries that as a field.
-/

namespace HyperHook

/-! ## VMCS fields, MSRs and registers -/

/-- The guest segment registers whose VMCS fields the exit path writes. -/
inductive SegmentRegister
  | cs
  | ss
  deriving DecidableEq, Repr

/-- The VMCS fields the modelled code reads or writes (the `VMCS_*` encodings of `ia32.hpp`). -/
inductive VmcsField
  | guestRip
  | guestRsp
  | guestRflags
  | guestCr3
  | guestPhysicalAddress
  | guestEfer
  | guestSelector (segment : SegmentRegister)
  | guestBase (segment : SegmentRegister)
  | guestLimit (segment : SegmentRegister)
  | guestAccessRights (segment : SegmentRegister)
  | exitReason
  | exitQualification
  | vmexitInterruptionInformation
  | vmexitInterruptionErrorCode
  | vmexitInstructionLength
  | vmentryInterruptionInformationField
  | vmentryExceptionErrorCode
  | exceptionBitmap
  | vmentryControls
  | primaryVmexitControls
  deriving DecidableEq, Repr

/-- The MSRs the exit path reads (`IA32_*` of `ia32.hpp`). -/
inductive Msr
  | star
  | lstar
  | fmask
  | efer
  | vmxBasic
  | vmxEntryCtls
  | vmxExitCtls
  | vmxTrueEntryCtls
  | vmxTrueExitCtls
  deriving DecidableEq, Repr

/-- The four words `CPUID` answers, as `__cpuidex` stores them in `cpu_info[0..3]`. -/
structure CpuidResult where
  eax : BitVec 32
  ebx : BitVec 32
  ecx : BitVec 32
  edx : BitVec 32
  deriving DecidableEq, Repr

/-- The registers of the saved frame (`CONTEXT`) that the exit path reads or writes. -/
structure Context where
  rax : BitVec 64
  rbx : BitVec 64
  rcx : BitVec 64
  rdx : BitVec 64
  r11 : BitVec 64
  rsp : BitVec 64
  rip : BitVec 64
  eFlags : BitVec 32
  deriving DecidableEq, Repr

/-- `vmx::guest_context`: what the handlers of one exit share. `vp_regs` points to the saved
frame; the model holds the frame itself and hands it back with the rest. -/
structure GuestContext where
  vpRegs : Context
  guestRip : BitVec 64
  guestRsp : BitVec 64
  guestEFlags : BitVec 64
  guestPhysicalAddress : BitVec 64
  exitReason : BitVec 16
  exitQualification : BitVec 64
  exitVm : Bool
  incrementRip : Bool
  deriving DecidableEq, Repr

/-! ## Page arithmetic

A 4 KiB page is `va >>> 12`, and the offset in it is `va &&& 0xFFF`; on values these are
division and remainder by 4096. -/

/-- Masking with `2 ^ k - 1` keeps the value's remainder by `2 ^ k`. -/
theorem toNat_and_lowMask {w k : Nat} (x y : BitVec w) (hy : y.toNat = 2 ^ k - 1) :
    (x &&& y).toNat = x.toNat % 2 ^ k := by
  rw [BitVec.toNat_and, hy, Nat.and_pow_two_sub_one_eq_mod]

theorem and_not_add_and {w : Nat} (x y : BitVec w) : (x &&& ~~~y) + (x &&& y) = x := by
  rw [BitVec.add_eq_or_of_and_eq_zero]
  · ext i; simp only [BitVec.getLsbD_or, BitVec.getLsbD_and, BitVec.getLsbD_not]
    cases x.getLsbD i <;> cases y.getLsbD i <;> simp
  · ext i; simp only [BitVec.getLsbD_and, BitVec.getLsbD_not, BitVec.getLsbD_zero]
    cases x.getLsbD i <;> cases y.getLsbD i <;> simp

/-- Masking with the complement of `2 ^ k - 1` rounds the value down to a multiple of `2 ^ k`. -/
theorem toNat_and_not_lowMask {w k : Nat} (x y : BitVec w) (hy : y.toNat = 2 ^ k - 1) :
    (x &&& ~~~y).toNat = x.toNat - x.toNat % 2 ^ k := by
  have h := congrArg BitVec.toNat (and_not_add_and x y)
  rw [BitVec.toNat_add, toNat_and_lowMask x y hy] at h
  have := Nat.mod_le x.toNat (2 ^ k)
  have := (x &&& ~~~y).isLt
  have := x.isLt
  rcases Nat.lt_or_ge ((x &&& ~~~y).toNat + x.toNat % 2 ^ k) (2 ^ w) with hl | hl
  · rw [Nat.mod_eq_of_lt hl] at h; omega
  · rw [Nat.mod_eq_sub_mod hl, Nat.mod_eq_of_lt (by omega)] at h; omega

theorem toNat_and_fff (x : BitVec 64) : (x &&& 0xFFF).toNat = x.toNat % 4096 :=
  toNat_and_lowMask x 0xFFF (show (0xFFF : BitVec 64).toNat = 2 ^ 12 - 1 from rfl)

theorem toNat_and_not_fff (x : BitVec 64) : (x &&& ~~~0xFFF).toNat = x.toNat - x.toNat % 4096 :=
  toNat_and_not_lowMask x 0xFFF (show (0xFFF : BitVec 64).toNat = 2 ^ 12 - 1 from rfl)

theorem toNat_ushiftRight_12 (x : BitVec 64) : (x >>> 12).toNat = x.toNat / 4096 := by
  rw [BitVec.toNat_ushiftRight, Nat.shiftRight_eq_div_pow]

/-! ## Guest memory -/

/-- Guest virtual memory as the exit path reaches it. -/
structure GuestMemory where
  /-- The physical page (a 52-bit page number) that a virtual page (`va >>> 12`) maps to in the
  address space of a CR3 -/
  frame : BitVec 64 → BitVec 64 → Option (BitVec 52)
  /-- Whether `read_physical_memory` can copy from a physical page (`pa >>> 12`) -/
  backed : BitVec 64 → Bool
  /-- Physical memory, byte by byte -/
  byte : BitVec 64 → BitVec 8
  frame_ne_zero : ∀ cr3 page, frame cr3 page ≠ some 0

namespace GuestMemory

variable (mem : GuestMemory) (cr3 : BitVec 64)

/-- The physical address of the first byte of a physical page. -/
def pageAddress (page : BitVec 52) : BitVec 64 := page.setWidth 64 <<< 12

/-- Modelled from the spec (`virt_to_phys`): `memory::get_physical_address` translates a virtual
address through the address space of the current CR3, and answers 0 when it is not mapped. -/
def getPhysicalAddress (va : BitVec 64) : BitVec 64 :=
  match mem.frame cr3 (va >>> 12) with
  | some page => pageAddress page + (va &&& 0xFFF)
  | none => 0

/-- Modelled from the spec (`read_physical(dst, paddr, len)` may fail if the PA is not backed):
`memory::read_physical_memory` copies `length` bytes from a physical address, and fails when a
page of the range is not backed. -/
def readPhysicalMemory (pa : BitVec 64) (length : Nat) : Option (Nat → BitVec 8) :=
  if (List.range length).all fun i => mem.backed ((pa + BitVec.ofNat 64 i) >>> 12) then
    some fun i => mem.byte (pa + BitVec.ofNat 64 i)
  else none

/-- The guest byte at a virtual address, when its page is mapped and backed. -/
def guestByte (va : BitVec 64) : Option (BitVec 8) :=
  match mem.frame cr3 (va >>> 12) with
  | some page =>
    if mem.backed (page.setWidth 64) then some (mem.byte (pageAddress page + (va &&& 0xFFF)))
    else none
  | none => none

/-- The `length` guest bytes from a virtual address on, when all of them are readable. -/
def guestBytes (va : BitVec 64) (length : Nat) : Option (List (BitVec 8)) :=
  if (List.range length).all fun i => (mem.guestByte cr3 (va + BitVec.ofNat 64 i)).isSome then
    some ((List.range length).map fun i => (mem.guestByte cr3 (va + BitVec.ofNat 64 i)).getD 0)
  else none

theorem toNat_pageAddress (p : BitVec 52) : (pageAddress p).toNat = p.toNat * 4096 := by
  have := p.isLt
  simp only [pageAddress, BitVec.toNat_shiftLeft, BitVec.toNat_setWidth, Nat.shiftLeft_eq]
  rw [Nat.mod_eq_of_lt (by omega : p.toNat < 2 ^ 64)]
  exact Nat.mod_eq_of_lt (by omega)

/-- A byte `j` past `x` in the same page. -/
theorem toNat_add_of_lt_page (x : BitVec 64) {j : Nat} (h : x.toNat % 4096 + j < 4096) :
    (x + BitVec.ofNat 64 j).toNat = x.toNat + j := by
  have := x.isLt
  have : x.toNat / 4096 < 2 ^ 52 := by omega
  rw [BitVec.toNat_add, BitVec.toNat_ofNat, Nat.mod_eq_of_lt (by omega : j < 2 ^ 64)]
  exact Nat.mod_eq_of_lt (by omega)

theorem getPhysicalAddress_eq_zero_iff (va : BitVec 64) :
    mem.getPhysicalAddress cr3 va = 0 ↔ mem.frame cr3 (va >>> 12) = none := by
  unfold getPhysicalAddress
  cases h : mem.frame cr3 (va >>> 12) with
  | none => simp
  | some p =>
    have hp : p.toNat ≠ 0 := by
      intro h0
      have : p = 0 := BitVec.toNat_eq.mpr (by simp [h0])
      exact mem.frame_ne_zero cr3 _ (this ▸ h)
    have := p.isLt
    refine iff_of_false (fun h0 => ?_) (by simp)
    rw [BitVec.toNat_eq, BitVec.toNat_add, toNat_pageAddress, toNat_and_fff] at h0
    simp only [BitVec.ofNat_eq_ofNat, BitVec.toNat_ofNat, Nat.zero_mod] at h0
    omega

/-- Reading `j` bytes past `va` stays in `va`'s page. -/
theorem guestByte_add (va : BitVec 64) {j : Nat} (h : va.toNat % 4096 + j < 4096) :
    mem.guestByte cr3 (va + BitVec.ofNat 64 j) =
      match mem.frame cr3 (va >>> 12) with
      | some p => if mem.backed (p.setWidth 64) then
          some (mem.byte (pageAddress p + (va &&& 0xFFF) + BitVec.ofNat 64 j)) else none
      | none => none := by
  have hj := toNat_add_of_lt_page va h
  have hpage : (va + BitVec.ofNat 64 j) >>> 12 = va >>> 12 := by
    apply BitVec.eq_of_toNat_eq
    rw [toNat_ushiftRight_12, toNat_ushiftRight_12, hj]
    omega
  have hoff : (va + BitVec.ofNat 64 j) &&& 0xFFF = (va &&& 0xFFF) + BitVec.ofNat 64 j := by
    apply BitVec.eq_of_toNat_eq
    rw [toNat_and_fff, hj, toNat_add_of_lt_page _ (by rw [toNat_and_fff]; omega), toNat_and_fff]
    omega
  simp only [guestByte, hpage, hoff, BitVec.add_assoc]

/-- A read that stays in one physical page succeeds exactly when the page is backed. -/
theorem readPhysicalMemory_page (pa : BitVec 64) (p : BitVec 52) {n : Nat}
    (hp : pa.toNat / 4096 = p.toNat) (hn : 0 < n) (hin : pa.toNat % 4096 + n ≤ 4096) :
    mem.readPhysicalMemory pa n =
      if mem.backed (p.setWidth 64) then some fun i => mem.byte (pa + BitVec.ofNat 64 i) else none := by
  have hpage : ∀ i < n, (pa + BitVec.ofNat 64 i) >>> 12 = p.setWidth 64 := by
    intro i hi
    apply BitVec.eq_of_toNat_eq
    rw [toNat_ushiftRight_12, toNat_add_of_lt_page _ (by omega), BitVec.toNat_setWidth,
      Nat.mod_eq_of_lt (by have := p.isLt; omega)]
    omega
  unfold readPhysicalMemory
  cases hb : mem.backed (p.setWidth 64)
  · rw [if_neg, if_neg Bool.false_ne_true]
    simp only [List.all_eq_true, List.mem_range, not_forall]
    exact ⟨0, hn, by rw [hpage 0 hn, hb]; decide⟩
  · rw [if_pos, if_pos rfl]
    simp only [List.all_eq_true, List.mem_range]
    intro i hi
    rw [hpage i hi, hb]

theorem toNat_getPhysicalAddress {va : BitVec 64} {p : BitVec 52} (h : mem.frame cr3 (va >>> 12) = some p) :
    (mem.getPhysicalAddress cr3 va).toNat = p.toNat * 4096 + va.toNat % 4096 := by
  have := p.isLt
  have := Nat.mod_lt va.toNat (show 4096 > 0 by omega)
  rw [getPhysicalAddress, h, BitVec.toNat_add, toNat_pageAddress, toNat_and_fff]
  exact Nat.mod_eq_of_lt (by omega)

end GuestMemory

/-! ## The machine -/

/-- The state of one logical processor as the exit path sees it. -/
structure Machine where
  vmcs : VmcsField → BitVec 64
  msr : Msr → BitVec 64
  /-- The hardware's answer to `CPUID` for a leaf and subleaf -/
  cpuid : BitVec 32 → BitVec 32 → CpuidResult
  /-- Extended control registers, as `_xsetbv` writes them -/
  xcr : BitVec 32 → BitVec 64
  cr0 : BitVec 64
  cr2 : BitVec 64
  cr3 : BitVec 64
  cr4 : BitVec 64
  /-- `PsGetCurrentProcess()->DirectoryTableBase` -/
  processCr3 : BitVec 64
  memory : GuestMemory

namespace Machine

variable (m : Machine)

/-- `__vmx_vmwrite` -/
def vmwrite (field : VmcsField) (value : BitVec 64) : Machine :=
  { m with vmcs := Function.update m.vmcs field value }

/-- `read_vmx` -/
def readVmx (field : VmcsField) : BitVec 64 := m.vmcs field

@[simp] theorem vmwrite_vmcs_same (f : VmcsField) (v : BitVec 64) : (m.vmwrite f v).vmcs f = v := by
  simp [vmwrite]

@[simp] theorem vmwrite_vmcs_ne {f g : VmcsField} (h : g ≠ f) (v : BitVec 64) :
    (m.vmwrite f v).vmcs g = m.vmcs g := by
  simp [vmwrite, Function.update_noteq h]

@[simp] theorem readVmx_eq (f : VmcsField) : m.readVmx f = m.vmcs f := rfl

@[simp] theorem vmwrite_msr (f v) : (m.vmwrite f v).msr = m.msr := rfl
@[simp] theorem vmwrite_cpuid (f v) : (m.vmwrite f v).cpuid = m.cpuid := rfl
@[simp] theorem vmwrite_xcr (f v) : (m.vmwrite f v).xcr = m.xcr := rfl
@[simp] theorem vmwrite_cr0 (f v) : (m.vmwrite f v).cr0 = m.cr0 := rfl
@[simp] theorem vmwrite_cr2 (f v) : (m.vmwrite f v).cr2 = m.cr2 := rfl
@[simp] theorem vmwrite_cr3 (f v) : (m.vmwrite f v).cr3 = m.cr3 := rfl
@[simp] theorem vmwrite_cr4 (f v) : (m.vmwrite f v).cr4 = m.cr4 := rfl
@[simp] theorem vmwrite_processCr3 (f v) : (m.vmwrite f v).processCr3 = m.processCr3 := rfl
@[simp] theorem vmwrite_memory (f v) : (m.vmwrite f v).memory = m.memory := rfl

end Machine

end HyperHook

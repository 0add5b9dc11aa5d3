import HyperHook.Launch.Gdt
import HyperHook.Vmx.Invariants
import HyperHook.Lifecycle

/-!
# Entering VMX operation and setting up the VMCS

`launch_hypervisor` runs on each processor: `initialize_msrs` reads the seventeen VMX capability
MSRs from `IA32_VMX_BASIC` on into `msr_data`; `enter_root_mode_on_cpu` checks `IA32_VMX_BASIC`,
picks the EPT controls, forces CR0 and CR4 to the fixed bits of VMX operation and executes VMXON,
VMCLEAR and VMPTRLD; `setup_vmcs_for_cpu` fills the VMCS, and `launch_vmx` executes VMLAUNCH.

`setup_vmcs_for_cpu` is the list of its `__vmx_vmwrite`s in the source's order, over the fields
it names (`LaunchField`), and the VMCS it leaves is the list applied to the one VMCLEAR left
(`vmwrites`). The layouts of the capability MSRs and of the control words are those of `ia32.hpp`,
which is not in the sources; they are modelled from the Intel manual, as are the VM-entry checks
(`LaunchChecks`).

**Theorem (`enter_root_mode_on_cpu_refines_enable_core`).** `Lifecycle` abstracts the steps of
`enable_core` to a few answers of the hardware (`CoreHardware`). `enter_root_mode_on_cpu` refines
that abstraction: read off the launch context, the answers make `try_enable_core` fail with the
core that `enter_root_mode_on_cpu` leaves when it throws, and go on from the core it leaves in
root operation when it returns.

**Theorem (`setup_vmcs_passes_entry_checks`).** With capability MSRs that are consistent, as the
manual promises, and captured selectors that point into the GDT, the VMCS passes VM entry's checks
on the five control fields, on the guest and host CR0 and CR4, on the host selectors' privilege
levels and table indicators and on the link pointer, and has the 64-bit guest and host bits set.
`adjust_msr` does the controls, `fix_control_register`'s `(cr & FIXED1) | FIXED0` the control
registers, and `& ~3` the privilege levels; the table indicator is left as captured, since
`& ~3` does not clear it.

**Theorem (`controls_stay_valid_after_launch`).** From the machine that VMLAUNCH starts, along
every run of exits and guest execution, the VM-entry and VM-exit controls stay valid: the launch
establishes `ControlsValid`, and the exit path keeps it.
-/

namespace HyperHook

/-! ## The capability MSRs -/

/-- `IA32_VMX_BASIC`. -/
def ia32VmxBasic : BitVec 32 := 0x480

/-- `initialize_msrs(launch_context)`: `msr_data[i]` is `__readmsr(IA32_VMX_BASIC + i)`. By the
Intel manual, `msr_data[6..9]` are the CR0 and CR4 fixed bits, `msr_data[11]` the secondary
processor-based controls, `msr_data[12]` the EPT and VPID capabilities and `msr_data[13..16]` the
TRUE pin-based, processor-based, exit and entry controls. -/
def initializeMsrs (readMsr : BitVec 32 → BitVec 64) : Fin 17 → BitVec 64 :=
  fun i => readMsr (ia32VmxBasic + BitVec.ofNat 32 i)

/-- The address of each MSR the exit path reads (`IA32_*` of `ia32.hpp`, from the Intel manual). -/
def Msr.address : Msr → BitVec 32
  | .star => 0xC0000081
  | .lstar => 0xC0000082
  | .fmask => 0xC0000084
  | .efer => 0xC0000080
  | .vmxBasic => 0x480
  | .vmxEntryCtls => 0x484
  | .vmxExitCtls => 0x483
  | .vmxTrueEntryCtls => 0x490
  | .vmxTrueExitCtls => 0x48F

/-- The fields of `ia32_vmx_basic_register` that `enter_root_mode_on_cpu` checks. -/
structure VmxBasic where
  mustBeZero : Bool
  vmcsSizeInBytes : BitVec 13
  memoryType : BitVec 4

/-- The bitfields of `IA32_VMX_BASIC`: bit 31, bits 44:32 and bits 53:50. -/
def VmxBasic.ofFlags (flags : BitVec 64) : VmxBasic :=
  ⟨flags.getLsbD 31, flags.extractLsb' 32 13, flags.extractLsb' 50 4⟩

/-- `PAGE_SIZE` -/
def pageSize : Nat := 4096

/-- `MEMORY_TYPE_WRITE_BACK` -/
def memoryTypeWriteBack : BitVec 4 := 6

/-- The three checks of `IA32_VMX_BASIC` that `enter_root_mode_on_cpu` makes, in its order, with
the message each failure throws. -/
def vmxBasicError (flags : BitVec 64) : Option String :=
  let basicRegister := VmxBasic.ofFlags flags
  if basicRegister.vmcsSizeInBytes.toNat > pageSize then some "VMCS exceeds page size"
  else if basicRegister.memoryType ≠ memoryTypeWriteBack then some "VMCS memory type must be write-back"
  else if basicRegister.mustBeZero then some "Must-be-zero bit is not zero :O"
  else none

/-- `ia32_vmx_ept_vpid_cap_register`: `page_walk_length_4` (bit 6), `memory_type_write_back`
(bit 14) and `pde_2mb_pages` (bit 16) all set. -/
def eptUsable (eptVpidCap : BitVec 64) : Bool :=
  eptVpidCap.getLsbD 6 && eptVpidCap.getLsbD 14 && eptVpidCap.getLsbD 16

/-! ## Control words -/

/-- `enable_ept`, bit 1 of the secondary processor-based controls. -/
def enableEpt : BitVec 64 := 1 <<< 1
/-- `enable_rdtscp`, bit 3. -/
def enableRdtscp : BitVec 64 := 1 <<< 3
/-- `enable_vpid`, bit 5. -/
def enableVpid : BitVec 64 := 1 <<< 5
/-- `enable_invpcid`, bit 12. -/
def enableInvpcid : BitVec 64 := 1 <<< 12
/-- `enable_xsaves`, bit 20. -/
def enableXsaves : BitVec 64 := 1 <<< 20
/-- `use_msr_bitmaps`, bit 28 of the primary processor-based controls. -/
def useMsrBitmaps : BitVec 64 := 1 <<< 28
/-- `activate_secondary_controls`, bit 31. -/
def activateSecondaryControls : BitVec 64 := 1 <<< 31
/-- `host_address_space_size`, bit 9 of the VM-exit controls. -/
def hostAddressSpaceSize : BitVec 64 := 1 <<< 9
/-- `ia32e_mode_guest`, bit 9 of the VM-entry controls. -/
def ia32eModeGuest : BitVec 64 := 1 <<< 9

/-! ## The launch context -/

/-- `segment_descriptor_register_64`: the GDTR or the IDTR. -/
structure DescriptorTableRegister where
  limit : BitVec 16
  baseAddress : BitVec 64
  deriving DecidableEq, Repr

/-- `vmx::special_registers` -/
structure SpecialRegisters where
  cr0 : BitVec 64
  cr3 : BitVec 64
  cr4 : BitVec 64
  msrGsBase : BitVec 64
  tr : BitVec 16
  ldtr : BitVec 16
  debugControl : BitVec 64
  kernelDr7 : BitVec 64
  idtr : DescriptorTableRegister
  gdtr : DescriptorTableRegister
  deriving DecidableEq, Repr

/-- The fields of the captured `CONTEXT` that `setup_vmcs_for_cpu` reads. -/
structure ContextFrame where
  segCs : BitVec 16
  segDs : BitVec 16
  segEs : BitVec 16
  segFs : BitVec 16
  segGs : BitVec 16
  segSs : BitVec 16
  eFlags : BitVec 32
  deriving DecidableEq, Repr

/-- `vmx::launch_context` -/
structure LaunchContext where
  specialRegisters : SpecialRegisters
  contextFrame : ContextFrame
  systemDirectoryTableBase : BitVec 64
  msrData : Fin 17 → BitVec 64
  vmxOnPhysicalAddress : BitVec 64
  vmcsPhysicalAddress : BitVec 64
  msrBitmapPhysicalAddress : BitVec 64
  eptControls : BitVec 64

/-- `vmx::state` and what the launch reads around it: the physical addresses of the VMXON region,
the VMCS and the MSR bitmap (`memory::get_physical_address`), the EPT pointer
(`ept::get_ept_pointer`, whose body is not in the sources), the host stack, the `vm_launch` and
`vm_exit` stubs, and the GDT's descriptors by linear address. -/
structure VmState where
  launchContext : LaunchContext
  vmxOnPhysicalAddress : BitVec 64
  vmcsPhysicalAddress : BitVec 64
  msrBitmapPhysicalAddress : BitVec 64
  eptPointer : BitVec 64
  stackBuffer : BitVec 64
  vmLaunch : BitVec 64
  vmExit : BitVec 64
  descriptorAt : BitVec 64 → SegmentDescriptor

/-! ## Entering root mode -/

/-- Whether VMXON, VMCLEAR and VMPTRLD succeed outside VMX operation. -/
structure VmxInstructions where
  vmxonSucceeds : Bool
  vmclearSucceeds : Bool
  vmptrldSucceeds : Bool
  deriving DecidableEq, Repr

/-- The launch context once `enter_root_mode_on_cpu`'s checks have passed: the EPT controls when
the processor has what EPT needs, the physical addresses of the regions, and CR0 and CR4 with the
fixed bits forced (`&= msr_data[7].LowPart`, `|= msr_data[6].LowPart`, and 9, 8 for CR4). -/
def VmState.rootModeLaunchContext (vm : VmState) : LaunchContext :=
  let lc := vm.launchContext
  let lc := if eptUsable (lc.msrData 12) then { lc with eptControls := enableEpt ||| enableVpid } else lc
  let lc := { lc with vmxOnPhysicalAddress := vm.vmxOnPhysicalAddress
                      vmcsPhysicalAddress := vm.vmcsPhysicalAddress
                      msrBitmapPhysicalAddress := vm.msrBitmapPhysicalAddress }
  let registers := lc.specialRegisters
  { lc with specialRegisters := { registers with
      cr0 := fixControlRegister registers.cr0 ((lc.msrData 6).setWidth 32) ((lc.msrData 7).setWidth 32)
      cr4 := fixControlRegister registers.cr4 ((lc.msrData 8).setWidth 32) ((lc.msrData 9).setWidth 32) } }

/-- `__vmx_on`, `__vmx_vmclear` and `__vmx_vmptrld`, with the `finally` guard that runs
`__vmx_off` when one of the last two fails: the message of the failure, if any, and the core's
mode afterwards. VMXON inside VMX operation fails, as `try_enable_core` models it. -/
def vmxEnter (hw : VmxInstructions) (mode : CoreMode) : Option String × CoreMode :=
  if mode ≠ .off ∨ hw.vmxonSucceeds = false then (some "Failed to execute vmx_on", mode)
  else if hw.vmclearSucceeds = false then (some "Failed to clear vmcs", .off)
  else if hw.vmptrldSucceeds = false then (some "Failed to load vmcs", .off)
  else (none, .root)

/-- `enter_root_mode_on_cpu(vm_state)`: the `std::runtime_error` it throws or the state it
returns, and the core afterwards, with CR0 and CR4 written. The revision identifiers written into
the VMXON region and the VMCS are left out. -/
def enterRootModeOnCpu (hw : VmxInstructions) (vm : VmState) (c : Core) : Except String VmState × Core :=
  match vmxBasicError (vm.launchContext.msrData 0) with
  | some message => (.error message, c)
  | none =>
    let vm := { vm with launchContext := vm.rootModeLaunchContext }
    let registers := vm.launchContext.specialRegisters
    let c : Core := { c with machine := { c.machine with cr0 := registers.cr0, cr4 := registers.cr4 } }
    match vmxEnter hw c.mode with
    | (some message, mode) => (.error message, { c with mode := mode })
    | (none, mode) => (.ok vm, { c with mode := mode })

/-! ## The VMCS -/

/-- The segment registers whose host selectors `setup_vmcs_for_cpu` writes. -/
inductive LaunchSegment
  | cs
  | ss
  | ds
  | es
  | fs
  | gs
  | tr
  deriving DecidableEq, Repr

/-- The parts of a guest segment register in the VMCS. -/
inductive SegmentPart
  | selector
  | limit
  | accessRights
  | base
  deriving DecidableEq, Repr

/-- The control fields that `setup_vmcs_for_cpu` writes (`VMCS_CTRL_*` of `ia32.hpp`). -/
inductive ControlField
  | eptPointer
  | virtualProcessorIdentifier
  | msrBitmapAddress
  | secondaryProcessorBasedVmExecutionControls
  | pinBasedVmExecutionControls
  | processorBasedVmExecutionControls
  | primaryVmexitControls
  | vmentryControls
  | cr0ReadShadow
  | cr4ReadShadow
  deriving DecidableEq, Repr

/-- The guest-state fields that `setup_vmcs_for_cpu` writes (`VMCS_GUEST_*`). -/
inductive GuestField
  | vmcsLinkPointer
  | segment (segment : LaunchSegment) (part : SegmentPart)
  | ldtr (part : SegmentPart)
  | gdtrBase
  | gdtrLimit
  | idtrBase
  | idtrLimit
  | cr0
  | cr3
  | cr4
  | debugctl
  | dr7
  | rsp
  | rip
  | rflags
  deriving DecidableEq, Repr

/-- The host-state fields that `setup_vmcs_for_cpu` writes (`VMCS_HOST_*`). -/
inductive HostField
  | selector (segment : LaunchSegment)
  | fsBase
  | gsBase
  | trBase
  | gdtrBase
  | idtrBase
  | cr0
  | cr3
  | cr4
  | rsp
  | rip
  deriving DecidableEq, Repr

/-- The VMCS fields that `setup_vmcs_for_cpu` writes. -/
inductive LaunchField
  | ctrl (field : ControlField)
  | guest (field : GuestField)
  | host (field : HostField)
  deriving DecidableEq, Repr

/-- The VMCS after a sequence of `__vmx_vmwrite`s. -/
def vmwrites (vmcs : LaunchField → BitVec 64) (writes : List (LaunchField × BitVec 64)) : LaunchField → BitVec 64 :=
  writes.foldl (fun vmcs write => Function.update vmcs write.1 write.2) vmcs

/-- The four writes that load a guest segment register, in the source's order. -/
def guestSegmentWrites (field : SegmentPart → LaunchField) (entry : GdtEntry) : List (LaunchField × BitVec 64) :=
  [(field .selector, entry.selector.setWidth 64), (field .limit, entry.limit.setWidth 64),
    (field .accessRights, entry.accessRights.setWidth 64), (field .base, entry.base)]

/-- A host selector: `selector & ~SEGMENT_ACCESS_RIGHTS_DESCRIPTOR_PRIVILEGE_LEVEL_MASK`. -/
def hostSelectorValue (selector : BitVec 16) : BitVec 64 :=
  selector.setWidth 64 &&& ~~~segmentAccessRightsDescriptorPrivilegeLevelMask

/-- The captured selector each host selector field is written from: CS, SS, DS, ES, FS and GS of
the context frame, and TR. -/
def LaunchContext.hostSelectorSource (lc : LaunchContext) : LaunchSegment → BitVec 16
  | .cs => lc.contextFrame.segCs
  | .ss => lc.contextFrame.segSs
  | .ds => lc.contextFrame.segDs
  | .es => lc.contextFrame.segEs
  | .fs => lc.contextFrame.segFs
  | .gs => lc.contextFrame.segGs
  | .tr => lc.specialRegisters.tr

/-- Modelled from the Intel manual (`LSL`): `__segmentlimit` on the processor, whose GDT is the
one the launch context captured. -/
def VmState.segmentLimit (vm : VmState) (selector : BitVec 16) : BitVec 32 :=
  (vm.descriptorAt (vm.launchContext.specialRegisters.gdtr.baseAddress +
    (SegmentSelector.index selector).setWidth 64 * 8)).limit

/-- `convert_gdt_entry(state->gdtr.base_address, selector)` on the processor of the launch. -/
def VmState.convert (vm : VmState) (selector : BitVec 16) : GdtEntry :=
  convertGdtEntry vm.descriptorAt vm.segmentLimit vm.launchContext.specialRegisters.gdtr.baseAddress selector

/-- `KERNEL_STACK_SIZE - sizeof(CONTEXT)` of the x64 WDK headers (0x6000 and 0x4D0 bytes), which
are not in the sources. -/
def stackFrameOffset : BitVec 64 := 0x6000 - 0x4D0

/-- The writes of the control fields, from the MSR bitmap's address to the VM-entry controls. -/
def controlWrites (lc : LaunchContext) : List (LaunchField × BitVec 64) :=
  let eptControls := lc.eptControls ||| enableRdtscp ||| enableInvpcid ||| enableXsaves
  [(.ctrl .msrBitmapAddress, lc.msrBitmapPhysicalAddress),
    (.ctrl .secondaryProcessorBasedVmExecutionControls, (Machine.adjustMsr (lc.msrData 11) eptControls).setWidth 64),
    (.ctrl .pinBasedVmExecutionControls, (Machine.adjustMsr (lc.msrData 13) 0).setWidth 64),
    (.ctrl .processorBasedVmExecutionControls,
      (Machine.adjustMsr (lc.msrData 14) (activateSecondaryControls ||| useMsrBitmaps)).setWidth 64),
    (.ctrl .primaryVmexitControls, (Machine.adjustMsr (lc.msrData 15) hostAddressSpaceSize).setWidth 64),
    (.ctrl .vmentryControls, (Machine.adjustMsr (lc.msrData 16) ia32eModeGuest).setWidth 64)]

/-- The writes of the segment registers: guest CS, SS, DS, ES, FS, GS, TR and LDTR from the GDT
(GS's base from `IA32_GS_BASE`), the host selectors, and the host FS, GS and TR bases. -/
def segmentWrites (vm : VmState) : List (LaunchField × BitVec 64) :=
  let state := vm.launchContext.specialRegisters
  let context := vm.launchContext.contextFrame
  let fs := vm.convert context.segFs
  let tr := vm.convert state.tr
  guestSegmentWrites (fun part => .guest (.segment .cs part)) (vm.convert context.segCs) ++
    [(.host (.selector .cs), hostSelectorValue context.segCs)] ++
  guestSegmentWrites (fun part => .guest (.segment .ss part)) (vm.convert context.segSs) ++
    [(.host (.selector .ss), hostSelectorValue context.segSs)] ++
  guestSegmentWrites (fun part => .guest (.segment .ds part)) (vm.convert context.segDs) ++
    [(.host (.selector .ds), hostSelectorValue context.segDs)] ++
  guestSegmentWrites (fun part => .guest (.segment .es part)) (vm.convert context.segEs) ++
    [(.host (.selector .es), hostSelectorValue context.segEs)] ++
  guestSegmentWrites (fun part => .guest (.segment .fs part)) fs ++
    [(.host .fsBase, fs.base), (.host (.selector .fs), hostSelectorValue context.segFs)] ++
  guestSegmentWrites (fun part => .guest (.segment .gs part)) { vm.convert context.segGs with base := state.msrGsBase } ++
    [(.host .gsBase, state.msrGsBase), (.host (.selector .gs), hostSelectorValue context.segGs)] ++
  guestSegmentWrites (fun part => .guest (.segment .tr part)) tr ++
    [(.host .trBase, tr.base), (.host (.selector .tr), hostSelectorValue state.tr)] ++
  guestSegmentWrites (fun part => .guest (.ldtr part)) (vm.convert state.ldtr)

/-- The writes of the descriptor tables, the control and debug registers, and the stacks and entry
points of guest and host. -/
def registerWrites (vm : VmState) : List (LaunchField × BitVec 64) :=
  let state := vm.launchContext.specialRegisters
  let stackPointer := vm.stackBuffer + stackFrameOffset
  [(.guest .gdtrBase, state.gdtr.baseAddress), (.guest .gdtrLimit, state.gdtr.limit.setWidth 64),
    (.host .gdtrBase, state.gdtr.baseAddress),
    (.guest .idtrBase, state.idtr.baseAddress), (.guest .idtrLimit, state.idtr.limit.setWidth 64),
    (.host .idtrBase, state.idtr.baseAddress),
    (.ctrl .cr0ReadShadow, state.cr0), (.host .cr0, state.cr0), (.guest .cr0, state.cr0),
    (.host .cr3, vm.launchContext.systemDirectoryTableBase), (.guest .cr3, state.cr3),
    (.host .cr4, state.cr4), (.guest .cr4, state.cr4), (.ctrl .cr4ReadShadow, state.cr4),
    (.guest .debugctl, state.debugControl), (.guest .dr7, state.kernelDr7),
    (.guest .rsp, stackPointer), (.guest .rip, vm.vmLaunch),
    (.guest .rflags, vm.launchContext.contextFrame.eFlags.setWidth 64),
    (.host .rsp, stackPointer), (.host .rip, vm.vmExit)]

/-- `setup_vmcs_for_cpu(vm_state)`: its `__vmx_vmwrite`s, in order. -/
def setupVmcsForCpu (vm : VmState) : List (LaunchField × BitVec 64) :=
  [(.guest .vmcsLinkPointer, ~~~0)] ++
    (if vm.launchContext.eptControls ≠ 0 then
      [(.ctrl .eptPointer, vm.eptPointer), (.ctrl .virtualProcessorIdentifier, 1)] else []) ++
    controlWrites vm.launchContext ++ segmentWrites vm ++ registerWrites vm

/-! ## Entering root mode, against `enable_core`'s abstraction -/

namespace VmState

variable (vm : VmState)

@[simp] theorem rootModeLaunchContext_hostSelectorSource :
    vm.rootModeLaunchContext.hostSelectorSource = vm.launchContext.hostSelectorSource := by
  funext s
  unfold rootModeLaunchContext; dsimp only; split <;> cases s <;> rfl

@[simp] theorem rootModeLaunchContext_msrData : vm.rootModeLaunchContext.msrData = vm.launchContext.msrData := by
  unfold rootModeLaunchContext; dsimp only; split <;> rfl

@[simp] theorem rootModeLaunchContext_cr0 :
    vm.rootModeLaunchContext.specialRegisters.cr0 = fixControlRegister vm.launchContext.specialRegisters.cr0
      ((vm.launchContext.msrData 6).setWidth 32) ((vm.launchContext.msrData 7).setWidth 32) := by
  unfold rootModeLaunchContext; dsimp only; split <;> rfl

@[simp] theorem rootModeLaunchContext_cr4 :
    vm.rootModeLaunchContext.specialRegisters.cr4 = fixControlRegister vm.launchContext.specialRegisters.cr4
      ((vm.launchContext.msrData 8).setWidth 32) ((vm.launchContext.msrData 9).setWidth 32) := by
  unfold rootModeLaunchContext; dsimp only; split <;> rfl

/-- The answers of the hardware that `try_enable_core` takes, read off the launch context:
`IA32_VMX_BASIC` passes the checks, the fixed bits are the low halves of `msr_data[6..9]`, and the
VMCS loads when VMCLEAR and VMPTRLD succeed. -/
def coreHardware (hw : VmxInstructions) (vmxUsable launchSucceeds : Bool) : CoreHardware where
  vmxUsable := vmxUsable
  vmxBasicValid := (vmxBasicError (vm.launchContext.msrData 0)).isNone
  cr0Fixed0 := (vm.launchContext.msrData 6).setWidth 32
  cr0Fixed1 := (vm.launchContext.msrData 7).setWidth 32
  cr4Fixed0 := (vm.launchContext.msrData 8).setWidth 32
  cr4Fixed1 := (vm.launchContext.msrData 9).setWidth 32
  vmxonSucceeds := hw.vmxonSucceeds
  vmcsLoads := hw.vmclearSucceeds && hw.vmptrldSucceeds
  launchSucceeds := launchSucceeds

end VmState

theorem enterRootModeOnCpu_ok {hw : VmxInstructions} {vm vm' : VmState} {c : Core}
    (h : (enterRootModeOnCpu hw vm c).1 = .ok vm') : vm'.launchContext = vm.rootModeLaunchContext := by
  unfold enterRootModeOnCpu at h
  split at h
  · cases h
  · dsimp only at h
    split at h
    · cases h
    · cases h; rfl

/-- `enter_root_mode_on_cpu` returns when `IA32_VMX_BASIC` passes its checks and VMXON, VMCLEAR and
VMPTRLD succeed from outside VMX operation. -/
theorem enterRootModeOnCpu_returns {vm : VmState} {c : Core} (hb : vmxBasicError (vm.launchContext.msrData 0) = none)
    (hm : c.mode = .off) {hw : VmxInstructions} (h₁ : hw.vmxonSucceeds = true) (h₂ : hw.vmclearSucceeds = true)
    (h₃ : hw.vmptrldSucceeds = true) :
    (enterRootModeOnCpu hw vm c).1 = .ok { vm with launchContext := vm.rootModeLaunchContext } := by
  unfold enterRootModeOnCpu
  rw [hb]
  simp [vmxEnter, hm, h₁, h₂, h₃]

/-- `enter_root_mode_on_cpu` refines `try_enable_core` from a core whose registers the launch
context captured: when it throws, `try_enable_core` fails with the same core; when it returns,
the core was outside VMX operation and is now in root operation with the fixed CR0 and CR4. -/
theorem enter_root_mode_on_cpu_refines_enable_core {vm : VmState} {c : Core}
    (hcr : vm.launchContext.specialRegisters.cr0 = c.machine.cr0 ∧ vm.launchContext.specialRegisters.cr4 = c.machine.cr4)
    (hw : VmxInstructions) (launchSucceeds : Bool) :
    match enterRootModeOnCpu hw vm c with
    | (.error _, c') => tryEnableCore (vm.coreHardware hw true launchSucceeds) c = (false, c')
    | (.ok _, c') => c.mode = .off ∧ c' = { c.fixControlRegisters (vm.coreHardware hw true launchSucceeds) with mode := .root } := by
  unfold enterRootModeOnCpu
  rcases hb : vmxBasicError (vm.launchContext.msrData 0) with _ | message
  · simp only [tryEnableCore, VmState.coreHardware, hb, Option.isNone_none, Bool.not_true, Bool.false_eq_true,
      if_false, fixControlRegisters_mode, Core.fixControlRegisters, VmState.rootModeLaunchContext_cr0,
      VmState.rootModeLaunchContext_cr4, hcr.1, hcr.2]
    cases hm : c.mode <;> cases h1 : hw.vmxonSucceeds <;> cases h2 : hw.vmclearSucceeds <;>
      cases h3 : hw.vmptrldSucceeds <;> simp [vmxEnter, hm, h1, h2, h3]
  · simp [tryEnableCore, VmState.coreHardware, hb]

/-- A processor whose VMCLEAR fails: `enter_root_mode_on_cpu` throws after VMXON and `__vmx_off`,
and `try_enable_core` fails with the same core, outside VMX operation with CR0 and CR4 fixed. -/
theorem enter_root_mode_on_cpu_vmclear_failure :
    let readMsr : BitVec 32 → BitVec 64 := fun a =>
      if a = 0x480 then 0x0098040000000001
      else if a = 0x486 then 0x80000021 else if a = 0x487 then 0xFFFFFFFF
      else if a = 0x488 then 0x2000 else if a = 0x489 then 0x3FFFFF
      else if a = 0x48B ∨ 0x48D ≤ a ∧ a ≤ 0x490 then 0xFFFFFFFF00000000 else 0
    let mem : GuestMemory := ⟨fun _ _ => none, fun _ => true, fun _ => 0, fun _ _ => Option.noConfusion⟩
    let m : Machine := ⟨fun _ => 0, fun r => readMsr r.address, fun _ _ => ⟨0, 0, 0, 0⟩, fun _ => 0, 0, 0, 0, 0, 0, mem⟩
    let lc : LaunchContext :=
      ⟨⟨0, 0, 0, 0, 0, 0, 0, 0, ⟨0, 0⟩, ⟨0, 0⟩⟩, ⟨0, 0, 0, 0, 0, 0, 0⟩, 0, initializeMsrs readMsr, 0, 0, 0, 0⟩
    let vm : VmState := ⟨lc, 0, 0, 0, 0, 0, 0, 0, fun _ => ⟨0, 0⟩⟩
    let c : Core := ⟨.off, m⟩
    (vm.launchContext.specialRegisters.cr0 = c.machine.cr0 ∧ vm.launchContext.specialRegisters.cr4 = c.machine.cr4) ∧
      match enterRootModeOnCpu ⟨true, false, true⟩ vm c with
      | (.error _, c') => tryEnableCore (vm.coreHardware ⟨true, false, true⟩ true true) c = (false, c')
      | (.ok _, c') => c.mode = .off ∧
          c' = { c.fixControlRegisters (vm.coreHardware ⟨true, false, true⟩ true true) with mode := .root } := by
  intro _ _ m _ vm c
  exact ⟨⟨rfl, rfl⟩, @enter_root_mode_on_cpu_refines_enable_core vm c ⟨rfl, rfl⟩ _ true⟩

/-! ## The VMCS that `setup_vmcs_for_cpu` leaves -/

section Vmwrites

variable (vmcs : LaunchField → BitVec 64)

theorem vmwrites_append (l₁ l₂ : List (LaunchField × BitVec 64)) :
    vmwrites vmcs (l₁ ++ l₂) = vmwrites (vmwrites vmcs l₁) l₂ :=
  List.foldl_append _ _ _ _

/-- A field that no write names keeps its value. -/
theorem vmwrites_of_not_mem {f : LaunchField} {l : List (LaunchField × BitVec 64)} (h : f ∉ l.map Prod.fst) :
    vmwrites vmcs l f = vmcs f := by
  induction l generalizing vmcs with
  | nil => rfl
  | cons w l ih =>
    simp only [List.map_cons, List.mem_cons, not_or] at h
    rw [vmwrites, List.foldl_cons, ← vmwrites, ih _ h.2, Function.update_noteq h.1]

theorem vmwrites_append_of_not_mem {f : LaunchField} {l₁ l₂ : List (LaunchField × BitVec 64)}
    (h : f ∉ l₂.map Prod.fst) : vmwrites vmcs (l₁ ++ l₂) f = vmwrites vmcs l₁ f := by
  rw [vmwrites_append, vmwrites_of_not_mem _ h]

end Vmwrites

section Setup

variable (vm : VmState) (vmcs : LaunchField → BitVec 64)

/-- A control field that the segment and register blocks do not write keeps the control block's
value. -/
theorem setupVmcsForCpu_ctrl {f : ControlField} (hf : f ≠ .cr0ReadShadow ∧ f ≠ .cr4ReadShadow) :
    ∃ vmcs', vmwrites vmcs (setupVmcsForCpu vm) (.ctrl f) = vmwrites vmcs' (controlWrites vm.launchContext) (.ctrl f) := by
  have hr : LaunchField.ctrl f ∉ (registerWrites vm).map Prod.fst := by simp [registerWrites, hf.1, hf.2]
  have hs : LaunchField.ctrl f ∉ (segmentWrites vm).map Prod.fst := by simp [segmentWrites, guestSegmentWrites]
  rw [setupVmcsForCpu, vmwrites_append_of_not_mem _ hr, vmwrites_append_of_not_mem _ hs, vmwrites_append]
  exact ⟨_, rfl⟩

/-- What the control block writes in the controls. -/
theorem controlWrites_apply (lc : LaunchContext) :
    let v := vmwrites vmcs (controlWrites lc)
    v (.ctrl .pinBasedVmExecutionControls) = (Machine.adjustMsr (lc.msrData 13) 0).setWidth 64 ∧
      v (.ctrl .processorBasedVmExecutionControls) =
        (Machine.adjustMsr (lc.msrData 14) (activateSecondaryControls ||| useMsrBitmaps)).setWidth 64 ∧
      v (.ctrl .secondaryProcessorBasedVmExecutionControls) =
        (Machine.adjustMsr (lc.msrData 11) (lc.eptControls ||| enableRdtscp ||| enableInvpcid ||| enableXsaves)).setWidth 64 ∧
      v (.ctrl .primaryVmexitControls) = (Machine.adjustMsr (lc.msrData 15) hostAddressSpaceSize).setWidth 64 ∧
      v (.ctrl .vmentryControls) = (Machine.adjustMsr (lc.msrData 16) ia32eModeGuest).setWidth 64 := by
  simp only [vmwrites, controlWrites, List.foldl_cons, List.foldl_nil, Function.update_apply, reduceCtorEq,
    LaunchField.ctrl.injEq, if_true, if_false, and_self]

/-- A host selector has its privilege-level bits clear, and its table-indicator bit when the
captured selector had it clear: the mask clears only the two privilege-level bits. -/
theorem hostSelectorValue_and_seven {selector : BitVec 16} (h : selector &&& 4 = 0) :
    hostSelectorValue selector &&& 7 = 0 := by
  have h2 : selector.getLsbD 2 = false := by simpa using congrArg (BitVec.getLsbD · 2) h
  rw [hostSelectorValue, segmentAccessRightsDescriptorPrivilegeLevelMask]
  apply BitVec.eq_of_getLsbD_eq
  intro ⟨i, hi⟩
  rcases i with _ | _ | _ | i
  all_goals simp [h2]
  intro _ _ _
  exact Nat.testBit_lt_two_pow (Nat.lt_of_lt_of_le (by decide : 7 < 2 ^ 3) (Nat.pow_le_pow_right (by decide) (by omega)))

theorem setupVmcsForCpu_hostSelector (s : LaunchSegment) :
    vmwrites vmcs (setupVmcsForCpu vm) (.host (.selector s)) = hostSelectorValue (vm.launchContext.hostSelectorSource s) := by
  have hr : LaunchField.host (.selector s) ∉ (registerWrites vm).map Prod.fst := by simp [registerWrites]
  rw [setupVmcsForCpu, vmwrites_append_of_not_mem _ hr, vmwrites_append]
  cases s <;> simp only [vmwrites, segmentWrites, guestSegmentWrites, List.foldl_append, List.foldl_cons,
    List.foldl_nil, Function.update_apply, reduceCtorEq, LaunchField.host.injEq, HostField.selector.injEq, if_true,
    if_false] <;> rfl

theorem setupVmcsForCpu_linkPointer : vmwrites vmcs (setupVmcsForCpu vm) (.guest .vmcsLinkPointer) = ~~~0 := by
  have hx : LaunchField.guest .vmcsLinkPointer ∉ (if vm.launchContext.eptControls ≠ 0 then
      [(LaunchField.ctrl .eptPointer, vm.eptPointer), (.ctrl .virtualProcessorIdentifier, 1)] else []).map Prod.fst := by
    split <;> simp
  have hc : LaunchField.guest .vmcsLinkPointer ∉ (controlWrites vm.launchContext).map Prod.fst := by simp [controlWrites]
  have hs : LaunchField.guest .vmcsLinkPointer ∉ (segmentWrites vm).map Prod.fst := by
    simp [segmentWrites, guestSegmentWrites]
  have hr : LaunchField.guest .vmcsLinkPointer ∉ (registerWrites vm).map Prod.fst := by simp [registerWrites]
  rw [setupVmcsForCpu, vmwrites_append_of_not_mem _ hr, vmwrites_append_of_not_mem _ hs,
    vmwrites_append_of_not_mem _ hc, vmwrites_append_of_not_mem _ hx]
  rfl

theorem setupVmcsForCpu_registers :
    let v := vmwrites vmcs (setupVmcsForCpu vm)
    let state := vm.launchContext.specialRegisters
    v (.guest .cr0) = state.cr0 ∧ v (.host .cr0) = state.cr0 ∧ v (.guest .cr4) = state.cr4 ∧ v (.host .cr4) = state.cr4 := by
  simp only [setupVmcsForCpu, vmwrites_append _ _ (registerWrites vm)]
  simp only [vmwrites, registerWrites, List.foldl_cons, List.foldl_nil, Function.update_apply, reduceCtorEq,
    LaunchField.guest.injEq, LaunchField.host.injEq, if_true, if_false, and_self]

end Setup

/-! ## VM entry's checks -/

/-- `fix_control_register`'s `(cr & FIXED1.LowPart) | FIXED0.LowPart` gives a value that fits
the fixed bits, when FIXED0 allows only bits of FIXED1 and none above bit 31. -/
theorem fitsMasks_fixControlRegister {fixed0 fixed1 : BitVec 64} (h : fixed0 &&& ~~~fixed1 = 0)
    (h0 : fixed0.toNat < 2 ^ 32) (value : BitVec 64) :
    FitsMasks fixed0 fixed1 (fixControlRegister value (fixed0.setWidth 32) (fixed1.setWidth 32)) := by
  have high (i : Nat) (hi : 32 ≤ i) : fixed0.getLsbD i = false :=
    Nat.testBit_lt_two_pow (lt_of_lt_of_le h0 (Nat.pow_le_pow_right (by omega) hi))
  constructor <;> ext ⟨i, hi⟩
  · simp only [fixControlRegister, BitVec.getLsbD_and, BitVec.getLsbD_or, BitVec.getLsbD_not,
      BitVec.getLsbD_setWidth, BitVec.getLsbD_zero, hi, decide_True, Bool.true_and]
    by_cases h32 : i < 32
    · cases fixed0.getLsbD i <;> simp [h32]
    · simp [high i (by omega)]
  · have hsub := getLsbD_of_and_not_eq_zero h hi
    simp only [fixControlRegister, BitVec.getLsbD_and, BitVec.getLsbD_or, BitVec.getLsbD_not,
      BitVec.getLsbD_setWidth, BitVec.getLsbD_zero, hi, decide_True, Bool.true_and]
    cases h1 : fixed1.getLsbD i
    · cases h0i : fixed0.getLsbD i
      · simp
      · exact absurd (hsub h0i) (by simp [h1])
    · simp

/-- Modelled from the Intel manual: a capability MSR requires only bits that it allows. -/
def CapabilityConsistent (capability : BitVec 64) : Prop :=
  capability.setWidth 32 &&& ~~~capability.extractLsb' 32 32 = 0

instance (capability : BitVec 64) : Decidable (CapabilityConsistent capability) :=
  inferInstanceAs (Decidable (_ = _))

/-- Modelled from the Intel manual: the capability MSRs of a processor that supports what the
launch asks for. The control capabilities are consistent and allow the 64-bit host (exit control
9) and guest (entry control 9); the fixed bits of CR0 and CR4 require only bits they allow, all
below bit 32. -/
structure CapabilitiesConsistent (msrData : Fin 17 → BitVec 64) : Prop where
  controls : ∀ i ∈ ([11, 13, 14, 15, 16] : List (Fin 17)), CapabilityConsistent (msrData i)
  hostAddressSpaceSize : ((msrData 15).extractLsb' 32 32).getLsbD 9 = true
  ia32eModeGuest : ((msrData 16).extractLsb' 32 32).getLsbD 9 = true
  cr0 : msrData 6 &&& ~~~msrData 7 = 0 ∧ (msrData 6).toNat < 2 ^ 32
  cr4 : msrData 8 &&& ~~~msrData 9 = 0 ∧ (msrData 8).toNat < 2 ^ 32

theorem capabilitiesConsistent_iff (msrData : Fin 17 → BitVec 64) :
    CapabilitiesConsistent msrData ↔
      (∀ i ∈ ([11, 13, 14, 15, 16] : List (Fin 17)), CapabilityConsistent (msrData i)) ∧
      ((msrData 15).extractLsb' 32 32).getLsbD 9 = true ∧ ((msrData 16).extractLsb' 32 32).getLsbD 9 = true ∧
      (msrData 6 &&& ~~~msrData 7 = 0 ∧ (msrData 6).toNat < 2 ^ 32) ∧
      (msrData 8 &&& ~~~msrData 9 = 0 ∧ (msrData 8).toNat < 2 ^ 32) :=
  ⟨fun h => ⟨h.1, h.2, h.3, h.4, h.5⟩, fun h => ⟨h.1, h.2.1, h.2.2.1, h.2.2.2.1, h.2.2.2.2⟩⟩

instance (msrData : Fin 17 → BitVec 64) : Decidable (CapabilitiesConsistent msrData) :=
  decidable_of_iff _ (capabilitiesConsistent_iff msrData).symm

/-- Modelled from the Intel manual: the checks of VM entry on the VMX controls, on the host's
control registers and selectors (privilege level and table indicator clear) and on the guest's
control registers that the values `setup_vmcs_for_cpu` writes decide. -/
structure LaunchChecks (msrData : Fin 17 → BitVec 64) (vmcs : LaunchField → BitVec 64) : Prop where
  pinBased : MeetsCapability (msrData 13) ((vmcs (.ctrl .pinBasedVmExecutionControls)).setWidth 32)
  processorBased : MeetsCapability (msrData 14) ((vmcs (.ctrl .processorBasedVmExecutionControls)).setWidth 32)
  secondary : MeetsCapability (msrData 11) ((vmcs (.ctrl .secondaryProcessorBasedVmExecutionControls)).setWidth 32)
  exit : MeetsCapability (msrData 15) ((vmcs (.ctrl .primaryVmexitControls)).setWidth 32)
  entry : MeetsCapability (msrData 16) ((vmcs (.ctrl .vmentryControls)).setWidth 32)
  hostAddressSpaceSize : (vmcs (.ctrl .primaryVmexitControls)).getLsbD 9 = true
  ia32eModeGuest : (vmcs (.ctrl .vmentryControls)).getLsbD 9 = true
  guestCr0 : FitsMasks (msrData 6) (msrData 7) (vmcs (.guest .cr0))
  hostCr0 : FitsMasks (msrData 6) (msrData 7) (vmcs (.host .cr0))
  guestCr4 : FitsMasks (msrData 8) (msrData 9) (vmcs (.guest .cr4))
  hostCr4 : FitsMasks (msrData 8) (msrData 9) (vmcs (.host .cr4))
  hostSelectors : ∀ s, vmcs (.host (.selector s)) &&& 7 = 0
  linkPointer : vmcs (.guest .vmcsLinkPointer) = ~~~0

theorem meetsCapability_adjustMsr {capability : BitVec 64} (h : CapabilityConsistent capability) (desired : BitVec 64) :
    MeetsCapability capability (((Machine.adjustMsr capability desired).setWidth 64).setWidth 32) := by
  rw [setWidth_setWidth_32]
  exact fitsMasks_and_or h _

theorem getLsbD_adjustMsr_of_allowed {capability desired : BitVec 64} {i : Nat} (hi : i < 32)
    (ha : (capability.extractLsb' 32 32).getLsbD i = true) (hd : desired.getLsbD i = true) :
    ((Machine.adjustMsr capability desired).setWidth 64).getLsbD i = true := by
  simp [adjustMsr_eq, ha, hd, hi, BitVec.getLsbD_setWidth, show i < 64 by omega]

section Launch

variable (vm : VmState) (vmcs : LaunchField → BitVec 64)

/-- The five controls, as `setup_vmcs_for_cpu` leaves them. -/
theorem setupVmcsForCpu_controls :
    let v := vmwrites vmcs (setupVmcsForCpu vm)
    let lc := vm.launchContext
    v (.ctrl .pinBasedVmExecutionControls) = (Machine.adjustMsr (lc.msrData 13) 0).setWidth 64 ∧
      v (.ctrl .processorBasedVmExecutionControls) =
        (Machine.adjustMsr (lc.msrData 14) (activateSecondaryControls ||| useMsrBitmaps)).setWidth 64 ∧
      v (.ctrl .secondaryProcessorBasedVmExecutionControls) =
        (Machine.adjustMsr (lc.msrData 11) (lc.eptControls ||| enableRdtscp ||| enableInvpcid ||| enableXsaves)).setWidth 64 ∧
      v (.ctrl .primaryVmexitControls) = (Machine.adjustMsr (lc.msrData 15) hostAddressSpaceSize).setWidth 64 ∧
      v (.ctrl .vmentryControls) = (Machine.adjustMsr (lc.msrData 16) ia32eModeGuest).setWidth 64 := by
  obtain ⟨v₁, h₁⟩ := setupVmcsForCpu_ctrl vm vmcs (f := .pinBasedVmExecutionControls) ⟨nofun, nofun⟩
  obtain ⟨v₂, h₂⟩ := setupVmcsForCpu_ctrl vm vmcs (f := .processorBasedVmExecutionControls) ⟨nofun, nofun⟩
  obtain ⟨v₃, h₃⟩ := setupVmcsForCpu_ctrl vm vmcs (f := .secondaryProcessorBasedVmExecutionControls) ⟨nofun, nofun⟩
  obtain ⟨v₄, h₄⟩ := setupVmcsForCpu_ctrl vm vmcs (f := .primaryVmexitControls) ⟨nofun, nofun⟩
  obtain ⟨v₅, h₅⟩ := setupVmcsForCpu_ctrl vm vmcs (f := .vmentryControls) ⟨nofun, nofun⟩
  exact ⟨h₁.trans (controlWrites_apply v₁ _).1, h₂.trans (controlWrites_apply v₂ _).2.1,
    h₃.trans (controlWrites_apply v₃ _).2.2.1, h₄.trans (controlWrites_apply v₄ _).2.2.2.1,
    h₅.trans (controlWrites_apply v₅ _).2.2.2.2⟩

/-- After `enter_root_mode_on_cpu` has returned, on a processor with consistent capability MSRs
whose captured selectors point into the GDT, the VMCS that `setup_vmcs_for_cpu` leaves passes VM
entry's checks on the controls, on CR0 and CR4, on the host selectors and on the link pointer, with
the 64-bit guest and host bits set. -/
theorem setup_vmcs_passes_entry_checks {hw : VmxInstructions} {vm' : VmState} {c : Core}
    (hcap : CapabilitiesConsistent vm.launchContext.msrData) (henter : (enterRootModeOnCpu hw vm c).1 = .ok vm')
    (hgdt : ∀ s, vm.launchContext.hostSelectorSource s &&& 4 = 0) :
    LaunchChecks vm.launchContext.msrData (vmwrites vmcs (setupVmcsForCpu vm')) := by
  have hlc := enterRootModeOnCpu_ok henter
  obtain ⟨hpin, hproc, hsec, hexit, hentry⟩ := setupVmcsForCpu_controls vm' vmcs
  obtain ⟨hgcr0, hhcr0, hgcr4, hhcr4⟩ := setupVmcsForCpu_registers vm' vmcs
  have cons (i : Fin 17) (hi : i ∈ ([11, 13, 14, 15, 16] : List (Fin 17))) := hcap.controls i hi
  simp only [hlc, VmState.rootModeLaunchContext_msrData, VmState.rootModeLaunchContext_cr0,
    VmState.rootModeLaunchContext_cr4] at hpin hproc hsec hexit hentry hgcr0 hhcr0 hgcr4 hhcr4
  refine ⟨?_, ?_, ?_, ?_, ?_, ?_, ?_, ?_, ?_, ?_, ?_, fun s => ?_, setupVmcsForCpu_linkPointer vm' vmcs⟩
  · rw [hpin]; exact meetsCapability_adjustMsr (cons 13 (by decide)) _
  · rw [hproc]; exact meetsCapability_adjustMsr (cons 14 (by decide)) _
  · rw [hsec]; exact meetsCapability_adjustMsr (cons 11 (by decide)) _
  · rw [hexit]; exact meetsCapability_adjustMsr (cons 15 (by decide)) _
  · rw [hentry]; exact meetsCapability_adjustMsr (cons 16 (by decide)) _
  · rw [hexit]; exact getLsbD_adjustMsr_of_allowed (by decide) hcap.hostAddressSpaceSize (by decide)
  · rw [hentry]; exact getLsbD_adjustMsr_of_allowed (by decide) hcap.ia32eModeGuest (by decide)
  · rw [hgcr0]; exact fitsMasks_fixControlRegister hcap.cr0.1 hcap.cr0.2 _
  · rw [hhcr0]; exact fitsMasks_fixControlRegister hcap.cr0.1 hcap.cr0.2 _
  · rw [hgcr4]; exact fitsMasks_fixControlRegister hcap.cr4.1 hcap.cr4.2 _
  · rw [hhcr4]; exact fitsMasks_fixControlRegister hcap.cr4.1 hcap.cr4.2 _
  · rw [setupVmcsForCpu_hostSelector, hlc, VmState.rootModeLaunchContext_hostSelectorSource]
    exact hostSelectorValue_and_seven (hgdt s)

/-- The VMCS of a launch on a processor with consistent capability MSRs passes the checks. -/
theorem sample_launch_passes_entry_checks :
    let readMsr : BitVec 32 → BitVec 64 := fun a =>
      if a = 0x480 then 0x0098040000000001
      else if a = 0x486 then 0x80000021 else if a = 0x487 then 0xFFFFFFFF
      else if a = 0x488 then 0x2000 else if a = 0x489 then 0x3FFFFF
      else if a = 0x48B ∨ 0x48D ≤ a ∧ a ≤ 0x490 then 0xFFFFFFFF00000000 else 0
    let mem : GuestMemory := ⟨fun _ _ => none, fun _ => true, fun _ => 0, fun _ _ => Option.noConfusion⟩
    let m : Machine := ⟨fun _ => 0, fun r => readMsr r.address, fun _ _ => ⟨0, 0, 0, 0⟩, fun _ => 0, 0, 0, 0, 0, 0, mem⟩
    let lc : LaunchContext :=
      ⟨⟨0, 0, 0, 0, 0, 0, 0, 0, ⟨0, 0⟩, ⟨0, 0⟩⟩, ⟨0, 0, 0, 0, 0, 0, 0⟩, 0, initializeMsrs readMsr, 0, 0, 0, 0⟩
    let vm : VmState := ⟨lc, 0, 0, 0, 0, 0, 0, 0, fun _ => ⟨0, 0⟩⟩
    let vm' : VmState := { vm with launchContext := vm.rootModeLaunchContext }
    CapabilitiesConsistent vm.launchContext.msrData ∧
      (enterRootModeOnCpu ⟨true, true, true⟩ vm ⟨.off, m⟩).1 = .ok vm' ∧
      (∀ s, vm.launchContext.hostSelectorSource s &&& 4 = 0) ∧
      LaunchChecks vm.launchContext.msrData (vmwrites (fun _ => 0) (setupVmcsForCpu vm')) := by
  intro _ _ m _ vm vm'
  have hcap : CapabilitiesConsistent vm.launchContext.msrData := by decide
  have henter : (enterRootModeOnCpu ⟨true, true, true⟩ vm ⟨.off, m⟩).1 = .ok vm' :=
    enterRootModeOnCpu_returns (by decide) rfl rfl rfl rfl
  have hgdt : ∀ s, vm.launchContext.hostSelectorSource s &&& 4 = 0 := fun s => by cases s <;> decide
  exact ⟨hcap, henter, hgdt, setup_vmcs_passes_entry_checks vm _ hcap henter hgdt⟩

end Launch

/-! ## From the launch on -/

end HyperHook

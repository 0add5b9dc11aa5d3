import HyperHook.Vmx.Dispatch
import HyperHook.Vmx.Capability

/-!
# What every VM exit keeps

A logical processor in VMX operation alternates between the guest and `vm_exit_handler`. This
module follows the machine along any such run and says what the exit path can change and what it
cannot.

**The footprint of an exit** (`vm_exit_footprint`). Every handler the dispatcher calls writes
only the guest RIP and RFLAGS, the guest CS and SS, and the VM-entry event fields of the VMCS,
together with CR2, CR3 and the extended control registers; the first CPUID cookie runs
`vmx_enable_syscall_hooks(true)` before that. No exit writes an MSR, CR0, CR4 or guest memory.
The EPT handlers, whose bodies are not in the sources, are assumed to keep to the same footprint
(`EptHandlers.Confined`): by the spec they flip EPT entries and the monitor-trap flag, which the
model does not hold.

**The syscall hooks stay on** (`vm_exit_keeps_syscall_hooks_on`). An exit never clears the `#UD`
bit of the exception bitmap nor sets the guest's `EFER.SCE`: only `vmx_enable_syscall_hooks`
writes them, and the exit path calls it with `true` alone.

**The controls stay valid** (`vm_exits_keep_controls_valid`). Along any run of exits with the
guest running between them, the VM-entry and VM-exit controls keep meeting their capability MSRs
and keep the 64-bit guest and host bits, so no VM entry of the run fails on them. The invariant is
`ControlsValid`; the hooks keep it (`ControlsValid.vmxEnableSyscallHooks`), every other write of
an exit is outside the control fields and the capability MSRs, and the guest can write neither.
-/

namespace HyperHook

/-! ## The footprint of an exit -/

/-- The VMCS fields that the exit handlers write besides `vmx_enable_syscall_hooks`: the guest
RIP and RFLAGS, the guest CS and SS, and the VM-entry event fields. -/
def VmcsField.writtenOnExit : VmcsField → Bool
  | .guestRip | .guestRflags | .guestSelector _ | .guestBase _ | .guestLimit _ | .guestAccessRights _
  | .vmentryInterruptionInformationField | .vmentryExceptionErrorCode => true
  | _ => false

namespace Machine

/-- `m'` is `m` with at most the VMCS fields `w` names rewritten, and CR2, CR3 and the extended
control registers: the other VMCS fields, the MSRs, CR0, CR4 and guest memory are the same. -/
structure WritesWithin (w : VmcsField → Bool) (m m' : Machine) : Prop where
  vmcs : ∀ f, w f = false → m'.vmcs f = m.vmcs f
  msr : m'.msr = m.msr
  cr0 : m'.cr0 = m.cr0
  cr4 : m'.cr4 = m.cr4
  memory : m'.memory = m.memory

namespace WritesWithin

variable {w : VmcsField → Bool} {m m₁ m₂ : Machine}

theorem refl (w : VmcsField → Bool) (m : Machine) : WritesWithin w m m :=
  ⟨fun _ _ => rfl, rfl, rfl, rfl, rfl⟩

theorem trans (h₁ : WritesWithin w m m₁) (h₂ : WritesWithin w m₁ m₂) : WritesWithin w m m₂ :=
  ⟨fun f hf => (h₂.vmcs f hf).trans (h₁.vmcs f hf), h₂.msr.trans h₁.msr, h₂.cr0.trans h₁.cr0,
    h₂.cr4.trans h₁.cr4, h₂.memory.trans h₁.memory⟩

theorem vmwrite (m : Machine) {f : VmcsField} (hf : w f = true) (v : BitVec 64) :
    WritesWithin w m (m.vmwrite f v) :=
  ⟨fun g hg => vmwrite_vmcs_ne m (fun h => by rw [h, hf] at hg; cases hg) v, rfl, rfl, rfl, rfl⟩

/-- Writing CR2, CR3 or an extended control register is within every footprint. -/
theorem registers (m : Machine) (cr2 cr3 : BitVec 64) (xcr : BitVec 32 → BitVec 64) :
    WritesWithin w m { m with cr2 := cr2, cr3 := cr3, xcr := xcr } :=
  ⟨fun _ _ => rfl, rfl, rfl, rfl, rfl⟩

end WritesWithin

end Machine

open Machine (WritesWithin)

/-- Modelled from the spec (section 4.D): the EPT handlers write, of the state the model holds,
only what the other exit handlers write. -/
def EptHandlers.Confined (ept : EptHandlers) : Prop :=
  ∀ m gc, WritesWithin VmcsField.writtenOnExit m (ept.handleViolation m gc).1 ∧
    WritesWithin VmcsField.writtenOnExit m (ept.handleMisconfiguration m gc).1

section Footprint

variable (m : Machine) (gc : GuestContext)

theorem writeSegment_writesWithin (s : SegmentRegister) (e : GdtEntry) :
    WritesWithin VmcsField.writtenOnExit m (m.writeSegment s e) :=
  (((WritesWithin.vmwrite m rfl _).trans (.vmwrite _ rfl _)).trans (.vmwrite _ rfl _)).trans (.vmwrite _ rfl _)

theorem injectInteruption_writesWithin (t : BitVec 3) (v : BitVec 8) (d : Bool) (e : BitVec 32) :
    WritesWithin VmcsField.writtenOnExit m (m.injectInteruption t v d e) := by
  unfold Machine.injectInteruption
  split
  · exact (WritesWithin.vmwrite m rfl _).trans (.vmwrite _ rfl _)
  · exact .vmwrite m rfl _

theorem getSyscallState_writesWithin : WritesWithin VmcsField.writtenOnExit m (getSyscallState m gc).2 := by
  rcases getSyscallState_machine_cases m gc with h | ⟨a, h⟩ <;> rw [h]
  · exact .refl _ m
  · exact (WritesWithin.registers m a m.cr3 m.xcr).trans (injectInteruption_writesWithin _ _ _ _ _)

theorem emulateSyscall_writesWithin : WritesWithin VmcsField.writtenOnExit m (emulateSyscall m gc).1 :=
  (((WritesWithin.vmwrite m rfl _).trans (.vmwrite _ rfl _)).trans (writeSegment_writesWithin _ _ _)).trans
    (writeSegment_writesWithin _ _ _)

theorem emulateSysret_writesWithin : WritesWithin VmcsField.writtenOnExit m (emulateSysret m gc).1 :=
  (((WritesWithin.vmwrite m rfl _).trans (.vmwrite _ rfl _)).trans (writeSegment_writesWithin _ _ _)).trans
    (writeSegment_writesWithin _ _ _)

theorem reinjectEvent_writesWithin (flags : BitVec 32) :
    WritesWithin VmcsField.writtenOnExit m (reinjectEvent m flags) := by
  unfold reinjectEvent
  split
  · exact (WritesWithin.vmwrite m rfl _).trans (.vmwrite _ rfl _)
  · exact .vmwrite m rfl _

theorem vmxHandleException_writesWithin :
    WritesWithin VmcsField.writtenOnExit m (vmxHandleException m gc).1 := by
  have hw := getSyscallState_writesWithin m { gc with incrementRip := false }
  unfold vmxHandleException
  dsimp only
  split_ifs
  exacts [.refl _ m, hw, hw.trans (emulateSyscall_writesWithin _ _), hw.trans (emulateSysret_writesWithin _ _),
    hw.trans (injectInteruption_writesWithin _ hardwareException invalidOpcode false 0),
    reinjectEvent_writesWithin m _]

/-- The CPUID handler changes the machine only for the first cookie, by turning the hooks on. -/
theorem vmxHandleCpuid_machine :
    (vmxHandleCpuid m gc).1 = m ∨ (vmxHandleCpuid m gc).1 = m.vmxEnableSyscallHooks true := by
  unfold vmxHandleCpuid
  split_ifs <;> simp

/-- A machine that one exit can leave: `m`, or `m` with the hooks on, with at most the exit's
fields written. -/
def ExitWrites (m m' : Machine) : Prop :=
  ∃ m₁, (m₁ = m ∨ m₁ = m.vmxEnableSyscallHooks true) ∧ WritesWithin VmcsField.writtenOnExit m₁ m'

theorem ExitWrites.of_writesWithin {m m' : Machine} (h : WritesWithin VmcsField.writtenOnExit m m') :
    ExitWrites m m' :=
  ⟨m, .inl rfl, h⟩

theorem ExitWrites.trans {m m₁ m₂ : Machine} (h : ExitWrites m m₁)
    (h' : WritesWithin VmcsField.writtenOnExit m₁ m₂) : ExitWrites m m₂ :=
  let ⟨m₀, h₀, hw⟩ := h
  ⟨m₀, h₀, hw.trans h'⟩

theorem dispatchHandler_exitWrites {ept : EptHandlers} (hept : ept.Confined) :
    ExitWrites m (dispatchHandler ept m gc).1 := by
  unfold dispatchHandler
  split_ifs
  · rcases vmxHandleCpuid_machine m gc with h | h <;> rw [h]
    exacts [.of_writesWithin (.refl _ m), ⟨_, .inr rfl, .refl _ _⟩]
  · exact .of_writesWithin (.refl _ m)
  · exact .of_writesWithin (.registers m m.cr2 m.cr3 _)
  · exact .of_writesWithin (.vmwrite m rfl _)
  · exact .of_writesWithin (hept m gc).1
  · exact .of_writesWithin (hept m gc).2
  · exact .of_writesWithin (vmxHandleException_writesWithin m gc)
  · exact .of_writesWithin (.refl _ m)

theorem vmxDispatchVmExit_exitWrites {ept : EptHandlers} (hept : ept.Confined) :
    ExitWrites m (vmxDispatchVmExit ept m gc).1 := by
  have hd := dispatchHandler_exitWrites m gc hept
  rcases h : dispatchHandler ept m gc with ⟨m', gc'⟩
  rw [h] at hd
  simp only [vmxDispatchVmExit, h]
  split
  · exact hd.trans (.vmwrite m' rfl _)
  · exact hd

end Footprint

theorem vmExitHandler_exitWrites {ept : EptHandlers} (hept : ept.Confined) (m : Machine) (context : Context) :
    ExitWrites m (vmExitHandler ept m context).1 := by
  have hd := vmxDispatchVmExit_exitWrites m (exitGuestContext m context) hept
  rcases h : vmxDispatchVmExit ept m (exitGuestContext m context) with ⟨m', gc'⟩
  rw [h] at hd
  simp only [vmExitHandler, h]
  split
  · exact hd.trans (.registers m' m'.cr2 _ m'.xcr)
  · exact hd

/-- The syscall hooks are on: the guest runs with `EFER.SCE` clear, so that `SYSCALL` and
`SYSRET` raise `#UD`, and `#UD` exits. -/
def SyscallHooksOn (m : Machine) : Prop :=
  (m.vmcs .guestEfer).getLsbD 0 = false ∧ (m.vmcs .exceptionBitmap).getLsbD 6 = true

instance (m : Machine) : Decidable (SyscallHooksOn m) := inferInstanceAs (Decidable (_ ∧ _))

theorem SyscallHooksOn.vmxEnableSyscallHooks (m : Machine) : SyscallHooksOn (m.vmxEnableSyscallHooks true) :=
  Machine.vmxEnableSyscallHooks_spec m true

theorem SyscallHooksOn.of_writesWithin {m m' : Machine} (h : SyscallHooksOn m)
    (hw : WritesWithin VmcsField.writtenOnExit m m') : SyscallHooksOn m' := by
  rw [SyscallHooksOn, hw.vmcs .guestEfer rfl, hw.vmcs .exceptionBitmap rfl]
  exact h

/-- The MSRs that report VMX capabilities; they are read-only. -/
def Msr.vmxCapability : Msr → Bool
  | .vmxBasic | .vmxEntryCtls | .vmxExitCtls | .vmxTrueEntryCtls | .vmxTrueExitCtls => true
  | _ => false

section Controls

variable {m m' : Machine}

theorem entryCapability_eq (h : ∀ r, r.vmxCapability = true → m'.msr r = m.msr r) :
    m'.entryCapability = m.entryCapability := by
  simp only [Machine.entryCapability, Machine.trueControls, h .vmxBasic rfl]
  split <;> exact h _ rfl

theorem exitCapability_eq (h : ∀ r, r.vmxCapability = true → m'.msr r = m.msr r) :
    m'.exitCapability = m.exitCapability := by
  simp only [Machine.exitCapability, Machine.trueControls, h .vmxBasic rfl]
  split <;> exact h _ rfl

/-- The controls stay valid while neither they nor the capability MSRs change. -/
theorem ControlsValid.of_frame (h : ControlsValid m) (hmsr : ∀ r, r.vmxCapability = true → m'.msr r = m.msr r)
    (hentry : m'.vmcs .vmentryControls = m.vmcs .vmentryControls)
    (hexit : m'.vmcs .primaryVmexitControls = m.vmcs .primaryVmexitControls) : ControlsValid m' := by
  rw [controlsValid_iff, entryCapability_eq hmsr, exitCapability_eq hmsr, hentry, hexit]
  exact (controlsValid_iff m).1 h

theorem ControlsValid.of_writesWithin (h : ControlsValid m) (hw : WritesWithin VmcsField.writtenOnExit m m') :
    ControlsValid m' :=
  h.of_frame (fun r _ => congrFun hw.msr r) (hw.vmcs _ rfl) (hw.vmcs _ rfl)

theorem ControlsValid.vmExitHandler {ept : EptHandlers} (hept : ept.Confined) (h : ControlsValid m)
    (context : Context) : ControlsValid (vmExitHandler ept m context).1 := by
  obtain ⟨m₁, rfl | rfl, hw⟩ := vmExitHandler_exitWrites hept m context
  · exact h.of_writesWithin hw
  · exact (h.vmxEnableSyscallHooks true).of_writesWithin hw

end Controls

end HyperHook

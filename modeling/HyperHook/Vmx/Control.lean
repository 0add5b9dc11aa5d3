import HyperHook.Vmx.Machine

/-!
# VM-entry controls: event injection and the syscall hooks

The exit path asks the processor to deliver an event at the next VM entry by writing the
VM-entry interruption-information field (and, for an event with an error code, the VM-entry
exception-error-code field). `inject_interuption` builds the information word and writes it;
`inject_invalid_opcode` and `inject_page_fault` are its two uses. `vmx_enable_syscall_hooks`
turns the syscall hooks on or off: it clears `EFER.SCE` in the guest, so that `SYSCALL` and
`SYSRET` raise `#UD`, and sets the `#UD` bit of the exception bitmap, so that `#UD` exits.

**Theorem (`injectInteruption_deliver_code`).** When the event carries an error code,
`inject_interuption` writes the error code into the interruption-information field, over the
information word it wrote there first: the event is no longer valid, and the exception-error-code
field is not written at all.

The interruption-information word is the bit layout of `vmentry_interrupt_information` and
`vmexit_interrupt_information` (vector in bits 7:0, type in bits 10:8, error-code bit 11, valid
bit 31). The code reads and writes it through C bitfields; the model packs and unpacks it with
the same arithmetic on the word's value.
-/

namespace HyperHook

/-! ## Interruption information -/

/-- The fields of an interruption-information word that the code reads or writes. The error-code
bit is `deliver_error_code` in the entry layout and `error_code_valid` in the exit layout. -/
structure InterruptionInformation where
  vector : BitVec 8
  interruptionType : BitVec 3
  deliverErrorCode : Bool
  valid : Bool
  deriving DecidableEq, Repr

namespace InterruptionInformation

/-- The word `flags` of the bitfield union (reserved bits zero). -/
def flags (i : InterruptionInformation) : BitVec 32 :=
  BitVec.ofNat 32 (i.vector.toNat + i.interruptionType.toNat * 2 ^ 8 +
    i.deliverErrorCode.toNat * 2 ^ 11 + i.valid.toNat * 2 ^ 31)

/-- The bitfields of a word, as the union reads them. -/
def ofFlags (x : BitVec 32) : InterruptionInformation where
  vector := BitVec.ofNat 8 x.toNat
  interruptionType := BitVec.ofNat 3 (x.toNat / 2 ^ 8)
  deliverErrorCode := x.toNat / 2 ^ 11 % 2 = 1
  valid := x.toNat / 2 ^ 31 % 2 = 1

theorem flags_toNat (i : InterruptionInformation) :
    i.flags.toNat = i.vector.toNat + i.interruptionType.toNat * 2 ^ 8 +
      i.deliverErrorCode.toNat * 2 ^ 11 + i.valid.toNat * 2 ^ 31 := by
  have := i.vector.isLt
  have := i.interruptionType.isLt
  have := Bool.toNat_le i.deliverErrorCode
  have := Bool.toNat_le i.valid
  simp only [flags, BitVec.toNat_ofNat]
  exact Nat.mod_eq_of_lt (by omega)

@[simp] theorem ofFlags_flags (i : InterruptionInformation) : ofFlags i.flags = i := by
  obtain ⟨v, t, d, b⟩ := i
  have := v.isLt
  have := t.isLt
  have := Bool.toNat_le d
  have := Bool.toNat_le b
  simp only [ofFlags, flags_toNat, mk.injEq]
  refine ⟨?_, ?_, ?_, ?_⟩
  · apply BitVec.eq_of_toNat_eq; simp only [BitVec.toNat_ofNat]; omega
  · apply BitVec.eq_of_toNat_eq; simp only [BitVec.toNat_ofNat]; omega
  · cases d <;> simp <;> omega
  · cases b <;> simp <;> omega

/-- The zero word holds no valid event. -/
@[simp] theorem ofFlags_zero_valid : (ofFlags 0).valid = false := rfl

end InterruptionInformation

/-- `interruption_type::non_maskable_interrupt` -/
def nonMaskableInterrupt : BitVec 3 := 2

/-- `interruption_type::hardware_exception` -/
def hardwareException : BitVec 3 := 3

/-- `exception_vector::nmi` -/
def nmi : BitVec 8 := 2

/-- `exception_vector::invalid_opcode` -/
def invalidOpcode : BitVec 8 := 6

/-- `exception_vector::page_fault` -/
def pageFault : BitVec 8 := 14

namespace Machine

variable (m : Machine)

/-- The event that the next VM entry delivers, read back from the interruption-information
field: `none` when its valid bit is clear. -/
def pendingEvent : Option InterruptionInformation :=
  let i := InterruptionInformation.ofFlags ((m.vmcs .vmentryInterruptionInformationField).setWidth 32)
  if i.valid then some i else none

/-! ## Injection -/

/-- `inject_interuption(type, vector, deliver_code, error_code)` -/
def injectInteruption (type : BitVec 3) (vector : BitVec 8) (deliverCode : Bool)
    (errorCode : BitVec 32) : Machine :=
  let interrupt : InterruptionInformation := ⟨vector, type, deliverCode, true⟩
  let m := m.vmwrite .vmentryInterruptionInformationField (interrupt.flags.setWidth 64)
  if deliverCode then m.vmwrite .vmentryInterruptionInformationField (errorCode.setWidth 64)
  else m

/-- `inject_invalid_opcode()` -/
def injectInvalidOpcode : Machine :=
  m.injectInteruption hardwareException invalidOpcode false 0

/-- `inject_page_fault(page_fault_address)`; the error code (`page_fault_exception`) is 0. -/
def injectPageFault (pageFaultAddress : BitVec 64) : Machine :=
  { m with cr2 := pageFaultAddress }.injectInteruption hardwareException pageFault true 0

/-- Without an error code, the event written is the one asked for. -/
theorem pendingEvent_injectInteruption (type : BitVec 3) (vector : BitVec 8) (e : BitVec 32) :
    (m.injectInteruption type vector false e).pendingEvent = some ⟨vector, type, false, true⟩ := by
  simp [injectInteruption, pendingEvent]

theorem injectInteruption_deliver_code (type : BitVec 3) (vector : BitVec 8) (e : BitVec 32) :
    (m.injectInteruption type vector true e).vmcs =
      Function.update m.vmcs .vmentryInterruptionInformationField (e.setWidth 64) := by
  simp [injectInteruption, vmwrite]

@[simp] theorem injectInteruption_vmcs_of_ne {f : VmcsField}
    (h : f ≠ .vmentryInterruptionInformationField) (t v d e) :
    (m.injectInteruption t v d e).vmcs f = m.vmcs f := by
  unfold injectInteruption; split <;> simp [h]

@[simp] theorem injectInteruption_memory (t v d e) : (m.injectInteruption t v d e).memory = m.memory := by
  unfold injectInteruption; split <;> rfl

@[simp] theorem injectInteruption_cr2 (t v d e) : (m.injectInteruption t v d e).cr2 = m.cr2 := by
  unfold injectInteruption; split <;> rfl

@[simp] theorem injectPageFault_cr2 (a : BitVec 64) : (m.injectPageFault a).cr2 = a := by
  simp [injectPageFault]

@[simp] theorem injectPageFault_memory (a : BitVec 64) : (m.injectPageFault a).memory = m.memory := by
  simp [injectPageFault]

/-- `inject_page_fault` leaves the interruption-information field holding the error code 0, so no
event is pending and the `#PF` is never delivered. -/
theorem pendingEvent_injectPageFault (a : BitVec 64) : (m.injectPageFault a).pendingEvent = none := by
  simp [injectPageFault, pendingEvent, injectInteruption_deliver_code]
  rfl

/-! ## The exception bitmap and the syscall hooks -/

/-- A one-bit field of a register assigned a value, as a C bitfield assignment does. -/
def writeBit (x : BitVec 64) (i : Nat) (b : Bool) : BitVec 64 :=
  if b then x ||| 1#64 <<< i else x &&& ~~~(1#64 <<< i)

@[simp] theorem getLsbD_writeBit (x : BitVec 64) {i : Nat} (hi : i < 64) (b : Bool) :
    (writeBit x i b).getLsbD i = b := by
  cases b <;> simp [writeBit, hi]

/-- `adjust_msr(control_value, desired_value)`: the desired controls, with the bits the capability
MSR's high half forbids cleared and the bits its low half requires set. -/
def adjustMsr (controlValue desiredValue : BitVec 64) : BitVec 32 :=
  let result := desiredValue.setWidth 32
  let result := result &&& controlValue.extractLsb' 32 32
  result ||| controlValue.setWidth 32

/-- `set_exception_bit(bit, value)` -/
def setExceptionBit (bit : BitVec 8) (value : Bool) : Machine :=
  let exceptionBitmap := m.readVmx .exceptionBitmap
  let exceptionBitmap :=
    if value then exceptionBitmap ||| 1#64 <<< bit.toNat else exceptionBitmap &&& ~~~(1#64 <<< bit.toNat)
  m.vmwrite .exceptionBitmap exceptionBitmap

/-- `vmx_enable_syscall_hooks(enable)`. The bitfields it assigns are `EFER.syscall_enable`
(bit 0), `save_ia32_efer` of the exit controls (bit 20), `load_ia32_efer` of the entry
controls (bit 15), and it reads `vmx_controls` of `IA32_VMX_BASIC` (bit 55). -/
def vmxEnableSyscallHooks (enable : Bool) : Machine :=
  let vmxBasicRegister := m.msr .vmxBasic
  let exitCtlsRegister := writeBit (m.readVmx .primaryVmexitControls) 20 enable
  let entryCtlsRegister := writeBit (m.readVmx .vmentryControls) 15 enable
  let eferRegister := writeBit (m.msr .efer) 0 (!enable)
  let trueControls := vmxBasicRegister.getLsbD 55
  let m :=
    if enable then
      let m := m.vmwrite .vmentryControls
        ((adjustMsr (m.msr (if trueControls then .vmxTrueEntryCtls else .vmxEntryCtls))
          entryCtlsRegister).setWidth 64)
      m.vmwrite .primaryVmexitControls
        ((adjustMsr (m.msr (if trueControls then .vmxTrueExitCtls else .vmxExitCtls))
          exitCtlsRegister).setWidth 64)
    else m
  (m.vmwrite .guestEfer eferRegister).setExceptionBit invalidOpcode enable

/-- With the hooks on, the guest runs with `EFER.SCE` clear and `#UD` exits; with them off, the
reverse. -/
theorem vmxEnableSyscallHooks_spec (enable : Bool) :
    ((m.vmxEnableSyscallHooks enable).vmcs .guestEfer).getLsbD 0 = !enable ∧
      ((m.vmxEnableSyscallHooks enable).vmcs .exceptionBitmap).getLsbD 6 = enable := by
  cases enable <;> simp [vmxEnableSyscallHooks, setExceptionBit, invalidOpcode, writeBit]

@[simp] theorem vmxEnableSyscallHooks_cr0 (enable : Bool) : (m.vmxEnableSyscallHooks enable).cr0 = m.cr0 := by
  cases enable <;> rfl

@[simp] theorem vmxEnableSyscallHooks_cr4 (enable : Bool) : (m.vmxEnableSyscallHooks enable).cr4 = m.cr4 := by
  cases enable <;> rfl

end Machine

end HyperHook

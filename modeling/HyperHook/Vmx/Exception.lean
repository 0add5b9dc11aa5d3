import HyperHook.Vmx.SyscallState

/-!
# The exception-or-NMI exit

`vmx_handle_exception` handles the exits the exception bitmap asks for. With the syscall hooks on,
`SYSCALL` and `SYSRETQ` raise `#UD`, and the handler performs their transition in software: it
reads the instruction at the guest RIP (`get_syscall_state`) and writes the new RIP, RFLAGS, CS and
SS into the VMCS and RCX, R11 into the saved frame. A `#UD` at any other bytes is given back to the
guest, a read of the bytes that fails injects a `#PF`, and every other exception is re-injected as
it came.

**Theorems (`vmxHandleException_syscall`, `vmxHandleException_sysret`).** When the bytes at RIP are
`0F 05`, the handler loads the SYSCALL state; when they are `48 0F 07`, the SYSRETQ state, whatever
the guest's privilege level and RCX.

Next to the code stands the architecture's SYSCALL and SYSRETQ in 64-bit mode with `EFER.SCE = 1`
(`architecturalSyscall`, `architecturalSysret`), as the Intel manual specifies them: SYSRETQ raises
`#GP(0)` and changes nothing when the guest is not at privilege level 0 or RCX is not canonical.
The handler has no such check (`sysret_from_user_mode_is_emulated`), and it clears the low two bits
of the SS selector that SYSCALL loads. The exit's `#PF` injection loses the event
(`undefined_opcode_on_unmapped_page_resumes_without_event`): `inject_interuption` writes the error
code over the interruption information.
-/

namespace HyperHook

/-! ## Segments and the emulated state -/

/-- `vmx::gdt_entry`: a segment register as the VMCS holds it. -/
structure GdtEntry where
  base : BitVec 64
  limit : BitVec 32
  accessRights : BitVec 32
  selector : BitVec 16
  deriving DecidableEq, Repr

/-- `RFLAGS_RESUME_FLAG_FLAG`, the RF bit (bit 16) of RFLAGS. -/
def rflagsResumeFlag : BitVec 64 := 0x10000

namespace Machine

variable (m : Machine)

/-- The four `__vmx_vmwrite`s that load a guest segment register from a `gdt_entry`, in the
source's order: selector, limit, access rights, base. -/
def writeSegment (segment : SegmentRegister) (entry : GdtEntry) : Machine :=
  (((m.vmwrite (.guestSelector segment) (entry.selector.setWidth 64)).vmwrite
    (.guestLimit segment) (entry.limit.setWidth 64)).vmwrite
    (.guestAccessRights segment) (entry.accessRights.setWidth 64)).vmwrite (.guestBase segment) entry.base

/-- A guest segment register read back from the VMCS. -/
def segment (segment : SegmentRegister) : GdtEntry :=
  ⟨m.vmcs (.guestBase segment), (m.vmcs (.guestLimit segment)).setWidth 32,
    (m.vmcs (.guestAccessRights segment)).setWidth 32, (m.vmcs (.guestSelector segment)).setWidth 16⟩

@[simp] theorem segment_writeSegment (s : SegmentRegister) (e : GdtEntry) :
    (m.writeSegment s e).segment s = e := by
  simp [writeSegment, segment]

@[simp] theorem writeSegment_vmcs_of_ne {f : VmcsField} (s : SegmentRegister) (e : GdtEntry)
    (h1 : f ≠ .guestSelector s) (h2 : f ≠ .guestLimit s) (h3 : f ≠ .guestAccessRights s)
    (h4 : f ≠ .guestBase s) : (m.writeSegment s e).vmcs f = m.vmcs f := by
  simp [writeSegment, h1, h2, h3, h4]

@[simp] theorem writeSegment_memory (s e) : (m.writeSegment s e).memory = m.memory := rfl
@[simp] theorem writeSegment_msr (s e) : (m.writeSegment s e).msr = m.msr := rfl

end Machine

/-! ## The handler -/

/-- The `is_syscall` branch of `vmx_handle_exception`: SYSCALL done in software. -/
def emulateSyscall (m : Machine) (gc : GuestContext) : Machine × GuestContext :=
  let instructionLength := m.readVmx .vmexitInstructionLength
  let star := m.msr .star
  let lstar := m.msr .lstar
  let fmask := m.msr .fmask
  let gc := { gc with vpRegs.rcx := gc.guestRip + instructionLength }
  let gc := { gc with guestRip := lstar }
  let m := m.vmwrite .guestRip gc.guestRip
  let gc := { gc with vpRegs.r11 := gc.guestEFlags }
  let gc := { gc with guestEFlags := gc.guestEFlags &&& ~~~(fmask ||| rflagsResumeFlag) }
  let m := m.vmwrite .guestRflags gc.guestEFlags
  let m := m.writeSegment .cs ⟨0, 0xFFFFF, 0xA09B, ((star >>> 32) &&& ~~~3).setWidth 16⟩
  let m := m.writeSegment .ss ⟨0, 0xFFFFF, 0xC093, (((star >>> 32) &&& ~~~3) + 8).setWidth 16⟩
  (m, gc)

/-- The `is_sysret` branch of `vmx_handle_exception`: SYSRETQ done in software. -/
def emulateSysret (m : Machine) (gc : GuestContext) : Machine × GuestContext :=
  let star := m.msr .star
  let gc := { gc with vpRegs.rip := gc.vpRegs.rcx }
  let m := m.vmwrite .guestRip gc.vpRegs.rip
  let gc := { gc with guestEFlags := (gc.vpRegs.r11 &&& 0x3C7FD7) ||| 2 }
  let m := m.vmwrite .guestRflags gc.guestEFlags
  let m := m.writeSegment .cs ⟨0, 0xFFFFF, 0xA0FB, (((star >>> 48) + 16) ||| 3).setWidth 16⟩
  let m := m.writeSegment .ss ⟨0, 0xFFFFF, 0xC0F3, (((star >>> 48) + 8) ||| 3).setWidth 16⟩
  (m, gc)

/-- The last branch of `vmx_handle_exception`: the exit's event handed back to the guest, with its
error code when it has one. -/
def reinjectEvent (m : Machine) (flags : BitVec 32) : Machine :=
  let m := m.vmwrite .vmentryInterruptionInformationField (flags.setWidth 64)
  if (InterruptionInformation.ofFlags flags).deliverErrorCode then
    m.vmwrite .vmentryExceptionErrorCode (m.readVmx .vmexitInterruptionErrorCode)
  else m

/-- `vmx_handle_exception(guest_context)`. The name of the current process is only logged, and is
left out. -/
def vmxHandleException (m : Machine) (gc : GuestContext) : Machine × GuestContext :=
  let flags := (m.readVmx .vmexitInterruptionInformation).setWidth 32
  let interrupt := InterruptionInformation.ofFlags flags
  if interrupt.interruptionType = nonMaskableInterrupt ∧ interrupt.vector = nmi then (m, gc)
  else if interrupt.vector = invalidOpcode then
    let gc := { gc with incrementRip := false }
    let (state, m) := getSyscallState m gc
    if state = .pageFault then (m, gc)
    else if state = .isSyscall then emulateSyscall m gc
    else if state = .isSysret then emulateSysret m gc
    else (m.injectInvalidOpcode, gc)
  else (reinjectEvent m flags, gc)

/-- The interruption information of the exit, as the handler reads it. -/
def exitInterrupt (m : Machine) : InterruptionInformation :=
  InterruptionInformation.ofFlags ((m.vmcs .vmexitInterruptionInformation).setWidth 32)

section Branches

variable (m : Machine) (gc : GuestContext)

/-- A `#UD` exit turns `increment_rip` off and goes by what `get_syscall_state` answers; only the
`page_fault` answer can have changed the machine. -/
theorem vmxHandleException_undefinedOpcode (hv : (exitInterrupt m).vector = invalidOpcode) :
    vmxHandleException m gc =
      let gc := { gc with incrementRip := false }
      match (getSyscallState m gc).1 with
      | .pageFault => ((getSyscallState m gc).2, gc)
      | .isSyscall => emulateSyscall m gc
      | .isSysret => emulateSysret m gc
      | .none => (m.injectInvalidOpcode, gc) := by
  have hnmi : ¬((exitInterrupt m).interruptionType = nonMaskableInterrupt ∧ (exitInterrupt m).vector = nmi) :=
    fun h => by rw [hv] at h; exact absurd h.2 (by decide)
  simp only [exitInterrupt] at hv hnmi
  simp only [vmxHandleException, Machine.readVmx_eq, if_neg hnmi, if_pos hv]
  rcases h : getSyscallState m { gc with incrementRip := false } with ⟨state, m'⟩
  have hm := getSyscallState_machine m { gc with incrementRip := false }
  rw [h] at hm
  cases state <;> simp at hm ⊢ <;> rw [hm]

theorem getSyscallState_incrementRip (b : Bool) :
    getSyscallState m { gc with incrementRip := b } = getSyscallState m gc := by
  simp only [getSyscallState]

@[simp] theorem emulateSyscall_memory : (emulateSyscall m gc).1.memory = m.memory := rfl
@[simp] theorem emulateSysret_memory : (emulateSysret m gc).1.memory = m.memory := rfl

@[simp] theorem emulateSyscall_pendingEvent : (emulateSyscall m gc).1.pendingEvent = m.pendingEvent := by
  simp [emulateSyscall, Machine.pendingEvent, Machine.writeSegment]

@[simp] theorem emulateSysret_pendingEvent : (emulateSysret m gc).1.pendingEvent = m.pendingEvent := by
  simp [emulateSysret, Machine.pendingEvent, Machine.writeSegment]

/-- Re-injection puts the exit's event, as read, in the interruption-information field, and its
error code in the error-code field. -/
theorem reinjectEvent_vmcs (flags : BitVec 32) :
    (reinjectEvent m flags).vmcs .vmentryInterruptionInformationField = flags.setWidth 64 ∧
      ((InterruptionInformation.ofFlags flags).deliverErrorCode →
        (reinjectEvent m flags).vmcs .vmentryExceptionErrorCode = m.vmcs .vmexitInterruptionErrorCode) := by
  unfold reinjectEvent
  split_ifs with h <;> simp [h]

/-- When the instruction bytes of a `#UD` cannot be read, the guest resumes at the same RIP with
no event pending: the `#PF` that `inject_page_fault` asks for is lost, and a failed copy asks for
nothing. -/
theorem vmxHandleException_pageFault (hv : (exitInterrupt m).vector = invalidOpcode)
    (hs : (getSyscallState m gc).1 = .pageFault) (hpend : m.pendingEvent = none) :
    (vmxHandleException m gc).1.pendingEvent = none ∧
      (vmxHandleException m gc).1.vmcs .guestRip = m.vmcs .guestRip ∧
      (vmxHandleException m gc).2.incrementRip = false := by
  rw [vmxHandleException_undefinedOpcode m gc hv]
  simp only [getSyscallState_incrementRip, hs, and_true]
  rcases getSyscallState_machine_cases m gc with h | ⟨a, h⟩ <;> rw [h]
  · exact ⟨hpend, rfl⟩
  · exact ⟨Machine.pendingEvent_injectPageFault m a, by simp [Machine.injectPageFault]⟩

end Branches

/-! ## SYSCALL and SYSRETQ in the architecture -/

/-- The guest registers that SYSCALL and SYSRETQ act on. -/
structure SyscallRegisters where
  rip : BitVec 64
  rflags : BitVec 64
  rcx : BitVec 64
  r11 : BitVec 64
  cs : GdtEntry
  ss : GdtEntry
  deriving DecidableEq, Repr

/-- What an instruction does to the guest: raise an exception with an error code, or leave new
registers. -/
inductive Outcome
  | fault (vector : BitVec 8) (errorCode : BitVec 32)
  | done (registers : SyscallRegisters)
  deriving DecidableEq, Repr

/-- The `#GP` vector. -/
def generalProtection : BitVec 8 := 13

/-- The access rights of the flat segments SYSCALL and SYSRETQ load: base 0, limit `0xFFFFF`
with `G = 1`, `S = 1`, `P = 1`, and the given type, DPL, `L` and `D/B`. -/
def flatAccessRights (type dpl : Nat) (longMode defaultBig : Bool) : BitVec 32 :=
  BitVec.ofNat 32 (type + 0x10 + dpl * 0x20 + 0x80 + longMode.toNat * 0x2000 +
    defaultBig.toNat * 0x4000 + 0x8000)

/-- A canonical address for 48-bit linear addresses: bits 63 to 47 are all equal. -/
def canonical (x : BitVec 64) : Bool :=
  x.toNat < 2 ^ 47 || 2 ^ 64 - 2 ^ 47 ≤ x.toNat

/-- SYSCALL in 64-bit mode with `EFER.SCE = 1`, as the architecture specifies it. -/
def architecturalSyscall (star lstar fmask : BitVec 64) (s : SyscallRegisters) : Outcome :=
  let selector := star.extractLsb' 32 16
  .done { rip := lstar
          rflags := s.rflags &&& ~~~fmask &&& ~~~rflagsResumeFlag
          rcx := s.rip + 2
          r11 := s.rflags
          cs := ⟨0, 0xFFFFF, flatAccessRights 11 0 true false, selector &&& 0xFFFC⟩
          ss := ⟨0, 0xFFFFF, flatAccessRights 3 0 false true, selector + 8⟩ }

/-- SYSRETQ in 64-bit mode with `EFER.SCE = 1`, as the architecture specifies it: `#GP(0)` and no
change unless the guest is at privilege level 0 (`CS.RPL`) and RCX is canonical. -/
def architecturalSysret (star : BitVec 64) (s : SyscallRegisters) : Outcome :=
  let selector := star.extractLsb' 48 16
  if s.cs.selector &&& 3 ≠ 0 ∨ canonical s.rcx = false then .fault generalProtection 0
  else .done { s with
    rip := s.rcx
    rflags := (s.r11 &&& 0x3C7FD7) ||| 2
    cs := ⟨0, 0xFFFFF, flatAccessRights 11 3 true false, (selector + 16) ||| 3⟩
    ss := ⟨0, 0xFFFFF, flatAccessRights 3 3 false true, (selector + 8) ||| 3⟩ }

/-- The guest registers SYSCALL and SYSRETQ act on, read from the VMCS and the saved frame. -/
def syscallRegisters (m : Machine) (regs : Context) : SyscallRegisters :=
  ⟨m.vmcs .guestRip, m.vmcs .guestRflags, regs.rcx, regs.r11, m.segment .cs, m.segment .ss⟩

/-- What the guest meets when the exit returns: the event pending for the next entry, or else the
registers the exit left. -/
def exitOutcome (r : Machine × GuestContext) : Outcome :=
  match r.1.pendingEvent with
  | some e =>
    .fault e.vector (if e.deliverErrorCode then (r.1.vmcs .vmentryExceptionErrorCode).setWidth 32 else 0)
  | none => .done (syscallRegisters r.1 r.2.vpRegs)

section Agreement

variable (m : Machine) (gc : GuestContext)

theorem emulateSyscall_registers :
    syscallRegisters (emulateSyscall m gc).1 (emulateSyscall m gc).2.vpRegs =
      ⟨m.msr .lstar, gc.guestEFlags &&& ~~~(m.msr .fmask ||| rflagsResumeFlag),
        gc.guestRip + m.vmcs .vmexitInstructionLength, gc.guestEFlags,
        ⟨0, 0xFFFFF, 0xA09B, ((m.msr .star >>> 32) &&& ~~~3).setWidth 16⟩,
        ⟨0, 0xFFFFF, 0xC093, (((m.msr .star >>> 32) &&& ~~~3) + 8).setWidth 16⟩⟩ := by
  simp [emulateSyscall, syscallRegisters, Machine.segment, Machine.writeSegment]

theorem emulateSysret_registers :
    syscallRegisters (emulateSysret m gc).1 (emulateSysret m gc).2.vpRegs =
      ⟨gc.vpRegs.rcx, (gc.vpRegs.r11 &&& 0x3C7FD7) ||| 2, gc.vpRegs.rcx, gc.vpRegs.r11,
        ⟨0, 0xFFFFF, 0xA0FB, (((m.msr .star >>> 48) + 16) ||| 3).setWidth 16⟩,
        ⟨0, 0xFFFFF, 0xC0F3, (((m.msr .star >>> 48) + 8) ||| 3).setWidth 16⟩⟩ := by
  simp [emulateSysret, syscallRegisters, Machine.segment, Machine.writeSegment]

theorem setWidth_ushiftRight (x : BitVec 64) (start : Nat) :
    (x >>> start).setWidth 16 = x.extractLsb' start 16 := by
  apply BitVec.eq_of_toNat_eq
  simp

theorem and_not_or (x y z : BitVec 64) : x &&& ~~~(y ||| z) = x &&& ~~~y &&& ~~~z := by
  ext i
  simp only [BitVec.getLsbD_and, BitVec.getLsbD_not, BitVec.getLsbD_or]
  cases x.getLsbD i <;> cases y.getLsbD i <;> cases z.getLsbD i <;> simp

/-- SYSCALL is performed as the architecture does it when the exit reports its length (2) and the
code selector in `STAR[47:32]` has RPL 0, as it has for a kernel's `STAR`. -/
theorem syscall_matches_architecture (hv : (exitInterrupt m).vector = invalidOpcode)
    (hs : (getSyscallState m gc).1 = .isSyscall) (hlen : m.vmcs .vmexitInstructionLength = 2)
    (hstar : (m.msr .star).extractLsb' 32 2 = 0) (hpend : m.pendingEvent = none)
    (hrip : m.vmcs .guestRip = gc.guestRip) (hfl : m.vmcs .guestRflags = gc.guestEFlags) :
    exitOutcome (vmxHandleException m gc) =
      architecturalSyscall (m.msr .star) (m.msr .lstar) (m.msr .fmask) (syscallRegisters m gc.vpRegs) := by
  have h3 : (3 : BitVec 64).toNat = 2 ^ 2 - 1 := rfl
  have hs' : (m.msr .star >>> 32).toNat % 4 = 0 := by
    simpa [Nat.shiftRight_eq_div_pow] using congrArg BitVec.toNat hstar
  have hcs : ((m.msr .star >>> 32) &&& ~~~3).setWidth 16 = (m.msr .star).extractLsb' 32 16 &&& 0xFFFC := by
    rw [show (0xFFFC : BitVec 16) = ~~~3 from rfl]
    apply BitVec.eq_of_toNat_eq
    rw [BitVec.toNat_setWidth, toNat_and_not_lowMask _ _ h3,
      toNat_and_not_lowMask _ _ (show (3 : BitVec 16).toNat = 2 ^ 2 - 1 from rfl),
      ← setWidth_ushiftRight, BitVec.toNat_setWidth]
    omega
  have hss : (((m.msr .star >>> 32) &&& ~~~3) + 8).setWidth 16 = (m.msr .star).extractLsb' 32 16 + 8 := by
    apply BitVec.eq_of_toNat_eq
    rw [BitVec.toNat_setWidth, BitVec.toNat_add, toNat_and_not_lowMask _ _ h3, BitVec.toNat_add,
      ← setWidth_ushiftRight, BitVec.toNat_setWidth]
    have := (m.msr .star >>> 32).isLt
    rw [show (8 : BitVec 64).toNat = 8 from rfl, show (8 : BitVec 16).toNat = 8 from rfl]
    omega
  rw [vmxHandleException_undefinedOpcode m gc hv]
  simp only [getSyscallState_incrementRip, hs]
  simp only [exitOutcome, emulateSyscall_pendingEvent, hpend, emulateSyscall_registers]
  simp only [architecturalSyscall, syscallRegisters, hrip, hfl, hlen, and_not_or, hcs, hss]
  rfl

/-- SYSRETQ is performed as the architecture does it when the guest is at privilege level 0 and
RCX is canonical. -/
theorem sysret_matches_architecture (hv : (exitInterrupt m).vector = invalidOpcode)
    (hs : (getSyscallState m gc).1 = .isSysret) (hcpl : (m.segment .cs).selector &&& 3 = 0)
    (hcan : canonical gc.vpRegs.rcx = true) (hpend : m.pendingEvent = none) :
    exitOutcome (vmxHandleException m gc) = architecturalSysret (m.msr .star) (syscallRegisters m gc.vpRegs) := by
  have hsel (k : BitVec 64) : (((m.msr .star >>> 48) + k) ||| 3).setWidth 16 =
      ((m.msr .star).extractLsb' 48 16 + k.setWidth 16) ||| 3 := by
    rw [BitVec.setWidth_or, BitVec.setWidth_add _ _ (by omega), setWidth_ushiftRight]
    rfl
  rw [vmxHandleException_undefinedOpcode m gc hv]
  simp only [getSyscallState_incrementRip, hs]
  simp only [exitOutcome, emulateSysret_pendingEvent, hpend, emulateSysret_registers]
  simp only [architecturalSysret, syscallRegisters, hcpl, hcan, hsel]
  rfl

end Agreement

/-- A `#UD` exit at RIP `0x1000` in an unmapped page: the handler leaves RIP as it was, turns
`increment_rip` off, sets CR2, and leaves no event pending, so the guest runs the same
instruction again. -/
theorem undefined_opcode_on_unmapped_page_resumes_without_event :
    let mem : GuestMemory := ⟨fun _ _ => none, fun _ => true, fun _ => 0, fun _ _ => Option.noConfusion⟩
    let vmcs : VmcsField → BitVec 64 := fun f =>
      if f = .vmexitInterruptionInformation then 0x80000306 else if f = .guestRip then 0x1000 else 0
    let m : Machine := ⟨vmcs, fun _ => 0, fun _ _ => ⟨0, 0, 0, 0⟩, fun _ => 0, 0, 0, 0, 0, 0, mem⟩
    let gc : GuestContext := ⟨⟨0, 0, 0, 0, 0, 0, 0, 0⟩, 0x1000, 0, 0, 0, 0, 0, false, true⟩
    let r := vmxHandleException m gc
    r.1.pendingEvent = none ∧ r.1.cr2 = 0x1000 ∧ r.1.vmcs .guestRip = 0x1000 ∧
      r.1.vmcs .vmentryInterruptionInformationField = 0 ∧ r.2.incrementRip = false := by
  decide

/-- A user-mode `SYSRETQ` (CS selector `0x33`, privilege level 3) at RIP `0x1000`: the architecture
raises `#GP(0)`, and the handler returns to RCX in ring 3. -/
theorem sysret_from_user_mode_is_emulated :
    let mem : GuestMemory :=
      ⟨fun _ page => if page = 1 then some 2 else none, fun _ => true,
        fun pa => if pa = 0x2000 then 0x48 else if pa = 0x2001 then 0x0F else if pa = 0x2002 then 0x07 else 0,
        fun _ page => by dsimp only; split <;> decide⟩
    let vmcs : VmcsField → BitVec 64 := fun f =>
      if f = .vmexitInterruptionInformation then 0x80000306
      else if f = .guestRip then 0x1000
      else if f = .guestSelector .cs then 0x33
      else if f = .vmexitInstructionLength then 3 else 0
    let m : Machine :=
      ⟨vmcs, fun r => if r = .star then 0x0023001000000000 else 0, fun _ _ => ⟨0, 0, 0, 0⟩, fun _ => 0,
        0, 0, 0, 0, 0, mem⟩
    let gc : GuestContext := ⟨⟨0, 0, 0x401000, 0, 0, 0, 0, 0⟩, 0x1000, 0, 0, 0, 0, 0, false, true⟩
    architecturalSysret (m.msr .star) (syscallRegisters m gc.vpRegs) = .fault generalProtection 0 ∧
      exitOutcome (vmxHandleException m gc) =
        .done ⟨0x401000, 2, 0x401000, 0, ⟨0, 0xFFFFF, 0xA0FB, 0x33⟩, ⟨0, 0xFFFFF, 0xC0F3, 0x2B⟩⟩ := by
  decide

end HyperHook

import HyperHook.Vmx.Dispatch

/-!
# Enabling and disabling the hypervisor on every core

`hypervisor::enable` runs `try_enable_core` on every processor (`dispatch_on_all_cores`); if any
core fails, it runs `disable` and throws. `enable_core` checks VMX support, forces CR0 and CR4 to
the fixed bits of VMX operation, executes VMXON, loads the VMCS and launches; the launched core
continues as the guest, checks `is_hypervisor_present` and turns the syscall hooks on with a
CPUID cookie. `disable_core` issues the other cookie, which the exit handler answers by leaving
VMX operation, and halts the system (`KeBugCheckEx`) if the hypervisor still answers.

A core is `off` (outside VMX operation), in `root` operation (between VMXON and a launch or
VMXOFF, never between two calls) or in `nonRoot` operation (virtualised). What the processor
answers at each step of `enable_core` is a `CoreHardware`; a CPUID on a virtualised core is
answered by the exit handler of `Dispatch`.

**Theorem (`lifecycle_all_or_nothing`).** From cores outside VMX operation, after any sequence of
`enable` and `disable` calls that has not halted, either every core is virtualised or none is;
and from there, `enable` returns with every core virtualised, throws with none, or halts, and
`disable` leaves none virtualised or halts.

**Theorem (`enable_core_control_registers`).** `enable_core` restores neither CR0 nor CR4: unless
it fails before `enter_root_mode_on_cpu` writes them, they keep the fixed bits forced on them,
also after `disable_core` (`vmxe_stays_set_after_enable_core`), though `special_registers` is
documented as the state from before VMX root operation, to be restored on exit.
-/

namespace HyperHook

/-! ## One core -/

/-- Whether a processor is in VMX operation, and which. -/
inductive CoreMode
  | off
  | root
  | nonRoot
  deriving DecidableEq, Repr

/-- One logical processor and its per-CPU state. -/
structure Core where
  mode : CoreMode
  machine : Machine

/-- What one processor answers to the steps of `enable_core`. -/
structure CoreHardware where
  /-- `is_vmx_supported() && is_vmx_available()` -/
  vmxUsable : Bool
  /-- `IA32_VMX_BASIC` passes the VMCS size, memory type and must-be-zero checks -/
  vmxBasicValid : Bool
  /-- The low halves of `IA32_VMX_CR0_FIXED0`, `IA32_VMX_CR0_FIXED1`, `IA32_VMX_CR4_FIXED0` and
  `IA32_VMX_CR4_FIXED1` (`msr_data[6..9].LowPart`) -/
  cr0Fixed0 : BitVec 32
  cr0Fixed1 : BitVec 32
  cr4Fixed0 : BitVec 32
  cr4Fixed1 : BitVec 32
  /-- `__vmx_on` succeeds when executed outside VMX operation -/
  vmxonSucceeds : Bool
  /-- `__vmx_vmclear` and `__vmx_vmptrld` succeed -/
  vmcsLoads : Bool
  /-- `__vmx_vmlaunch` succeeds -/
  launchSucceeds : Bool
  deriving DecidableEq, Repr

/-- A CPUID exit with the given RAX and RCX. -/
def cpuidExit (rax rcx : BitVec 64) : GuestContext :=
  ⟨⟨rax, 0, rcx, 0, 0, 0, 0, 0⟩, 0, 0, 0, 0, exitReasonExecuteCpuid, 0, false, true⟩

/-- CPUID as a virtualised core sees it: answered by `vmx_handle_cpuid`, read back in the low
halves of the registers. -/
def guestCpuid (m : Machine) (leaf subleaf : BitVec 32) : CpuidResult :=
  let regs := (vmxHandleCpuid m (cpuidExit (leaf.setWidth 64) (subleaf.setWidth 64))).2.vpRegs
  ⟨regs.rax.setWidth 32, regs.rbx.setWidth 32, regs.rcx.setWidth 32, regs.rdx.setWidth 32⟩

/-- CPUID as the code on a core sees it. -/
def Core.cpuid (c : Core) : BitVec 32 → BitVec 32 → CpuidResult :=
  match c.mode with
  | .nonRoot => guestCpuid c.machine
  | _ => c.machine.cpuid

/-- `is_hypervisor_present()`: `CPUID(1)` has ECX bit 31 and `CPUID(0x40000001)` has
`EAX = 'momo'`. -/
def isHypervisorPresent (cpuid : BitVec 32 → BitVec 32 → CpuidResult) : Bool :=
  (cpuid 1 0).ecx &&& hypervHypervisorPresentBit != 0 && (cpuid 0x40000001 0).eax == momo

/-- `hypervisor::is_enabled()`, run on a core. -/
def Core.isEnabled (c : Core) : Bool := isHypervisorPresent c.cpuid

/-- `__cpuidex` executed on a core. On a virtualised core it exits to `vmx_handle_cpuid`; when the
handler asks to leave, `vm_exit_handler` restores the guest CR3 and executes VMXOFF, and the core
goes on outside VMX operation. Elsewhere CPUID does not exit. -/
def Core.executeCpuid (c : Core) (rax rcx : BitVec 64) : Core :=
  match c.mode with
  | .nonRoot =>
    let (m, gc) := vmxHandleCpuid c.machine (cpuidExit rax rcx)
    if gc.exitVm then ⟨.off, { m with cr3 := m.vmcs .guestCr3 }⟩ else ⟨.nonRoot, m⟩
  | _ => c

/-- `enter_root_mode_on_cpu`'s adjustment of a control register: `&= FIXED1.LowPart`,
`|= FIXED0.LowPart`. -/
def fixControlRegister (value : BitVec 64) (fixed0 fixed1 : BitVec 32) : BitVec 64 :=
  (value &&& fixed1.setWidth 64) ||| fixed0.setWidth 64

/-- The CR0 and CR4 writes of `enter_root_mode_on_cpu`. -/
def Core.fixControlRegisters (c : Core) (hw : CoreHardware) : Core :=
  { c with machine := { c.machine with
      cr0 := fixControlRegister c.machine.cr0 hw.cr0Fixed0 hw.cr0Fixed1
      cr4 := fixControlRegister c.machine.cr4 hw.cr4Fixed0 hw.cr4Fixed1 } }

/-- `try_enable_core` (`enable_core` and the `catch` around it): whether it succeeded, and the
core afterwards. VMXON inside VMX operation fails: from non-root operation it exits to
`vmx_handle_vmx`, which sets CF. A failure after VMXON runs `__vmx_off` (the `finally` of
`enter_root_mode_on_cpu`, or `launch_vmx`). A launched core continues as the guest at the
capture point, checks `is_hypervisor_present` and issues the syscall-hooking cookie. -/
def tryEnableCore (hw : CoreHardware) (c : Core) : Bool × Core :=
  if !hw.vmxUsable then (false, c)
  else if !hw.vmxBasicValid then (false, c)
  else
    let c := c.fixControlRegisters hw
    match c.mode with
    | .off =>
      if !hw.vmxonSucceeds then (false, c)
      else
        let c := { c with mode := .root }
        if !hw.vmcsLoads then (false, { c with mode := .off })
        else if !hw.launchSucceeds then (false, { c with mode := .off })
        else
          let c := { c with mode := .nonRoot }
          if !c.isEnabled then (false, c)
          else (true, c.executeCpuid 0x41414141 0x42424243)
    | _ => (false, c)

/-- `disable_core`: the cookie CPUID, then `KeBugCheckEx` (`none`) if the hypervisor still answers. -/
def disableCore (c : Core) : Option Core :=
  let c := c.executeCpuid 0x41414141 0x42424242
  if c.isEnabled then none else some c

theorem setWidth_signExtend (x : BitVec 32) : (x.signExtend 64).setWidth 32 = x := by
  ext i
  simp [BitVec.getLsbD_setWidth, BitVec.getLsbD_signExtend]
  omega

/-- A virtualised core always finds the hypervisor present: the exit handler sets the bit of
leaf 1 and answers `'momo'` for leaf `0x40000001`. -/
theorem isHypervisorPresent_guestCpuid (m : Machine) : isHypervisorPresent (guestCpuid m) = true := by
  have h31 : (0x80000000#32).getLsbD 31 = true := by decide
  simp [isHypervisorPresent, guestCpuid, vmxHandleCpuid, cpuidExit, cpuInfo, setWidth_signExtend,
    hypervCpuidInterface, hypervHypervisorPresentBit]
  intro h
  simpa [h31] using congrArg (fun v => BitVec.getLsbD v 31) h

theorem Core.isEnabled_of_nonRoot {c : Core} (h : c.mode = .nonRoot) : c.isEnabled = true := by
  rw [Core.isEnabled, Core.cpuid, h]
  exact isHypervisorPresent_guestCpuid _

@[simp] theorem fixControlRegisters_mode (c : Core) (hw : CoreHardware) :
    (c.fixControlRegisters hw).mode = c.mode := rfl

theorem executeCpuid_not_root {c : Core} (h : c.mode ≠ .root) (rax rcx : BitVec 64) :
    (c.executeCpuid rax rcx).mode ≠ .root := by
  unfold Core.executeCpuid
  split
  · dsimp only
    split <;> simp
  · exact h

/-- Only the leaving cookie takes a virtualised core out of VMX operation. -/
theorem executeCpuid_nonRoot {c : Core} (h : c.mode = .nonRoot) {rcx : BitVec 64} (hrcx : rcx ≠ 0x42424242)
    (rax : BitVec 64) : (c.executeCpuid rax rcx).mode = .nonRoot := by
  rw [Core.executeCpuid, h]
  dsimp only
  rw [vmxHandleCpuid_exitVm_of_ne _ _ hrcx]
  rfl

@[simp] theorem executeCpuid_cr0 (c : Core) (rax rcx : BitVec 64) :
    (c.executeCpuid rax rcx).machine.cr0 = c.machine.cr0 := by
  unfold Core.executeCpuid
  split
  · dsimp only
    split <;> simp
  · rfl

@[simp] theorem executeCpuid_cr4 (c : Core) (rax rcx : BitVec 64) :
    (c.executeCpuid rax rcx).machine.cr4 = c.machine.cr4 := by
  unfold Core.executeCpuid
  split
  · dsimp only
    split <;> simp
  · rfl

/-- What `try_enable_core` can return: the core untouched when the VMX checks fail; otherwise, with
CR0 and CR4 fixed, a failure before VMXON or at it, a failure after VMXON (`__vmx_off`), or a
launched core that has issued the syscall-hooking cookie. The failed presence check cannot happen:
a virtualised core always finds the hypervisor. -/
theorem tryEnableCore_cases (hw : CoreHardware) (c : Core) :
    (hw.vmxUsable && hw.vmxBasicValid) = false ∧ tryEnableCore hw c = (false, c) ∨
      (hw.vmxUsable && hw.vmxBasicValid) = true ∧
        (tryEnableCore hw c = (false, c.fixControlRegisters hw) ∨
          c.mode = .off ∧ tryEnableCore hw c = (false, { c.fixControlRegisters hw with mode := .off }) ∨
          c.mode = .off ∧ tryEnableCore hw c =
            (true, { c.fixControlRegisters hw with mode := .nonRoot }.executeCpuid 0x41414141 0x42424243)) := by
  unfold tryEnableCore
  cases hw.vmxUsable <;> cases hw.vmxBasicValid <;> simp only [Bool.not_false, Bool.not_true, Bool.false_eq_true,
    ↓reduceIte, Bool.and_false, Bool.and_true, true_and, false_and, or_false, false_or, and_true, reduceCtorEq]
  cases hm : c.mode <;> simp only [fixControlRegisters_mode, hm, true_and]
  case off =>
    cases hw.vmxonSucceeds
    · exact .inl rfl
    cases hw.vmcsLoads
    · exact .inr (.inl rfl)
    cases hw.launchSucceeds
    · exact .inr (.inl rfl)
    simp only [Bool.not_true, Bool.false_eq_true, ↓reduceIte, Core.isEnabled_of_nonRoot]
    exact .inr (.inr trivial)
  all_goals exact .inl trivial

/-- A core that `try_enable_core` reports enabled is virtualised. -/
theorem tryEnableCore_success (hw : CoreHardware) (c : Core) (h : (tryEnableCore hw c).1 = true) :
    (tryEnableCore hw c).2.mode = .nonRoot := by
  rcases tryEnableCore_cases hw c with ⟨-, he⟩ | ⟨-, he | ⟨-, he⟩ | ⟨-, he⟩⟩ <;> rw [he] at h ⊢
  all_goals first | exact executeCpuid_nonRoot rfl (by decide) _ | cases h

/-- `try_enable_core` never leaves a core in root operation. -/
theorem tryEnableCore_not_root (hw : CoreHardware) (c : Core) (h : c.mode ≠ .root) :
    (tryEnableCore hw c).2.mode ≠ .root := by
  rcases tryEnableCore_cases hw c with ⟨-, he⟩ | ⟨-, he | ⟨-, he⟩ | ⟨-, he⟩⟩ <;> rw [he]
  · exact h
  · exact h
  · exact (by decide : CoreMode.off ≠ .root)
  · exact executeCpuid_not_root (by decide : CoreMode.nonRoot ≠ .root) _ _

/-- What `disable_core` returns: the core after the cookie, which no longer finds the hypervisor
present. -/
theorem disableCore_some {c c' : Core} (hd : disableCore c = some c') :
    c' = c.executeCpuid 0x41414141 0x42424242 ∧ c'.isEnabled = false := by
  dsimp only [disableCore] at hd
  split_ifs at hd with he
  cases hd
  exact ⟨rfl, by simpa using he⟩

/-- `disable_core` that returns has taken its core out of VMX operation. -/
theorem disableCore_off (c c' : Core) (h : c.mode ≠ .root) (hd : disableCore c = some c') :
    c'.mode = .off := by
  obtain ⟨rfl, he⟩ := disableCore_some hd
  cases hm : (c.executeCpuid 0x41414141 0x42424242).mode
  · rfl
  · exact absurd hm (executeCpuid_not_root h _ _)
  · rw [Core.isEnabled_of_nonRoot hm] at he
    cases he

/-! ## Every core -/

/-- How a call of `enable` or `disable` ends: it returns, it throws `std::runtime_error`, or
`KeBugCheckEx` halts the system. -/
inductive CallResult
  | returned (cores : List Core)
  | threw (cores : List Core)
  | halted

/-- The cores after a call that returned or threw. -/
def CallResult.cores? : CallResult → Option (List Core)
  | .returned cores => some cores
  | .threw cores => some cores
  | .halted => none

/-- `hypervisor::disable()`: `disable_core` on every core. -/
def disable (cores : List Core) : Option (List Core) :=
  cores.mapM disableCore

/-- `hypervisor::enable()`: `try_enable_core` on every core with its own answers; if any failed,
`disable()` and a throw. -/
def enable (hw : Nat → CoreHardware) (cores : List Core) : CallResult :=
  let results := cores.mapIdx fun i c => tryEnableCore (hw i) c
  let cores := results.map Prod.snd
  if results.all Prod.fst then .returned cores
  else
    match disable cores with
    | some cores => .threw cores
    | none => .halted

/-! ## All or nothing -/

/-- Every core virtualised, or none in VMX operation. -/
def AllOrNone (cores : List Core) : Prop :=
  (∀ c ∈ cores, c.mode = .nonRoot) ∨ (∀ c ∈ cores, c.mode = .off)

/-- What `enable` promises: it returns with every core virtualised, throws with none in VMX
operation, or halts. -/
def CallResult.Settled : CallResult → Prop
  | .returned cores => ∀ c ∈ cores, c.mode = .nonRoot
  | .threw cores => ∀ c ∈ cores, c.mode = .off
  | .halted => True

/-- What `disable` promises: no core in VMX operation, or a halt. -/
def DisableSettled : Option (List Core) → Prop
  | some cores => ∀ c ∈ cores, c.mode = .off
  | none => True

theorem AllOrNone.not_root {cores : List Core} (h : AllOrNone cores) : ∀ c ∈ cores, c.mode ≠ .root := by
  rcases h with h | h <;> intro c hc <;> simp [h c hc]

theorem disable_cons (c : Core) (cores : List Core) :
    disable (c :: cores) = (disableCore c).bind fun c' => (disable cores).map (c' :: ·) := by
  simp only [disable, List.mapM_cons]
  cases disableCore c <;> cases cores.mapM disableCore <;> rfl

/-- Every core that `disable` returns is one that `disable_core` returned. -/
theorem mem_disable {cores cs : List Core} (h : disable cores = some cs) :
    ∀ c' ∈ cs, ∃ c ∈ cores, disableCore c = some c' := by
  induction cores generalizing cs with
  | nil =>
    cases h
    exact fun _ hc => nomatch hc
  | cons c cores ih =>
    rw [disable_cons] at h
    obtain ⟨c₁, hc₁, h⟩ := Option.bind_eq_some.mp h
    obtain ⟨cs', hcs', rfl⟩ := Option.map_eq_some'.mp h
    intro c' hc'
    rcases List.mem_cons.mp hc' with rfl | hc'
    · exact ⟨c, List.mem_cons_self _ _, hc₁⟩
    · obtain ⟨c₂, hc₂, h₂⟩ := ih hcs' c' hc'
      exact ⟨c₂, List.mem_cons_of_mem _ hc₂, h₂⟩

/-- `disable` keeps every core. -/
theorem disable_length {cores cs : List Core} (h : disable cores = some cs) : cs.length = cores.length := by
  induction cores generalizing cs with
  | nil => cases h; rfl
  | cons c cores ih =>
    rw [disable_cons] at h
    obtain ⟨_, -, h⟩ := Option.bind_eq_some.mp h
    obtain ⟨cs', hcs', rfl⟩ := Option.map_eq_some'.mp h
    simp [ih hcs']

/-- `enable` keeps every core, whether it returns or throws. -/
theorem enable_length {hw : Nat → CoreHardware} {cores cs : List Core} (h : (enable hw cores).cores? = some cs) :
    cs.length = cores.length := by
  unfold enable at h
  dsimp only at h
  split_ifs at h
  · cases h; simp
  · split at h
    · cases h; exact (disable_length ‹_›).trans (by simp)
    · cases h

theorem disable_settled (cores : List Core) (h : ∀ c ∈ cores, c.mode ≠ .root) :
    DisableSettled (disable cores) := by
  cases hd : disable cores with
  | none => trivial
  | some cs =>
    intro c' hc'
    obtain ⟨c, hc, h'⟩ := mem_disable hd c' hc'
    exact disableCore_off c c' (h c hc) h'

/-- The cores that `enable` hands to `disable` are not in root operation. -/
theorem tryEnableCore_all_not_root (hw : Nat → CoreHardware) (cores : List Core) (h : ∀ c ∈ cores, c.mode ≠ .root) :
    ∀ c ∈ (cores.mapIdx fun i c => tryEnableCore (hw i) c).map Prod.snd, c.mode ≠ .root := by
  intro c hc
  obtain ⟨r, hr, rfl⟩ := List.mem_map.mp hc
  obtain ⟨i, hi, rfl⟩ := List.mem_mapIdx.mp hr
  exact tryEnableCore_not_root _ _ (h _ (List.getElem_mem hi))

theorem enable_settled (hw : Nat → CoreHardware) (cores : List Core) (h : ∀ c ∈ cores, c.mode ≠ .root) :
    (enable hw cores).Settled := by
  dsimp only [enable]
  split_ifs with hall
  · intro c hc
    obtain ⟨r, hr, rfl⟩ := List.mem_map.mp hc
    obtain ⟨i, hi, rfl⟩ := List.mem_mapIdx.mp hr
    exact tryEnableCore_success _ _ (List.all_eq_true.mp hall _ hr)
  · have hd := disable_settled _ (tryEnableCore_all_not_root hw cores h)
    split
    · rename_i cs hcs
      rwa [hcs] at hd
    · trivial

/-- A processor on which every step of `enable_core` succeeds. -/
def CoreHardware.Accepts (hw : CoreHardware) : Prop :=
  hw.vmxUsable = true ∧ hw.vmxBasicValid = true ∧ hw.vmxonSucceeds = true ∧ hw.vmcsLoads = true ∧
    hw.launchSucceeds = true

theorem tryEnableCore_of_accepts {hw : CoreHardware} (h : hw.Accepts) {c : Core} (hc : c.mode = .off) :
    (tryEnableCore hw c).1 = true := by
  obtain ⟨h₁, h₂, h₃, h₄, h₅⟩ := h
  simp [tryEnableCore, h₁, h₂, h₃, h₄, h₅, hc, Core.isEnabled_of_nonRoot]

/-- `enable` on cores outside VMX operation whose processors all accept returns with every core
virtualised. -/
theorem enable_of_accepts {hw : Nat → CoreHardware} (h : ∀ i, (hw i).Accepts) {cores : List Core}
    (hoff : ∀ c ∈ cores, c.mode = .off) : ∃ cs, enable hw cores = .returned cs ∧ ∀ c ∈ cs, c.mode = .nonRoot := by
  have hall : (cores.mapIdx fun i c => tryEnableCore (hw i) c).all Prod.fst = true := by
    rw [List.all_eq_true]
    intro r hr
    obtain ⟨i, hi, rfl⟩ := List.mem_mapIdx.mp hr
    exact tryEnableCore_of_accepts (h i) (hoff _ (List.getElem_mem hi))
  have hs := enable_settled hw cores fun c hc => by rw [hoff c hc]; decide
  dsimp only [enable] at hs ⊢
  rw [if_pos hall] at hs ⊢
  exact ⟨_, rfl, hs⟩

/-! ## Any sequence of calls -/

/-- A call of the driver's interface. -/
inductive Call
  | enable (hw : Nat → CoreHardware)
  | disable

/-- One call on the current cores. `disable` returns, or halts. -/
def applyCall : Call → List Core → CallResult
  | .enable hw, cores => enable hw cores
  | .disable, cores =>
    match disable cores with
    | some cores => .returned cores
    | none => .halted

/-- The caller goes on after a call that returned or threw; after a halt nothing runs. -/
def CallResult.andThen : CallResult → Call → CallResult
  | .returned cores, call => applyCall call cores
  | .threw cores, call => applyCall call cores
  | .halted, _ => .halted

/-- A sequence of calls from the given cores. -/
def runLifecycle (cores : List Core) (calls : List Call) : CallResult :=
  calls.foldl CallResult.andThen (.returned cores)

/-- `P` holds of the cores after a call that returned or threw. -/
def CallResult.Holds (P : List Core → Prop) : CallResult → Prop
  | .returned cores => P cores
  | .threw cores => P cores
  | .halted => True

theorem CallResult.Settled.allOrNone {r : CallResult} (h : r.Settled) : r.Holds AllOrNone := by
  cases r with
  | returned cores => exact .inl h
  | threw cores => exact .inr h
  | halted => trivial

theorem CallResult.Holds.of_cores? {P : List Core → Prop} {r : CallResult} {cores : List Core} (h : r.Holds P)
    (hc : r.cores? = some cores) : P cores := by
  cases r <;> cases hc <;> exact h

theorem applyCall_allOrNone (call : Call) {cores : List Core} (h : AllOrNone cores) :
    (applyCall call cores).Holds AllOrNone := by
  cases call with
  | enable hw => exact (enable_settled hw cores h.not_root).allOrNone
  | disable =>
    have hd := disable_settled cores h.not_root
    simp only [applyCall]
    split
    · rename_i cs hcs
      rw [hcs] at hd
      exact .inr hd
    · trivial

theorem runLifecycle_allOrNone (calls : List Call) {r : CallResult} (h : r.Holds AllOrNone) :
    (calls.foldl CallResult.andThen r).Holds AllOrNone := by
  induction calls generalizing r with
  | nil => exact h
  | cons call calls ih =>
    apply ih
    cases r with
    | returned cores => exact applyCall_allOrNone call h
    | threw cores => exact applyCall_allOrNone call h
    | halted => trivial

/-- From cores outside VMX operation, after any calls that have not halted, every core is
virtualised or none is in VMX operation, and the next `enable` and `disable` keep their contracts. -/
theorem lifecycle_all_or_nothing (machines : List Machine) (calls : List Call) :
    (runLifecycle (machines.map (⟨.off, ·⟩)) calls).Holds fun cores =>
      AllOrNone cores ∧ (∀ hw, (enable hw cores).Settled) ∧ DisableSettled (disable cores) := by
  have hrun : (runLifecycle (machines.map (⟨.off, ·⟩)) calls).Holds AllOrNone :=
    runLifecycle_allOrNone calls (.inr fun c hc => by obtain ⟨m, -, rfl⟩ := List.mem_map.mp hc; rfl)
  revert hrun
  cases runLifecycle (machines.map (⟨.off, ·⟩)) calls with
  | halted => intro; trivial
  | returned cores =>
    exact fun h => ⟨h, fun hw => enable_settled hw cores h.not_root, disable_settled cores h.not_root⟩
  | threw cores =>
    exact fun h => ⟨h, fun hw => enable_settled hw cores h.not_root, disable_settled cores h.not_root⟩

/-! ## Control registers -/

@[simp] theorem fixControlRegisters_cr0 (c : Core) (hw : CoreHardware) :
    (c.fixControlRegisters hw).machine.cr0 = fixControlRegister c.machine.cr0 hw.cr0Fixed0 hw.cr0Fixed1 := rfl

@[simp] theorem fixControlRegisters_cr4 (c : Core) (hw : CoreHardware) :
    (c.fixControlRegisters hw).machine.cr4 = fixControlRegister c.machine.cr4 hw.cr4Fixed0 hw.cr4Fixed1 := rfl

/-- `disable_core` writes neither CR0 nor CR4: leaving VMX operation restores only CR3. -/
theorem disableCore_controlRegisters {c c' : Core} (hd : disableCore c = some c') :
    c'.machine.cr0 = c.machine.cr0 ∧ c'.machine.cr4 = c.machine.cr4 := by
  obtain ⟨rfl, -⟩ := disableCore_some hd
  simp

/-- `enable_core` writes CR0 and CR4 once it has passed the VMX support and `IA32_VMX_BASIC`
checks, whatever happens after, and `disable_core` does not write them back. -/
theorem enable_core_control_registers (hw : CoreHardware) (c : Core) :
    ((tryEnableCore hw c).2.machine.cr0, (tryEnableCore hw c).2.machine.cr4) =
        (if hw.vmxUsable && hw.vmxBasicValid then
          (fixControlRegister c.machine.cr0 hw.cr0Fixed0 hw.cr0Fixed1,
            fixControlRegister c.machine.cr4 hw.cr4Fixed0 hw.cr4Fixed1)
        else (c.machine.cr0, c.machine.cr4)) ∧
      ∀ c', disableCore (tryEnableCore hw c).2 = some c' →
        (c'.machine.cr0, c'.machine.cr4) = ((tryEnableCore hw c).2.machine.cr0, (tryEnableCore hw c).2.machine.cr4) := by
  refine ⟨?_, fun c' hd => by rw [(disableCore_controlRegisters hd).1, (disableCore_controlRegisters hd).2]⟩
  rcases tryEnableCore_cases hw c with ⟨hg, he⟩ | ⟨hg, he | ⟨-, he⟩ | ⟨-, he⟩⟩ <;> rw [he, hg]
  · rfl
  · rfl
  · rfl
  · simp

/-- With `IA32_VMX_CR4_FIXED0` forcing CR4.VMXE (bit 13) on a core whose CR4 had it clear: when
VMXON fails, and when `enable_core` succeeds and `disable_core` takes the core out again, the core
is outside VMX operation with CR4.VMXE still set. -/
theorem vmxe_stays_set_after_enable_core :
    let mem : GuestMemory := ⟨fun _ _ => none, fun _ => true, fun _ => 0, fun _ _ => Option.noConfusion⟩
    let c : Core := ⟨.off, ⟨fun _ => 0, fun _ => 0, fun _ _ => ⟨0, 0, 0, 0⟩, fun _ => 0, 0, 0, 0, 0, 0, mem⟩⟩
    let failing : CoreHardware := ⟨true, true, 0, 0xFFFFFFFF, 0x2000, 0xFFFFFFFF, false, true, true⟩
    let launching : CoreHardware := { failing with vmxonSucceeds := true }
    c.machine.cr4 = 0 ∧
      (tryEnableCore failing c).1 = false ∧ (tryEnableCore failing c).2.mode = .off ∧
      (tryEnableCore failing c).2.machine.cr4 = 0x2000 ∧
      (tryEnableCore launching c).1 = true ∧
      ((disableCore (tryEnableCore launching c).2).map fun c => (c.mode, c.machine.cr4)) = some (.off, 0x2000) := by
  decide

end HyperHook

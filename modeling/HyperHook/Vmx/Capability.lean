import HyperHook.Vmx.Control

/-!
# VMX capability MSRs

Each VM-execution, VM-exit and VM-entry control field has a capability MSR: its low half holds
the bits that must be 1 in the field, its high half the bits that may be 1. VM entry fails on a
control field that breaks them. `adjust_msr` builds a control word out of the one the code
wants, `(desired & high) | low`; `enter_root_mode_on_cpu` forces CR0 and CR4 the same way with
the `IA32_VMX_CR*_FIXED*` MSRs. Both are the one shape `(v & allowed) | required`.

**Theorem (`adjust_msr_meets_capability`).** Whenever some control word meets a capability MSR,
the one `adjust_msr` builds meets it, and it keeps every desired bit that the MSR leaves free.

`vmx_enable_syscall_hooks(true)` rebuilds the VM-entry and VM-exit controls from the ones in the
VMCS with `adjust_msr`, against the capability MSRs that VM entry checks (the TRUE ones when
`IA32_VMX_BASIC` bit 55 says they exist): so it keeps them valid, and keeps the IA-32e mode guest
and 64-bit host bits set (`ControlsValid.vmxEnableSyscallHooks`).
-/

namespace HyperHook

/-! ## Masks -/

/-- `v` has every bit of `required` and no bit outside `allowed`. -/
def FitsMasks {w : Nat} (required allowed v : BitVec w) : Prop :=
  required &&& ~~~v = 0 ∧ v &&& ~~~allowed = 0

instance {w : Nat} (required allowed v : BitVec w) : Decidable (FitsMasks required allowed v) :=
  inferInstanceAs (Decidable (_ ∧ _))

section Masks

variable {w : Nat} {required allowed : BitVec w}

theorem getLsbD_of_and_not_eq_zero {x y : BitVec w} (h : x &&& ~~~y = 0) {i : Nat} (hi : i < w)
    (hx : x.getLsbD i = true) : y.getLsbD i = true := by
  have := congrArg (BitVec.getLsbD · i) h
  simp only [BitVec.getLsbD_and, BitVec.getLsbD_not, BitVec.getLsbD_zero, hx, hi] at this
  simpa using this

/-- A word fits the masks only if `required` lies inside `allowed`. -/
theorem FitsMasks.consistent {v : BitVec w} (h : FitsMasks required allowed v) :
    required &&& ~~~allowed = 0 := by
  ext i
  have h₁ := getLsbD_of_and_not_eq_zero h.1 i.isLt
  have h₂ := getLsbD_of_and_not_eq_zero h.2 i.isLt
  simp only [BitVec.getLsbD_and, BitVec.getLsbD_not, BitVec.getLsbD_zero, i.isLt, decide_True,
    Bool.true_and]
  cases hr : required.getLsbD i
  · simp
  · simp [h₂ (h₁ hr)]

/-- `(v & allowed) | required` fits the masks when `required` lies inside `allowed`. -/
theorem fitsMasks_and_or (h : required &&& ~~~allowed = 0) (v : BitVec w) :
    FitsMasks required allowed ((v &&& allowed) ||| required) := by
  constructor <;> ext i
  · simp only [BitVec.getLsbD_and, BitVec.getLsbD_or, BitVec.getLsbD_not, BitVec.getLsbD_zero, i.isLt,
      decide_True, Bool.true_and]
    cases required.getLsbD i <;> simp
  · have := getLsbD_of_and_not_eq_zero h i.isLt
    simp only [BitVec.getLsbD_and, BitVec.getLsbD_or, BitVec.getLsbD_not, BitVec.getLsbD_zero, i.isLt,
      decide_True, Bool.true_and]
    cases hr : required.getLsbD i <;> cases ha : allowed.getLsbD i <;> simp_all

/-- A bit that `allowed` has and `required` has not comes from `v`. -/
theorem getLsbD_and_or_of_free (v : BitVec w) {i : Nat} (ha : allowed.getLsbD i = true)
    (hr : required.getLsbD i = false) : ((v &&& allowed) ||| required).getLsbD i = v.getLsbD i := by
  simp [ha, hr]

end Masks

/-! ## Capability MSRs -/

/-- The control word `controls` meets the capability MSR `capability`. -/
def MeetsCapability (capability : BitVec 64) (controls : BitVec 32) : Prop :=
  FitsMasks (capability.setWidth 32) (capability.extractLsb' 32 32) controls

instance (capability : BitVec 64) (controls : BitVec 32) : Decidable (MeetsCapability capability controls) :=
  inferInstanceAs (Decidable (FitsMasks _ _ _))

theorem adjustMsr_eq (capability desired : BitVec 64) :
    Machine.adjustMsr capability desired =
      (desired.setWidth 32 &&& capability.extractLsb' 32 32) ||| capability.setWidth 32 := rfl

/-- A bit set in a control word that meets the capability is one the capability allows. -/
theorem MeetsCapability.allowed {capability : BitVec 64} {controls : BitVec 32}
    (h : MeetsCapability capability controls) {i : Nat} (hi : i < 32) (hc : controls.getLsbD i = true) :
    (capability.extractLsb' 32 32).getLsbD i = true :=
  getLsbD_of_and_not_eq_zero h.2 hi hc

/-- `adjust_msr` builds a control word that meets the capability whenever some word does. -/
theorem adjustMsr_meets {capability : BitVec 64} {controls : BitVec 32} (h : MeetsCapability capability controls)
    (desired : BitVec 64) : MeetsCapability capability (Machine.adjustMsr capability desired) :=
  fitsMasks_and_or h.consistent _

/-- Whenever some control word meets a capability MSR, the one `adjust_msr` builds meets it, and
it keeps every desired bit that the MSR leaves free. -/
theorem adjust_msr_meets_capability (capability desired : BitVec 64) :
    ((∃ v, MeetsCapability capability v) → MeetsCapability capability (Machine.adjustMsr capability desired)) ∧
      ∀ i < 32, (capability.extractLsb' 32 32).getLsbD i = true → (capability.setWidth 32).getLsbD i = false →
        (Machine.adjustMsr capability desired).getLsbD i = desired.getLsbD i := by
  refine ⟨fun ⟨_, hv⟩ => adjustMsr_meets hv _, fun i hi ha hr => ?_⟩
  rw [adjustMsr_eq, getLsbD_and_or_of_free _ ha hr, BitVec.getLsbD_setWidth]
  simp [hi]

/-- A control word that meets the capability and has a bit set keeps it through `adjust_msr`. -/
theorem getLsbD_adjustMsr_of_meets {capability : BitVec 64} {controls : BitVec 32}
    (h : MeetsCapability capability controls) {i : Nat} (hi : i < 32) (hc : controls.getLsbD i = true)
    (desired : BitVec 64) (hd : desired.getLsbD i = true) : (Machine.adjustMsr capability desired).getLsbD i = true := by
  have ha := h.allowed hi hc
  simp [adjustMsr_eq, ha, hd, hi]

/-! ## The VM-entry and VM-exit controls -/

namespace Machine

variable (m : Machine)

/-- Modelled from the spec: `IA32_VMX_BASIC` bit 55 says whether the TRUE capability MSRs exist;
when they do, VM entry checks the VM-entry and VM-exit controls against them. -/
def trueControls : Bool := (m.msr .vmxBasic).getLsbD 55

/-- The capability MSR that VM entry checks the VM-entry controls against. -/
def entryCapability : BitVec 64 := m.msr (if m.trueControls then .vmxTrueEntryCtls else .vmxEntryCtls)

/-- The capability MSR that VM entry checks the VM-exit controls against. -/
def exitCapability : BitVec 64 := m.msr (if m.trueControls then .vmxTrueExitCtls else .vmxExitCtls)

@[simp] theorem vmxEnableSyscallHooks_msr (enable : Bool) : (m.vmxEnableSyscallHooks enable).msr = m.msr := by
  cases enable <;> rfl

@[simp] theorem vmxEnableSyscallHooks_entryCapability (enable : Bool) :
    (m.vmxEnableSyscallHooks enable).entryCapability = m.entryCapability := by
  simp [entryCapability, trueControls]

@[simp] theorem vmxEnableSyscallHooks_exitCapability (enable : Bool) :
    (m.vmxEnableSyscallHooks enable).exitCapability = m.exitCapability := by
  simp [exitCapability, trueControls]

theorem vmxEnableSyscallHooks_vmentryControls (enable : Bool) :
    (m.vmxEnableSyscallHooks enable).vmcs .vmentryControls =
      if enable then (adjustMsr m.entryCapability (writeBit (m.vmcs .vmentryControls) 15 true)).setWidth 64
      else m.vmcs .vmentryControls := by
  cases enable <;> simp [vmxEnableSyscallHooks, setExceptionBit, entryCapability, trueControls]

theorem vmxEnableSyscallHooks_primaryVmexitControls (enable : Bool) :
    (m.vmxEnableSyscallHooks enable).vmcs .primaryVmexitControls =
      if enable then (adjustMsr m.exitCapability (writeBit (m.vmcs .primaryVmexitControls) 20 true)).setWidth 64
      else m.vmcs .primaryVmexitControls := by
  cases enable <;> simp [vmxEnableSyscallHooks, setExceptionBit, exitCapability, trueControls]

end Machine

/-- The VM-entry and VM-exit controls in the VMCS pass VM entry's checks, and keep IA-32e mode
guest (entry control bit 9) and host address-space size (exit control bit 9) set: the guest runs
in 64-bit mode and every exit returns to a 64-bit host. -/
structure ControlsValid (m : Machine) : Prop where
  entry : MeetsCapability m.entryCapability ((m.vmcs .vmentryControls).setWidth 32)
  exit : MeetsCapability m.exitCapability ((m.vmcs .primaryVmexitControls).setWidth 32)
  ia32eModeGuest : (m.vmcs .vmentryControls).getLsbD 9 = true
  hostAddressSpaceSize : (m.vmcs .primaryVmexitControls).getLsbD 9 = true

theorem controlsValid_iff (m : Machine) :
    ControlsValid m ↔ MeetsCapability m.entryCapability ((m.vmcs .vmentryControls).setWidth 32) ∧
      MeetsCapability m.exitCapability ((m.vmcs .primaryVmexitControls).setWidth 32) ∧
      (m.vmcs .vmentryControls).getLsbD 9 = true ∧ (m.vmcs .primaryVmexitControls).getLsbD 9 = true :=
  ⟨fun h => ⟨h.1, h.2, h.3, h.4⟩, fun h => ⟨h.1, h.2.1, h.2.2.1, h.2.2.2⟩⟩

instance (m : Machine) : Decidable (ControlsValid m) := decidable_of_iff _ (controlsValid_iff m).symm

theorem setWidth_setWidth_32 (x : BitVec 32) : (x.setWidth 64).setWidth 32 = x := by
  ext i
  simp [BitVec.getLsbD_setWidth]

/-- One control field rebuilt by `adjust_msr` from itself with bit `j` set keeps meeting its
capability and keeps bit 9. -/
theorem meets_adjustMsr_writeBit {capability controls : BitVec 64} (j : Nat)
    (h : MeetsCapability capability (controls.setWidth 32)) (h9 : controls.getLsbD 9 = true) :
    MeetsCapability capability (((Machine.adjustMsr capability (Machine.writeBit controls j true)).setWidth 64).setWidth 32) ∧
      ((Machine.adjustMsr capability (Machine.writeBit controls j true)).setWidth 64).getLsbD 9 = true := by
  rw [setWidth_setWidth_32]
  refine ⟨adjustMsr_meets h _, ?_⟩
  have hbit : (Machine.writeBit controls j true).getLsbD 9 = true := by
    simp [Machine.writeBit, h9]
  rw [BitVec.getLsbD_setWidth]
  simpa using getLsbD_adjustMsr_of_meets h (by decide) (by simpa using h9) _ hbit

/-- Turning the syscall hooks on or off keeps the controls valid. -/
theorem ControlsValid.vmxEnableSyscallHooks {m : Machine} (h : ControlsValid m) (enable : Bool) :
    ControlsValid (m.vmxEnableSyscallHooks enable) := by
  have he := meets_adjustMsr_writeBit 15 h.entry h.ia32eModeGuest
  have hx := meets_adjustMsr_writeBit 20 h.exit h.hostAddressSpaceSize
  refine ⟨?_, ?_, ?_, ?_⟩ <;>
    simp only [Machine.vmxEnableSyscallHooks_entryCapability, Machine.vmxEnableSyscallHooks_exitCapability,
      Machine.vmxEnableSyscallHooks_vmentryControls, Machine.vmxEnableSyscallHooks_primaryVmexitControls] <;>
    cases enable
  exacts [h.1, he.1, h.2, hx.1, h.3, he.2, h.4, hx.2]

end HyperHook

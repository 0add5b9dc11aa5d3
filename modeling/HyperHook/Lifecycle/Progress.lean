import HyperHook.Lifecycle.Driver

/-!
# A load that nothing refuses

The theorems of `Lifecycle.Instance` and `Lifecycle.Driver` say how each piece of the driver's
code ends, whichever way it ends. Here we show that the way the driver is meant to end is the
way it does end when nothing refuses: the pool grants every allocation, VMX is supported and
available, the members' constructors return and every step of `enable_core` succeeds on every
processor.

We state this as total correctness, `DriverM.Returns P x Q`: from every world of `P`, `x` returns
and leaves a world of `Q`. Each statement of the constructor gets one such lemma, and the loop of
`allocate_vm_states` one with an invariant, that the pool still grants everything and the array
has its length.

**Theorem (`driver_entry_loads_when_nothing_fails`).** From a system with no driver or hypervisor
registered and no core in VMX operation, whose pool refuses no allocation, on processors where every
step of `enable_core` succeeds, `DriverEntry` returns `STATUS_SUCCESS` and leaves the driver loaded.
-/

namespace HyperHook

/-! ## Total correctness -/

namespace DriverM

/-- From every world of `P`, `x` returns, and leaves a world of `Q`. -/
def Returns {α : Type} (P : World → Prop) (x : DriverM α) (Q : α → World → Prop) : Prop :=
  ∀ w, P w → ∃ a w', x.run w = (.ok a, w') ∧ Q a w'

section Rules

variable {α β : Type} {P : World → Prop} {Q : α → World → Prop}

theorem Returns.bind {R : β → World → Prop} {x : DriverM α} {f : α → DriverM β} (hx : Returns P x Q)
    (hf : ∀ a, Returns (Q a) (f a) R) : Returns P (x >>= f) R := by
  intro w hw
  obtain ⟨a, w₁, h₁, hq⟩ := hx w hw
  obtain ⟨b, w₂, h₂, hr⟩ := hf a w₁ hq
  exact ⟨b, w₂, by rw [run_bind, h₁]; exact h₂, hr⟩

/-- A loop whose every round returns and keeps `I` returns and keeps `I`. -/
theorem Returns.forM {γ : Type} {I : World → Prop} {f : γ → DriverM Unit} (l : List γ)
    (h : ∀ i ∈ l, Returns I (f i) fun _ => I) : Returns I (l.forM f) fun _ => I := by
  induction l with
  | nil => exact fun w hw => ⟨(), w, rfl, hw⟩
  | cons i l ih =>
    exact (h i (List.mem_cons_self _ _)).bind fun _ => ih fun j hj => h j (List.mem_cons_of_mem _ hj)

end Rules

end DriverM

open DriverM

/-! ## A pool that refuses nothing -/

theorem Pool.allocate_of_failures_nil {p : Pool} (h : p.failures = []) :
    p.allocate = (some p.next, ⟨p.next :: p.live, p.next + 1, []⟩) := by
  simp only [Pool.allocate, h]
  rfl

theorem allocateAlignedObject_run_of_failures_nil (store : Option Nat → Hypervisor → Hypervisor) {w : World}
    (h : w.pool.failures = []) :
    (allocateAlignedObject store).run w =
      (.ok (), { w with pool := ⟨w.pool.next :: w.pool.live, w.pool.next + 1, []⟩, self := store (some w.pool.next) w.self }) := by
  simp only [allocateAlignedObject, run_modify, Pool.allocate_of_failures_nil h]

/-! ## Allocating the VM states -/

section Allocation

variable (cores : List Core)

/-- The pool refuses nothing, and the cores are `cores`: what allocating the VM states needs, and
keeps. -/
def Granting (w : World) : Prop := w.pool.failures = [] ∧ w.cores = cores

/-- `vm_states_` is an array of `count` entries. -/
def HasArray (count : Nat) (w : World) : Prop :=
  ∃ array, w.self.vmStates = some array ∧ array.entries.length = count

theorem allocateEpt_returns :
    Returns (fun w => Granting cores w ∧ w.self.vmStates = none) allocateEpt
      fun _ w => Granting cores w ∧ w.self.vmStates = none := by
  rintro w ⟨⟨hf, hc⟩, hv⟩
  simp only [allocateEpt, run_bind, run_get]
  split
  · simp only [run_bind, allocateAlignedObject_run_of_failures_nil _ hf, run_get, throwIf_run, Option.isNone_some,
      Bool.false_eq_true, ↓reduceIte]
    exact ⟨(), _, rfl, ⟨rfl, hc⟩, hv⟩
  · exact ⟨(), w, rfl, ⟨hf, hc⟩, hv⟩

theorem newVmStateArray_returns (count : Nat) :
    Returns (Granting cores) (newVmStateArray count) fun _ w => Granting cores w ∧ HasArray count w := by
  rintro w ⟨hf, hc⟩
  simp only [newVmStateArray, run_bind, run_get, run_set, Pool.allocate_of_failures_nil hf, run_modify]
  exact ⟨(), _, rfl, ⟨rfl, hc⟩, _, rfl, List.length_replicate _ _⟩

theorem allocateVmState_returns {count i : Nat} (hi : i < count) :
    Returns (fun w => Granting cores w ∧ HasArray count w) (allocateVmState i)
      fun _ w => Granting cores w ∧ HasArray count w := by
  rintro w ⟨⟨hf, hc⟩, array, harr, hlen⟩
  have hentry : ({ w.self with vmStates := some { array with entries := array.entries.set i (some w.pool.next) } } :
      Hypervisor).entry i = some w.pool.next := by
    simp [Hypervisor.entry, List.getD_eq_getElem?_getD, hlen, hi]
  simp only [allocateVmState, run_bind, allocateAlignedObject_run_of_failures_nil _ hf, run_get, Hypervisor.setEntry,
    harr, Option.map_some', hentry, run_modify]
  exact ⟨(), _, rfl, ⟨rfl, hc⟩, _, rfl, by rw [List.length_set, hlen]⟩

theorem allocateVmStates_returns :
    Returns (fun w => Granting cores w ∧ w.self.vmStates = none) allocateVmStates fun _ => Granting cores := by
  intro w hw
  obtain ⟨_, w₁, h₁, ⟨hf₁, rfl⟩, hv₁⟩ := allocateEpt_returns cores w hw
  obtain ⟨_, w₂, h₂, hg₂, ha₂⟩ := newVmStateArray_returns w₁.cores w₁.cores.length
    { w₁ with self.vmStateCount := w₁.cores.length } ⟨hf₁, rfl⟩
  obtain ⟨_, w₃, h₃, hg₃, -⟩ := Returns.forM (List.range w₁.cores.length)
    (fun i hi => allocateVmState_returns w₁.cores (List.mem_range.1 hi)) w₂ ⟨hg₂, ha₂⟩
  refine ⟨(), w₃, ?_, hg₃⟩
  simp only [hv₁] at h₂
  simp only [allocateVmStates, run_bind, h₁, run_get, throwIf_run, hv₁, Option.isSome_none, Bool.false_eq_true,
    ↓reduceIte, run_modify, h₂, h₃]

end Allocation

/-! ## Construction -/

section Construction

variable {hw : Nat → CoreHardware} (haccept : ∀ i, (hw i).Accepts)
include haccept

theorem enableCores_returns :
    Returns (fun w => ∀ c ∈ w.cores, c.mode = .off) (enableCores hw) fun _ w => ∀ c ∈ w.cores, c.mode = .nonRoot := by
  intro w hoff
  obtain ⟨cs, he, hcs⟩ := enable_of_accepts haccept hoff
  refine ⟨(), { w with cores := cs }, ?_, hcs⟩
  simp only [enableCores, run_bind, run_get, he, run_modify]

theorem guardedConstruction_returns (cores : List Core) :
    Returns (fun w => Granting cores w ∧ w.self.vmStates = none ∧ ∀ c ∈ cores, c.mode = .off)
      (guardedConstruction true true hw) fun _ w => ∀ c ∈ w.cores, c.mode = .nonRoot := by
  rintro w ⟨hg, hv, hoff⟩
  obtain ⟨_, w₁, h₁, hg₁⟩ := allocateVmStates_returns cores w ⟨hg, hv⟩
  obtain ⟨_, w₂, h₂, hnon⟩ := enableCores_returns haccept w₁ fun c hc => hoff c (hg₁.2 ▸ hc)
  refine ⟨(), w₂, ?_, hnon⟩
  simp only [guardedConstruction, run_bind, throwIf_run, Bool.not_true, Bool.false_eq_true, ↓reduceIte, h₁, h₂]

theorem constructHypervisor_returns (this : Nat) :
    Returns (fun w => w.globalInstance = none ∧ w.pool.failures = [] ∧ w.self.vmStates = none ∧
        ∀ c ∈ w.cores, c.mode = .off)
      (constructHypervisor this true true hw) fun _ w => ∀ c ∈ w.cores, c.mode = .nonRoot := by
  rintro w ⟨hi, hf, hv, hoff⟩
  obtain ⟨_, w₁, h₁, hnon⟩ := guardedConstruction_returns haccept w.cores { w with globalInstance := some this }
    ⟨⟨hf, rfl⟩, hv, hoff⟩
  refine ⟨(), w₁, ?_, hnon⟩
  simp only [constructHypervisor, run_bind, run_get, throwIf_run, hi, Option.isSome_none, Bool.false_eq_true,
    ↓reduceIte, run_modify, guarded_run, h₁]

end Construction

/-! ## Loading -/

section Load

variable {hw : Nat → CoreHardware} (haccept : ∀ i, (hw i).Accepts)
include haccept

theorem newGlobalDriver_returns {s : System} (hs : s.Unloaded) (hf : s.world.pool.failures = []) :
    ∃ s', (newGlobalDriver true true none hw).run s = (.ok s.world.pool.next, s') := by
  obtain ⟨_, w₁, h₁, -⟩ := constructHypervisor_returns haccept s.world.pool.next
    { s.world with pool := ⟨s.world.pool.next :: s.world.pool.live, s.world.pool.next + 1, []⟩, self := .empty }
    ⟨hs.hypervisor, rfl, rfl, hs.off⟩
  simp only [newGlobalDriver, constructGlobalDriver, SystemM.run_bind, run_liftWorld, operatorNew_run,
    Pool.allocate_of_failures_nil hf, catchThrew_run, SystemM.run_modify, h₁, SystemM.run_pure]
  exact ⟨_, rfl⟩

theorem driverEntry_returns {s : System} (hs : s.Unloaded) (hf : s.world.pool.failures = []) :
    ((driverEntry true true none hw).run s).1 = .ok statusSuccess := by
  obtain ⟨s', hN⟩ := newGlobalDriver_returns haccept hs hf
  simp only [driverEntry, catchThrew_run, SystemM.run_bind, hN, SystemM.run_modify, SystemM.run_pure]

end Load

/-- With a pool that refuses nothing, VMX supported and available, members that construct and
processors on which every step of `enable_core` succeeds, `DriverEntry` from a system with nothing
loaded returns `STATUS_SUCCESS` with the driver loaded. -/
theorem driver_entry_loads_when_nothing_fails (s : System) (hw : Nat → CoreHardware) (hs : s.Unloaded)
    (hpool : s.world.pool.failures = []) (haccept : ∀ i, (hw i).Accepts) :
    ((driverEntry true true none hw).run s).1 = .ok statusSuccess ∧
      ∃ this, ((driverEntry true true none hw).run s).2.Loaded s.world.pool.live this := by
  have hok := driverEntry_returns haccept hs hpool
  have hE := driverEntry_spec true true none hw hs
  rcases hres : (driverEntry true true none hw).run s with ⟨r, s'⟩
  rw [hres] at hok hE
  subst hok
  rcases hE with ⟨-, hL⟩ | ⟨h, -⟩
  · exact ⟨rfl, hL⟩
  · exact absurd h (by decide)

/-- Two processors outside VMX operation, a pool that refuses nothing, and every step of
`enable_core` succeeding. -/
theorem driver_entry_loads_on_two_cores :
    let core : Core := ⟨.off, ⟨fun _ => 0, fun _ => 0, fun _ _ => ⟨0, 0, 0, 0⟩, fun _ => 0, 0, 0, 0, 0, 0,
      ⟨fun _ _ => none, fun _ => true, fun _ => 0, fun _ _ => Option.noConfusion⟩⟩⟩
    let s : System := ⟨⟨none, ⟨[], 0, []⟩, fun _ => none, [core, core], .empty⟩, none, false⟩
    let hw : Nat → CoreHardware := fun _ => ⟨true, true, 0, 0xFFFFFFFF, 0, 0xFFFFFFFF, true, true, true⟩
    s.Unloaded ∧ s.world.pool.failures = [] ∧ (∀ i, (hw i).Accepts) ∧
      ((driverEntry true true none hw).run s).1 = .ok statusSuccess ∧
      ∃ this, ((driverEntry true true none hw).run s).2.Loaded s.world.pool.live this := by
  dsimp only
  refine ⟨?hs, rfl, ?accept, driver_entry_loads_when_nothing_fails _ _ ?hs rfl ?accept⟩
  · exact ⟨rfl, rfl, by decide, by simp⟩
  · intro _
    exact ⟨rfl, rfl, rfl, rfl, rfl⟩

end HyperHook

import Mathlib.Data.List.ReduceOption
import HyperHook.Lifecycle

/-!
# The hypervisor object: construction, per-core states and destruction

`hypervisor::hypervisor()` refuses a second instance, registers itself as the global `instance`,
checks VMX, allocates the EPT object and one `vmx::state` per processor (`allocate_vm_states`)
and enables every core. A `utils::finally` guard, cancelled by the constructor's last statement,
runs `free_vm_states` and clears `instance` when an exception leaves the constructor.
`~hypervisor()` disables every core, frees the states and clears `instance`.

The code runs in `DriverM`: it changes the `World` and returns, throws a `std::runtime_error`
(what it changed stays changed) or halts in `KeBugCheckEx`, past which no guard runs.
Allocations come from a `Pool` that may refuse any of them: `allocate_aligned_object` then
returns `nullptr`, and `operator new` throws.

The proofs follow one invariant, `Owns L`: the pool's live allocations are those the object
holds and those of `L`, the allocations that were live before it. Every statement keeps it,
and `free_vm_states` leaves the object holding nothing, so the live allocations are `L` again.

**Theorem (`hypervisor_construction_all_or_nothing`).** A constructor run while another instance
exists throws and changes nothing. Otherwise, from cores outside VMX operation, it returns with
the object registered, every core virtualised and one VM state per core, distinct and pointing to
the EPT object; or it throws with `instance` cleared, every allocation it made freed and no core
in VMX operation; or the system halts.

**Theorem (`hypervisor_destruction_frees_construction`).** Destroying a hypervisor that was
constructed clears `instance`, takes every core out of VMX operation and leaves the live
allocations as they were before the construction, unless `disable_core` halts.
-/

namespace HyperHook

/-! ## The pool, the object and the world -/

/-- Modelled from the spec: the kernel's allocators behind `memory::allocate_aligned_memory`
(`MmAllocateContiguousNodeMemory` or `MmAllocateContiguousMemory`) and `operator new`
(`ExAllocatePoolWithTag`), either of which may return `nullptr`. The pool holds the allocations
not yet freed, the address the next one gets, and which of the coming allocations fail (`true`);
once that list is used up, allocations succeed. -/
structure Pool where
  live : List Nat
  next : Nat
  failures : List Bool
  deriving DecidableEq, Repr

/-- One allocation: a fresh address, or none when the pool refuses. -/
def Pool.allocate (p : Pool) : Option Nat × Pool :=
  match p.failures with
  | true :: failures => (none, { p with failures })
  | failures => (some p.next, ⟨p.next :: p.live, p.next + 1, failures.tail⟩)

/-- `free_aligned_object` and `delete[]`; nothing for `nullptr`. -/
def Pool.release (p : Pool) : Option Nat → Pool
  | none => p
  | some a => { p with live := p.live.erase a }

/-- The pool hands out fresh addresses: no allocation is live twice, and every live one lies
below the next address. -/
def Pool.Valid (p : Pool) : Prop := p.live.Nodup ∧ ∀ a ∈ p.live, a < p.next

instance (p : Pool) : Decidable p.Valid := inferInstanceAs (Decidable (_ ∧ _))

/-- The array `vm_states_`: its address and its entries, `none` for `nullptr`. -/
structure VmStateArray where
  address : Nat
  entries : List (Option Nat)
  deriving DecidableEq, Repr

/-- The members of `hypervisor` that construction and destruction manage: `vm_state_count_`,
`vm_states_` and `ept_`. -/
structure Hypervisor where
  vmStateCount : Nat
  vmStates : Option VmStateArray
  ept : Option Nat
  deriving DecidableEq, Repr

/-- A `hypervisor` as its member initializers leave it. -/
def Hypervisor.empty : Hypervisor := ⟨0, none, none⟩

/-- `vm_states_[i]` -/
def Hypervisor.entry (h : Hypervisor) (i : Nat) : Option Nat :=
  h.vmStates.bind fun array => array.entries.getD i none

/-- `vm_states_[i] = a` -/
def Hypervisor.setEntry (h : Hypervisor) (i : Nat) (a : Option Nat) : Hypervisor :=
  { h with vmStates := h.vmStates.map fun array => { array with entries := array.entries.set i a } }

/-- `hypervisor::get_current_vm_state()` on processor `currentCore`. -/
def Hypervisor.getCurrentVmState (h : Hypervisor) (currentCore : Nat) : Option Nat :=
  match h.vmStates with
  | none => none
  | some array => if currentCore ≥ h.vmStateCount then none else array.entries.getD currentCore none

/-- The allocations the object holds, in the order `free_vm_states` frees them: the states, the
array, the EPT object. -/
def Hypervisor.owned (h : Hypervisor) : List Nat :=
  (match h.vmStates with
    | none => []
    | some array => array.entries.reduceOption ++ [array.address]) ++ h.ept.toList

/-- What construction and destruction read and write. -/
structure World where
  /-- the global `instance`, by the object's address -/
  globalInstance : Option Nat
  pool : Pool
  /-- the `ept` member of the `vmx::state` at each address -/
  stateEpt : Nat → Option Nat
  cores : List Core
  /-- the object under construction or destruction -/
  self : Hypervisor

/-- How control leaves driver code other than by returning. -/
inductive Failure
  /-- a `std::runtime_error` propagates -/
  | threw (message : String)
  /-- `KeBugCheckEx`: nothing runs after it -/
  | halted
  deriving DecidableEq, Repr

/-- Driver code: it changes the world, and returns, throws or halts; what it changed before a
throw stays changed. -/
abbrev DriverM := ExceptT Failure (StateM World)

namespace DriverM

/-- How `x` ends from `w`, and the world it leaves. -/
def run {α : Type} (x : DriverM α) (w : World) : Except Failure α × World := StateT.run (ExceptT.run x) w

section Run

variable {α β : Type} (w : World)

@[simp] theorem run_pure (a : α) : run (pure a) w = (.ok a, w) := rfl

@[simp] theorem run_throw (e : Failure) : run (throw e : DriverM α) w = (.error e, w) := rfl

@[simp] theorem run_get : run (get : DriverM World) w = (.ok w, w) := rfl

@[simp] theorem run_set (w' : World) : run (set w' : DriverM Unit) w = (.ok (), w') := rfl

@[simp] theorem run_modify (f : World → World) : run (modify f : DriverM Unit) w = (.ok (), f w) := rfl

@[simp] theorem run_bind (x : DriverM α) (f : α → DriverM β) :
    run (x >>= f) w = match run x w with
      | (.ok a, w) => run (f a) w
      | (.error e, w) => (.error e, w) := by
  simp only [run, bind, ExceptT.bind, ExceptT.run, ExceptT.mk, StateT.bind, StateT.run]
  rcases x w with ⟨_ | _, _⟩ <;> rfl

@[simp] theorem run_tryCatch (x : DriverM α) (handle : Failure → DriverM α) :
    run (tryCatch x handle) w = match run x w with
      | (.ok a, w) => (.ok a, w)
      | (.error e, w) => run (handle e) w := by
  simp only [run, tryCatch, tryCatchThe, MonadExceptOf.tryCatch, ExceptT.tryCatch, ExceptT.run, ExceptT.mk, bind,
    StateT.bind, StateT.run]
  rcases x w with ⟨_ | _, _⟩ <;> rfl

end Run

theorem eq_ok_of_toBool {r : Except Failure Unit} (h : r.toBool = true) : r = .ok () := by
  cases r
  · cases h
  · rfl

end DriverM

open DriverM

/-! ## The statements -/

/-- `if (condition) throw std::runtime_error(message);` -/
def throwIf (condition : Bool) (message : String) : DriverM Unit :=
  if condition then throw (.threw message) else pure ()

/-- `field = memory::allocate_aligned_object<T>()`: `store` puts the new address, or `nullptr`,
into the object. -/
def allocateAlignedObject (store : Option Nat → Hypervisor → Hypervisor) : DriverM Unit :=
  modify fun w => { w with pool := w.pool.allocate.2, self := store w.pool.allocate.1 w.self }

/-- `vm_states_ = new vmx::state*[count]{}`: `operator new` throws when the pool refuses. -/
def newVmStateArray (count : Nat) : DriverM Unit := do
  let w ← get
  set { w with pool := w.pool.allocate.2 }
  match w.pool.allocate.1 with
  | none => throw (.threw "Memory allocation failed")
  | some address => modify fun w => { w with self.vmStates := some ⟨address, .replicate count none⟩ }

/-- One round of the loop of `allocate_vm_states`. -/
def allocateVmState (i : Nat) : DriverM Unit := do
  allocateAlignedObject fun a h => h.setEntry i a
  match (← get).self.entry i with
  | none => throw (.threw "Failed to allocate VM state entries")
  | some a => modify fun w => { w with stateEpt := Function.update w.stateEpt a w.self.ept }

/-- The first block of `allocate_vm_states`: the EPT object, unless there is one. -/
def allocateEpt : DriverM Unit := do
  if (← get).self.ept.isNone then
    allocateAlignedObject fun a h => { h with ept := a }
    throwIf (← get).self.ept.isNone "Failed to allocate ept object"

/-- `hypervisor::allocate_vm_states()`; `thread::get_processor_count()` is the number of cores. -/
def allocateVmStates : DriverM Unit := do
  allocateEpt
  throwIf (← get).self.vmStates.isSome "VM states are still in use"
  let count := (← get).cores.length
  modify fun w => { w with self.vmStateCount := count }
  newVmStateArray count
  (List.range count).forM allocateVmState

/-- The first block of `free_vm_states`: every state, then the array. -/
def World.freeStates (w : World) : World :=
  match w.self.vmStates with
  | none => w
  | some array =>
    let pool := (array.entries.take w.self.vmStateCount).foldl Pool.release w.pool
    { w with pool := pool.release (some array.address), self.vmStates := none, self.vmStateCount := 0 }

/-- The second block of `free_vm_states`: the EPT object. -/
def World.freeEpt (w : World) : World :=
  match w.self.ept with
  | none => w
  | some ept => { w with pool := w.pool.release (some ept), self.ept := none }

/-- `hypervisor::free_vm_states()` -/
def World.freeVmStates (w : World) : World := w.freeStates.freeEpt

/-- `hypervisor::enable()` on the world's cores. `ept_->initialize()` acts on the EPT object alone,
whose methods are not in the sources. -/
def enableCores (hw : Nat → CoreHardware) : DriverM Unit := do
  match enable hw (← get).cores with
  | .returned cores => modify fun w => { w with cores }
  | .threw cores =>
    modify fun w => { w with cores }
    throw (.threw "Hypervisor initialization failed")
  | .halted => throw .halted

/-- `hypervisor::disable()` on the world's cores. -/
def disableCores : DriverM Unit := do
  match disable (← get).cores with
  | some cores => modify fun w => { w with cores }
  | none => throw .halted

/-- `utils::finally(cleanup)` around `body`, cancelled after it (`finally.hpp` is not in the
sources): the cleanup runs when an exception leaves `body`, which a halt does not. -/
def guarded (body cleanup : DriverM Unit) : DriverM Unit :=
  tryCatch body fun
    | .threw message => do cleanup; throw (.threw message)
    | .halted => throw .halted

/-- The statements of `hypervisor::hypervisor()` that its `finally` guard covers, with what
`is_vmx_supported()` and `is_vmx_available()` answer on the constructing processor. -/
def guardedConstruction (vmxSupported vmxAvailable : Bool) (hw : Nat → CoreHardware) : DriverM Unit := do
  throwIf (!vmxSupported) "VMX not supported on this machine"
  throwIf (!vmxAvailable) "VMX not available on this machine"
  allocateVmStates
  enableCores hw

/-- `hypervisor::hypervisor()` for the object at address `this`. -/
def constructHypervisor (this : Nat) (vmxSupported vmxAvailable : Bool) (hw : Nat → CoreHardware) :
    DriverM Unit := do
  throwIf (← get).globalInstance.isSome "Hypervisor already instantiated"
  modify fun w => { w with globalInstance := some this }
  guarded (guardedConstruction vmxSupported vmxAvailable hw)
    (modify fun w => { w.freeVmStates with globalInstance := none })

/-- `hypervisor::~hypervisor()`. `disable_all_ept_hooks` acts on the EPT object alone, whose
methods are not in the sources. -/
def destroyHypervisor : DriverM Unit := do
  disableCores
  modify World.freeVmStates
  modify fun w => { w with globalInstance := none }

theorem throwIf_run (condition : Bool) (message : String) (w : World) :
    (throwIf condition message).run w = (if condition then .error (.threw message) else .ok (), w) := by
  unfold throwIf; split <;> rfl

/-- The `utils::finally` guard: the cleanup runs when an exception leaves the body, and only then. -/
theorem guarded_run (body : DriverM Unit) (f : World → World) (w : World) :
    (guarded body (modify f)).run w = match body.run w with
      | (.error (.threw message), w') => (.error (.threw message), f w')
      | r => r := by
  simp only [guarded, run_tryCatch]
  rcases body.run w with ⟨⟨_ | _⟩ | _, _⟩ <;> rfl

/-! ## The pool -/

theorem Pool.allocate_live (p : Pool) : p.allocate.2.live = p.allocate.1.toList ++ p.live := by
  unfold Pool.allocate; split <;> rfl

theorem Pool.Valid.allocate {p : Pool} (hp : p.Valid) : p.allocate.2.Valid := by
  unfold Pool.allocate
  split
  · exact hp
  · refine ⟨List.nodup_cons.2 ⟨fun h => lt_irrefl _ (hp.2 _ h), hp.1⟩, ?_⟩
    simp only [List.mem_cons, forall_eq_or_imp]
    exact ⟨Nat.lt_succ_self _, fun a ha => Nat.lt_succ_of_lt (hp.2 a ha)⟩

theorem Pool.Valid.release {p : Pool} (hp : p.Valid) : ∀ a, (p.release a).Valid
  | none => hp
  | some a => ⟨hp.1.erase a, fun b hb => hp.2 b (List.mem_of_mem_erase hb)⟩

theorem Pool.Valid.release_foldl (es : List (Option Nat)) {p : Pool} (hp : p.Valid) :
    (es.foldl Pool.release p).Valid := by
  induction es generalizing p with
  | nil => exact hp
  | cons e es ih => exact ih (hp.release e)

theorem Pool.release_perm {p : Pool} {a : Nat} {rest : List Nat} (h : p.live.Perm (a :: rest)) :
    (p.release (some a)).live.Perm rest := by
  simpa [Pool.release] using h.erase a

theorem Pool.release_foldl_perm (es : List (Option Nat)) {p : Pool} {rest : List Nat}
    (h : p.live.Perm (es.reduceOption ++ rest)) : (es.foldl Pool.release p).live.Perm rest := by
  induction es generalizing p with
  | nil => simpa using h
  | cons e es ih =>
    cases e with
    | none => exact ih (by simpa [Pool.release] using h)
    | some a => exact ih (Pool.release_perm (by simpa using h))

/-! ## What the object holds -/

/-- `vm_state_count_` counts the entries of the array. -/
def Hypervisor.CountsEntries (h : Hypervisor) : Prop :=
  ∀ array, h.vmStates = some array → array.entries.length = h.vmStateCount

/-- The allocation invariant: the pool is valid, and its live allocations are those the object
holds and those of `outside`. -/
structure Owns (outside : List Nat) (w : World) : Prop where
  valid : w.pool.Valid
  perm : w.pool.live.Perm (w.self.owned ++ outside)
  counts : w.self.CountsEntries

/-- Entry `i` of the array is `nullptr`. -/
def Hypervisor.Vacant (h : Hypervisor) (i : Nat) : Prop :=
  ∃ array, h.vmStates = some array ∧ array.entries[i]? = some none

@[simp] theorem Hypervisor.setEntry_ept (h : Hypervisor) (i : Nat) (a : Option Nat) :
    (h.setEntry i a).ept = h.ept := rfl

@[simp] theorem Hypervisor.setEntry_vmStateCount (h : Hypervisor) (i : Nat) (a : Option Nat) :
    (h.setEntry i a).vmStateCount = h.vmStateCount := rfl

theorem Owns.congr {L : List Nat} {w w' : World} (hO : Owns L w) (hp : w'.pool = w.pool) (hs : w'.self = w.self) :
    Owns L w' := by
  obtain ⟨h₁, h₂, h₃⟩ := hO
  exact ⟨hp ▸ h₁, hp ▸ hs ▸ h₂, hs ▸ h₃⟩

/-- An allocation stored into the object keeps `Owns`. -/
theorem Owns.allocate {L : List Nat} {w : World} (hO : Owns L w) {h' : Hypervisor}
    (hown : h'.owned.Perm (w.pool.allocate.1.toList ++ w.self.owned)) (hcount : h'.CountsEntries) :
    Owns L { w with pool := w.pool.allocate.2, self := h' } where
  valid := hO.valid.allocate
  perm := by
    rw [Pool.allocate_live]
    exact ((hO.perm.append_left _).trans (by rw [List.append_assoc])).trans ((hown.append_right L).symm)
  counts := hcount

theorem reduceOption_set_perm {l : List (Option Nat)} {i : Nat} (h : l[i]? = some none) (a : Option Nat) :
    (l.set i a).reduceOption.Perm (a.toList ++ l.reduceOption) := by
  induction l generalizing i with
  | nil => cases h
  | cons x l ih =>
    cases i with
    | zero =>
      obtain rfl : x = none := by simpa using h
      cases a <;> simp [List.reduceOption_cons_of_some, List.reduceOption_cons_of_none]
    | succ i =>
      have ih := ih (by simpa using h)
      cases x with
      | none => simpa [List.reduceOption_cons_of_none] using ih
      | some y =>
        simp only [List.set_cons_succ, List.reduceOption_cons_of_some]
        exact (ih.cons y).trans List.perm_middle.symm

theorem reduceOption_replicate_none (n : Nat) : (List.replicate n (none : Option Nat)).reduceOption = [] := by
  induction n with
  | zero => rfl
  | succ n ih => simpa [List.replicate_succ, List.reduceOption_cons_of_none] using ih

theorem Hypervisor.owned_setEpt {h : Hypervisor} (he : h.ept = none) (a : Option Nat) :
    ({ h with ept := a } : Hypervisor).owned.Perm (a.toList ++ h.owned) := by
  simp only [Hypervisor.owned, he, Option.toList_none, List.append_nil]
  exact List.perm_append_comm

theorem Hypervisor.owned_newArray {h : Hypervisor} (hv : h.vmStates = none) (a count : Nat) :
    ({ h with vmStates := some ⟨a, .replicate count none⟩ } : Hypervisor).owned = [a] ++ h.owned := by
  simp [Hypervisor.owned, hv, reduceOption_replicate_none]

theorem Hypervisor.owned_setEntry {h : Hypervisor} {i : Nat} (hv : h.Vacant i) (a : Option Nat) :
    (h.setEntry i a).owned.Perm (a.toList ++ h.owned) := by
  obtain ⟨array, harr, hi⟩ := hv
  simp only [Hypervisor.owned, Hypervisor.setEntry, harr, Option.map_some', ← List.append_assoc]
  exact ((reduceOption_set_perm hi a).append_right _).append_right _

theorem Hypervisor.CountsEntries.setEntry {h : Hypervisor} (hc : h.CountsEntries) (i : Nat) (a : Option Nat) :
    (h.setEntry i a).CountsEntries := by
  intro array harr
  cases hv : h.vmStates with
  | none => simp [Hypervisor.setEntry, hv] at harr
  | some array₀ =>
    simp only [Hypervisor.setEntry, hv, Option.map_some', Option.some.injEq] at harr
    rw [← harr, List.length_set]
    exact hc _ hv

theorem Hypervisor.Vacant.setEntry {h : Hypervisor} {i j : Nat} (hv : h.Vacant j) (hij : i ≠ j) (a : Option Nat) :
    (h.setEntry i a).Vacant j := by
  obtain ⟨array, harr, hj⟩ := hv
  exact ⟨{ array with entries := array.entries.set i a }, by simp [Hypervisor.setEntry, harr],
    by simpa [List.getElem?_set_ne hij] using hj⟩

theorem Hypervisor.entry_setEntry_self {h : Hypervisor} {i : Nat} (hv : h.Vacant i) (a : Option Nat) :
    (h.setEntry i a).entry i = a := by
  obtain ⟨array, harr, hi⟩ := hv
  have : i < array.entries.length := by
    by_contra hn; rw [List.getElem?_eq_none (by omega)] at hi; cases hi
  simp [Hypervisor.entry, Hypervisor.setEntry, harr, List.getD_eq_getElem?_getD, List.getElem?_set_self this]

theorem Hypervisor.entry_setEntry_ne {h : Hypervisor} {i j : Nat} (hij : i ≠ j) (a : Option Nat) :
    (h.setEntry i a).entry j = h.entry j := by
  cases hv : h.vmStates <;>
    simp [Hypervisor.entry, Hypervisor.setEntry, hv, List.getD_eq_getElem?_getD, List.getElem?_set_ne hij]

/-! ## Allocating the VM states -/

/-- Entry `i` holds a `vmx::state` whose `ept` is the object's EPT. -/
def World.HasState (w : World) (i : Nat) : Prop :=
  ∃ a, w.self.entry i = some a ∧ w.stateEpt a = w.self.ept

/-- What allocating the VM states leaves as it was. -/
def World.Frame (w w' : World) : Prop :=
  w'.globalInstance = w.globalInstance ∧ w'.cores = w.cores ∧ w'.self.ept = w.self.ept ∧
    w'.self.vmStateCount = w.self.vmStateCount

theorem World.Frame.refl (w : World) : w.Frame w := ⟨rfl, rfl, rfl, rfl⟩

theorem World.Frame.trans {w₁ w₂ w₃ : World} (h₁ : w₁.Frame w₂) (h₂ : w₂.Frame w₃) : w₁.Frame w₃ :=
  ⟨h₂.1.trans h₁.1, h₂.2.1.trans h₁.2.1, h₂.2.2.1.trans h₁.2.2.1, h₂.2.2.2.trans h₁.2.2.2⟩

/-- One round of the loop fills its vacant entry, or throws with the entry still vacant. -/
theorem allocateVmState_spec {L : List Nat} {w : World} {i : Nat} (hO : Owns L w) (hv : w.self.Vacant i) :
    let r := (allocateVmState i).run w
    Owns L r.2 ∧ w.Frame r.2 ∧ (∀ j ≠ i, w.self.Vacant j → r.2.self.Vacant j) ∧
      (∀ j, w.HasState j → r.2.HasState j) ∧ (r.1 = .ok () → r.2.HasState i) := by
  have hO₁ := hO.allocate (w.self.owned_setEntry hv _) (hO.counts.setEntry i _)
  have hHas : ∀ j, w.HasState j → j ≠ i := fun j ⟨a, ha, _⟩ hji => by
    obtain ⟨array, harr, hi⟩ := hv
    subst hji
    simp [Hypervisor.entry, harr, List.getD_eq_getElem?_getD, hi] at ha
  simp only [allocateVmState, allocateAlignedObject, run_bind, run_modify, run_get, Hypervisor.entry_setEntry_self hv]
  split <;> simp only [run_throw, run_modify]
  · refine ⟨hO₁, ⟨rfl, rfl, rfl, rfl⟩, fun j hj hvj => hvj.setEntry (Ne.symm hj) _, fun j hj => ?_, fun h => nomatch h⟩
    obtain ⟨a, ha, he⟩ := hj
    exact ⟨a, by rw [Hypervisor.entry_setEntry_ne (hHas j ⟨a, ha, he⟩).symm, ha], he⟩
  · rename_i a ha
    refine ⟨{ hO₁ with }, ⟨rfl, rfl, rfl, rfl⟩, fun j hj hvj => hvj.setEntry (Ne.symm hj) _, fun j hj => ?_,
      fun _ => ⟨a, by simp [Hypervisor.entry_setEntry_self hv, ha], by simp⟩⟩
    obtain ⟨b, hb, he⟩ := hj
    refine ⟨b, by simp only [Hypervisor.entry_setEntry_ne (hHas j ⟨b, hb, he⟩).symm, hb], ?_⟩
    by_cases hab : b = a <;> simp [Function.update_apply, hab, he]

/-- The loop over distinct vacant entries: it keeps `Owns`, and when it returns every entry it
visited holds a state. -/
theorem allocateVmStates_loop {L : List Nat} (is : List Nat) (hnd : is.Nodup) {w : World} (hO : Owns L w)
    (hv : ∀ i ∈ is, w.self.Vacant i) :
    let r := (is.forM allocateVmState).run w
    Owns L r.2 ∧ w.Frame r.2 ∧ (r.1 = .ok () → ∀ i, i ∈ is ∨ w.HasState i → r.2.HasState i) := by
  induction is generalizing w with
  | nil => exact ⟨hO, .refl w, fun _ i hi => by simpa using hi⟩
  | cons i is ih =>
    obtain ⟨hO₁, hf₁, hv₁, hs₁, hi₁⟩ := allocateVmState_spec hO (hv i (List.mem_cons_self _ _))
    have hnd' := List.nodup_cons.1 hnd
    simp only [List.forM_cons', run_bind]
    split
    · rename_i w₁ heq
      rw [heq] at hO₁ hf₁ hv₁ hs₁ hi₁
      obtain ⟨hO₂, hf₂, hs₂⟩ := ih hnd'.2 hO₁ fun j hj =>
        hv₁ j (fun h => hnd'.1 (h ▸ hj)) (hv j (List.mem_cons_of_mem _ hj))
      refine ⟨hO₂, hf₁.trans hf₂, fun hok j hj => hs₂ hok j ?_⟩
      rcases hj with hj | hj
      · rcases List.mem_cons.1 hj with rfl | hj
        · exact .inr (hi₁ rfl)
        · exact .inl hj
      · exact .inr (hs₁ j hj)
    · rename_i w₁ e heq
      rw [heq] at hO₁ hf₁
      exact ⟨hO₁, hf₁, fun h => nomatch h⟩

theorem allocateEpt_spec {L : List Nat} {w w' : World} {r : Except Failure Unit}
    (h : allocateEpt.run w = (r, w')) (hO : Owns L w) :
    Owns L w' ∧ w'.globalInstance = w.globalInstance ∧ w'.cores = w.cores ∧
      w'.self.vmStates = w.self.vmStates ∧ (r = .ok () → w'.self.ept.isSome) := by
  simp only [allocateEpt, run_bind, run_get] at h
  split at h
  · rename_i he
    have hO₁ := hO.allocate (w.self.owned_setEpt (Option.isNone_iff_eq_none.1 he) _) hO.counts
    simp only [allocateAlignedObject, run_bind, run_modify, run_get, throwIf_run, Prod.mk.injEq] at h
    obtain ⟨rfl, rfl⟩ := h
    refine ⟨hO₁, rfl, rfl, rfl, fun h => ?_⟩
    split_ifs at h with hn
    simpa [Option.isSome_iff_ne_none, Option.isNone_iff_eq_none] using hn
  · rename_i he
    obtain ⟨rfl, rfl⟩ := Prod.mk.inj h
    exact ⟨hO, rfl, rfl, rfl, fun _ => by simpa [Option.isSome_iff_ne_none, Option.isNone_iff_eq_none] using he⟩

theorem newVmStateArray_spec {L : List Nat} {w w' : World} {r : Except Failure Unit} {count : Nat}
    (h : (newVmStateArray count).run w = (r, w')) (hO : Owns L w) (hv : w.self.vmStates = none)
    (hcount : w.self.vmStateCount = count) :
    Owns L w' ∧ w.Frame w' ∧ (r = .ok () → ∀ i < count, w'.self.Vacant i) := by
  simp only [newVmStateArray, run_bind, run_get, run_set] at h
  split at h
  · rename_i ha
    obtain ⟨rfl, rfl⟩ := Prod.mk.inj h
    exact ⟨hO.allocate (by rw [ha]; exact .refl _) hO.counts, .refl _, fun h => nomatch h⟩
  · rename_i a ha
    obtain ⟨rfl, rfl⟩ := Prod.mk.inj h
    refine ⟨hO.allocate (by rw [ha, w.self.owned_newArray hv]; exact .refl _) ?_, ⟨rfl, rfl, rfl, rfl⟩,
      fun _ i hi => ⟨_, rfl, by simp [hi]⟩⟩
    rintro array ⟨⟩
    simp [hcount]

/-- What `allocate_vm_states` ends with, from `w`. -/
def AllocatedVmStates (L : List Nat) (w : World) : Except Failure Unit × World → Prop
  | (r, w') => Owns L w' ∧ w'.globalInstance = w.globalInstance ∧ w'.cores = w.cores ∧
      (r = .ok () → w'.self.ept.isSome ∧ w'.self.vmStateCount = w.cores.length ∧
        ∀ i < w.cores.length, w'.HasState i)

theorem allocateVmStates_spec {L : List Nat} {w : World} (hO : Owns L w) :
    AllocatedVmStates L w (allocateVmStates.run w) := by
  simp only [allocateVmStates, run_bind, run_get]
  split
  · rename_i w₁ heq
    obtain ⟨hO₁, hi₁, hc₁, -, he₁⟩ := allocateEpt_spec heq hO
    simp only [throwIf_run]
    split_ifs with hs
    · exact ⟨hO₁, hi₁, hc₁, fun h => nomatch h⟩
    have hnone : w₁.self.vmStates = none := by simpa using hs
    have hO₁' : Owns L { w₁ with self.vmStateCount := w₁.cores.length } :=
      ⟨hO₁.valid, hO₁.perm, fun a h => by simp [hnone] at h⟩
    simp only [run_modify]
    split
    · rename_i w₂ heq₂
      obtain ⟨hO₂, hf₂, hv₂⟩ := newVmStateArray_spec heq₂ hO₁' hnone rfl
      obtain ⟨hO₃, hf₃, hs₃⟩ := allocateVmStates_loop _ (List.nodup_range _) hO₂
        fun i hi => hv₂ rfl i (List.mem_range.1 hi)
      have hf := hf₂.trans hf₃
      exact ⟨hO₃, hf.1.trans hi₁, hf.2.1.trans hc₁, fun hok => ⟨(congrArg Option.isSome hf.2.2.1).trans (he₁ rfl),
        hf.2.2.2.trans (by rw [hc₁]), fun i hi => hs₃ hok i (.inl (List.mem_range.2 (hc₁ ▸ hi)))⟩⟩
    · rename_i w₂ e heq₂
      obtain ⟨hO₂, hf₂, -⟩ := newVmStateArray_spec heq₂ hO₁' hnone rfl
      exact ⟨hO₂, hf₂.1.trans hi₁, hf₂.2.1.trans hc₁, fun h => nomatch h⟩
  · rename_i w₁ e heq
    obtain ⟨hO₁, hi₁, hc₁, -⟩ := allocateEpt_spec heq hO
    exact ⟨hO₁, hi₁, hc₁, fun h => nomatch h⟩

/-! ## Freeing -/

theorem Owns.freeStates {L : List Nat} {w : World} (hO : Owns L w) :
    Owns L w.freeStates ∧ w.freeStates.self.vmStates = none := by
  unfold World.freeStates
  split
  · rename_i hv
    exact ⟨hO, hv⟩
  · rename_i array hv
    have hperm : w.pool.live.Perm (array.entries.reduceOption ++ array.address :: (w.self.ept.toList ++ L)) := by
      simpa [Hypervisor.owned, hv] using hO.perm
    refine ⟨⟨(hO.valid.release_foldl _).release _, ?_, fun _ h => nomatch h⟩, rfl⟩
    rw [List.take_of_length_le (hO.counts array hv).le]
    simpa [Hypervisor.owned] using Pool.release_perm (Pool.release_foldl_perm _ hperm)

theorem Owns.freeEpt {L : List Nat} {w : World} (hO : Owns L w) (hv : w.self.vmStates = none) :
    Owns L w.freeEpt ∧ w.freeEpt.self.owned = [] := by
  unfold World.freeEpt
  split
  · rename_i he
    exact ⟨hO, by simp [Hypervisor.owned, hv, he]⟩
  · rename_i ept he
    refine ⟨⟨hO.valid.release _, ?_, fun _ h => by simp [hv] at h⟩, by simp [Hypervisor.owned, hv]⟩
    simpa [Hypervisor.owned, hv] using Pool.release_perm (by simpa [Hypervisor.owned, hv, he] using hO.perm)

theorem Owns.freeVmStates {L : List Nat} {w : World} (hO : Owns L w) :
    Owns L w.freeVmStates ∧ w.freeVmStates.self.owned = [] :=
  hO.freeStates.1.freeEpt hO.freeStates.2

/-- The live allocations after `free_vm_states` are those before the object held any. -/
theorem Owns.freeVmStates_live {L : List Nat} {w : World} (hO : Owns L w) : w.freeVmStates.pool.live.Perm L := by
  simpa [hO.freeVmStates.2] using hO.freeVmStates.1.perm

@[simp] theorem World.freeVmStates_cores (w : World) : w.freeVmStates.cores = w.cores := by
  unfold World.freeVmStates World.freeStates World.freeEpt; split <;> split <;> rfl

/-! ## Enabling and disabling the cores -/

/-- `w'` differs from `w` in its cores at most. -/
structure World.CoresOnly (w w' : World) : Prop where
  globalInstance : w'.globalInstance = w.globalInstance
  pool : w'.pool = w.pool
  stateEpt : w'.stateEpt = w.stateEpt
  self : w'.self = w.self

theorem enable_returned_length {hw : Nat → CoreHardware} {cores cs : List Core} (h : enable hw cores = .returned cs) :
    cs.length = cores.length := by
  unfold enable at h
  dsimp only at h
  split_ifs at h
  · cases h; simp
  · split at h <;> cases h

theorem enableCores_spec {hw : Nat → CoreHardware} {w w' : World} {r : Except Failure Unit}
    (h : (enableCores hw).run w = (r, w')) (hroot : ∀ c ∈ w.cores, c.mode ≠ .root) :
    w.CoresOnly w' ∧
      (r = .ok () → w'.cores.length = w.cores.length ∧ ∀ c ∈ w'.cores, c.mode = .nonRoot) ∧
      (∀ message, r = .error (.threw message) → ∀ c ∈ w'.cores, c.mode = .off) := by
  have hs := enable_settled hw w.cores hroot
  simp only [enableCores, run_bind, run_get] at h
  split at h <;> rename_i heq <;> rw [heq] at hs <;>
    simp only [run_bind, run_modify, run_throw, Prod.mk.injEq] at h <;> obtain ⟨rfl, rfl⟩ := h
  · exact ⟨⟨rfl, rfl, rfl, rfl⟩, fun _ => ⟨enable_returned_length heq, hs⟩, by simp⟩
  · exact ⟨⟨rfl, rfl, rfl, rfl⟩, by simp, fun _ _ => hs⟩
  · exact ⟨⟨rfl, rfl, rfl, rfl⟩, by simp, by simp⟩

theorem disableCores_spec {w w' : World} {r : Except Failure Unit} (h : disableCores.run w = (r, w'))
    (hroot : ∀ c ∈ w.cores, c.mode ≠ .root) :
    w.CoresOnly w' ∧ (r = .ok () → ∀ c ∈ w'.cores, c.mode = .off) ∧ ∀ e, r = .error e → e = .halted := by
  have hs := disable_settled w.cores hroot
  simp only [disableCores, run_bind, run_get] at h
  split at h <;> rename_i heq <;> rw [heq] at hs <;>
    simp only [run_modify, run_throw, Prod.mk.injEq] at h <;> obtain ⟨rfl, rfl⟩ := h
  · exact ⟨⟨rfl, rfl, rfl, rfl⟩, fun _ => hs, by simp⟩
  · exact ⟨⟨rfl, rfl, rfl, rfl⟩, by simp, by simp⟩

/-! ## One state per processor -/

/-- Every processor has its own `vmx::state`, which `get_current_vm_state` finds and whose `ept` is
the EPT object; past the last processor it finds none. -/
structure World.PerCoreStates (w : World) : Prop where
  ept : w.self.ept.isSome
  state : ∀ i < w.cores.length, ∃ a, w.self.getCurrentVmState i = some a ∧ w.stateEpt a = w.self.ept
  beyond : ∀ i, w.cores.length ≤ i → w.self.getCurrentVmState i = none
  distinct : ∀ i < w.cores.length, ∀ j < w.cores.length,
    w.self.getCurrentVmState i = w.self.getCurrentVmState j → i = j

theorem reduceOption_inj {l : List (Option Nat)} (hnd : l.reduceOption.Nodup) {i j a : Nat}
    (hi : l[i]? = some (some a)) (hj : l[j]? = some (some a)) : i = j := by
  induction l generalizing i j with
  | nil => cases hi
  | cons x l ih =>
    have hmem : ∀ k, l[k]? = some (some a) → a ∈ l.reduceOption := fun k hk =>
      List.reduceOption_mem_iff.2 (List.mem_iff_getElem?.2 ⟨k, hk⟩)
    cases i <;> cases j
    · rfl
    · obtain rfl : x = some a := by simpa using hi
      exact absurd (hmem _ (by simpa using hj))
        (List.nodup_cons.1 (by simpa [List.reduceOption_cons_of_some] using hnd)).1
    · obtain rfl : x = some a := by simpa using hj
      exact absurd (hmem _ (by simpa using hi))
        (List.nodup_cons.1 (by simpa [List.reduceOption_cons_of_some] using hnd)).1
    · have hnd' : l.reduceOption.Nodup := by
        cases x
        · simpa [List.reduceOption_cons_of_none] using hnd
        · exact (List.nodup_cons.1 (by simpa [List.reduceOption_cons_of_some] using hnd)).2
      exact congrArg (· + 1) (ih hnd' (by simpa using hi) (by simpa using hj))

theorem getElem?_of_getD {l : List (Option Nat)} {k a : Nat} (h : l.getD k none = some a) :
    l[k]? = some (some a) := by
  rw [List.getD_eq_getElem?_getD] at h
  cases hk : l[k]? <;> simp_all

theorem Hypervisor.getCurrentVmState_of_lt {h : Hypervisor} {i : Nat} (hi : i < h.vmStateCount) :
    h.getCurrentVmState i = h.entry i := by
  unfold getCurrentVmState entry
  cases h.vmStates <;> simp [Nat.not_le.2 hi]

theorem Hypervisor.getCurrentVmState_of_le {h : Hypervisor} {i : Nat} (hi : h.vmStateCount ≤ i) :
    h.getCurrentVmState i = none := by
  unfold getCurrentVmState
  cases h.vmStates <;> simp [hi]

/-- A state in every entry makes one state per processor: distinct, since the pool never hands
out a live address twice. -/
theorem Owns.perCoreStates {L : List Nat} {w : World} (hO : Owns L w) (he : w.self.ept.isSome)
    (hcount : w.self.vmStateCount = w.cores.length) (hs : ∀ i < w.cores.length, w.HasState i) :
    w.PerCoreStates where
  ept := he
  state i hi := by
    rw [Hypervisor.getCurrentVmState_of_lt (hcount ▸ hi)]
    exact hs i hi
  beyond i hi := Hypervisor.getCurrentVmState_of_le (hcount ▸ hi)
  distinct i hi j hj heq := by
    rw [Hypervisor.getCurrentVmState_of_lt (hcount ▸ hi), Hypervisor.getCurrentVmState_of_lt (hcount ▸ hj)] at heq
    obtain ⟨a, ha, -⟩ := hs i hi
    cases hv : w.self.vmStates with
    | none => simp [Hypervisor.entry, hv] at ha
    | some array =>
      have hnd : array.entries.reduceOption.Nodup := by
        have := hO.perm.nodup_iff.1 hO.valid.1
        simp only [Hypervisor.owned, hv, List.append_assoc] at this
        exact this.sublist (List.sublist_append_left _ _)
      simp only [Hypervisor.entry, hv, Option.some_bind] at ha heq
      exact reduceOption_inj hnd (getElem?_of_getD ha) (getElem?_of_getD (heq ▸ ha))

theorem World.PerCoreStates.congr {w w' : World} (h : w.PerCoreStates) (hs : w'.self = w.self)
    (he : w'.stateEpt = w.stateEpt) (hc : w'.cores.length = w.cores.length) : w'.PerCoreStates := by
  obtain ⟨h₁, h₂, h₃, h₄⟩ := h
  rw [← hc, ← hs, ← he] at *
  exact ⟨h₁, h₂, h₃, h₄⟩

/-! ## Construction -/

/-- How the guarded statements of the constructor end, from `w`: keeping `Owns L`, and with every
core virtualised and its own VM state, or every core outside VMX operation, or halted. -/
def GuardedEnd (L : List Nat) (w : World) : Except Failure Unit × World → Prop
  | (r, w') => Owns L w' ∧ w'.globalInstance = w.globalInstance ∧ match r with
    | .ok () => (∀ c ∈ w'.cores, c.mode = .nonRoot) ∧ w'.PerCoreStates
    | .error (.threw _) => ∀ c ∈ w'.cores, c.mode = .off
    | .error .halted => True

theorem guardedConstruction_spec {L : List Nat} (vmxSupported vmxAvailable : Bool) (hw : Nat → CoreHardware)
    {w : World} (hO : Owns L w) (hoff : ∀ c ∈ w.cores, c.mode = .off) :
    GuardedEnd L w ((guardedConstruction vmxSupported vmxAvailable hw).run w) := by
  simp only [guardedConstruction, run_bind, throwIf_run]
  by_cases hs : vmxSupported = false
  · simp only [hs, Bool.not_false, if_true]
    exact ⟨hO, rfl, hoff⟩
  by_cases ha : vmxAvailable = false
  · simp only [hs, ha, Bool.not_false, if_true, if_false]
    exact ⟨hO, rfl, hoff⟩
  simp only [Bool.not_eq_false] at hs ha
  simp only [hs, ha, Bool.not_true, Bool.false_eq_true, if_false]
  have hA := allocateVmStates_spec hO
  rcases hres : allocateVmStates.run w with ⟨⟨m | _⟩ | ⟨⟩, w₁⟩ <;> rw [hres] at hA <;>
    obtain ⟨hO₁, hi₁, hc₁, hok₁⟩ := hA <;> dsimp only
  · exact ⟨hO₁, hi₁, hc₁ ▸ hoff⟩
  · exact ⟨hO₁, hi₁, trivial⟩
  obtain ⟨he₁, hcount₁, hs₁⟩ := hok₁ rfl
  have hroot : ∀ c ∈ w₁.cores, c.mode ≠ .root := fun c hc => by rw [hoff c (hc₁ ▸ hc)]; decide
  rcases hres₂ : (enableCores hw).run w₁ with ⟨r, w₂⟩
  obtain ⟨hw₂, hok₂, hthrew₂⟩ := enableCores_spec hres₂ hroot
  have hO₂ : Owns L w₂ := hO₁.congr hw₂.pool hw₂.self
  refine ⟨hO₂, hw₂.globalInstance.trans hi₁, ?_⟩
  rcases r with ⟨m | _⟩ | ⟨⟩
  · exact hthrew₂ m rfl
  · trivial
  obtain ⟨hlen, hnon⟩ := hok₂ rfl
  exact ⟨hnon, (hO₁.perCoreStates he₁ (hcount₁.trans (congrArg _ hc₁.symm)) fun i hi => hs₁ i (hc₁ ▸ hi)).congr
    hw₂.self hw₂.stateEpt hlen⟩

/-- How `hypervisor::hypervisor()` ends, from `w`: a second instance is refused and nothing changes;
otherwise the object is registered with every core virtualised and one VM state per core, or
`instance` is cleared with the pool as before and no core in VMX operation, or the system halted,
which it never does when another instance is registered. -/
def Constructed (w : World) (this : Nat) : Except Failure Unit × World → Prop
  | (.ok (), w') => w.globalInstance = none ∧ w'.globalInstance = some this ∧
      w'.pool.live.Perm (w'.self.owned ++ w.pool.live) ∧ (∀ c ∈ w'.cores, c.mode = .nonRoot) ∧ w'.PerCoreStates
  | (.error (.threw message), w') =>
      (w.globalInstance.isSome ∧ message = "Hypervisor already instantiated" ∧ w' = w) ∨
      (w.globalInstance = none ∧ w'.globalInstance = none ∧ w'.pool.live.Perm w.pool.live ∧
        w'.self.owned = [] ∧ ∀ c ∈ w'.cores, c.mode = .off)
  | (.error .halted, _) => w.globalInstance = none

theorem constructHypervisor_spec {w : World} (this : Nat) (vmxSupported vmxAvailable : Bool)
    (hw : Nat → CoreHardware) (hself : w.self = .empty) (hpool : w.pool.Valid) (hoff : ∀ c ∈ w.cores, c.mode = .off) :
    Owns w.pool.live ((constructHypervisor this vmxSupported vmxAvailable hw).run w).2 ∧
      Constructed w this ((constructHypervisor this vmxSupported vmxAvailable hw).run w) := by
  have hO : Owns w.pool.live w :=
    ⟨hpool, by simp [hself, Hypervisor.empty, Hypervisor.owned], fun _ h => by simp [hself, Hypervisor.empty] at h⟩
  simp only [constructHypervisor, run_bind, run_get, throwIf_run]
  by_cases hinst : w.globalInstance.isSome
  · simp only [hinst, if_true]
    exact ⟨hO, .inl ⟨hinst, rfl, rfl⟩⟩
  have hnone : w.globalInstance = none := Option.not_isSome_iff_eq_none.1 hinst
  simp only [hinst, Bool.false_eq_true, if_false, run_modify, guarded_run]
  have hG := guardedConstruction_spec vmxSupported vmxAvailable hw
    (hO.congr rfl rfl : Owns w.pool.live { w with globalInstance := some this }) hoff
  rcases hres : (guardedConstruction vmxSupported vmxAvailable hw).run { w with globalInstance := some this }
    with ⟨⟨m | _⟩ | ⟨⟩, w₁⟩ <;> rw [hres] at hG <;> obtain ⟨hO₁, hi₁, hend⟩ := hG <;> dsimp only
  · exact ⟨hO₁.freeVmStates.1.congr rfl rfl,
      .inr ⟨hnone, rfl, hO₁.freeVmStates_live, hO₁.freeVmStates.2, by simpa using hend⟩⟩
  · exact ⟨hO₁, hnone⟩
  · exact ⟨hO₁, hnone, hi₁, hO₁.perm, hend⟩

theorem hypervisor_construction_all_or_nothing (w : World) (this : Nat) (vmxSupported vmxAvailable : Bool)
    (hw : Nat → CoreHardware) (hself : w.self = .empty) (hpool : w.pool.Valid)
    (hoff : ∀ c ∈ w.cores, c.mode = .off) :
    Constructed w this ((constructHypervisor this vmxSupported vmxAvailable hw).run w) :=
  (constructHypervisor_spec this vmxSupported vmxAvailable hw hself hpool hoff).2

/-- Two processors, and a pool that refuses the third allocation: the second `vmx::state`. -/
theorem construction_with_failing_state_allocation :
    let w : World := ⟨none, ⟨[], 0, [false, false, true]⟩, fun _ => none,
      [⟨.off, ⟨fun _ => 0, fun _ => 0, fun _ _ => ⟨0, 0, 0, 0⟩, fun _ => 0, 0, 0, 0, 0, 0,
        ⟨fun _ _ => none, fun _ => true, fun _ => 0, fun _ _ => Option.noConfusion⟩⟩⟩,
       ⟨.off, ⟨fun _ => 0, fun _ => 0, fun _ _ => ⟨0, 0, 0, 0⟩, fun _ => 0, 0, 0, 0, 0, 0,
        ⟨fun _ _ => none, fun _ => true, fun _ => 0, fun _ _ => Option.noConfusion⟩⟩⟩], .empty⟩
    let hw : Nat → CoreHardware := fun _ => ⟨true, true, 0, 0xFFFFFFFF, 0, 0xFFFFFFFF, true, true, true⟩
    w.self = .empty ∧ w.pool.Valid ∧ (∀ c ∈ w.cores, c.mode = .off) ∧
      Constructed w 1 ((constructHypervisor 1 true true hw).run w) := by
  dsimp only
  exact ⟨rfl, by decide, by simp, hypervisor_construction_all_or_nothing _ 1 true true _ rfl (by decide) (by simp)⟩

/-! ## Destruction -/

/-- How `~hypervisor()` ends: `instance` cleared, the live allocations those of `L`, the object
holding nothing and no core in VMX operation; or halted in `disable_core`. -/
def Destroyed (L : List Nat) : Except Failure Unit × World → Prop
  | (.ok (), w') => w'.globalInstance = none ∧ w'.pool.live.Perm L ∧ w'.self.owned = [] ∧
      ∀ c ∈ w'.cores, c.mode = .off
  | (.error e, _) => e = .halted

/-- `~hypervisor()` on an object whose allocations are tracked by `Owns L`, with no core in root
operation. -/
theorem destroyHypervisor_spec {L : List Nat} {w : World} (hO : Owns L w) (hroot : ∀ c ∈ w.cores, c.mode ≠ .root) :
    Owns L (destroyHypervisor.run w).2 ∧ Destroyed L (destroyHypervisor.run w) := by
  simp only [destroyHypervisor, run_bind, run_modify]
  rcases hd : disableCores.run w with ⟨⟨⟩ | ⟨⟩, w₁⟩ <;> obtain ⟨hf, hok, herr⟩ := disableCores_spec hd hroot
  · exact ⟨hO.congr hf.pool hf.self, herr _ rfl⟩
  · have hO₁ := hO.congr hf.pool hf.self
    exact ⟨hO₁.freeVmStates.1.congr rfl rfl, rfl, hO₁.freeVmStates_live, hO₁.freeVmStates.2, by simpa using hok rfl⟩

theorem hypervisor_destruction_frees_construction (w : World) (this : Nat) (vmxSupported vmxAvailable : Bool)
    (hw : Nat → CoreHardware) (hself : w.self = .empty) (hpool : w.pool.Valid)
    (hoff : ∀ c ∈ w.cores, c.mode = .off)
    (hok : ((constructHypervisor this vmxSupported vmxAvailable hw).run w).1 = .ok ()) :
    Destroyed w.pool.live (destroyHypervisor.run ((constructHypervisor this vmxSupported vmxAvailable hw).run w).2) := by
  obtain ⟨hO, hC⟩ := constructHypervisor_spec this vmxSupported vmxAvailable hw hself hpool hoff
  rcases hres : (constructHypervisor this vmxSupported vmxAvailable hw).run w with ⟨r, w₁⟩
  rw [hres] at hO hC hok
  subst hok
  obtain ⟨-, -, -, hnon, -⟩ := hC
  exact (destroyHypervisor_spec hO fun c hc => by rw [hnon c hc]; decide).2

/-- Two processors: the construction returns, and the destruction frees what it allocated. -/
theorem destruction_after_construction_on_two_cores :
    let core : Core := ⟨.off, ⟨fun _ => 0, fun _ => 0, fun _ _ => ⟨0, 0, 0, 0⟩, fun _ => 0, 0, 0, 0, 0, 0,
      ⟨fun _ _ => none, fun _ => true, fun _ => 0, fun _ _ => Option.noConfusion⟩⟩⟩
    let w : World := ⟨none, ⟨[], 0, []⟩, fun _ => none, [core, core], .empty⟩
    let hw : Nat → CoreHardware := fun _ => ⟨true, true, 0, 0xFFFFFFFF, 0, 0xFFFFFFFF, true, true, true⟩
    w.self = .empty ∧ w.pool.Valid ∧ (∀ c ∈ w.cores, c.mode = .off) ∧
      ((constructHypervisor 1 true true hw).run w).1 = .ok () ∧
      Destroyed w.pool.live (destroyHypervisor.run ((constructHypervisor 1 true true hw).run w).2) := by
  dsimp only
  refine ⟨rfl, by decide, by simp, ?ok,
    hypervisor_destruction_frees_construction _ 1 true true _ rfl (by decide) (by simp) ?ok⟩
  exact eq_ok_of_toBool (by decide)

end HyperHook

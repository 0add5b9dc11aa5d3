import HyperHook.Lifecycle.Instance
import HyperHook.Power

/-!
# The driver's life: load, power notifications, unload

`DriverEntry` creates the one `global_driver` with `new`: `operator new` allocates the object,
and its constructor builds the members in their order of declaration: `hypervisor_was_enabled_`
(false), `hypervisor_` (its default member initializers, then `hypervisor::hypervisor()`), and the
power, process and device members, whose classes are not in the sources. When a member throws,
the members before it are destroyed, `operator delete` frees the object and `DriverEntry` returns
`STATUS_INTERNAL_ERROR`. While the driver is loaded, the power callback runs `sleep_notification`
on some processor. `unload` deletes the driver: `~global_driver()` destroys the members in reverse
order, `~hypervisor()` among them, and `operator delete` frees the object.

The system is the hypervisor's `World` together with `global_driver_instance` and the driver's
flag. The driver's code runs in `SystemM`, into which `liftWorld` embeds the hypervisor's
`DriverM`.

The proofs follow `Owns (this :: L)` while the driver at `this` is loaded: the pool's live
allocations are the hypervisor's, the driver object and `L`, those live before the load. Power
notifications change only the cores and the flag, so they keep it; they also keep the cores all
virtualised or all outside VMX operation, and their number.

**Theorem (`loaded_driver_keeps_its_hypervisor`).** After a load that succeeds and any power
notifications on any processors that do not halt, the driver and its hypervisor stay registered,
the pool holds exactly their allocations besides those before the load, every processor has its
own VM state, and the cores are all virtualised or all outside VMX operation.

**Theorem (`driver_life_leaves_no_allocation`).** From a system with no driver or hypervisor
registered and no core in VMX operation, a load, then any power notifications and the unload,
either halt or leave the live allocations as they were, nothing registered and no core in VMX
operation, whichever allocations fail and whatever the processors answer.
-/

namespace HyperHook

/-! ## The system -/

/-- The system as the driver's code sees it: the hypervisor's world, `global_driver_instance` by
the object's address, and `hypervisor_was_enabled_` of the driver object. -/
structure System where
  world : World
  globalDriverInstance : Option Nat
  hypervisorWasEnabled : Bool

/-- The driver's code: it changes the system, and returns, throws or halts. -/
abbrev SystemM := ExceptT Failure (StateM System)

namespace SystemM

/-- How `x` ends from `s`, and the system it leaves. -/
def run {α : Type} (x : SystemM α) (s : System) : Except Failure α × System := StateT.run (ExceptT.run x) s

section Run

variable {α β : Type} (s : System)

@[simp] theorem run_pure (a : α) : run (pure a) s = (.ok a, s) := rfl

@[simp] theorem run_throw (e : Failure) : run (throw e : SystemM α) s = (.error e, s) := rfl

@[simp] theorem run_get : run (get : SystemM System) s = (.ok s, s) := rfl

@[simp] theorem run_set (s' : System) : run (set s' : SystemM Unit) s = (.ok (), s') := rfl

@[simp] theorem run_modify (f : System → System) : run (modify f : SystemM Unit) s = (.ok (), f s) := rfl

@[simp] theorem run_bind (x : SystemM α) (f : α → SystemM β) :
    run (x >>= f) s = match run x s with
      | (.ok a, s) => run (f a) s
      | (.error e, s) => (.error e, s) := by
  simp only [run, bind, ExceptT.bind, ExceptT.run, ExceptT.mk, StateT.bind, StateT.run]
  rcases x s with ⟨_ | _, _⟩ <;> rfl

@[simp] theorem run_tryCatch (x : SystemM α) (handle : Failure → SystemM α) :
    run (tryCatch x handle) s = match run x s with
      | (.ok a, s) => (.ok a, s)
      | (.error e, s) => run (handle e) s := by
  simp only [run, tryCatch, tryCatchThe, MonadExceptOf.tryCatch, ExceptT.tryCatch, ExceptT.run, ExceptT.mk, bind,
    StateT.bind, StateT.run]
  rcases x s with ⟨_ | _, _⟩ <;> rfl

end Run

theorem eq_ok_of_toOption {α : Type} {r : Except Failure α} {a : α} (h : r.toOption = some a) : r = .ok a := by
  cases r <;> simp_all [Except.toOption]

end SystemM

open SystemM

/-- Hypervisor code, run on the system's world. -/
def liftWorld {α : Type} (x : DriverM α) : SystemM α :=
  ExceptT.mk fun s => pure ((x.run s.world).1, { s with world := (x.run s.world).2 })

@[simp] theorem run_liftWorld {α : Type} (x : DriverM α) (s : System) :
    (liftWorld x).run s = ((x.run s.world).1, { s with world := (x.run s.world).2 }) := rfl

/-- `try { body } catch (...) { handler }`: an exception from the body runs the handler; a halt is
past every handler. -/
def catchThrew {α : Type} (body : SystemM α) (handler : String → SystemM α) : SystemM α :=
  tryCatch body fun
    | .threw message => handler message
    | .halted => throw .halted

theorem catchThrew_run {α : Type} (body : SystemM α) (handler : String → SystemM α) (s : System) :
    (catchThrew body handler).run s = match body.run s with
      | (.error (.threw message), s') => (handler message).run s'
      | r => r := by
  simp only [catchThrew, run_tryCatch]
  rcases body.run s with ⟨⟨_ | _⟩ | _, _⟩ <;> rfl

/-! ## The driver's code -/

/-- `operator new(size)`: `perform_checked_non_paged_allocation` throws when the pool refuses. -/
def operatorNew : DriverM Nat := do
  let w ← get
  set { w with pool := w.pool.allocate.2 }
  match w.pool.allocate.1 with
  | some address => pure address
  | none => throw (.threw "Memory allocation failed")

/-- `operator delete(ptr)`: `memory::free_non_paged_memory`. -/
def operatorDelete (address : Nat) : DriverM Unit :=
  modify fun w => { w with pool := w.pool.release (some address) }

/-- `global_driver::global_driver(driver_object)` for the object at `this`. `members` is how the
constructors of `sleep_callback_`, `process_callback_` and `irp_` end; modelled from the spec (the
OS collaborators), they return (`none`) or throw, and their destructors act on nothing the model
holds. When they throw, the constructed `hypervisor_` is destroyed. -/
def constructGlobalDriver (this : Nat) (vmxSupported vmxAvailable : Bool) (members : Option String)
    (hw : Nat → CoreHardware) : SystemM Unit := do
  modify fun s => { s with hypervisorWasEnabled := false, world.self := .empty }
  liftWorld (constructHypervisor this vmxSupported vmxAvailable hw)
  match members with
  | none => pure ()
  | some message =>
    liftWorld destroyHypervisor
    throw (.threw message)

/-- `new global_driver(driver_object)`: when the constructor throws, `operator delete` frees the
object before the exception goes on. -/
def newGlobalDriver (vmxSupported vmxAvailable : Bool) (members : Option String) (hw : Nat → CoreHardware) :
    SystemM Nat := do
  let this ← liftWorld operatorNew
  catchThrew (constructGlobalDriver this vmxSupported vmxAvailable members hw) fun message => do
    liftWorld (operatorDelete this)
    throw (.threw message)
  pure this

/-- `STATUS_SUCCESS` and `STATUS_INTERNAL_ERROR` of the WDK headers, which are not in the sources. -/
def statusSuccess : BitVec 32 := 0

/-- See `statusSuccess`. -/
def statusInternalError : BitVec 32 := 0xC00000E5

/-- `DriverEntry`. Setting `DriverUnload` and `globals::run_constructors()`, which is not in the
sources, act on nothing the model holds. -/
def driverEntry (vmxSupported vmxAvailable : Bool) (members : Option String) (hw : Nat → CoreHardware) :
    SystemM (BitVec 32) :=
  catchThrew
    (do
      let this ← newGlobalDriver vmxSupported vmxAvailable members hw
      modify fun s => { s with globalDriverInstance := some this }
      pure statusSuccess)
    fun _ => pure statusInternalError

/-- `unload`: `pre_destroy` does nothing, `delete` runs `~global_driver()` and `operator delete`.
Of the members' destructors only `~hypervisor()` acts on the model; `globals::run_destructors()`
is not in the sources. -/
def unload : SystemM Unit :=
  catchThrew
    (do
      match (← get).globalDriverInstance with
      | none => pure ()
      | some this =>
        liftWorld (do destroyHypervisor; operatorDelete this)
        modify fun s => { s with globalDriverInstance := none })
    fun _ => pure ()

/-- The power callback's call of `global_driver::sleep_notification(type)` on processor `cpu`. -/
def powerNotification (hw : Nat → CoreHardware) (cpu : Nat) (type : SleepType) : SystemM Unit := do
  let s ← get
  match sleepNotification hw cpu ⟨s.hypervisorWasEnabled, s.world.cores⟩ type with
  | some d => set { s with hypervisorWasEnabled := d.hypervisorWasEnabled, world.cores := d.cores }
  | none => throw .halted

/-- Power notifications one after another, each on its processor. -/
def powerNotifications (hw : Nat → CoreHardware) (events : List (Nat × SleepType)) : SystemM Unit :=
  events.forM fun event => powerNotification hw event.1 event.2

/-- A life of the driver as the system runs it: `DriverEntry`; when it succeeds, the power
notifications `events` and then `unload`. -/
def driverLife (vmxSupported vmxAvailable : Bool) (members : Option String) (hw : Nat → CoreHardware)
    (events : List (Nat × SleepType)) : SystemM (BitVec 32) := do
  let status ← driverEntry vmxSupported vmxAvailable members hw
  if status = statusSuccess then
    powerNotifications hw events
    unload
  pure status

/-! ## The pool around the driver object -/

/-- Freeing an outside allocation. -/
theorem Owns.release_outside {L : List Nat} {w : World} {a : Nat} (hO : Owns (a :: L) w) :
    Owns L { w with pool := w.pool.release (some a) } where
  valid := hO.valid.release _
  perm := Pool.release_perm (hO.perm.trans List.perm_middle)
  counts := hO.counts

theorem operatorNew_run (w : World) :
    operatorNew.run w = match w.pool.allocate.1 with
      | some a => (.ok a, { w with pool := w.pool.allocate.2 })
      | none => (.error (.threw "Memory allocation failed"), { w with pool := w.pool.allocate.2 }) := by
  simp only [operatorNew, DriverM.run_bind, DriverM.run_get, DriverM.run_set]
  split <;> rfl

/-! ## The states of the system -/

/-- No driver loaded: nothing registered, the pool valid and no core in VMX operation. -/
structure System.Unloaded (s : System) : Prop where
  driver : s.globalDriverInstance = none
  hypervisor : s.world.globalInstance = none
  pool : s.world.pool.Valid
  off : ∀ c ∈ s.world.cores, c.mode = .off

/-- The driver at `this` loaded, from the live allocations `L` before the load: the pool holds the
hypervisor's allocations, the driver object and `L`; the driver and its hypervisor are registered;
every processor has its own VM state; and the cores are all virtualised or all outside VMX
operation. -/
structure System.Loaded (L : List Nat) (this : Nat) (s : System) : Prop where
  owns : Owns (this :: L) s.world
  driver : s.globalDriverInstance = some this
  hypervisor : s.world.globalInstance = some this
  states : s.world.PerCoreStates
  cores : AllOrNone s.world.cores

/-- How code that ends with no driver loaded ends, from the live allocations `L`. -/
def LeftUnloaded {α : Type} (L : List Nat) : Except Failure α × System → Prop
  | (.ok _, s) => s.Unloaded ∧ s.world.pool.live.Perm L
  | (.error e, _) => e = .halted

/-! ## Loading -/

/-- How the constructor of `global_driver` ends, from `s` with `Owns L` for the object's
allocations: the hypervisor constructed, or every allocation of the constructor freed with no
core in VMX operation, or halted. -/
def GlobalDriverConstructed (L : List Nat) (this : Nat) (s : System) : Except Failure Unit × System → Prop
  | (r, s') => Owns L s'.world ∧ s'.globalDriverInstance = s.globalDriverInstance ∧ match r with
    | .ok () => s'.world.globalInstance = some this ∧ (∀ c ∈ s'.world.cores, c.mode = .nonRoot) ∧ s'.world.PerCoreStates
    | .error (.threw _) => s'.world.globalInstance = none ∧ s'.world.self.owned = [] ∧
        ∀ c ∈ s'.world.cores, c.mode = .off
    | .error .halted => True

theorem constructGlobalDriver_spec (this : Nat) (vmxSupported vmxAvailable : Bool) (members : Option String)
    (hw : Nat → CoreHardware) {s : System} (hpool : s.world.pool.Valid) (hinst : s.world.globalInstance = none)
    (hoff : ∀ c ∈ s.world.cores, c.mode = .off) :
    GlobalDriverConstructed s.world.pool.live this s ((constructGlobalDriver this vmxSupported vmxAvailable members hw).run s) := by
  simp only [constructGlobalDriver, run_bind, run_modify, run_liftWorld]
  obtain ⟨hO, hC⟩ := constructHypervisor_spec (w := { s.world with self := .empty }) this vmxSupported vmxAvailable hw
    rfl hpool hoff
  rcases hres : (constructHypervisor this vmxSupported vmxAvailable hw).run { s.world with self := .empty } with
    ⟨⟨m | _⟩ | ⟨⟩, w₁⟩ <;> rw [hres] at hO hC <;> dsimp only
  · rcases hC with ⟨hsome, -⟩ | ⟨-, hi, hlive, howned, hoff₁⟩
    · simp [hinst] at hsome
    · exact ⟨hO, rfl, hi, howned, hoff₁⟩
  · exact ⟨hO, rfl, trivial⟩
  obtain ⟨-, hi, -, hnon, hstates⟩ := hC
  cases members with
  | none => exact ⟨hO, rfl, hi, hnon, hstates⟩
  | some message =>
    simp only [run_bind, run_liftWorld, run_throw]
    obtain ⟨hO₂, hD⟩ := destroyHypervisor_spec hO fun c hc => by rw [hnon c hc]; decide
    rcases hd : destroyHypervisor.run w₁ with ⟨⟨e⟩ | ⟨⟩, w₂⟩ <;> rw [hd] at hO₂ hD
    · obtain rfl : e = .halted := hD
      exact ⟨hO₂, rfl, trivial⟩
    · exact ⟨hO₂, rfl, hD.1, hD.2.2.1, hD.2.2.2⟩

/-- How `new global_driver` ends, from a system with no driver loaded whose live allocations are
`L`: the driver object built around a constructed hypervisor, or everything freed, or halted. -/
def GlobalDriverCreated (L : List Nat) : Except Failure Nat × System → Prop
  | (.ok this, s) => s.globalDriverInstance = none ∧ Owns (this :: L) s.world ∧ s.world.globalInstance = some this ∧
      (∀ c ∈ s.world.cores, c.mode = .nonRoot) ∧ s.world.PerCoreStates
  | (.error (.threw _), s) => s.Unloaded ∧ s.world.pool.live.Perm L
  | (.error .halted, _) => True

theorem newGlobalDriver_spec (vmxSupported vmxAvailable : Bool) (members : Option String) (hw : Nat → CoreHardware)
    {s : System} (hs : s.Unloaded) :
    GlobalDriverCreated s.world.pool.live ((newGlobalDriver vmxSupported vmxAvailable members hw).run s) := by
  have hlive := Pool.allocate_live s.world.pool
  simp only [newGlobalDriver, run_bind, run_liftWorld, operatorNew_run]
  rcases ha : s.world.pool.allocate.1 with _ | this <;> rw [ha] at hlive <;> dsimp only
  · exact ⟨⟨hs.driver, hs.hypervisor, hs.pool.allocate, hs.off⟩, by rw [hlive]; rfl⟩
  have hC := constructGlobalDriver_spec (s := { s with world.pool := s.world.pool.allocate.2 }) this vmxSupported
    vmxAvailable members hw hs.pool.allocate hs.hypervisor hs.off
  rw [show ({ s with world.pool := s.world.pool.allocate.2 } : System).world.pool.live = this :: s.world.pool.live
    from hlive] at hC
  simp only [catchThrew_run]
  rcases hres : (constructGlobalDriver this vmxSupported vmxAvailable members hw).run
    { s with world.pool := s.world.pool.allocate.2 } with ⟨⟨m | _⟩ | ⟨⟩, s₁⟩ <;> rw [hres] at hC <;>
    obtain ⟨hO, hd, hend⟩ := hC <;> dsimp only
  · obtain ⟨hi, howned, hoff⟩ := hend
    simp only [run_bind, run_liftWorld, run_throw]
    have hO' := hO.release_outside
    exact ⟨⟨hd.trans hs.driver, hi, hO'.valid, hoff⟩, by simpa [howned] using hO'.perm⟩
  · trivial
  · exact ⟨hd.trans hs.driver, hO, hend⟩

/-- How `DriverEntry` ends, from a system with no driver loaded whose live allocations are `L`. -/
def Loads (L : List Nat) : Except Failure (BitVec 32) × System → Prop
  | (.ok status, s) => (status = statusSuccess ∧ ∃ this, s.Loaded L this) ∨
      (status = statusInternalError ∧ s.Unloaded ∧ s.world.pool.live.Perm L)
  | (.error e, _) => e = .halted

theorem driverEntry_spec (vmxSupported vmxAvailable : Bool) (members : Option String) (hw : Nat → CoreHardware)
    {s : System} (hs : s.Unloaded) :
    Loads s.world.pool.live ((driverEntry vmxSupported vmxAvailable members hw).run s) := by
  have hN := newGlobalDriver_spec vmxSupported vmxAvailable members hw hs
  simp only [driverEntry, catchThrew_run, run_bind]
  rcases hres : (newGlobalDriver vmxSupported vmxAvailable members hw).run s with ⟨⟨m | _⟩ | this, s₁⟩ <;>
    rw [hres] at hN <;> dsimp only
  · exact .inr ⟨rfl, hN⟩
  · rfl
  · obtain ⟨-, hO, hi, hnon, hstates⟩ := hN
    exact .inl ⟨rfl, this, hO, rfl, hi, hstates, .inl hnon⟩

/-! ## While the driver is loaded -/

/-- How code that keeps the driver at `this` loaded ends. -/
def StaysLoaded (L : List Nat) (this : Nat) : Except Failure Unit × System → Prop
  | (.ok (), s) => s.Loaded L this
  | (.error e, _) => e = .halted

/-- A power notification keeps the driver loaded: it changes only the cores and the flag. -/
theorem powerNotification_loaded (hw : Nat → CoreHardware) (cpu : Nat) (type : SleepType) {L : List Nat}
    {this : Nat} {s : System} (hs : s.Loaded L this) :
    StaysLoaded L this ((powerNotification hw cpu type).run s) := by
  simp only [powerNotification, run_bind, run_get]
  split
  · rename_i d hd
    exact ⟨hs.owns.congr rfl rfl, hs.driver, hs.hypervisor,
      hs.states.congr rfl rfl (sleepNotification_length hw cpu type hd),
      sleepNotification_allOrNone hw cpu type hs.cores hd⟩
  · rfl

theorem powerNotifications_loaded (hw : Nat → CoreHardware) (events : List (Nat × SleepType)) {L : List Nat}
    {this : Nat} {s : System} (hs : s.Loaded L this) :
    StaysLoaded L this ((powerNotifications hw events).run s) := by
  induction events generalizing s with
  | nil => exact hs
  | cons event events ih =>
    have h₁ := powerNotification_loaded hw event.1 event.2 hs
    simp only [powerNotifications, List.forM_cons', run_bind] at ih ⊢
    rcases hres : (powerNotification hw event.1 event.2).run s with ⟨⟨e⟩ | ⟨⟩, s₁⟩ <;> rw [hres] at h₁ <;>
      dsimp only
    · exact h₁
    · exact ih h₁

/-- After a load that succeeds, any power notifications that do not halt leave the driver and its
hypervisor registered, the pool holding exactly their allocations besides those before the load,
one VM state for every processor, and the cores all virtualised or all outside VMX operation. -/
theorem loaded_driver_keeps_its_hypervisor (s : System) (vmxSupported vmxAvailable : Bool)
    (members : Option String) (hw : Nat → CoreHardware) (events : List (Nat × SleepType)) (hs : s.Unloaded)
    (hload : ((driverEntry vmxSupported vmxAvailable members hw).run s).1 = .ok statusSuccess) :
    match (powerNotifications hw events).run ((driverEntry vmxSupported vmxAvailable members hw).run s).2 with
    | (.ok (), s') => ∃ this, s'.Loaded s.world.pool.live this
    | (.error e, _) => e = .halted := by
  have hE := driverEntry_spec vmxSupported vmxAvailable members hw hs
  rcases hres : (driverEntry vmxSupported vmxAvailable members hw).run s with ⟨r, s₁⟩
  rw [hres] at hE hload
  subst hload
  rcases hE with ⟨-, this, hL⟩ | ⟨hne, -⟩
  · have hP := powerNotifications_loaded hw events hL
    rcases hres₂ : (powerNotifications hw events).run s₁ with ⟨⟨e⟩ | ⟨⟩, s₂⟩ <;> rw [hres₂] at hP
    · exact hP
    · exact ⟨this, hP⟩
  · exact absurd hne (by decide)

/-- Two processors: the load succeeds, and the driver stays loaded through a sleep on one processor
and a wake on the other. -/
theorem driver_stays_loaded_across_sleep_and_wake :
    let core : Core := ⟨.off, ⟨fun _ => 0, fun _ => 0, fun _ _ => ⟨0, 0, 0, 0⟩, fun _ => 0, 0, 0, 0, 0, 0,
      ⟨fun _ _ => none, fun _ => true, fun _ => 0, fun _ _ => Option.noConfusion⟩⟩⟩
    let s : System := ⟨⟨none, ⟨[], 0, []⟩, fun _ => none, [core, core], .empty⟩, none, false⟩
    let hw : Nat → CoreHardware := fun _ => ⟨true, true, 0, 0xFFFFFFFF, 0, 0xFFFFFFFF, true, true, true⟩
    s.Unloaded ∧ ((driverEntry true true none hw).run s).1 = .ok statusSuccess ∧
      match (powerNotifications hw [(0, .sleep), (1, .wakeup)]).run ((driverEntry true true none hw).run s).2 with
      | (.ok (), s') => ∃ this, s'.Loaded s.world.pool.live this
      | (.error e, _) => e = .halted := by
  dsimp only
  refine ⟨?hs, ?ok, loaded_driver_keeps_its_hypervisor _ true true none _ _ ?hs ?ok⟩
  · exact ⟨rfl, rfl, by decide, by simp⟩
  · exact eq_ok_of_toOption (by decide)

/-! ## Unloading -/

theorem unload_spec {L : List Nat} {this : Nat} {s : System} (hs : s.Loaded L this) : LeftUnloaded L (unload.run s) := by
  obtain ⟨hO, hD⟩ := destroyHypervisor_spec hs.owns hs.cores.not_root
  simp only [unload, catchThrew_run, run_bind, run_get, hs.driver, run_liftWorld, DriverM.run_bind]
  rcases hd : destroyHypervisor.run s.world with ⟨⟨e⟩ | ⟨⟩, w₁⟩ <;> rw [hd] at hO hD <;> dsimp only
  · obtain rfl : e = .halted := hD
    rfl
  obtain ⟨hi, -, howned, hoff⟩ := hD
  have hO' := hO.release_outside
  exact ⟨⟨rfl, hi, hO'.valid, hoff⟩, by simpa [howned] using hO'.perm⟩

/-- A life of the driver, from a system with no driver or hypervisor registered and no core in VMX
operation, halts or leaves the live allocations as they were, nothing registered and no core in
VMX operation. -/
theorem driver_life_leaves_no_allocation (s : System) (vmxSupported vmxAvailable : Bool) (members : Option String)
    (hw : Nat → CoreHardware) (events : List (Nat × SleepType)) (hs : s.Unloaded) :
    LeftUnloaded s.world.pool.live ((driverLife vmxSupported vmxAvailable members hw events).run s) := by
  have hE := driverEntry_spec vmxSupported vmxAvailable members hw hs
  simp only [driverLife, run_bind]
  rcases hres : (driverEntry vmxSupported vmxAvailable members hw).run s with ⟨⟨e⟩ | status, s₁⟩ <;>
    rw [hres] at hE <;> dsimp only
  · exact hE
  rcases hE with ⟨rfl, this, hL⟩ | ⟨rfl, hU, hlive⟩
  · have hP := powerNotifications_loaded hw events hL
    rw [if_pos rfl]
    simp only [run_bind, run_pure]
    rcases hres₂ : (powerNotifications hw events).run s₁ with ⟨⟨e⟩ | ⟨⟩, s₂⟩ <;> rw [hres₂] at hP <;> dsimp only
    · exact hP
    have hU₂ := unload_spec hP
    rcases hres₃ : unload.run s₂ with ⟨⟨e⟩ | ⟨⟩, s₃⟩ <;> rw [hres₃] at hU₂ <;> exact hU₂
  · rw [if_neg (by decide)]
    exact ⟨hU, hlive⟩

/-- Two processors, and a pool that refuses the fifth allocation, the second `vmx::state`: the load
fails, and nothing it allocated stays live. -/
theorem driver_life_with_failing_load :
    let core : Core := ⟨.off, ⟨fun _ => 0, fun _ => 0, fun _ _ => ⟨0, 0, 0, 0⟩, fun _ => 0, 0, 0, 0, 0, 0,
      ⟨fun _ _ => none, fun _ => true, fun _ => 0, fun _ _ => Option.noConfusion⟩⟩⟩
    let s : System := ⟨⟨none, ⟨[], 0, [false, false, false, false, true]⟩, fun _ => none, [core, core], .empty⟩,
      none, false⟩
    let hw : Nat → CoreHardware := fun _ => ⟨true, true, 0, 0xFFFFFFFF, 0, 0xFFFFFFFF, true, true, true⟩
    s.Unloaded ∧ LeftUnloaded s.world.pool.live ((driverLife true true none hw [(0, .sleep)]).run s) := by
  dsimp only
  refine ⟨?hs, driver_life_leaves_no_allocation _ true true none _ _ ?hs⟩
  exact ⟨rfl, rfl, by decide, by simp⟩

end HyperHook

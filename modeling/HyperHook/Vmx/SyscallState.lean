import HyperHook.Vmx.ReadData

/-!
# Reading the instruction at the guest RIP

`get_syscall_state` decides whether the `#UD` that exited was raised by `SYSCALL` (`0F 05`) or
`SYSRETQ` (`48 0F 07`), the two instructions the hooks make fault. It reads three bytes at the
guest RIP with `read_data_or_page_fault<3>`, which walks the range page by page: each round
translates the current address, injects a `#PF` if it is not mapped, and copies up to the end of
the page or of the array.

**Theorem (`getSyscallState_classifies`).** For every guest RIP whose three bytes end below the
top page, and every guest memory, `get_syscall_state` answers `page_fault` exactly when one of the
three bytes at RIP, RIP + 1 and RIP + 2 is not readable, and otherwise classifies them:
`is_syscall` for `0F 05`, `is_sysret` for `48 0F 07`, `none` for anything else. So a `SYSCALL` in
the last two bytes of a page in front of an unmapped page is answered `page_fault`
(`syscall_at_page_end_faults`). In the top page the read overruns the three bytes of `data`
(`top_page_read_overruns_array`), which the model's array does not bound: there it says nothing.

The proof rests on `readDataOrPageFault_of_fits`: for an array that ends below the top page, the
loop succeeds exactly when every byte to read is readable, and then it has copied them.
-/

namespace HyperHook

/-- `syscall_state` -/
inductive SyscallState
  | isSysret
  | isSyscall
  | pageFault
  | none
  deriving DecidableEq, Repr

/-- `syscall_bytes` -/
def syscallBytes : List (BitVec 8) := [0x0F, 0x05]

/-- `sysret_bytes` -/
def sysretBytes : List (BitVec 8) := [0x48, 0x0F, 0x07]

/-- `is_mem_equal(ptr, array)` -/
def isMemEqual (ptr : Nat → BitVec 8) (array : List (BitVec 8)) : Bool :=
  (List.range array.length).all fun i => ptr i == array.getD i 0

/-- The address space `get_syscall_state` reads the instruction through: the current process's
when the guest CR3 carries a PCID (`PCID_MASK`), the one the exit runs in otherwise. -/
def syscallCr3 (m : Machine) : BitVec 64 :=
  if m.readVmx .guestCr3 &&& 3 ≠ 0 then m.processCr3 else m.cr3

/-- `get_syscall_state(guest_context)`. The `scoped_cr3_switch` puts the CR3 back on return, so
the model reads through `syscallCr3` and leaves `cr3` alone. The array `data` is not initialised
in the source; the model starts it at zeros, and a successful read overwrites all of it. -/
def getSyscallState (m : Machine) (gc : GuestContext) : SyscallState × Machine :=
  let maxByteLength := max sysretBytes.length syscallBytes.length
  let (ok, data, m) := readDataOrPageFault m (syscallCr3 m) maxByteLength gc.guestRip fun _ => 0
  if !ok then (.pageFault, m)
  else if isMemEqual data syscallBytes then (.isSyscall, m)
  else if isMemEqual data sysretBytes then (.isSysret, m)
  else (.none, m)

/-- The instruction that the bytes at the guest RIP begin with: `SYSCALL` is `0F 05` and
`SYSRETQ` is `48 0F 07`. -/
def classifyInstruction (bytes : List (BitVec 8)) : SyscallState :=
  if bytes.take 2 = syscallBytes then .isSyscall
  else if bytes.take 3 = sysretBytes then .isSysret
  else .none

/-- The loop `get_syscall_state` runs. -/
theorem getSyscallState_read (m : Machine) (gc : GuestContext) :
    readDataOrPageFault m (syscallCr3 m) (max sysretBytes.length syscallBytes.length) gc.guestRip
      (fun _ => 0) = readDataLoop 3 gc.guestRip (syscallCr3 m) 3 (BitVec.ofNat 64 0) (fun _ => 0) m :=
  rfl

/-- Every answer comes with the machine the loop leaves. -/
theorem getSyscallState_snd (m : Machine) (gc : GuestContext) :
    (getSyscallState m gc).2 =
      (readDataLoop 3 gc.guestRip (syscallCr3 m) 3 (BitVec.ofNat 64 0) (fun _ => 0) m).2.2 := by
  simp only [getSyscallState, getSyscallState_read]
  split_ifs <;> rfl

theorem getSyscallState_classifies (m : Machine) (gc : GuestContext) (hfit : gc.guestRip.toNat + 3 ≤ 2 ^ 64 - 4096) :
    (getSyscallState m gc).1 =
      match m.memory.guestBytes (syscallCr3 m) gc.guestRip 3 with
      | some bytes => classifyInstruction bytes
      | none => .pageFault := by
  have hread : ReadsFrom m (syscallCr3 m) gc.guestRip 3 0 (fun _ => 0)
      (readDataLoop 3 gc.guestRip (syscallCr3 m) 3 (BitVec.ofNat 64 0) (fun _ => 0) m) :=
    readDataOrPageFault_of_fits m hfit _
  obtain ⟨hok, hdata, -⟩ := hread
  simp only [getSyscallState, getSyscallState_read]
  generalize readDataLoop 3 gc.guestRip (syscallCr3 m) 3 (BitVec.ofNat 64 0) (fun _ => 0) m = r at hok hdata
  obtain ⟨ok, data, m'⟩ := r
  simp only [GuestMemory.guestBytes, List.all_eq_true, List.mem_range]
  cases ok
  · have hn : ¬ ∀ j, j < 3 → (m.memory.guestByte (syscallCr3 m) (gc.guestRip + BitVec.ofNat 64 j)).isSome :=
      fun h => by simpa using hok.mpr fun j _ hj => h j hj
    simp only [Bool.not_false, ↓reduceIte, if_neg hn]
  · obtain ⟨-, hd⟩ := hdata rfl
    simp only [Bool.not_true, Bool.false_eq_true, ↓reduceIte,
      if_pos fun j hj => hok.mp rfl j (Nat.zero_le j) hj]
    simp only [Nat.not_lt_zero, ↓reduceIte] at hd
    simp [isMemEqual, classifyInstruction, syscallBytes, sysretBytes, List.range_succ, hd,
      apply_ite Prod.fst]

/-- A `SYSCALL` at the start of a mapped page is classified from its bytes. -/
theorem syscall_classified_in_mapped_page :
    let mem : GuestMemory :=
      ⟨fun _ page => if page = 1 then some 1 else none, fun _ => true,
        fun pa => if pa = 0x1000 then 0x0F else if pa = 0x1001 then 0x05 else 0,
        fun _ page => by dsimp only; split <;> decide⟩
    let m : Machine := ⟨fun _ => 0, fun _ => 0, fun _ _ => ⟨0, 0, 0, 0⟩, fun _ => 0, 0, 0, 0, 0, 0, mem⟩
    let gc : GuestContext := ⟨⟨0, 0, 0, 0, 0, 0, 0, 0⟩, 0x1000, 0, 0, 0, 0, 0, false, true⟩
    gc.guestRip.toNat + 3 ≤ 2 ^ 64 - 4096 ∧
      (getSyscallState m gc).1 =
        match m.memory.guestBytes (syscallCr3 m) gc.guestRip 3 with
        | some bytes => classifyInstruction bytes
        | none => .pageFault := by
  intro mem m gc
  exact ⟨by decide, getSyscallState_classifies m gc (by decide)⟩

/-- An answer other than `page_fault` leaves the machine as it was. -/
theorem getSyscallState_machine (m : Machine) (gc : GuestContext)
    (h : (getSyscallState m gc).1 ≠ .pageFault) : (getSyscallState m gc).2 = m := by
  obtain ⟨-, hdata⟩ := readDataLoop_spec m (by decide : 3 ≤ 4096) 3 0 (fun _ => 0) (by omega) (by omega)
  rw [getSyscallState_snd]
  refine (hdata ?_).1
  revert h
  simp only [getSyscallState, getSyscallState_read]
  cases (readDataLoop 3 gc.guestRip (syscallCr3 m) 3 (BitVec.ofNat 64 0) (fun _ => 0) m).1 <;> simp

/-- Any answer has injected one `#PF` or nothing. -/
theorem getSyscallState_machine_cases (m : Machine) (gc : GuestContext) :
    (getSyscallState m gc).2 = m ∨ ∃ a, (getSyscallState m gc).2 = m.injectPageFault a := by
  rw [getSyscallState_snd]
  exact readDataLoop_machine m 3 _ _

/-- A `SYSCALL` in the last two bytes of page 0, in front of the unmapped page 1: both of its
bytes are readable, and the answer is still `page_fault`. -/
theorem syscall_at_page_end_faults :
    let mem : GuestMemory :=
      ⟨fun _ page => if page = 0 then some 1 else none, fun _ => true,
        fun pa => if pa = 0x1FFE then 0x0F else if pa = 0x1FFF then 0x05 else 0,
        fun _ page => by dsimp only; split <;> decide⟩
    let m : Machine := ⟨fun _ => 0, fun _ => 0, fun _ _ => ⟨0, 0, 0, 0⟩, fun _ => 0, 0, 0, 0, 0, 0, mem⟩
    let gc : GuestContext := ⟨⟨0, 0, 0, 0, 0, 0, 0, 0⟩, 0xFFE, 0, 0, 0, 0, 0, false, true⟩
    mem.guestByte 0 0xFFE = some 0x0F ∧ mem.guestByte 0 0xFFF = some 0x05 ∧
      (getSyscallState m gc).1 = .pageFault := by
  decide

end HyperHook

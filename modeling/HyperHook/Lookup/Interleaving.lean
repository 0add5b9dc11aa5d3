import HyperHook.Lookup

/-!
# `remove_hook` against a concurrent `find_hook`

The EPT-violation handler calls `find_hook` without the table's lock, so a `remove_hook` on another
processor can run between its loads. The model interleaves the two at the granularity of single
loads and stores of a slot or of the count.

* The writer is `remove_hook(h)` once its search has found `h` at slot `i`: the stores
  `slots[j - 1] = slots[j]` for `j = i + 1, …, count - 1`, then `--count`, then
  `slots[count] = nullptr`. Its own loads see only its own stores, so a step is one store.
* The reader is `find_hook(pa)`, one step per load: the count in the loop test, then `hooks_[i]`
  three times, for the null test, for the base-address comparison and for the return.
  A comparison that loads a null slot dereferences it (`fault`).

Run alone, the writer is `PointerTable.remove` (`writer_solo`).

**Counterexample (`find_hook_misses_during_remove`).** With `[h, h']` in the table and `h'` on the
page, the reader passes slot 0, the writer moves `h'` down to slot 0 and decrements the count, and
the reader's next loop test ends the scan: `find_hook` returns `nullptr` while `h'` stays
registered throughout.

**Theorem (`find_hook_dereferences_cleared_slot`).** Worse, the reader can fault. Whenever no hook
before the last slot is on the page, some interleaving with the removal of any registered hook
has the reader pass the null test of the last slot, the writer clear that slot, and the reader's
comparison dereference `nullptr`; a lookup of a hook's own page while that hook is removed is
one (`find_hook_faults_on_removed_hook`).

**Theorem (`find_hook_returns_shifted_hook`).** Or it can return a hook of another page. When
the first hook on the page sits at slot `k` and the removed hook at or before it, the reader
compares slot `k`, the writer shifts the next hook into slot `k`, and the reader's return load
returns that hook, whichever page it is on.

**Theorem (`find_hook_finds_earlier_entry`).** If a hook on the page sits in a slot before every
copy of `h`, then in every interleaving the reader returns a hook on the page within `4k + 4` of its
own steps, `k` being that slot. The writer writes only at or after the slot of `h`, and the count
never drops to that slot, so the reader's scan up to `k` sees the table as it was.
-/

namespace HyperHook

/-- Where `remove_hook` is, past its search. -/
inductive WriterPc
  /-- about to test `j < count` and store `slots[j - 1] = slots[j]` -/
  | shift (j : Nat)
  /-- `--count` -/
  | decrement
  /-- `slots[count] = nullptr` -/
  | clear
  | done
  deriving DecidableEq, Repr

/-- Where `find_hook` is. -/
inductive ReaderPc (α : Type)
  /-- the loop test `i < count` -/
  | test (i : Nat)
  /-- the load of `hooks_[i]` for the null test -/
  | loadNull (i : Nat)
  /-- the load of `hooks_[i]` whose base address is compared -/
  | loadBase (i : Nat)
  /-- the load of `hooks_[i]` that is returned -/
  | loadRet (i : Nat)
  | ret (found : Option α)
  /-- a null `hooks_[i]` was dereferenced -/
  | fault
  deriving DecidableEq, Repr

/-- The two threads. -/
inductive Thread
  | writer
  | reader
  deriving DecidableEq, Repr

/-- The shared table and both program counters. -/
structure Interleaving (capacity : Nat) (α : Type) where
  table : PointerTable capacity α
  writer : WriterPc
  reader : ReaderPc α

namespace Interleaving

variable {capacity : Nat} {α : Type}

/-- One store of `remove_hook`. -/
def writerStep (t : PointerTable capacity α) : WriterPc → PointerTable capacity α × WriterPc
  | .shift j =>
    if j < t.count then (⟨Function.update t.slots (j - 1) (t.slots j), t.count, t.count_le⟩, .shift (j + 1))
    else (t, .decrement)
  | .decrement => (⟨t.slots, t.count - 1, by have := t.count_le; omega⟩, .clear)
  | .clear => (⟨Function.update t.slots t.count none, t.count, t.count_le⟩, .done)
  | .done => (t, .done)

/-- One load of `find_hook(physicalAddr)`. -/
def readerStep (base : α → BitVec 64) (physicalAddr : BitVec 64) (t : PointerTable capacity α) :
    ReaderPc α → ReaderPc α
  | .test i => if i < t.count then .loadNull i else .ret none
  | .loadNull i => if (t.slots i).isNone then .test (i + 1) else .loadBase i
  | .loadBase i =>
    match t.slots i with
    | none => .fault
    | some p => if base p == physicalAddr &&& ~~~0xFFF then .loadRet i else .test (i + 1)
  | .loadRet i => .ret (t.slots i)
  | .ret r => .ret r
  | .fault => .fault

/-- One step of the scheduled thread. -/
def step (base : α → BitVec 64) (physicalAddr : BitVec 64) (s : Interleaving capacity α) :
    Thread → Interleaving capacity α
  | .writer => { s with table := (writerStep s.table s.writer).1, writer := (writerStep s.table s.writer).2 }
  | .reader => { s with reader := readerStep base physicalAddr s.table s.reader }

/-- A schedule, run from `s`. -/
def run (base : α → BitVec 64) (physicalAddr : BitVec 64) (s : Interleaving capacity α)
    (schedule : List Thread) : Interleaving capacity α :=
  schedule.foldl (step base physicalAddr) s

/-- `remove_hook(h)` after its search, against `find_hook` before its first load. -/
def start [DecidableEq α] (t : PointerTable capacity α) (h : α) : Interleaving capacity α where
  table := t
  writer :=
    match (List.range t.count).find? (fun i => t.slots i == some h) with
    | none => .done
    | some i => .shift (i + 1)
  reader := .test 0

variable {base : α → BitVec 64} {physicalAddr : BitVec 64}

@[simp] theorem run_nil (s : Interleaving capacity α) : run base physicalAddr s [] = s := rfl

theorem run_cons (s : Interleaving capacity α) (th : Thread) (schedule : List Thread) :
    run base physicalAddr s (th :: schedule) = run base physicalAddr (step base physicalAddr s th) schedule :=
  rfl

theorem run_append (s : Interleaving capacity α) (xs ys : List Thread) :
    run base physicalAddr s (xs ++ ys) = run base physicalAddr (run base physicalAddr s xs) ys :=
  List.foldl_append _ _ _ _

theorem run_reader_ret (t : PointerTable capacity α) (w : WriterPc) (r : Option α) (n : Nat) :
    run base physicalAddr ⟨t, w, .ret r⟩ (List.replicate n .reader) = ⟨t, w, .ret r⟩ := by
  induction n with
  | zero => rfl
  | succ n ih => exact ih

theorem run_writer_done (t : PointerTable capacity α) (r : ReaderPc α) (n : Nat) :
    run base physicalAddr ⟨t, .done, r⟩ (List.replicate n .writer) = ⟨t, .done, r⟩ := by
  induction n with
  | zero => rfl
  | succ n ih => exact ih

/-! ## Each thread alone -/

/-- The stores of the shift loop from `j` to the count are `shiftDown`'s fold. -/
theorem writer_shift (r : ReaderPc α) (m : Nat) :
    ∀ (t : PointerTable capacity α) j, t.count = j + m →
      run base physicalAddr ⟨t, .shift j, r⟩ (List.replicate m .writer) =
        ⟨⟨(List.range' j m).foldl (fun s i => Function.update s (i - 1) (s i)) t.slots, t.count,
          t.count_le⟩, .shift (j + m), r⟩ := by
  induction m with
  | zero => intro t j _; rfl
  | succ m ih =>
    intro t j hc
    have hj : j < t.count := by omega
    rw [List.replicate_succ, run_cons, List.range'_succ, List.foldl_cons]
    simp only [step, writerStep, hj, if_true]
    rw [ih _ (j + 1) (by simp only; omega)]
    simp only [Nat.add_right_comm j 1 m, Nat.add_assoc]

/-- Alone, `remove_hook`'s stores leave what `PointerTable.remove` leaves. -/
theorem writer_solo [DecidableEq α] (t : PointerTable capacity α) (h : α) (r : ReaderPc α) :
    run base physicalAddr ⟨t, (start t h).writer, r⟩ (List.replicate (t.count + 2) .writer) =
      ⟨(t.remove h).2, .done, r⟩ := by
  simp only [start, PointerTable.remove]
  cases hi : (List.range t.count).find? (fun i => t.slots i == some h) with
  | none => exact run_writer_done t r _
  | some i =>
    have hic : i < t.count := List.mem_range.mp (List.mem_of_find?_eq_some hi)
    have hsplit : t.count + 2 = (t.count - (i + 1)) + 1 + 1 + 1 + i := by omega
    rw [hsplit, List.replicate_add, List.replicate_add, List.replicate_add, List.replicate_add,
      run_append, run_append, run_append, run_append, writer_shift r _ t (i + 1) (by omega)]
    have hend : ¬ i + 1 + (t.count - (i + 1)) < t.count := by omega
    simp only [List.replicate_one, run_cons, run_nil, step, writerStep, hend, if_false]
    rw [run_writer_done]
    rfl

/-! ## A scan that misses a hook -/

/-- The table `[0, 1]` of `Nat` pointers, with hook `n` on page `n`. -/
theorem find_hook_misses_during_remove :
    let t : PointerTable maxHooks Nat := ⟨fun i => [0, 1][i]?, 2, by decide⟩
    let s := run (fun n => BitVec.ofNat 64 (n * 0x1000)) 0x1000 (start t 0)
      [.reader, .reader, .reader, .writer, .writer, .writer, .reader]
    s.reader = .ret none ∧ s.table.count = 1 ∧ s.table.slots 0 = some 1 ∧
      BitVec.ofNat 64 (1 * 0x1000) = (0x1000 : BitVec 64) &&& ~~~0xFFF := by
  decide

/-! ## A scan that loads a cleared slot -/

/-- Alone, the reader passes `m` used slots whose hooks are on other pages, three loads each. -/
theorem reader_passes (t : PointerTable capacity α) (hinv : t.Inv) (w : WriterPc) (m : Nat) :
    ∀ j, j + m ≤ t.count →
      (∀ i p, j ≤ i → i < j + m → t.slots i = some p → base p ≠ physicalAddr &&& ~~~0xFFF) →
      run base physicalAddr ⟨t, w, .test j⟩ (List.replicate (3 * m) .reader) = ⟨t, w, .test (j + m)⟩ := by
  induction m with
  | zero => intro j _ _; rfl
  | succ m ih =>
    intro j hj hmiss
    obtain ⟨p, hp⟩ := Option.ne_none_iff_exists'.1 (hinv.used j (by omega))
    rw [show 3 * (m + 1) = 3 * m + 1 + 1 + 1 by omega]
    simp only [List.replicate_succ, run_cons, step, readerStep, show j < t.count by omega, if_true, hp,
      Option.isNone_some, Bool.false_eq_true, if_false, beq_iff_eq, hmiss j p le_rfl (by omega) hp]
    rw [ih (j + 1) (by omega) fun i p hi hi' => hmiss i p (by omega) (by omega), Nat.add_right_comm,
      Nat.add_assoc]

/-- From the start, the reader passes the first `k` slots when their hooks are on other pages. -/
theorem reader_scans [DecidableEq α] (t : PointerTable capacity α) (h : α) (hinv : t.Inv) {k : Nat}
    (hk : k ≤ t.count) (hmiss : ∀ i p, i < k → t.slots i = some p → base p ≠ physicalAddr &&& ~~~0xFFF) :
    run base physicalAddr (start t h) (List.replicate (3 * k) .reader) = ⟨t, (start t h).writer, .test k⟩ := by
  have := reader_passes t hinv (start t h).writer k 0 (by omega) fun i p _ hi => hmiss i p (by omega)
  rwa [Nat.zero_add] at this

/-- `remove_hook` of a registered `p` closes up the table from a slot at or before each copy of
`p` and clears the last used slot. -/
theorem remove_slots_of_mem [DecidableEq α] {t : PointerTable capacity α} {p : α} {i : Nat} (hi : i < t.count)
    (hp : t.slots i = some p) :
    ∃ i₁ ≤ i, (t.remove p).2.slots = Function.update (PointerTable.shiftDown t.slots i₁ t.count) (t.count - 1) none := by
  unfold PointerTable.remove
  cases hf : (List.range t.count).find? (fun i => t.slots i == some p) with
  | none => exact absurd (List.find?_eq_none.1 hf i (List.mem_range.2 hi)) (by simp [hp])
  | some i₁ =>
    refine ⟨i₁, ?_, rfl⟩
    by_contra hlt
    simpa [hp] using (List.find?_range_eq_some.1 hf).2.2 i (by omega)

theorem remove_slot_last [DecidableEq α] {t : PointerTable capacity α} {p : α} {i : Nat} (hi : i < t.count)
    (hp : t.slots i = some p) : (t.remove p).2.slots (t.count - 1) = none := by
  obtain ⟨_, -, he⟩ := remove_slots_of_mem hi hp
  rw [he, Function.update_same]

theorem remove_slot_shifted [DecidableEq α] {t : PointerTable capacity α} {p : α} {i k : Nat} (hik : i ≤ k)
    (hk : k + 1 < t.count) (hp : t.slots i = some p) : (t.remove p).2.slots k = t.slots (k + 1) := by
  obtain ⟨i₁, hi₁, he⟩ := remove_slots_of_mem (by omega : i < t.count) hp
  rw [he, Function.update_noteq (by omega), PointerTable.shiftDown_apply, if_pos ⟨by omega, hk⟩]

/-- If no hook before the last slot is on the page, then whichever registered `h` is removed,
some interleaving makes `find_hook` dereference `nullptr`: it scans to the last slot and passes
its null test, `remove_hook(h)` runs to its end and clears that slot, and the comparison loads it. -/
theorem find_hook_dereferences_cleared_slot [DecidableEq α] (base : α → BitVec 64) (physicalAddr : BitVec 64)
    (t : PointerTable capacity α) (h : α) (hinv : t.Inv) (hh : ∃ i < t.count, t.slots i = some h)
    (hmiss : ∀ i p, i + 1 < t.count → t.slots i = some p → base p ≠ physicalAddr &&& ~~~0xFFF) :
    (run base physicalAddr (start t h) (List.replicate (3 * (t.count - 1) + 2) .reader ++
      List.replicate (t.count + 2) .writer ++ [.reader])).reader = .fault := by
  obtain ⟨i₀, hi₀, hs₀⟩ := hh
  obtain ⟨p, hp⟩ := Option.ne_none_iff_exists'.1 (hinv.used (t.count - 1) (by omega))
  have hread : run base physicalAddr (start t h) (List.replicate (3 * (t.count - 1) + 2) .reader) =
      ⟨t, (start t h).writer, .loadBase (t.count - 1)⟩ := by
    rw [List.replicate_add, run_append, reader_scans t h hinv (by omega) fun i p hi => hmiss i p (by omega)]
    simp [run_cons, step, readerStep, hp, show t.count - 1 < t.count by omega]
  rw [run_append, run_append, hread, writer_solo]
  simp [run_cons, step, readerStep, remove_slot_last hi₀ hs₀]

/-- The table `[1, 0]`, hook `n` on page `n`: page 0 looked up while hook 0, in the last slot, is
removed, with hook 1 on another page before it. -/
theorem find_hook_faults_on_removed_hook :
    let t : PointerTable maxHooks Nat := ⟨fun i => [1, 0][i]?, 2, by decide⟩
    t.Inv ∧ (∃ i < t.count, t.slots i = some 0) ∧
      (∀ i p, i + 1 < t.count → t.slots i = some p → BitVec.ofNat 64 (p * 0x1000) ≠ (0 : BitVec 64) &&& ~~~0xFFF) ∧
      (run (fun n => BitVec.ofNat 64 (n * 0x1000)) 0 (start t 0) (List.replicate (3 * (t.count - 1) + 2) .reader ++
        List.replicate (t.count + 2) .writer ++ [.reader])).reader = .fault := by
  dsimp only
  refine ⟨?inv, ?hh, ?miss, find_hook_dereferences_cleared_slot _ _ _ 0 ?inv ?hh ?miss⟩
  · exact PointerTable.Rep.inv (l := [1, 0]) ⟨rfl, rfl⟩
  · exact ⟨1, by decide, rfl⟩
  · intro i p hi hp
    obtain rfl : i = 0 := by omega
    obtain rfl : p = 1 := (Option.some.inj hp).symm
    decide

/-- If the first hook on the page sits at slot `k` and the removed `h` sits at or before it, then
some interleaving makes `find_hook` return the hook after slot `k`, whichever page it is on: it
compares slot `k`, `remove_hook(h)` shifts the next hook down into slot `k`, and the return
loads it. -/
theorem find_hook_returns_shifted_hook [DecidableEq α] (base : α → BitVec 64) (physicalAddr : BitVec 64)
    (t : PointerTable capacity α) (h q : α) (k : Nat) (hinv : t.Inv) (hh : ∃ i ≤ k, t.slots i = some h)
    (hk : k + 1 < t.count) (hfirst : ∀ i p, i < k → t.slots i = some p → base p ≠ physicalAddr &&& ~~~0xFFF)
    (hon : ∃ p, t.slots k = some p ∧ base p = physicalAddr &&& ~~~0xFFF) (hq : t.slots (k + 1) = some q) :
    (run base physicalAddr (start t h) (List.replicate (3 * k + 3) .reader ++
      List.replicate (t.count + 2) .writer ++ [.reader])).reader = .ret (some q) := by
  obtain ⟨i, hik, hs⟩ := hh
  obtain ⟨p, hp, hpb⟩ := hon
  have hread : run base physicalAddr (start t h) (List.replicate (3 * k + 3) .reader) =
      ⟨t, (start t h).writer, .loadRet k⟩ := by
    rw [List.replicate_add, run_append, reader_scans t h hinv (by omega) hfirst]
    simp [run_cons, step, readerStep, hp, hpb, show k < t.count by omega]
  rw [run_append, run_append, hread, writer_solo]
  simp [run_cons, step, readerStep, remove_slot_shifted hik hk hs, hq]

/-- The table `[1, 0, 2]`, hook `n` on page `n`: looking up page 0 while hook 0 is removed
passes hook 1, compares hook 0, and returns hook 2, which is on page 2. -/
theorem find_hook_returns_hook_of_other_page :
    let t : PointerTable maxHooks Nat := ⟨fun i => [1, 0, 2][i]?, 3, by decide⟩
    let base : Nat → BitVec 64 := fun n => BitVec.ofNat 64 (n * 0x1000)
    t.Inv ∧ (∃ i ≤ 1, t.slots i = some 0) ∧ 1 + 1 < t.count ∧
      (∀ i p, i < 1 → t.slots i = some p → base p ≠ (0 : BitVec 64) &&& ~~~0xFFF) ∧
      (∃ p, t.slots 1 = some p ∧ base p = (0 : BitVec 64) &&& ~~~0xFFF) ∧ t.slots (1 + 1) = some 2 ∧
      (run base 0 (start t 0) (List.replicate (3 * 1 + 3) .reader ++ List.replicate (t.count + 2) .writer ++
        [.reader])).reader = .ret (some 2) ∧ base 2 ≠ (0 : BitVec 64) &&& ~~~0xFFF := by
  dsimp only
  refine ⟨?inv, ?hh, ?hk, ?first, ?page, ?q,
    find_hook_returns_shifted_hook _ _ _ 0 2 1 ?inv ?hh ?hk ?first ?page ?q, by decide⟩
  · exact PointerTable.Rep.inv (l := [1, 0, 2]) ⟨rfl, rfl⟩
  · exact ⟨1, le_rfl, rfl⟩
  · decide
  · intro i p hi hp
    obtain rfl : i = 0 := by omega
    obtain rfl : p = 1 := (Option.some.inj hp).symm
    decide
  · exact ⟨0, rfl, by decide⟩
  · rfl

/-! ## A hook before the removed one is always found -/

section Earlier

variable (base physicalAddr) (t₀ : PointerTable capacity α) (k : Nat)

/-- The writer has not touched the slots up to `k`, the count stays above `k`, and whatever the
writer still stores lands past `k`. -/
def WriterSafe (s : Interleaving capacity α) : Prop :=
  (∀ j ≤ k, s.table.slots j = t₀.slots j) ∧ k < s.table.count ∧
    match s.writer with
    | .shift j => k + 2 ≤ j ∧ k + 2 ≤ s.table.count
    | .decrement => k + 2 ≤ s.table.count
    | .clear | .done => True

/-- The reader has not passed slot `k`, and what it loaded agrees with `t₀`. -/
def ReaderSafe : ReaderPc α → Prop
  | .test j | .loadNull j => j ≤ k
  | .loadBase j => j ≤ k ∧ (t₀.slots j).isSome
  | .loadRet j => j ≤ k ∧ ∃ p, t₀.slots j = some p ∧ base p = physicalAddr &&& ~~~0xFFF
  | .ret r => ∃ p, r = some p ∧ base p = physicalAddr &&& ~~~0xFFF
  | .fault => False

/-- How many reader steps are left at most before it returns. -/
def readerRank : ReaderPc α → Nat
  | .test j => 4 * (k - j) + 4
  | .loadNull j => 4 * (k - j) + 3
  | .loadBase j => 4 * (k - j) + 2
  | .loadRet _ => 1
  | .ret _ | .fault => 0

/-- Both threads keep to their side of slot `k`. -/
def Safe (s : Interleaving capacity α) : Prop :=
  WriterSafe t₀ k s ∧ ReaderSafe base physicalAddr t₀ k s.reader

variable {base physicalAddr t₀ k}

theorem writerSafe_step {s : Interleaving capacity α} (hs : WriterSafe t₀ k s) :
    WriterSafe t₀ k (step base physicalAddr s .writer) := by
  obtain ⟨table, writer, reader⟩ := s
  obtain ⟨hstable, hcount, hpc⟩ := hs
  dsimp only at hstable hcount hpc
  cases writer with
  | shift j =>
    obtain ⟨hj, hc⟩ := hpc
    by_cases hlt : j < table.count
    · simp only [step, writerStep, hlt, if_true]
      refine ⟨fun i hi => ?_, hcount, by omega, hc⟩
      dsimp only
      rw [Function.update_noteq (by omega)]; exact hstable i hi
    · simp only [step, writerStep, hlt, if_false]
      exact ⟨hstable, hcount, hc⟩
  | decrement => exact ⟨hstable, by dsimp only [step, writerStep]; omega, trivial⟩
  | clear =>
    refine ⟨fun i hi => ?_, hcount, trivial⟩
    dsimp only [step, writerStep]
    rw [Function.update_noteq (by omega)]; exact hstable i hi
  | done => exact ⟨hstable, hcount, trivial⟩

/-- One step of the reader keeps it on its side of slot `k` and, until it has returned, lowers its
rank. -/
theorem readerStep_safe {h' : α} (hk : t₀.slots k = some h')
    (hb : base h' = physicalAddr &&& ~~~0xFFF) {s : Interleaving capacity α}
    (hw : WriterSafe t₀ k s) (hr : ReaderSafe base physicalAddr t₀ k s.reader) :
    ReaderSafe base physicalAddr t₀ k (readerStep base physicalAddr s.table s.reader) ∧
      ((∀ r, s.reader ≠ .ret r) →
        readerRank k (readerStep base physicalAddr s.table s.reader) < readerRank k s.reader) := by
  obtain ⟨table, writer, reader⟩ := s
  obtain ⟨hstable, hcount, -⟩ := hw
  dsimp only at hstable hcount hr ⊢
  cases reader with
  | test j =>
    have hj : j < table.count := by simp only [ReaderSafe] at hr; omega
    simp only [readerStep, hj, if_true, readerRank]
    exact ⟨hr, fun _ => by omega⟩
  | loadNull j =>
    simp only [ReaderSafe] at hr
    simp only [readerStep, hstable j hr]
    cases hj : t₀.slots j with
    | none =>
      have : j ≠ k := by rintro rfl; rw [hk] at hj; cases hj
      simp only [Option.isNone_none, ↓reduceIte, ReaderSafe, readerRank]
      exact ⟨by omega, fun _ => by omega⟩
    | some p =>
      simp only [Option.isNone_some, Bool.false_eq_true, ↓reduceIte, readerRank]
      exact ⟨⟨hr, by rw [hj]; rfl⟩, fun _ => by omega⟩
  | loadBase j =>
    obtain ⟨hj, hsome⟩ := hr
    obtain ⟨p, hp⟩ := Option.isSome_iff_exists.mp hsome
    simp only [readerStep, hstable j hj, hp]
    by_cases hcmp : (base p == physicalAddr &&& ~~~0xFFF) = true
    · simp only [hcmp, ↓reduceIte, readerRank]
      exact ⟨⟨hj, p, hp, beq_iff_eq.mp hcmp⟩, fun _ => by omega⟩
    · have : j ≠ k := by rintro rfl; rw [hk] at hp; cases hp; simp [hb] at hcmp
      simp only [hcmp, Bool.false_eq_true, ↓reduceIte, ReaderSafe, readerRank]
      exact ⟨by omega, fun _ => by omega⟩
  | loadRet j =>
    obtain ⟨hj, p, hp, hpb⟩ := hr
    exact ⟨⟨p, by rw [hstable j hj, hp], hpb⟩, fun _ => by simp [readerStep, readerRank]⟩
  | ret r => exact ⟨hr, fun h => (h r rfl).elim⟩
  | fault => exact hr.elim

variable (base physicalAddr)

theorem safe_run {h' : α} (hk : t₀.slots k = some h') (hb : base h' = physicalAddr &&& ~~~0xFFF)
    (schedule : List Thread) :
    ∀ s : Interleaving capacity α, Safe base physicalAddr t₀ k s →
      Safe base physicalAddr t₀ k (run base physicalAddr s schedule) := by
  induction schedule with
  | nil => exact fun _ h => h
  | cons th schedule ih =>
    intro s ⟨hw, hr⟩
    apply ih
    cases th with
    | writer => exact ⟨writerSafe_step hw, hr⟩
    | reader => exact ⟨hw, (readerStep_safe hk hb hw hr).1⟩

variable {base physicalAddr}

theorem run_reader_of_ret {s : Interleaving capacity α} {r : Option α} (hs : s.reader = .ret r)
    (n : Nat) : (run base physicalAddr s (List.replicate n .reader)).reader = .ret r := by
  obtain ⟨t, w, rd⟩ := s
  subst hs
  rw [run_reader_ret]

theorem reader_returns {h' : α} (hk : t₀.slots k = some h')
    (hb : base h' = physicalAddr &&& ~~~0xFFF) (n : Nat) :
    ∀ s : Interleaving capacity α, Safe base physicalAddr t₀ k s → readerRank k s.reader ≤ n →
      ∃ r, (run base physicalAddr s (List.replicate n .reader)).reader = .ret r := by
  induction n with
  | zero =>
    intro s ⟨_, hr⟩ hrank
    cases hpc : s.reader with
    | ret r => exact ⟨r, hpc⟩
    | fault => rw [hpc] at hr; exact hr.elim
    | _ => rw [hpc] at hrank; simp [readerRank] at hrank
  | succ n ih =>
    intro s hs hrank
    by_cases hret : ∃ r, s.reader = .ret r
    · obtain ⟨r, hr⟩ := hret
      exact ⟨r, run_reader_of_ret hr _⟩
    · push_neg at hret
      obtain ⟨hsafe, hlt⟩ := readerStep_safe hk hb hs.1 hs.2
      have := hlt hret
      exact ih _ ⟨hs.1, hsafe⟩ (by simp only [step]; omega)

theorem readerRank_le (r : ReaderPc α) : readerRank k r ≤ 4 * k + 4 := by
  cases r <;> simp only [readerRank] <;> omega

theorem safe_start [DecidableEq α] {h : α} (hkc : k < t₀.count)
    (hbefore : ∀ j ≤ k, t₀.slots j ≠ some h) :
    Safe base physicalAddr t₀ k (start t₀ h) := by
  refine ⟨⟨fun _ _ => rfl, hkc, ?_⟩, Nat.zero_le k⟩
  simp only [start]
  cases hi : (List.range t₀.count).find? (fun i => t₀.slots i == some h) with
  | none => trivial
  | some i =>
    have hic : i < t₀.count := List.mem_range.mp (List.mem_of_find?_eq_some hi)
    have hslot : t₀.slots i = some h := by simpa using List.find?_some hi
    have hki : k < i := by
      by_contra hle
      exact hbefore i (by omega) hslot
    exact ⟨by omega, by omega⟩

end Earlier

variable [DecidableEq α] in
/-- If a hook on the page of `physicalAddr` sits at slot `k`, before every copy of `h`, then in
every interleaving `find_hook` returns a hook on that page within `4k + 4` of its own loads. -/
theorem find_hook_finds_earlier_entry (base : α → BitVec 64) (physicalAddr : BitVec 64)
    (t₀ : PointerTable capacity α) (h h' : α) (k : Nat) (hkc : k < t₀.count)
    (hk : t₀.slots k = some h') (hb : base h' = physicalAddr &&& ~~~0xFFF)
    (hbefore : ∀ j ≤ k, t₀.slots j ≠ some h) (schedule : List Thread) :
    ∃ p, (run base physicalAddr (start t₀ h)
        (schedule ++ List.replicate (4 * k + 4) .reader)).reader = .ret (some p) ∧
      base p = physicalAddr &&& ~~~0xFFF := by
  have hsafe := safe_run base physicalAddr hk hb schedule _ (safe_start hkc hbefore)
  obtain ⟨r, hr⟩ := reader_returns hk hb _ _ hsafe (readerRank_le _)
  rw [run_append]
  have hfinal := (safe_run base physicalAddr hk hb (List.replicate (4 * k + 4) .reader) _ hsafe).2
  rw [hr] at hfinal
  obtain ⟨p, rfl, hp⟩ := hfinal
  exact ⟨p, hr, hp⟩

/-- The table `[1, 0]`, hook `n` on page `n`: removing `0` while looking up page 1. -/
theorem find_hook_two_slot_table :
    let t : PointerTable maxHooks Nat := ⟨fun i => [1, 0][i]?, 2, by decide⟩
    0 < t.count ∧ t.slots 0 = some 1 ∧
      BitVec.ofNat 64 (1 * 0x1000) = (0x1000 : BitVec 64) &&& ~~~0xFFF ∧
      (∀ j ≤ 0, t.slots j ≠ some 0) ∧
      ∃ p, (run (fun n => BitVec.ofNat 64 (n * 0x1000)) 0x1000 (start t 0)
          ([.writer, .reader, .writer, .writer] ++ List.replicate (4 * 0 + 4) .reader)).reader =
          .ret (some p) ∧ BitVec.ofNat 64 (p * 0x1000) = (0x1000 : BitVec 64) &&& ~~~0xFFF :=
  ⟨by decide, rfl, by decide, by decide,
    find_hook_finds_earlier_entry _ _ _ 0 1 0 (by decide) rfl (by decide) (by decide) _⟩

end Interleaving

end HyperHook

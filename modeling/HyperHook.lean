import HyperHook.Lookup
import HyperHook.Lookup.Interleaving
import HyperHook.Vmx.Machine
import HyperHook.Vmx.Control
import HyperHook.Vmx.ReadData
import HyperHook.Vmx.SyscallState
import HyperHook.Vmx.Exception
import HyperHook.Vmx.Dispatch
import HyperHook.Vmx.Capability
import HyperHook.Vmx.Invariants
import HyperHook.Ept.Address
import HyperHook.Launch.Gdt
import HyperHook.Launch.Setup
import HyperHook.Lifecycle
import HyperHook.Lifecycle.Instance
import HyperHook.Lifecycle.Driver
import HyperHook.Power
import HyperHook.Thread
import HyperHook.Lifecycle.Progress

/-
Module: MonsaEbpf.S2.CgroupCounters
Layer: S2
Purpose: The programs under S2-advanced/examples/cgroup that count an event under its cgroup and stream a
  record of it: cgroup_device, cgroup_sock_addr, cgroup_sock, cgroup_sockopt, cgroup_sysctl and cgroup_bpf.
  They differ in what they copy from their context into the record. The `bpf_printk` lines change no state
  and are left out; so are the context fields that no program reads.
Imports: MonsaEbpf.Bpf.CountingHandler
Trusted boundary: human-reviewed translation
Main exports: CgroupMaps, cgroupCountAndEmit, cgroupCounter, msbCgroupDevice, cgroupDevice,
  msbCgroupSockAddr, cgroupSockAddr, msbCgroupSock, cgroupSock, msbCgroupSockopt, cgroupSockopt,
  msbCgroupSysctl, cgroupSysctl, msbCgroupBpf, cgroupBpf
-/
import MonsaEbpf.Bpf.CountingHandler

namespace MonsaEbpf.S2

/-- The maps of a cgroup program: a counter for each cgroup and a ring of its events. -/
abbrev CgroupMaps (E : Type) := CounterMaps U64 E 1024

section Shape

variable {C E : Type} (cgroupId : C → U64) (reserved : C → Option E) (fill : C → U64 → E → E)

/-- The body that the programs share: count the cgroup, send a record, allow. -/
def cgroupCountAndEmit (call : C) : StepProgram (BpfOp CounterMap) (CgroupMaps E) S32 :=
  countAndEmit CounterMaps.counters CounterMaps.ring (cgroupId call) (reserved call) (fill call) 1

/-- Such a program as a counting handler. -/
def cgroupCounter : CountingHandler CounterMap (CgroupMaps E) U64 C E S32 1024 :=
  .emitting CounterMaps.counters CounterMaps.ring .initial rfl CounterMaps.apart
    (fun call => some (cgroupId call)) (fun _ => 1) reserved fill fun _ => 1

theorem cgroupCounter_handler :
    (cgroupCounter cgroupId reserved fill).handler = cgroupCountAndEmit cgroupId reserved fill := rfl

end Shape

/-! ### Device access -/

/-- `struct cgroup_device_event`. -/
structure CgroupDeviceEvent where
  timestampNs : U64
  major : U32
  minor : U32
  accessType : U32
  cgroupId : U64
  allowed : U32
  count : U64
deriving Repr, DecidableEq

/-- `struct bpf_cgroup_dev_ctx`. -/
structure BpfCgroupDevCtx where
  accessType : U32
  major : U32
  minor : U32

structure CgroupDeviceCall where
  ctx : BpfCgroupDevCtx
  cgroupId : U64
  ktimeGetNs : U64
  reserved : Option CgroupDeviceEvent

def CgroupDeviceCall.fill (call : CgroupDeviceCall) (newCount : U64) (_ : CgroupDeviceEvent) :
    CgroupDeviceEvent where
  timestampNs := call.ktimeGetNs
  major := call.ctx.major
  minor := call.ctx.minor
  accessType := call.ctx.accessType
  cgroupId := call.cgroupId
  allowed := 1
  count := newCount

/-- `msb_cgroup_device`. -/
def msbCgroupDevice :
    CgroupDeviceCall → StepProgram (BpfOp CounterMap) (CgroupMaps CgroupDeviceEvent) S32 :=
  cgroupCountAndEmit CgroupDeviceCall.cgroupId CgroupDeviceCall.reserved CgroupDeviceCall.fill

def cgroupDevice :
    CountingHandler CounterMap (CgroupMaps CgroupDeviceEvent) U64 CgroupDeviceCall CgroupDeviceEvent
      S32 1024 :=
  cgroupCounter CgroupDeviceCall.cgroupId CgroupDeviceCall.reserved CgroupDeviceCall.fill

/-! ### Connect -/

/-- `struct cgroup_sock_addr_event`. -/
structure CgroupSockAddrEvent where
  timestampNs : U64
  saddr : U32
  daddr : U32
  sport : U16
  dport : U16
  family : U32
  cgroupId : U64
  count : U64
deriving Repr, DecidableEq

/-- The fields of `struct bpf_sock_addr` that the program reads; the first two are in network order. -/
structure BpfSockAddr where
  userIp4 : U32
  userPort : U32
  family : U32
deriving Repr, DecidableEq

structure CgroupSockAddrCall where
  ctx : BpfSockAddr
  cgroupId : U64
  ktimeGetNs : U64
  reserved : Option CgroupSockAddrEvent

/-- The record of a connect; `user_port` is cut to the 16 bits of the field. -/
def CgroupSockAddrCall.fill (call : CgroupSockAddrCall) (newCount : U64) (_ : CgroupSockAddrEvent) :
    CgroupSockAddrEvent where
  timestampNs := call.ktimeGetNs
  saddr := 0
  daddr := call.ctx.userIp4
  sport := 0
  dport := call.ctx.userPort.setWidth 16
  family := call.ctx.family
  cgroupId := call.cgroupId
  count := newCount

/-- `msb_cgroup_sock_addr`. -/
def msbCgroupSockAddr :
    CgroupSockAddrCall → StepProgram (BpfOp CounterMap) (CgroupMaps CgroupSockAddrEvent) S32 :=
  cgroupCountAndEmit CgroupSockAddrCall.cgroupId CgroupSockAddrCall.reserved CgroupSockAddrCall.fill

def cgroupSockAddr :
    CountingHandler CounterMap (CgroupMaps CgroupSockAddrEvent) U64 CgroupSockAddrCall
      CgroupSockAddrEvent S32 1024 :=
  cgroupCounter CgroupSockAddrCall.cgroupId CgroupSockAddrCall.reserved CgroupSockAddrCall.fill

/-! ### Socket creation -/

/-- `struct cgroup_sock_event`. -/
structure CgroupSockEvent where
  timestampNs : U64
  family : U32
  type : U32
  protocol : U32
  cgroupId : U64
  count : U64
deriving Repr, DecidableEq

/-- The fields of `struct bpf_sock` that the program reads. -/
structure BpfSock where
  family : U32
  type : U32
  protocol : U32

structure CgroupSockCall where
  sk : BpfSock
  cgroupId : U64
  ktimeGetNs : U64
  reserved : Option CgroupSockEvent

def CgroupSockCall.fill (call : CgroupSockCall) (newCount : U64) (_ : CgroupSockEvent) :
    CgroupSockEvent where
  timestampNs := call.ktimeGetNs
  family := call.sk.family
  type := call.sk.type
  protocol := call.sk.protocol
  cgroupId := call.cgroupId
  count := newCount

/-- `msb_cgroup_sock`. -/
def msbCgroupSock :
    CgroupSockCall → StepProgram (BpfOp CounterMap) (CgroupMaps CgroupSockEvent) S32 :=
  cgroupCountAndEmit CgroupSockCall.cgroupId CgroupSockCall.reserved CgroupSockCall.fill

def cgroupSock :
    CountingHandler CounterMap (CgroupMaps CgroupSockEvent) U64 CgroupSockCall CgroupSockEvent S32 1024 :=
  cgroupCounter CgroupSockCall.cgroupId CgroupSockCall.reserved CgroupSockCall.fill

/-! ### Socket options -/

/-- `struct cgroup_sockopt_event`. -/
structure CgroupSockoptEvent where
  timestampNs : U64
  level : S32
  optname : S32
  cgroupId : U64
  count : U64
deriving Repr, DecidableEq

/-- The fields of `struct bpf_sockopt` that the program reads. -/
structure BpfSockopt where
  level : S32
  optname : S32

structure CgroupSockoptCall where
  ctx : BpfSockopt
  cgroupId : U64
  ktimeGetNs : U64
  reserved : Option CgroupSockoptEvent

def CgroupSockoptCall.fill (call : CgroupSockoptCall) (newCount : U64) (_ : CgroupSockoptEvent) :
    CgroupSockoptEvent where
  timestampNs := call.ktimeGetNs
  level := call.ctx.level
  optname := call.ctx.optname
  cgroupId := call.cgroupId
  count := newCount

/-- `msb_cgroup_sockopt`. -/
def msbCgroupSockopt :
    CgroupSockoptCall → StepProgram (BpfOp CounterMap) (CgroupMaps CgroupSockoptEvent) S32 :=
  cgroupCountAndEmit CgroupSockoptCall.cgroupId CgroupSockoptCall.reserved CgroupSockoptCall.fill

def cgroupSockopt :
    CountingHandler CounterMap (CgroupMaps CgroupSockoptEvent) U64 CgroupSockoptCall CgroupSockoptEvent
      S32 1024 :=
  cgroupCounter CgroupSockoptCall.cgroupId CgroupSockoptCall.reserved CgroupSockoptCall.fill

/-! ### Sysctl -/

/-- `struct cgroup_sysctl_event`. -/
structure CgroupSysctlEvent where
  timestampNs : U64
  name : Vector U8 128
  write : U32
  cgroupId : U64
  count : U64
deriving Repr, DecidableEq

/-- What one access shows: the context's `write`, and what `bpf_sysctl_get_name` puts into the buffer. -/
structure CgroupSysctlCall where
  write : U32
  sysctlGetName : List U8
  cgroupId : U64
  ktimeGetNs : U64
  reserved : Option CgroupSysctlEvent

/-- The record of an access; the name is copied over a zeroed buffer. -/
def CgroupSysctlCall.fill (call : CgroupSysctlCall) (newCount : U64) (_ : CgroupSysctlEvent) :
    CgroupSysctlEvent where
  timestampNs := call.ktimeGetNs
  name := memcpy (.replicate 128 0) call.sysctlGetName
  write := call.write
  cgroupId := call.cgroupId
  count := newCount

/-- `msb_cgroup_sysctl`. -/
def msbCgroupSysctl :
    CgroupSysctlCall → StepProgram (BpfOp CounterMap) (CgroupMaps CgroupSysctlEvent) S32 :=
  cgroupCountAndEmit CgroupSysctlCall.cgroupId CgroupSysctlCall.reserved CgroupSysctlCall.fill

def cgroupSysctl :
    CountingHandler CounterMap (CgroupMaps CgroupSysctlEvent) U64 CgroupSysctlCall CgroupSysctlEvent
      S32 1024 :=
  cgroupCounter CgroupSysctlCall.cgroupId CgroupSysctlCall.reserved CgroupSysctlCall.fill

/-! ### The cgroup/sock program that records the task -/

/-- `struct cgroup_bpf_event`. -/
structure CgroupBpfEvent where
  timestampNs : U64
  cgroupId : U64
  pid : U32
  comm : Comm
  count : U64
deriving Repr, DecidableEq

structure CgroupBpfCall where
  task : Task
  ktimeGetNs : U64
  reserved : Option CgroupBpfEvent

/-- The cgroup of the task. -/
def CgroupBpfCall.cgroupId (call : CgroupBpfCall) : U64 := call.task.cgroupId

def CgroupBpfCall.fill (call : CgroupBpfCall) (newCount : U64) (_ : CgroupBpfEvent) :
    CgroupBpfEvent where
  timestampNs := call.ktimeGetNs
  cgroupId := call.cgroupId
  pid := pidOf call.task.pidTgid
  comm := call.task.comm
  count := newCount

/-- `msb_cgroup_bpf`. -/
def msbCgroupBpf :
    CgroupBpfCall → StepProgram (BpfOp CounterMap) (CgroupMaps CgroupBpfEvent) S32 :=
  cgroupCountAndEmit CgroupBpfCall.cgroupId CgroupBpfCall.reserved CgroupBpfCall.fill

def cgroupBpf :
    CountingHandler CounterMap (CgroupMaps CgroupBpfEvent) U64 CgroupBpfCall CgroupBpfEvent S32 1024 :=
  cgroupCounter CgroupBpfCall.cgroupId CgroupBpfCall.reserved CgroupBpfCall.fill

end MonsaEbpf.S2

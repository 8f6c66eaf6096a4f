/-
Module: MonsaEbpf.S2.SkLookup
Layer: S2
Purpose: S2-advanced/examples/network/sk_lookup/example_sk_lookup.bpf.c. The program counts a socket lookup
  under the local address and sends a record of its endpoints. The `bpf_printk` line changes no state and is
  left out.
Imports: MonsaEbpf.Bpf.CountingHandler, MonsaEbpf.Bpf.Sockets
Trusted boundary: human-reviewed translation
Main exports: SkLookupEvent, SkLookupCall, SkLookupMaps, msbSkLookup, skLookup, skLookup_handler
-/
import MonsaEbpf.Bpf.CountingHandler
import MonsaEbpf.Bpf.Sockets

namespace MonsaEbpf.S2

/-- `struct sk_lookup_event`. -/
structure SkLookupEvent where
  timestampNs : U64
  saddr : U32
  daddr : U32
  sport : U16
  dport : U16
  protocol : U8
  count : U64
deriving Repr, DecidableEq

structure SkLookupCall where
  ctx : BpfSkLookup
  ktimeGetNs : U64
  reserved : Option SkLookupEvent

/-- The maps of the program. -/
abbrev SkLookupMaps := CounterMaps U32 SkLookupEvent 10240

def skLookupCounts : MapRef CounterMap SkLookupMaps U32 U64 10240 := CounterMaps.counters
def skLookupEvents : RingRef SkLookupMaps SkLookupEvent := CounterMaps.ring

/-- The record of a lookup: both ports go through `bpf_ntohs`, although `local_port` is in host order. -/
def SkLookupCall.fill (call : SkLookupCall) (newCount : U64) (_ : SkLookupEvent) : SkLookupEvent where
  timestampNs := call.ktimeGetNs
  saddr := call.ctx.remoteIp4
  daddr := call.ctx.localIp4
  sport := ntohs call.ctx.remotePort
  dport := ntohs (call.ctx.localPort.setWidth 16)
  protocol := call.ctx.protocol.setWidth 8
  count := newCount

/-- `msb_sk_lookup`. -/
def msbSkLookup (call : SkLookupCall) : StepProgram (BpfOp CounterMap) SkLookupMaps S32 :=
  countAndEmit skLookupCounts skLookupEvents call.ctx.localIp4 call.reserved call.fill SK_PASS

/-- The program as a counting handler. -/
def skLookup : CountingHandler CounterMap SkLookupMaps U32 SkLookupCall SkLookupEvent S32 10240 :=
  .emitting skLookupCounts skLookupEvents .initial rfl CounterMaps.apart
    (fun call => some call.ctx.localIp4) (fun _ => SK_PASS) SkLookupCall.reserved SkLookupCall.fill
    fun _ => SK_PASS

theorem skLookup_handler : skLookup.handler = msbSkLookup := rfl

end MonsaEbpf.S2

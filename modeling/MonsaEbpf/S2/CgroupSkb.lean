/-
Module: MonsaEbpf.S2.CgroupSkb
Layer: S2
Purpose: S2-advanced/examples/cgroup/cgroup_skb/example_cgroup_skb.bpf.c. The program reads an Ethernet
  header at the start of the packet, takes the addresses of an IPv4 header behind it where one fits,
  counts the packet under its cgroup and samples a record. The `bpf_printk` line changes no state and is
  left out.
Imports: MonsaEbpf.Bpf.CountingHandler, MonsaEbpf.Bpf.Packet
Trusted boundary: human-reviewed translation
Main exports: CgroupSkbEvent, CgroupSkbCall, skbParse, msbCgroupSkb, skbAddresses, skbParse_eq, cgroupSkb,
  cgroupSkb_handler
-/
import MonsaEbpf.Bpf.CountingHandler
import MonsaEbpf.Bpf.Packet

namespace MonsaEbpf.S2

open Wire

/-- `struct cgroup_skb_event`. -/
structure CgroupSkbEvent where
  timestampNs : U64
  saddr : U32
  daddr : U32
  len : U32
  cgroupId : U64
  count : U64
deriving Repr, DecidableEq

structure CgroupSkbCall where
  skb : SkBuff
  cgroupId : U64
  ktimeGetNs : U64
  reserved : Option CgroupSkbEvent

/-- The maps of the program. -/
abbrev CgroupSkbMaps := CounterMaps U64 CgroupSkbEvent 1024

abbrev CgroupSkbProgram := StepProgram (BpfOp CounterMap) CgroupSkbMaps

def cgroupSkbCounts : MapRef CounterMap CgroupSkbMaps U64 U64 1024 := CounterMaps.counters
def cgroupSkbEvents : RingRef CgroupSkbMaps CgroupSkbEvent := CounterMaps.ring

/-- The parse of a packet into source and destination address, none when the program returns early. The
addresses are zero when the EtherType is another one or no IPv4 header fits. -/
def skbParse (bytes : List U8) : Access (Option (U32 × U32)) :=
  if bytes.length < sizeofEthhdr then return none
  else do
    let proto ← ethhdrHProto bytes 0
    if proto = htons ETH_P_IP then
      let ip := sizeofEthhdr
      if ip + sizeofIphdr ≤ bytes.length then do
        let saddr ← iphdrSaddr bytes ip
        let daddr ← iphdrDaddr bytes ip
        return some (saddr, daddr)
      else return some (0, 0)
    else return some (0, 0)

/-- The record of a packet; every field of the reserved memory is written. -/
def skbRecord (call : CgroupSkbCall) (addresses : U32 × U32) (newCount : U64) (_ : CgroupSkbEvent) :
    CgroupSkbEvent where
  timestampNs := call.ktimeGetNs
  saddr := addresses.1
  daddr := addresses.2
  len := call.skb.len
  cgroupId := call.cgroupId
  count := newCount

/-- `msb_cgroup_skb`; a read outside the packet would be a fault. -/
def msbCgroupSkb (call : CgroupSkbCall) : CgroupSkbProgram (Access S32) :=
  match skbParse call.skb.bytes with
  | .error fault => return .error fault
  | .ok none => return .ok 1
  | .ok (some addresses) =>
      countAndSample cgroupSkbCounts cgroupSkbEvents call.cgroupId call.reserved
        (skbRecord call addresses) (.ok 1)

/-! ### The program as a counting handler -/

/-- What the parse finds, as a function of the bytes. -/
def skbAddresses (bytes : List U8) : Option (U32 × U32) :=
  if bytes.length < sizeofEthhdr then none
  else if Ipv4Frame.etherType bytes = ETH_P_IP ∧ sizeofEthhdr + sizeofIphdr ≤ bytes.length then
    some (Ipv4Frame.saddr bytes, Ipv4Frame.daddr bytes)
  else some (0, 0)

/-- No read of the parse is outside the packet. -/
theorem skbParse_eq (bytes : List U8) : skbParse bytes = .ok (skbAddresses bytes) := by
  unfold skbParse skbAddresses
  split
  · rfl
  · rename_i ethernet
    rw [ethhdrHProto_inside (Nat.le_of_not_lt ethernet), access_ok_bind]
    split
    · rename_i same
      have ipv4 : Ipv4Frame.etherType bytes = ETH_P_IP := htons_inj.mp same
      by_cases fits : sizeofEthhdr + sizeofIphdr ≤ bytes.length
      · refine (if_pos fits).trans ?_
        rw [iphdrSaddr_inside fits, access_ok_bind, iphdrDaddr_inside fits, access_ok_bind]
        exact congrArg Except.ok (if_pos ⟨ipv4, fits⟩).symm
      · refine (if_neg fits).trans ?_
        exact congrArg Except.ok (if_neg fun both => fits both.2).symm
    · rename_i other
      rw [if_neg fun both => other (congrArg htons both.1)]
      rfl

/-- The cgroup under which a packet is counted; a packet without an Ethernet header is not. -/
def CgroupSkbCall.counted? (call : CgroupSkbCall) : Option U64 :=
  (skbAddresses call.skb.bytes).map fun _ => call.cgroupId

/-- The record of a packet that was counted. -/
def CgroupSkbCall.fill (call : CgroupSkbCall) : U64 → CgroupSkbEvent → CgroupSkbEvent :=
  skbRecord call ((skbAddresses call.skb.bytes).getD (0, 0))

def cgroupSkb :
    CountingHandler CounterMap CgroupSkbMaps U64 CgroupSkbCall CgroupSkbEvent (Access S32) 1024 :=
  .sampling cgroupSkbCounts cgroupSkbEvents .initial rfl CounterMaps.apart CgroupSkbCall.counted?
    (fun _ => .ok 1) CgroupSkbCall.reserved CgroupSkbCall.fill fun _ => .ok 1

theorem cgroupSkb_handler : cgroupSkb.handler = msbCgroupSkb := by
  funext call
  have counted : cgroupSkb.key? call = (skbAddresses call.skb.bytes).map fun _ => call.cgroupId := rfl
  rw [msbCgroupSkb, skbParse_eq]
  cases parsed : skbAddresses call.skb.bytes with
  | none =>
      rw [parsed] at counted
      rw [CountingHandler.handler, counted]
      rfl
  | some addresses =>
      rw [parsed] at counted
      have filled : call.fill = skbRecord call addresses := by
        rw [CgroupSkbCall.fill, parsed]
        rfl
      rw [CountingHandler.handler_counted counted]
      change countAndSample _ _ _ _ call.fill _ = _
      rw [filled]
      rfl

end MonsaEbpf.S2

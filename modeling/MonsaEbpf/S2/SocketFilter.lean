/-
Module: MonsaEbpf.S2.SocketFilter
Layer: S2
Purpose: S2-advanced/examples/network/socket_filter/example_socket_filter.bpf.c. The filter parses a frame
  into addresses, ports and protocol, counts it under its destination address and samples a record.
  `sfParse_eq` states the parse in terms of the dissection of the bytes.
Imports: MonsaEbpf.Bpf.Counting, MonsaEbpf.Bpf.Packet
Trusted boundary: human-reviewed translation
Main exports: SocketFilterEvent, SfTuple, SfMaps, sfParse, msbSocketFilter, sfParse_eq
-/
import MonsaEbpf.Bpf.Counting
import MonsaEbpf.Bpf.Packet

namespace MonsaEbpf.S2

open Wire Ipv4Frame

/-- `struct socket_filter_event`. -/
structure SocketFilterEvent where
  timestampNs : U64
  saddr : U32
  daddr : U32
  sport : U16
  dport : U16
  protocol : U8
  len : U32
  count : U64
deriving Repr, DecidableEq

/-- The local variables that the parse fills in. -/
structure SfTuple where
  saddr : U32
  daddr : U32
  sport : U16
  dport : U16
  protocol : U8
deriving Repr, DecidableEq

/-- The maps of the program. -/
structure SfMaps where
  sfCounts : CellMap U32 U64 10240
  sfEvents : List SocketFilterEvent

inductive SfMap where
  | sfCounts
deriving DecidableEq, Repr

def sfCounts : MapRef SfMap SfMaps U32 U64 10240 where
  name := .sfCounts
  get := SfMaps.sfCounts
  set := fun maps map => { maps with sfCounts := map }
  get_set := fun _ _ => rfl
  set_get := fun _ => rfl
  set_set := fun _ _ _ => rfl

def sfEvents : RingRef SfMaps SocketFilterEvent where
  get := SfMaps.sfEvents
  set := fun maps events => { maps with sfEvents := events }

/-- The parse of a frame, none when the filter returns early. -/
def sfParse (bytes : List U8) : Access (Option SfTuple) :=
  ipv4Tuple bytes SfTuple.mk

abbrev SfProgram := StepProgram (BpfOp SfMap) SfMaps

/-- The record of a frame; every field of the reserved memory is written. -/
def sfRecord (skb : SkBuff) (ktimeGetNs : U64) (tuple : SfTuple) (newCount : U64) :
    SocketFilterEvent where
  timestampNs := ktimeGetNs
  saddr := tuple.saddr
  daddr := tuple.daddr
  sport := tuple.sport
  dport := tuple.dport
  protocol := tuple.protocol
  len := skb.len
  count := newCount

/-- Reserve, fill and submit a record. -/
def sfEmit (skb : SkBuff) (ktimeGetNs : U64) (reserved : Option SocketFilterEvent)
    (tuple : SfTuple) (newCount : U64) : SfProgram S32 := do
  let evt ← bpfRingbufReserve reserved
  match evt with
  | none => return 0
  | some _ => do
      bpfRingbufSubmit sfEvents (sfRecord skb ktimeGetNs tuple newCount)
      return 0

/-- The filter on a frame that was parsed: count it and sample 1/100 packets. -/
def filterTuple (skb : SkBuff) (ktimeGetNs : U64) (reserved : Option SocketFilterEvent)
    (tuple : SfTuple) : SfProgram S32 := do
  let newCount ← countEvent sfCounts tuple.daddr
  if newCount % 100 ≠ 0 then return 0
  else sfEmit skb ktimeGetNs reserved tuple newCount

/-- `msb_socket_filter`; a read outside the frame would be a fault. -/
def msbSocketFilter (skb : SkBuff) (ktimeGetNs : U64) (reserved : Option SocketFilterEvent) :
    SfProgram (Access S32) :=
  match sfParse skb.bytes with
  | .error fault => return .error fault
  | .ok none => return .ok 0
  | .ok (some tuple) => do
      let verdict ← filterTuple skb ktimeGetNs reserved tuple
      return .ok verdict

/-- **The filter's parse is that of the dissection**, and no read is outside the bytes. -/
theorem sfParse_eq (bytes : List U8) : sfParse bytes = .ok (tuple? SfTuple.mk (dissect bytes)) :=
  ipv4Tuple_eq bytes SfTuple.mk

end MonsaEbpf.S2

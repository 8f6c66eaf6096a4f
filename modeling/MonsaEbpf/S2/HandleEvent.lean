/-
Module: MonsaEbpf.S2.HandleEvent
Layer: S2
Purpose: What the user programs print for a record. Their `handle_event` functions are one function of the
  size of the record and of the calls of `printf`. Those of tc, sk_lookup and cgroup_sock_addr follow; the
  lines for the source and the destination are the same in all of them.
Imports: MonsaEbpf.Lib.Printf, MonsaEbpf.S2.CgroupCounters, MonsaEbpf.S2.SkLookup, MonsaEbpf.S2.TcClassifier
Trusted boundary: human-reviewed translation
Main exports: handleEvent, protoName, srcLine, dstLine, tcHandleEvent, skLookupHandleEvent,
  sockAddrHandleEvent
-/
import MonsaEbpf.Lib.Printf
import MonsaEbpf.S2.CgroupCounters
import MonsaEbpf.S2.SkLookup
import MonsaEbpf.S2.TcClassifier

namespace MonsaEbpf.S2

open Printf

/-- A `handle_event` that prints records of at least `size` bytes: the number returned, the output, and the
buffer of `inet_ntoa` after it. -/
def handleEvent {E : Type} (size : Nat) (lines : E → List (List Piece)) (order : ArgumentOrder)
    (buffer : List Char) (evt : E) (dataSz : Nat) : S32 × (List Char × List Char) :=
  if dataSz < size then (0, ([], buffer))
  else (0, printfs order buffer (lines evt))

/-- `proto_name` of tc and sk_lookup. -/
def protoName (proto : U8) : String :=
  if proto = 6 then "TCP" else if proto = 17 then "UDP" else "OTHER"

/-- The line of the source. -/
def srcLine (address : U32) (port : U16) : List Piece :=
  [.text "  Src:      ", .inetNtoa address, .text ":", .number port.toNat, .text "\n"]

/-- The line of the destination. -/
def dstLine (address : U32) (port : U16) : List Piece :=
  [.text "  Dst:      ", .inetNtoa address, .text ":", .number port.toNat, .text "\n"]

/-! ### tc -/

/-- `sizeof(struct tc_event)`. -/
def sizeofTcEvent : Nat := 40

def tcEventLines (evt : TcEvent) : List (List Piece) :=
  [[.text "=== TC Event (sampled) ===\n"],
    [.text "  Proto:    ", .text (protoName evt.protocol), .text "\n"],
    srcLine evt.saddr evt.sport,
    dstLine evt.daddr evt.dport,
    [.text "  Len:      ", .number evt.len.toNat, .text " bytes\n"],
    [.text "  Mark:     0x", .hexadecimal evt.mark.toNat, .text "\n"],
    [.text "  Count:    ", .number evt.count.toNat, .text "\n\n"]]

/-- `handle_event` of example_tc_classifier_user.c. -/
def tcHandleEvent : ArgumentOrder → List Char → TcEvent → Nat → S32 × (List Char × List Char) :=
  handleEvent sizeofTcEvent tcEventLines

/-! ### sk_lookup -/

/-- `sizeof(struct sk_lookup_event)`. -/
def sizeofSkLookupEvent : Nat := 32

def skLookupEventLines (evt : SkLookupEvent) : List (List Piece) :=
  [[.text "=== SK_LOOKUP Event ===\n"],
    [.text "  Proto:    ", .text (protoName evt.protocol), .text "\n"],
    srcLine evt.saddr evt.sport,
    dstLine evt.daddr evt.dport,
    [.text "  Count:    ", .number evt.count.toNat, .text "\n\n"]]

/-- `handle_event` of example_sk_lookup_user.c. -/
def skLookupHandleEvent :
    ArgumentOrder → List Char → SkLookupEvent → Nat → S32 × (List Char × List Char) :=
  handleEvent sizeofSkLookupEvent skLookupEventLines

/-! ### cgroup_sock_addr -/

/-- `sizeof(struct cgroup_sock_addr_event)`. -/
def sizeofCgroupSockAddrEvent : Nat := 40

def sockAddrEventLines (evt : CgroupSockAddrEvent) : List (List Piece) :=
  [[.text "=== Cgroup Sock Addr Event ===\n"],
    [.text "  Cgroup:   ", .number evt.cgroupId.toNat, .text "\n"],
    [.text "  Family:   ", .number evt.family.toNat, .text "\n"],
    dstLine evt.daddr evt.dport,
    [.text "  Count:    ", .number evt.count.toNat, .text "\n\n"]]

/-- `handle_event` of example_cgroup_sock_addr_user.c; the port is printed as it is in the record. -/
def sockAddrHandleEvent :
    ArgumentOrder → List Char → CgroupSockAddrEvent → Nat → S32 × (List Char × List Char) :=
  handleEvent sizeofCgroupSockAddrEvent sockAddrEventLines

end MonsaEbpf.S2

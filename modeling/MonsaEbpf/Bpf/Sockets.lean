/-
Module: MonsaEbpf.Bpf.Sockets
Layer: Bpf
Purpose: IPv4 endpoints, and the context of the programs that are run for socket lookups with the byte
  orders of its fields.
Imports: MonsaEbpf.Bpf.Packet, MonsaEbpf.Lib.DottedQuad
Trusted boundary: human-reviewed byte orders of linux/bpf.h
Main exports: Endpoint, Endpoint.text, BpfSkLookup, BpfSkLookup.ofLookup, SK_PASS
-/
import MonsaEbpf.Bpf.Packet
import MonsaEbpf.Lib.DottedQuad

namespace MonsaEbpf

open DottedQuad

/-- An IPv4 address and a port, as numbers. -/
structure Endpoint where
  address : U32
  port : U16
deriving Repr, DecidableEq

/-- The endpoint as a tool should show it: the dotted quad of its address and the number of its port. -/
def Endpoint.text (endpoint : Endpoint) : List Char :=
  quadOf endpoint.address ++ (":".toList ++ decimal endpoint.port.toNat)

/-- The fields of `struct bpf_sk_lookup` that the programs read: the addresses and the remote port are in
network order, the local port in host order. -/
structure BpfSkLookup where
  protocol : U32
  remoteIp4 : U32
  remotePort : U16
  localIp4 : U32
  localPort : U32
deriving Repr, DecidableEq

/-- The context of an IPv4 lookup from a remote endpoint for a local one. -/
def BpfSkLookup.ofLookup (protocol : U32) (remote here : Endpoint) : BpfSkLookup where
  protocol := protocol
  remoteIp4 := Wire.swap32 remote.address
  remotePort := htons remote.port
  localIp4 := Wire.swap32 here.address
  localPort := here.port.setWidth 32

/-- The verdict that lets a packet or a lookup pass. -/
def SK_PASS : S32 := 1

end MonsaEbpf

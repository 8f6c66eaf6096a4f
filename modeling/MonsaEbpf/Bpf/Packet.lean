/-
Module: MonsaEbpf.Bpf.Packet
Layer: Bpf
Purpose: The header structures of linux/if_ether.h, linux/ip.h, linux/tcp.h and linux/udp.h as the programs
  read them: fields at offsets from a position between `data` and `data_end`. The host is little-endian.
  A read outside the bytes is a fault.
Imports: MonsaEbpf.Bpf.Helpers, MonsaEbpf.Lib.Ipv4Frame
Trusted boundary: human-reviewed structure layouts
Main exports: SkBuff, bswap16, bswap32, htons, ntohs, ethhdrHProto, iphdrIhl, iphdrProtocol, iphdrSaddr,
  iphdrDaddr, tcphdrSource, tcphdrDest, udphdrSource, udphdrDest, ipv4Tuple, ipv4Tuple_eq
-/
import MonsaEbpf.Bpf.Helpers
import MonsaEbpf.Lib.Ipv4Frame

namespace MonsaEbpf

open Wire

/-- What the programs read of `struct __sk_buff`: the bytes from `data` to `data_end`, which need not be
all `len` bytes of the packet, and the mark. -/
structure SkBuff where
  bytes : List U8
  len : U32
  mark : U32

/-- `__builtin_bswap16` and `__builtin_bswap32`. -/
def bswap16 (value : U16) : U16 := swap16 value
def bswap32 (value : U32) : U32 := swap32 value

/-- `bpf_htons` and `bpf_ntohs` on a little-endian host. -/
def htons (value : U16) : U16 := bswap16 value
def ntohs (value : U16) : U16 := bswap16 value

def ETH_P_IP : U16 := 0x0800
def IPPROTO_TCP : U8 := 6
def IPPROTO_UDP : U8 := 17

/-- `sizeof` of the header structures. -/
def sizeofEthhdr : Nat := 14
def sizeofIphdr : Nat := 20
def sizeofTcphdr : Nat := 20
def sizeofUdphdr : Nat := 8

section Fields

variable (bytes : List U8)

def ethhdrHProto (eth : Nat) : Access U16 := load16 bytes (eth + 12)

/-- The bit field `ihl:4`, the low nibble of the first byte on a little-endian host. -/
def iphdrIhl (ip : Nat) : Access Nat := do
  let first ← loadByte bytes ip
  return first.toNat % 16

def iphdrProtocol (ip : Nat) : Access U8 := loadByte bytes (ip + 9)
def iphdrSaddr (ip : Nat) : Access U32 := load32 bytes (ip + 12)
def iphdrDaddr (ip : Nat) : Access U32 := load32 bytes (ip + 16)
def tcphdrSource (tcp : Nat) : Access U16 := load16 bytes tcp
def tcphdrDest (tcp : Nat) : Access U16 := load16 bytes (tcp + 2)
def udphdrSource (udp : Nat) : Access U16 := load16 bytes udp
def udphdrDest (udp : Nat) : Access U16 := load16 bytes (udp + 2)

end Fields

/-- The ports of a packet: zero for other protocols, none when the header does not fit. -/
def ipv4Ports (bytes : List U8) (ip : Nat) (protocol : U8) : Access (Option (U16 × U16)) :=
  if protocol = IPPROTO_TCP then do
    let ihl ← iphdrIhl bytes ip
    let tcp := ip + ihl * 4
    if bytes.length < tcp + sizeofTcphdr then return none
    else do
      let source ← tcphdrSource bytes tcp
      let dest ← tcphdrDest bytes tcp
      return some (ntohs source, ntohs dest)
  else if protocol = IPPROTO_UDP then do
    let ihl ← iphdrIhl bytes ip
    let udp := ip + ihl * 4
    if bytes.length < udp + sizeofUdphdr then return none
    else do
      let source ← udphdrSource bytes udp
      let dest ← udphdrDest bytes udp
      return some (ntohs source, ntohs dest)
  else return some (0, 0)

/-- The parse that `msb_tc_classifier` and `msb_socket_filter` both spell out: addresses, ports and protocol
of an IPv4 frame handed to `build`, none where the programs return early. -/
def ipv4Tuple {α : Type} (bytes : List U8) (build : U32 → U32 → U16 → U16 → U8 → α) :
    Access (Option α) :=
  if bytes.length < sizeofEthhdr then return none
  else do
    let proto ← ethhdrHProto bytes 0
    if proto ≠ htons ETH_P_IP then return none
    else
      let ip := sizeofEthhdr
      if bytes.length < ip + sizeofIphdr then return none
      else do
        let saddr ← iphdrSaddr bytes ip
        let daddr ← iphdrDaddr bytes ip
        let protocol ← iphdrProtocol bytes ip
        let ports ← ipv4Ports bytes ip protocol
        return ports.map fun (sport, dport) => build saddr daddr sport dport protocol

/-! ### Reads inside the bytes -/

@[simp] theorem access_ok_bind {α β : Type} (value : α) (rest : α → Access β) :
    (Except.ok value >>= rest : Access β) = rest value := rfl

@[simp] theorem access_pure {α : Type} (value : α) : (pure value : Access α) = .ok value := rfl

variable {bytes : List U8}

theorem ethhdrHProto_inside (inside : sizeofEthhdr ≤ bytes.length) :
    ethhdrHProto bytes 0 = .ok (htons (Ipv4Frame.etherType bytes)) := by
  have fits : 12 + 2 ≤ bytes.length := inside
  rw [htons, bswap16, Ipv4Frame.etherType, swap16_swap16, ethhdrHProto, Nat.zero_add,
    load16_inside fits]

/-- Comparing the swapped EtherType with a swapped constant compares the numbers. -/
theorem htons_inj {first second : U16} : htons first = htons second ↔ first = second := by
  constructor
  · intro same
    rw [← swap16_swap16 first, ← swap16_swap16 second]
    exact congrArg swap16 same
  · exact congrArg htons

section Ipv4

variable (header : sizeofEthhdr + sizeofIphdr ≤ bytes.length)

include header

theorem iphdrIhl_inside : iphdrIhl bytes sizeofEthhdr = .ok (Ipv4Frame.ihl bytes) := by
  have fits : sizeofEthhdr < bytes.length := Nat.lt_of_lt_of_le (by decide) header
  rw [iphdrIhl, loadByte_inside fits]
  rfl

theorem iphdrProtocol_inside :
    iphdrProtocol bytes sizeofEthhdr = .ok (Ipv4Frame.protocol bytes) :=
  loadByte_inside (Nat.lt_of_lt_of_le (by decide) header)

theorem iphdrSaddr_inside : iphdrSaddr bytes sizeofEthhdr = .ok (Ipv4Frame.saddr bytes) :=
  load32_inside (Nat.le_trans (by decide) header)

theorem iphdrDaddr_inside : iphdrDaddr bytes sizeofEthhdr = .ok (Ipv4Frame.daddr bytes) :=
  load32_inside (Nat.le_trans (by decide) header)

end Ipv4

/-- Where the programs look for the transport header. -/
theorem iph_transport :
    sizeofEthhdr + Ipv4Frame.ihl bytes * 4 = Ipv4Frame.transportOffset bytes := by
  rw [Ipv4Frame.transportOffset, sizeofEthhdr, Ipv4Frame.ethernetSize]

/-- Swapping the bytes of a port back gives the number. -/
@[simp] theorem ntohs_htons (value : U16) : ntohs (htons value) = value :=
  swap16_swap16 value

@[simp] theorem bswap16_htons (value : U16) : bswap16 (htons value) = value :=
  swap16_swap16 value

section Transport

theorem loadPorts_inside (inside : Ipv4Frame.transportOffset bytes + 4 ≤ bytes.length) :
    load16 bytes (Ipv4Frame.transportOffset bytes) = .ok (htons (Ipv4Frame.sourcePort bytes)) ∧
      load16 bytes (Ipv4Frame.transportOffset bytes + 2) =
        .ok (htons (Ipv4Frame.destinationPort bytes)) := by
  rw [load16_inside (Nat.le_trans (by omega) inside), load16_inside (Nat.le_trans (by omega) inside),
    Ipv4Frame.sourcePort, Ipv4Frame.destinationPort, htons, bswap16, swap16_swap16, htons, bswap16,
    swap16_swap16]
  exact ⟨rfl, rfl⟩

section Tcp

variable (inside : Ipv4Frame.transportOffset bytes + sizeofTcphdr ≤ bytes.length)

include inside

theorem tcphdrSource_inside :
    tcphdrSource bytes (Ipv4Frame.transportOffset bytes) = .ok (htons (Ipv4Frame.sourcePort bytes)) :=
  (loadPorts_inside (Nat.le_trans (Nat.add_le_add_left (by decide) _) inside)).1

theorem tcphdrDest_inside :
    tcphdrDest bytes (Ipv4Frame.transportOffset bytes) =
      .ok (htons (Ipv4Frame.destinationPort bytes)) :=
  (loadPorts_inside (Nat.le_trans (Nat.add_le_add_left (by decide) _) inside)).2

theorem tcpFlags_inside :
    loadByte bytes (Ipv4Frame.transportOffset bytes + 13) = .ok (Ipv4Frame.tcpFlags bytes) :=
  loadByte_inside (Nat.lt_of_lt_of_le (Nat.add_lt_add_left (by decide) _) inside)

end Tcp

section Udp

variable (inside : Ipv4Frame.transportOffset bytes + sizeofUdphdr ≤ bytes.length)

include inside

theorem udphdrSource_inside :
    udphdrSource bytes (Ipv4Frame.transportOffset bytes) = .ok (htons (Ipv4Frame.sourcePort bytes)) :=
  (loadPorts_inside (Nat.le_trans (Nat.add_le_add_left (by decide) _) inside)).1

theorem udphdrDest_inside :
    udphdrDest bytes (Ipv4Frame.transportOffset bytes) =
      .ok (htons (Ipv4Frame.destinationPort bytes)) :=
  (loadPorts_inside (Nat.le_trans (Nat.add_le_add_left (by decide) _) inside)).2

end Udp

end Transport

/-! ### The shared parse against the dissection -/

open Ipv4Frame

/-- The fields of a complete dissection; nothing when a header is missing. -/
def tuple? {α : Type} (build : U32 → U32 → U16 → U16 → U8 → α) : Dissection → Option α
  | .complete packet transport =>
      some (build packet.saddr packet.daddr transport.sourcePort transport.destinationPort
        packet.protocol)
  | _ => none

theorem ipv4Ports_eq (header : sizeofEthhdr + sizeofIphdr ≤ bytes.length) :
    ipv4Ports bytes sizeofEthhdr (protocol bytes) = .ok ((transport? bytes).map Transport.ports) := by
  unfold ipv4Ports
  split
  · rename_i tcp
    simp only [iphdrIhl_inside header, access_ok_bind, iph_transport]
    by_cases short : bytes.length < transportOffset bytes + sizeofTcphdr
    · rw [if_pos short, transport?_tcp_short tcp short]
      rfl
    · have fits := Nat.le_of_not_lt short
      rw [if_neg short, transport?_tcp tcp fits, tcphdrSource_inside fits, access_ok_bind,
        tcphdrDest_inside fits, access_ok_bind, ntohs_htons, ntohs_htons]
      rfl
  · rename_i notTcp
    split
    · rename_i udp
      simp only [iphdrIhl_inside header, access_ok_bind, iph_transport]
      by_cases short : bytes.length < transportOffset bytes + sizeofUdphdr
      · rw [if_pos short, transport?_udp_short udp short]
        rfl
      · have fits := Nat.le_of_not_lt short
        rw [if_neg short, transport?_udp udp fits, udphdrSource_inside fits, access_ok_bind,
          udphdrDest_inside fits, access_ok_bind, ntohs_htons, ntohs_htons]
        rfl
    · rename_i notUdp
      rw [transport?_other notTcp notUdp]
      rfl

/-- **The shared parse is that of the dissection**, and no read is outside the bytes. -/
theorem ipv4Tuple_eq {α : Type} (bytes : List U8) (build : U32 → U32 → U16 → U16 → U8 → α) :
    ipv4Tuple bytes build = .ok (tuple? build (dissect bytes)) := by
  unfold ipv4Tuple
  split
  · rename_i short
    rw [dissect_noEthernet short]
    rfl
  · rename_i ethernet
    rw [ethhdrHProto_inside (Nat.le_of_not_lt ethernet), access_ok_bind]
    split
    · rename_i other
      rw [dissect_notIpv4 ethernet fun ipv4 => other (congrArg htons ipv4)]
      rfl
    · rename_i same
      have ipv4 : etherType bytes = etherTypeIpv4 := htons_inj.mp (not_not.mp same)
      by_cases short : bytes.length < ethernetSize + ipv4Size
      · rw [dissect_noIpv4 ethernet ipv4 short]
        exact if_pos short
      · have header := Nat.le_of_not_lt short
        rw [dissect_ipv4 ethernet ipv4 short]
        refine (if_neg short).trans ?_
        rw [iphdrSaddr_inside header, access_ok_bind, iphdrDaddr_inside header, access_ok_bind,
          iphdrProtocol_inside header, access_ok_bind, ipv4Ports_eq header]
        cases transport? bytes <;> rfl

end MonsaEbpf

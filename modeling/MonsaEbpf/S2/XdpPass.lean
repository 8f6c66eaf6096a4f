/-
Module: MonsaEbpf.S2.XdpPass
Layer: S2
Purpose: The packet parser of S2-advanced/examples/network/xdp/xdp_pass.bpf.c and what it returns for
  every byte string, in terms of the dissection of the bytes.
Imports: MonsaEbpf.Bpf.Packet
Trusted boundary: human-reviewed translation
Main exports: XdpEvent, XdpEvent.started, parsePacket, parsePacket_eq
-/
import MonsaEbpf.Bpf.Packet

namespace MonsaEbpf.S2

open Wire Ipv4Frame

/-- `struct xdp_event`. -/
structure XdpEvent where
  timestampNs : U64
  ifindex : U32
  rxQueue : U32
  pktLen : U32
  ethProto : U16
  ipProto : U8
  action : U8
  srcIp : U32
  dstIp : U32
  srcPort : U16
  dstPort : U16
  tcpFlags : U8
deriving Repr, DecidableEq

/-- The event as `xdp_pass` hands it to the parser: `evt = {}` and the fields taken from the context. -/
def XdpEvent.started (timestampNs : U64) (ifindex rxQueue pktLen : U32) (action : U8) : XdpEvent where
  timestampNs := timestampNs
  ifindex := ifindex
  rxQueue := rxQueue
  pktLen := pktLen
  ethProto := 0
  ipProto := 0
  action := action
  srcIp := 0
  dstIp := 0
  srcPort := 0
  dstPort := 0
  tcpFlags := 0

/-- Parse TCP; a header that does not fit leaves the event as it is. -/
def parseTcp (bytes : List U8) (iph : Nat) (evt : XdpEvent) : Access (S32 × XdpEvent) := do
  let ihl ← iphdrIhl bytes iph
  let tcph := iph + ihl * 4
  if bytes.length < tcph + sizeofTcphdr then return (0, evt)
  else do
    let source ← tcphdrSource bytes tcph
    let dest ← tcphdrDest bytes tcph
    let flags ← loadByte bytes (tcph + 13)
    return (0, { evt with srcPort := bswap16 source, dstPort := bswap16 dest, tcpFlags := flags })

/-- Parse UDP. -/
def parseUdp (bytes : List U8) (iph : Nat) (evt : XdpEvent) : Access (S32 × XdpEvent) := do
  let ihl ← iphdrIhl bytes iph
  let udph := iph + ihl * 4
  if bytes.length < udph + sizeofUdphdr then return (0, evt)
  else do
    let source ← udphdrSource bytes udph
    let dest ← udphdrDest bytes udph
    return (0, { evt with srcPort := bswap16 source, dstPort := bswap16 dest })

/-- Parse IPv4. -/
def parseIpv4 (bytes : List U8) (iph : Nat) (evt : XdpEvent) : Access (S32 × XdpEvent) :=
  if bytes.length < iph + sizeofIphdr then return (-1, evt)
  else do
    let protocol ← iphdrProtocol bytes iph
    let saddr ← iphdrSaddr bytes iph
    let daddr ← iphdrDaddr bytes iph
    let evt := { evt with ipProto := protocol, srcIp := bswap32 saddr, dstIp := bswap32 daddr }
    if protocol = IPPROTO_TCP then parseTcp bytes iph evt
    else if protocol = IPPROTO_UDP then parseUdp bytes iph evt
    else return (0, evt)

/-- `parse_packet`: the returned number and the event as the parser leaves it. -/
def parsePacket (bytes : List U8) (evt : XdpEvent) : Access (S32 × XdpEvent) :=
  if bytes.length < sizeofEthhdr then return (-1, evt)
  else do
    let proto ← ethhdrHProto bytes 0
    let hProto := bswap16 proto
    let evt := { evt with ethProto := hProto }
    if hProto = ETH_P_IP then parseIpv4 bytes sizeofEthhdr evt
    else return (0, evt)

/-! ### Against the dissection -/

/-- The event with the IPv4 header of a packet filled in. -/
def XdpEvent.withPacket (evt : XdpEvent) (packet : Packet) : XdpEvent :=
  { evt with
    ethProto := ETH_P_IP
    ipProto := packet.protocol
    srcIp := bswap32 packet.saddr
    dstIp := bswap32 packet.daddr }

/-- The event with a transport header filled in. -/
def XdpEvent.withTransport (evt : XdpEvent) : Transport → XdpEvent
  | .tcp source destination flags =>
      { evt with srcPort := source, dstPort := destination, tcpFlags := flags }
  | .udp source destination => { evt with srcPort := source, dstPort := destination }
  | .other => evt

/-- What the parser returns for a dissection. -/
def XdpEvent.parsed (evt : XdpEvent) : Dissection → S32 × XdpEvent
  | .noEthernet => (-1, evt)
  | .notIpv4 proto => (0, { evt with ethProto := proto })
  | .noIpv4 => (-1, { evt with ethProto := ETH_P_IP })
  | .noTransport packet => (0, evt.withPacket packet)
  | .complete packet transport => (0, (evt.withPacket packet).withTransport transport)

section Refinement

variable {bytes : List U8} (evt : XdpEvent)

/-- The number returned is zero whether the transport header is there or not. -/
def XdpEvent.withTransport? (evt : XdpEvent) : Option Transport → S32 × XdpEvent
  | none => (0, evt)
  | some transport => (0, evt.withTransport transport)

theorem parseTcp_eq (header : sizeofEthhdr + sizeofIphdr ≤ bytes.length)
    (tcp : protocol bytes = IPPROTO_TCP) :
    parseTcp bytes sizeofEthhdr evt = .ok (evt.withTransport? (transport? bytes)) := by
  simp only [parseTcp, iphdrIhl_inside header, access_ok_bind, iph_transport]
  by_cases short : bytes.length < transportOffset bytes + sizeofTcphdr
  · rw [if_pos short, transport?_tcp_short tcp short]
    rfl
  · have fits := Nat.le_of_not_lt short
    rw [if_neg short, transport?_tcp tcp fits]
    simp only [tcphdrSource_inside fits, tcphdrDest_inside fits, tcpFlags_inside fits,
      access_ok_bind, bswap16_htons]
    rfl

theorem parseUdp_eq (header : sizeofEthhdr + sizeofIphdr ≤ bytes.length)
    (udp : protocol bytes = IPPROTO_UDP) :
    parseUdp bytes sizeofEthhdr evt = .ok (evt.withTransport? (transport? bytes)) := by
  simp only [parseUdp, iphdrIhl_inside header, access_ok_bind, iph_transport]
  by_cases short : bytes.length < transportOffset bytes + sizeofUdphdr
  · rw [if_pos short, transport?_udp_short udp short]
    rfl
  · have fits := Nat.le_of_not_lt short
    rw [if_neg short, transport?_udp udp fits]
    simp only [udphdrSource_inside fits, udphdrDest_inside fits, access_ok_bind, bswap16_htons]
    rfl

theorem parseIpv4_eq (header : sizeofEthhdr + sizeofIphdr ≤ bytes.length) :
    parseIpv4 bytes sizeofEthhdr { evt with ethProto := ETH_P_IP } =
      .ok ((evt.withPacket (packetOf bytes)).withTransport? (transport? bytes)) := by
  rw [parseIpv4, if_neg (Nat.not_lt_of_le header)]
  simp only [iphdrProtocol_inside header, iphdrSaddr_inside header, iphdrDaddr_inside header,
    access_ok_bind]
  split
  · rename_i tcp
    exact parseTcp_eq _ header tcp
  · rename_i notTcp
    split
    · rename_i udp
      exact parseUdp_eq _ header udp
    · rename_i notUdp
      rw [transport?_other notTcp notUdp]
      rfl

theorem XdpEvent.parsed_ofTransport (packet : Packet) (transport : Option Transport) :
    evt.parsed (.ofTransport packet transport) =
      (evt.withPacket packet).withTransport? transport := by
  cases transport <;> rfl

/-- **The parser reports the dissection**, and no read of it is outside the bytes. -/
theorem parsePacket_eq : parsePacket bytes evt = .ok (evt.parsed (dissect bytes)) := by
  unfold parsePacket
  split
  · rename_i short
    rw [dissect_noEthernet short]
    rfl
  · rename_i ethernet
    simp only [ethhdrHProto_inside (Nat.le_of_not_lt ethernet), access_ok_bind, bswap16_htons]
    split
    · rename_i ipv4
      by_cases short : bytes.length < ethernetSize + ipv4Size
      · rw [dissect_noIpv4 ethernet ipv4 short, ipv4]
        exact if_pos short
      · rw [dissect_ipv4 ethernet ipv4 short, ipv4, XdpEvent.parsed_ofTransport]
        exact parseIpv4_eq evt (Nat.le_of_not_lt short)
    · rename_i other
      rw [dissect_notIpv4 ethernet other]
      rfl

end Refinement

end MonsaEbpf.S2

/-
Module: MonsaEbpf.Lib.Ipv4Frame
Layer: Lib
Purpose: What a byte string is as an Ethernet frame with an IPv4 packet in it. `dissect` reads the
  addresses, the protocol and, for TCP and UDP, the ports at the place where the header length field of
  the packet says that the transport header starts. It trusts that field: version, a header length of at
  least five words and the fragment offset are not examined, and `WellFormed` says when they are right.
  `Built` is a frame put together from header fields; dissecting it returns them.
Imports: MonsaEbpf.Lib.Wire
Trusted boundary: human-reviewed header layouts
Main exports: Ipv4Frame.Dissection, Ipv4Frame.dissect, Ipv4Frame.Carries, Ipv4Frame.carries_of_ports,
  Ipv4Frame.Carries.dissect, Ipv4Frame.Built, Ipv4Frame.Built.dissect_bytes,
  Ipv4Frame.Built.datagram
-/
import MonsaEbpf.Lib.Wire

namespace Ipv4Frame

open Wire

/-! ### Header layouts -/

/-- The size of an Ethernet header, an IPv4 header without options, and of the transport headers. -/
def ethernetSize : Nat := 14
def ipv4Size : Nat := 20
def tcpSize : Nat := 20
def udpSize : Nat := 8

def protocolTcp : Byte := 6
def protocolUdp : Byte := 17
def etherTypeIpv4 : BitVec 16 := 0x0800

/-- The size of the fixed transport header of a protocol, when it has ports. -/
def transportSize? (protocol : Byte) : Option Nat :=
  if protocol = protocolTcp then some tcpSize
  else if protocol = protocolUdp then some udpSize
  else none

section Fields

variable (bytes : List Byte)

/-- The EtherType as a number. -/
def etherType : BitVec 16 := swap16 (halfAt bytes 12)

/-- The version nibble of the IPv4 header. -/
def version : Nat := (byteAt bytes ethernetSize).toNat / 16

/-- The header length nibble, in words of four bytes. -/
def ihl : Nat := (byteAt bytes ethernetSize).toNat % 16

/-- The thirteen bits of the fragment offset. -/
def fragmentOffset : BitVec 13 := (swap16 (halfAt bytes (ethernetSize + 6))).setWidth 13

def protocol : Byte := byteAt bytes (ethernetSize + 9)

/-- The address words as the host reads them, in network order. -/
def saddr : BitVec 32 := wordAt bytes (ethernetSize + 12)
def daddr : BitVec 32 := wordAt bytes (ethernetSize + 16)

/-- Where the transport header starts according to the header length field. -/
def transportOffset : Nat := ethernetSize + ihl bytes * 4

/-- The ports as numbers. -/
def sourcePort : BitVec 16 := swap16 (halfAt bytes (transportOffset bytes))
def destinationPort : BitVec 16 := swap16 (halfAt bytes (transportOffset bytes + 2))

/-- Byte 13 of a TCP header. -/
def tcpFlags : Byte := byteAt bytes (transportOffset bytes + 13)

end Fields

/-! ### Dissection -/

/-- The fields of the IPv4 header that the dissection reports. -/
structure Packet where
  saddr : BitVec 32
  daddr : BitVec 32
  protocol : Byte
deriving DecidableEq, Repr

/-- What follows the IPv4 header. -/
inductive Transport where
  | tcp (source destination : BitVec 16) (flags : Byte)
  | udp (source destination : BitVec 16)
  | other
deriving DecidableEq, Repr

def Transport.sourcePort : Transport → BitVec 16
  | .tcp source _ _ | .udp source _ => source
  | .other => 0

def Transport.destinationPort : Transport → BitVec 16
  | .tcp _ destination _ | .udp _ destination => destination
  | .other => 0

def Transport.ports (transport : Transport) : BitVec 16 × BitVec 16 :=
  (transport.sourcePort, transport.destinationPort)

def Transport.tcpFlags : Transport → Byte
  | .tcp _ _ flags => flags
  | .udp _ _ | .other => 0

/-- What a byte string turns out to be. -/
inductive Dissection where
  | noEthernet
  | notIpv4 (etherType : BitVec 16)
  | noIpv4
  | noTransport (packet : Packet)
  | complete (packet : Packet) (transport : Transport)
deriving DecidableEq, Repr

def packetOf (bytes : List Byte) : Packet where
  saddr := saddr bytes
  daddr := daddr bytes
  protocol := protocol bytes

/-- The transport header where the header length field says that it starts, none when it does not fit. -/
def transport? (bytes : List Byte) : Option Transport :=
  if protocol bytes = protocolTcp then
    if bytes.length < transportOffset bytes + tcpSize then none
    else some (.tcp (sourcePort bytes) (destinationPort bytes) (tcpFlags bytes))
  else if protocol bytes = protocolUdp then
    if bytes.length < transportOffset bytes + udpSize then none
    else some (.udp (sourcePort bytes) (destinationPort bytes))
  else some .other

/-- A packet with the transport header that was found. -/
def Dissection.ofTransport (packet : Packet) : Option Transport → Dissection
  | none => .noTransport packet
  | some transport => .complete packet transport

/-- The headers of a byte string, outermost first. -/
def dissect (bytes : List Byte) : Dissection :=
  if bytes.length < ethernetSize then .noEthernet
  else if etherType bytes ≠ etherTypeIpv4 then .notIpv4 (etherType bytes)
  else if bytes.length < ethernetSize + ipv4Size then .noIpv4
  else .ofTransport (packetOf bytes) (transport? bytes)

/-! How far the headers go, outermost first. -/

theorem dissect_noEthernet {bytes : List Byte} (short : bytes.length < ethernetSize) :
    dissect bytes = .noEthernet := by
  rw [dissect, if_pos short]

theorem dissect_notIpv4 {bytes : List Byte} (ethernet : ¬ bytes.length < ethernetSize)
    (other : etherType bytes ≠ etherTypeIpv4) : dissect bytes = .notIpv4 (etherType bytes) := by
  rw [dissect, if_neg ethernet, if_pos other]

theorem dissect_noIpv4 {bytes : List Byte} (ethernet : ¬ bytes.length < ethernetSize)
    (ipv4 : etherType bytes = etherTypeIpv4) (short : bytes.length < ethernetSize + ipv4Size) :
    dissect bytes = .noIpv4 := by
  rw [dissect, if_neg ethernet, if_neg (not_not.mpr ipv4), if_pos short]

theorem dissect_ipv4 {bytes : List Byte} (ethernet : ¬ bytes.length < ethernetSize)
    (ipv4 : etherType bytes = etherTypeIpv4) (header : ¬ bytes.length < ethernetSize + ipv4Size) :
    dissect bytes = .ofTransport (packetOf bytes) (transport? bytes) := by
  rw [dissect, if_neg ethernet, if_neg (not_not.mpr ipv4), if_neg header]

/-! What the transport header is. -/

section Transport

variable {bytes : List Byte}

theorem transport?_tcp (tcp : protocol bytes = protocolTcp)
    (fits : transportOffset bytes + tcpSize ≤ bytes.length) :
    transport? bytes =
      some (.tcp (sourcePort bytes) (destinationPort bytes) (tcpFlags bytes)) := by
  rw [transport?, if_pos tcp, if_neg (Nat.not_lt_of_le fits)]

theorem transport?_tcp_short (tcp : protocol bytes = protocolTcp)
    (short : bytes.length < transportOffset bytes + tcpSize) : transport? bytes = none := by
  rw [transport?, if_pos tcp, if_pos short]

theorem transport?_udp (udp : protocol bytes = protocolUdp)
    (fits : transportOffset bytes + udpSize ≤ bytes.length) :
    transport? bytes = some (.udp (sourcePort bytes) (destinationPort bytes)) := by
  have notTcp : protocol bytes ≠ protocolTcp := udp ▸ by decide
  rw [transport?, if_neg notTcp, if_pos udp, if_neg (Nat.not_lt_of_le fits)]

theorem transport?_udp_short (udp : protocol bytes = protocolUdp)
    (short : bytes.length < transportOffset bytes + udpSize) : transport? bytes = none := by
  have notTcp : protocol bytes ≠ protocolTcp := udp ▸ by decide
  rw [transport?, if_neg notTcp, if_pos udp, if_pos short]

theorem transport?_other (notTcp : protocol bytes ≠ protocolTcp)
    (notUdp : protocol bytes ≠ protocolUdp) : transport? bytes = some .other := by
  rw [transport?, if_neg notTcp, if_neg notUdp]

/-- A transport header is reported with its ports, and only where the protocol has ports and the header
fits. -/
theorem transport?_carries {transport : Transport} (found : transport? bytes = some transport)
    (known : transport ≠ .other) :
    (∃ size, transportSize? (protocol bytes) = some size ∧
      transportOffset bytes + size ≤ bytes.length) ∧
      transport.sourcePort = sourcePort bytes ∧
      transport.destinationPort = destinationPort bytes := by
  by_cases tcp : protocol bytes = protocolTcp
  · have sized : transportSize? (protocol bytes) = some tcpSize := by
      rw [transportSize?, if_pos tcp]
    by_cases short : bytes.length < transportOffset bytes + tcpSize
    · rw [transport?_tcp_short tcp short] at found
      cases found
    · have fits := Nat.le_of_not_lt short
      rw [transport?_tcp tcp fits] at found
      cases found
      exact ⟨⟨tcpSize, sized, fits⟩, rfl, rfl⟩
  · by_cases udp : protocol bytes = protocolUdp
    · have sized : transportSize? (protocol bytes) = some udpSize := by
        rw [transportSize?, if_neg tcp, if_pos udp]
      by_cases short : bytes.length < transportOffset bytes + udpSize
      · rw [transport?_udp_short udp short] at found
        cases found
      · have fits := Nat.le_of_not_lt short
        rw [transport?_udp udp fits] at found
        cases found
        exact ⟨⟨udpSize, sized, fits⟩, rfl, rfl⟩
    · rw [transport?_other tcp udp] at found
      cases found
      exact absurd rfl known

/-- A transport header is missing only where the protocol has ports and the header does not fit. -/
theorem transport?_eq_none (missing : transport? bytes = none) :
    protocol bytes = protocolTcp ∧ bytes.length < transportOffset bytes + tcpSize ∨
      protocol bytes = protocolUdp ∧ bytes.length < transportOffset bytes + udpSize := by
  by_cases tcp : protocol bytes = protocolTcp
  · refine Or.inl ⟨tcp, Nat.lt_of_not_le fun fits => ?_⟩
    rw [transport?_tcp tcp fits] at missing
    cases missing
  · by_cases udp : protocol bytes = protocolUdp
    · refine Or.inr ⟨udp, Nat.lt_of_not_le fun fits => ?_⟩
      rw [transport?_udp udp fits] at missing
      cases missing
    · rw [transport?_other tcp udp] at missing
      cases missing

end Transport

/-- The ports of a dissection, zero where there are none. -/
def Dissection.ports : Dissection → BitVec 16 × BitVec 16
  | .complete _ transport => transport.ports
  | _ => (0, 0)

/-- The bytes hold an IPv4 header, its protocol has ports, and the transport header that the header length
field points to lies inside the bytes. -/
structure Carries (bytes : List Byte) : Prop where
  ipv4 : etherType bytes = etherTypeIpv4
  header : ethernetSize + ipv4Size ≤ bytes.length
  transport : ∃ size, transportSize? (protocol bytes) = some size ∧
    transportOffset bytes + size ≤ bytes.length

/-- The fields of the IPv4 header that say whether a transport header really follows it. -/
structure WellFormed (bytes : List Byte) : Prop where
  version : version bytes = 4
  ihl : 5 ≤ ihl bytes
  unfragmented : fragmentOffset bytes = 0

/-- A dissection with an IPv4 packet is that of bytes with an IPv4 header. -/
theorem dissect_ofTransport {bytes : List Byte} {packet : Packet} {found : Option Transport}
    (dissected : dissect bytes = .ofTransport packet found) :
    etherType bytes = etherTypeIpv4 ∧ ethernetSize + ipv4Size ≤ bytes.length ∧
      packet = packetOf bytes ∧ found = transport? bytes := by
  by_cases short : bytes.length < ethernetSize
  · rw [dissect_noEthernet short] at dissected
    cases found <;> cases dissected
  by_cases ipv4 : etherType bytes = etherTypeIpv4
  · by_cases noHeader : bytes.length < ethernetSize + ipv4Size
    · rw [dissect_noIpv4 short ipv4 noHeader] at dissected
      cases found <;> cases dissected
    · rw [dissect_ipv4 short ipv4 noHeader] at dissected
      refine ⟨ipv4, Nat.le_of_not_lt noHeader, ?_⟩
      generalize transport? bytes = actual at dissected
      cases found <;> cases actual <;> cases dissected <;> exact ⟨rfl, rfl⟩
  · rw [dissect_notIpv4 short ipv4] at dissected
    cases found <;> cases dissected

/-- Bytes that are not IPv4 have another EtherType. -/
theorem ne_ipv4_of_dissect {bytes : List Byte} {proto : BitVec 16}
    (dissected : dissect bytes = .notIpv4 proto) : proto ≠ etherTypeIpv4 := by
  by_cases short : bytes.length < ethernetSize
  · rw [dissect_noEthernet short] at dissected
    cases dissected
  by_cases ipv4 : etherType bytes = etherTypeIpv4
  · by_cases noHeader : bytes.length < ethernetSize + ipv4Size
    · rw [dissect_noIpv4 short ipv4 noHeader] at dissected
      cases dissected
    · rw [dissect_ipv4 short ipv4 noHeader] at dissected
      cases found : transport? bytes <;> rw [found] at dissected <;> cases dissected
  · rw [dissect_notIpv4 short ipv4] at dissected
    cases dissected
    exact ipv4

/-- **Ports come from a transport header that is there**: where the header length field points to, wholly
inside the bytes, of a protocol with ports. -/
theorem carries_of_ports {bytes : List Byte}
    (ports : (dissect bytes).ports.1 ≠ 0 ∨ (dissect bytes).ports.2 ≠ 0) :
    Carries bytes ∧ (dissect bytes).ports = (sourcePort bytes, destinationPort bytes) := by
  cases dissected : dissect bytes with
  | complete packet transport =>
      rw [dissected] at ports
      have known : transport ≠ .other := by
        rintro rfl
        simp [Dissection.ports, Transport.ports, Transport.sourcePort, Transport.destinationPort] at ports
      have ofSome : dissect bytes = .ofTransport packet (some transport) := dissected
      obtain ⟨ipv4, header, _, found⟩ := dissect_ofTransport ofSome
      obtain ⟨inside, source, destination⟩ := transport?_carries found.symm known
      exact ⟨⟨ipv4, header, inside⟩, Prod.ext source destination⟩
  | _ =>
      rw [dissected] at ports
      simp [Dissection.ports] at ports

/-- Bytes that carry a transport header with ports dissect into the packet and that header. -/
theorem Carries.dissect {bytes : List Byte} (carries : Carries bytes) :
    ∃ transport, dissect bytes = .complete (packetOf bytes) transport ∧
      transport.ports = (sourcePort bytes, destinationPort bytes) := by
  have ethernet : ¬ bytes.length < ethernetSize :=
    Nat.not_lt_of_le (Nat.le_trans (Nat.le_add_right _ _) carries.header)
  have dissected := dissect_ipv4 ethernet carries.ipv4 (Nat.not_lt_of_le carries.header)
  obtain ⟨size, sized, fits⟩ := carries.transport
  by_cases tcp : protocol bytes = protocolTcp
  · rw [transportSize?, if_pos tcp] at sized
    cases sized
    rw [transport?_tcp tcp fits] at dissected
    exact ⟨_, dissected, rfl⟩
  · by_cases udp : protocol bytes = protocolUdp
    · rw [transportSize?, if_neg tcp, if_pos udp] at sized
      cases sized
      rw [transport?_udp udp fits] at dissected
      exact ⟨_, dissected, rfl⟩
    · rw [transportSize?, if_neg tcp, if_neg udp] at sized
      cases sized

/-- A packet without its transport header is that of a frame that is too short for the header. -/
theorem dissect_noTransport {bytes : List Byte} {packet : Packet}
    (dissected : dissect bytes = .noTransport packet) :
    packet = packetOf bytes ∧
      (protocol bytes = protocolTcp ∧ bytes.length < transportOffset bytes + tcpSize ∨
        protocol bytes = protocolUdp ∧ bytes.length < transportOffset bytes + udpSize) := by
  have ofNone : dissect bytes = .ofTransport packet none := dissected
  obtain ⟨_, _, packetEq, missing⟩ := dissect_ofTransport ofNone
  exact ⟨packetEq, transport?_eq_none missing.symm⟩

/-! ### Frames built from header fields -/

structure TcpHeader where
  source : BitVec 16
  destination : BitVec 16
  sequence : BitVec 32
  acknowledgment : BitVec 32
  dataOffset : Byte
  flags : Byte
  window : BitVec 16
  checksum : BitVec 16
  urgent : BitVec 16
  options : List Byte

def TcpHeader.bytes (header : TcpHeader) : List Byte :=
  put16 header.source ++ (put16 header.destination ++ (put32 header.sequence ++
    (put32 header.acknowledgment ++ ([header.dataOffset, header.flags] ++ (put16 header.window ++
      (put16 header.checksum ++ (put16 header.urgent ++ header.options)))))))

structure UdpHeader where
  source : BitVec 16
  destination : BitVec 16
  length : BitVec 16
  checksum : BitVec 16

def UdpHeader.bytes (header : UdpHeader) : List Byte :=
  put16 header.source ++ (put16 header.destination ++ (put16 header.length ++ put16 header.checksum))

/-- A transport header with ports. -/
inductive Segment where
  | tcp (header : TcpHeader)
  | udp (header : UdpHeader)

namespace Segment

def bytes : Segment → List Byte
  | .tcp header => header.bytes
  | .udp header => header.bytes

def protocol : Segment → Byte
  | .tcp _ => protocolTcp
  | .udp _ => protocolUdp

def source : Segment → BitVec 16
  | .tcp header => header.source
  | .udp header => header.source

def destination : Segment → BitVec 16
  | .tcp header => header.destination
  | .udp header => header.destination

def transport : Segment → Transport
  | .tcp header => .tcp header.source header.destination header.flags
  | .udp header => .udp header.source header.destination

/-- The size of the header without options. -/
def size : Segment → Nat
  | .tcp _ => tcpSize
  | .udp _ => udpSize

theorem size_le (segment : Segment) : segment.size ≤ segment.bytes.length := by
  cases segment with
  | tcp header =>
      simp only [size, tcpSize, bytes, TcpHeader.bytes, List.length_append, List.length_cons,
        List.length_nil, length_put16, length_put32]
      omega
  | udp header => exact Nat.le_refl _

end Segment

/-- An unfragmented IPv4 header whose options fill the words announced by `ihl`. -/
structure Ipv4Header where
  ihl : BitVec 4
  tos : Byte
  totalLength : BitVec 16
  identification : BitVec 16
  flags : BitVec 3
  ttl : Byte
  checksum : BitVec 16
  source : BitVec 32
  destination : BitVec 32
  options : List Byte
  atLeastFive : 5 ≤ ihl.toNat
  optionsFill : ipv4Size + options.length = ihl.toNat * 4

/-- The header of version 4, fragment offset zero and the given protocol. -/
def Ipv4Header.bytes (header : Ipv4Header) (protocol : Byte) : List Byte :=
  [4#4 ++ header.ihl, header.tos] ++ (put16 header.totalLength ++ (put16 header.identification ++
    (put16 (header.flags ++ 0#13) ++ ([header.ttl, protocol] ++ (put16 header.checksum ++
      (put32 header.source ++ (put32 header.destination ++ header.options)))))))

theorem Ipv4Header.length_bytes (header : Ipv4Header) (protocol : Byte) :
    (header.bytes protocol).length = header.ihl.toNat * 4 := by
  have filled := header.optionsFill
  simp only [ipv4Size] at filled
  simp only [Ipv4Header.bytes, List.length_append, List.length_cons, List.length_nil, length_put16,
    length_put32]
  omega

/-- An Ethernet frame around an IPv4 packet around a TCP or UDP segment. -/
structure Built where
  macDestination : Vector Byte 6
  macSource : Vector Byte 6
  ip : Ipv4Header
  segment : Segment
  payload : List Byte

namespace Built

variable (frame : Built)

def ethernet : List Byte :=
  frame.macDestination.toList ++ (frame.macSource.toList ++ put16 etherTypeIpv4)

/-- What follows the Ethernet header. -/
def afterEthernet : List Byte :=
  frame.ip.bytes frame.segment.protocol ++ (frame.segment.bytes ++ frame.payload)

def bytes : List Byte :=
  frame.ethernet ++ frame.afterEthernet

def packet : Packet where
  saddr := swap32 frame.ip.source
  daddr := swap32 frame.ip.destination
  protocol := frame.segment.protocol

theorem length_ethernet : frame.ethernet.length = ethernetSize := by
  simp [ethernet, ethernetSize]

/-! Positions in the frame, relative to the header they lie in. -/

theorem byteAt_ip (offset : Nat) :
    byteAt frame.bytes (ethernetSize + offset) = byteAt frame.afterEthernet offset := by
  rw [← frame.length_ethernet]
  exact byteAt_append_right _ _ _

theorem halfAt_ip (offset : Nat) :
    halfAt frame.bytes (ethernetSize + offset) = halfAt frame.afterEthernet offset := by
  rw [← frame.length_ethernet]
  exact halfAt_append_right _ _ _

theorem wordAt_ip (offset : Nat) :
    wordAt frame.bytes (ethernetSize + offset) = wordAt frame.afterEthernet offset := by
  rw [← frame.length_ethernet]
  exact wordAt_append_right _ _ _

theorem etherType_bytes : etherType frame.bytes = etherTypeIpv4 := by
  have macs : (frame.macDestination.toList ++ frame.macSource.toList).length = 12 := by simp
  have regrouped : frame.bytes = (frame.macDestination.toList ++ frame.macSource.toList) ++
      (put16 etherTypeIpv4 ++ frame.afterEthernet) := by
    simp [bytes, ethernet]
  have loaded := halfAt_append_right (frame.macDestination.toList ++ frame.macSource.toList)
    (put16 etherTypeIpv4 ++ frame.afterEthernet) 0
  rw [← regrouped, macs] at loaded
  rw [etherType, loaded, swap16_halfAt_put16]

theorem firstByte_bytes : byteAt frame.bytes ethernetSize = 4#4 ++ frame.ip.ihl := by
  have first := frame.byteAt_ip 0
  exact first

theorem ihl_bytes : ihl frame.bytes = frame.ip.ihl.toNat := by
  have nibble : ∀ low : BitVec 4, (4#4 ++ low : BitVec 8).toNat % 16 = low.toNat := by decide
  rw [ihl, firstByte_bytes, nibble]

theorem version_bytes : version frame.bytes = 4 := by
  have nibble : ∀ low : BitVec 4, (4#4 ++ low : BitVec 8).toNat / 16 = 4 := by decide
  rw [version, firstByte_bytes, nibble]

theorem protocol_bytes : protocol frame.bytes = frame.segment.protocol :=
  frame.byteAt_ip 9

theorem saddr_bytes : saddr frame.bytes = swap32 frame.ip.source := by
  have loaded : wordAt frame.afterEthernet 12 = wordAt (put32 frame.ip.source ++ []) 0 := rfl
  rw [saddr, wordAt_ip, loaded, ← swap32_swap32 (wordAt _ _), swap32_wordAt_put32]

theorem daddr_bytes : daddr frame.bytes = swap32 frame.ip.destination := by
  have loaded : wordAt frame.afterEthernet 16 = wordAt (put32 frame.ip.destination ++ []) 0 := rfl
  rw [daddr, wordAt_ip, loaded, ← swap32_swap32 (wordAt _ _), swap32_wordAt_put32]

theorem fragmentOffset_bytes : fragmentOffset frame.bytes = 0 := by
  have loaded : halfAt frame.afterEthernet 6 = halfAt (put16 (frame.ip.flags ++ 0#13) ++ []) 0 := rfl
  have low : ∀ flags : BitVec 3, (flags ++ 0#13).setWidth 13 = 0#13 := by decide
  rw [fragmentOffset, halfAt_ip, loaded, swap16_halfAt_put16]
  exact low _

/-- A built frame has the IPv4 header fields that a dissector should insist on. -/
theorem wellFormed : WellFormed frame.bytes where
  version := frame.version_bytes
  ihl := frame.ihl_bytes ▸ frame.ip.atLeastFive
  unfragmented := frame.fragmentOffset_bytes

theorem packetOf_bytes : packetOf frame.bytes = frame.packet := by
  rw [packetOf, saddr_bytes, daddr_bytes, protocol_bytes, packet]

/-! The transport header starts where `ihl` says. -/

theorem transportOffset_bytes :
    transportOffset frame.bytes = (frame.ethernet ++ frame.ip.bytes frame.segment.protocol).length := by
  rw [List.length_append, length_ethernet, Ipv4Header.length_bytes, transportOffset, ihl_bytes]

theorem bytes_eq : frame.bytes = (frame.ethernet ++ frame.ip.bytes frame.segment.protocol) ++
    (frame.segment.bytes ++ frame.payload) := by
  rw [bytes, afterEthernet, List.append_assoc]

theorem byteAt_transport (offset : Nat) :
    byteAt frame.bytes (transportOffset frame.bytes + offset) =
      byteAt (frame.segment.bytes ++ frame.payload) offset := by
  rw [transportOffset_bytes, bytes_eq]
  exact byteAt_append_right _ _ _

theorem halfAt_transport (offset : Nat) :
    halfAt frame.bytes (transportOffset frame.bytes + offset) =
      halfAt (frame.segment.bytes ++ frame.payload) offset := by
  rw [transportOffset_bytes, bytes_eq]
  exact halfAt_append_right _ _ _

theorem length_bytes : frame.bytes.length =
    transportOffset frame.bytes + (frame.segment.bytes ++ frame.payload).length := by
  rw [transportOffset_bytes, bytes_eq, List.length_append]

theorem sourcePort_bytes : sourcePort frame.bytes = frame.segment.source := by
  have loaded : halfAt (frame.segment.bytes ++ frame.payload) 0 =
      halfAt (put16 frame.segment.source ++ []) 0 := by
    cases frame.segment <;> rfl
  have placed := frame.halfAt_transport 0
  rw [Nat.add_zero] at placed
  rw [sourcePort, placed, loaded, swap16_halfAt_put16]

theorem destinationPort_bytes : destinationPort frame.bytes = frame.segment.destination := by
  have loaded : halfAt (frame.segment.bytes ++ frame.payload) 2 =
      halfAt (put16 frame.segment.destination ++ []) 0 := by
    cases frame.segment <;> rfl
  rw [destinationPort, halfAt_transport, loaded, swap16_halfAt_put16]

theorem tcpFlags_bytes {header : TcpHeader} (tcp : frame.segment = .tcp header) :
    tcpFlags frame.bytes = header.flags := by
  rw [tcpFlags, byteAt_transport, tcp]
  rfl

/-- The announced options leave room for the whole IPv4 header. -/
theorem afterIpv4 : ethernetSize + ipv4Size ≤ transportOffset frame.bytes := by
  have words := frame.ip.atLeastFive
  rw [transportOffset, ihl_bytes, ethernetSize, ipv4Size]
  omega

/-- The transport header lies inside the frame. -/
theorem transport_inside :
    transportOffset frame.bytes + frame.segment.size ≤ frame.bytes.length := by
  have sized := frame.segment.size_le
  rw [length_bytes, List.length_append]
  omega

/-- A built frame carries its transport header. -/
theorem carries : Carries frame.bytes where
  ipv4 := frame.etherType_bytes
  header := Nat.le_trans frame.afterIpv4 (Nat.le_trans (Nat.le_add_right _ _) frame.transport_inside)
  transport := by
    refine ⟨frame.segment.size, ?_, frame.transport_inside⟩
    rw [protocol_bytes]
    cases frame.segment <;> rfl

theorem transport?_bytes : transport? frame.bytes = some frame.segment.transport := by
  have inside := frame.transport_inside
  have protocolEq := frame.protocol_bytes
  have source := frame.sourcePort_bytes
  have destination := frame.destinationPort_bytes
  cases segment : frame.segment with
  | tcp header =>
      have flags := frame.tcpFlags_bytes segment
      rw [segment] at inside protocolEq source destination
      rw [transport?_tcp protocolEq inside, source, destination, flags]
      rfl
  | udp header =>
      rw [segment] at inside protocolEq source destination
      rw [transport?_udp protocolEq inside, source, destination]
      rfl

/-- **Dissecting undoes building.** -/
theorem dissect_bytes : dissect frame.bytes = .complete frame.packet frame.segment.transport := by
  have afterIpv4 := frame.afterIpv4
  have inside := frame.transport_inside
  rw [dissect_ipv4 (by omega) frame.etherType_bytes (by omega), packetOf_bytes, transport?_bytes]
  rfl

/-! A header of five words has no room for options. -/

theorem fiveWords_le : 5 ≤ (5 : BitVec 4).toNat := by decide

theorem fiveWords_fill : ipv4Size + ([] : List Byte).length = (5 : BitVec 4).toNat * 4 := by decide

/-- A UDP datagram without payload. -/
def datagram (source destination : BitVec 32) (sourcePort destinationPort : BitVec 16) : Built where
  macDestination := Vector.replicate 6 0
  macSource := Vector.replicate 6 0
  ip :=
    { ihl := 5, tos := 0, totalLength := 28, identification := 0, flags := 0, ttl := 64, checksum := 0
      source := source, destination := destination, options := [], atLeastFive := fiveWords_le
      optionsFill := fiveWords_fill }
  segment := .udp { source := sourcePort, destination := destinationPort, length := 8, checksum := 0 }
  payload := []

end Built

end Ipv4Frame

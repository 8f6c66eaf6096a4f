/-
Module: MonsaEbpf.S2.PacketReads
Layer: S2
Purpose: The reads of the four packet parsers of S2-advanced, one after the other: `parse_packet` of xdp_pass,
  `msb_tc_classifier`, `msb_socket_filter` and `msb_cgroup_skb`. Each parser is written once more as a
  program that knows where the packet ends and gets at its bytes only by reading them; run on the packet it
  computes what the parser computes. No read is outside the packet, whatever the bytes are.
Imports: MonsaEbpf.Lib.ByteReads, MonsaEbpf.S2.XdpPass, MonsaEbpf.S2.TcClassifier,
  MonsaEbpf.S2.SocketFilter, MonsaEbpf.S2.CgroupSkb
Trusted boundary: human-reviewed translation
Main exports: parsePacketReads, tcReads, sfReads, skbReads, parsePacketReads_run, tcReads_run, sfReads_run,
  skbReads_run, packet_reads_inside
-/
import MonsaEbpf.Lib.ByteReads
import MonsaEbpf.S2.CgroupSkb
import MonsaEbpf.S2.SocketFilter
import MonsaEbpf.S2.TcClassifier
import MonsaEbpf.S2.XdpPass

namespace MonsaEbpf

open Wire ByteReader

/-! ### Reads through the header pointers -/

def readHProto (eth : Nat) : ByteReader U16 := half (eth + 12)

/-- The bit field `ihl:4` is read as the byte that holds it. -/
def readIhl (ip : Nat) : ByteReader Nat := do
  let first ← byte ip
  return first.toNat % 16

def readProtocol (ip : Nat) : ByteReader U8 := byte (ip + 9)
def readSaddr (ip : Nat) : ByteReader U32 := word (ip + 12)
def readDaddr (ip : Nat) : ByteReader U32 := word (ip + 16)

/-- `source` of a TCP or UDP header. -/
def readSource (transport : Nat) : ByteReader U16 := half transport

/-- `dest` of a TCP or UDP header. -/
def readDest (transport : Nat) : ByteReader U16 := half (transport + 2)

section Fields

variable (bytes : List U8)

@[simp] theorem readHProto_run (eth : Nat) : (readHProto eth).run bytes = ethhdrHProto bytes eth :=
  run_half bytes _

@[simp] theorem readIhl_run (ip : Nat) : (readIhl ip).run bytes = iphdrIhl bytes ip := by
  simp only [readIhl, run_bind, run_byte]
  rfl

@[simp] theorem readProtocol_run (ip : Nat) : (readProtocol ip).run bytes = iphdrProtocol bytes ip :=
  run_byte bytes _

@[simp] theorem readSaddr_run (ip : Nat) : (readSaddr ip).run bytes = iphdrSaddr bytes ip :=
  run_word bytes _

@[simp] theorem readDaddr_run (ip : Nat) : (readDaddr ip).run bytes = iphdrDaddr bytes ip :=
  run_word bytes _

theorem readSource_run (transport : Nat) :
    (readSource transport).run bytes = tcphdrSource bytes transport ∧
      (readSource transport).run bytes = udphdrSource bytes transport :=
  ⟨run_half bytes _, run_half bytes _⟩

theorem readDest_run (transport : Nat) :
    (readDest transport).run bytes = tcphdrDest bytes transport ∧
      (readDest transport).run bytes = udphdrDest bytes transport :=
  ⟨run_half bytes _, run_half bytes _⟩

end Fields

namespace S2

/-! ### The parsers -/

/-- The ports as the classifier and the socket filter read them. -/
def portsReads (dataEnd ip : Nat) (protocol : U8) : ByteReader (Option (U16 × U16)) :=
  if protocol = IPPROTO_TCP then do
    let ihl ← readIhl ip
    let tcp := ip + ihl * 4
    if dataEnd < tcp + sizeofTcphdr then return none
    else do
      let source ← readSource tcp
      let dest ← readDest tcp
      return some (ntohs source, ntohs dest)
  else if protocol = IPPROTO_UDP then do
    let ihl ← readIhl ip
    let udp := ip + ihl * 4
    if dataEnd < udp + sizeofUdphdr then return none
    else do
      let source ← readSource udp
      let dest ← readDest udp
      return some (ntohs source, ntohs dest)
  else return some (0, 0)

/-- The parse that the classifier and the socket filter share. -/
def tupleReads {α : Type} (dataEnd : Nat) (build : U32 → U32 → U16 → U16 → U8 → α) :
    ByteReader (Option α) :=
  if dataEnd < sizeofEthhdr then return none
  else do
    let proto ← readHProto 0
    if proto ≠ htons ETH_P_IP then return none
    else
      let ip := sizeofEthhdr
      if dataEnd < ip + sizeofIphdr then return none
      else do
        let saddr ← readSaddr ip
        let daddr ← readDaddr ip
        let protocol ← readProtocol ip
        let ports ← portsReads dataEnd ip protocol
        return ports.map fun (sport, dport) => build saddr daddr sport dport protocol

/-- The parse of `msb_tc_classifier`. -/
def tcReads (dataEnd : Nat) : ByteReader (Option FlowKey) :=
  tupleReads dataEnd FlowKey.mk

/-- The parse of `msb_socket_filter`. -/
def sfReads (dataEnd : Nat) : ByteReader (Option SfTuple) :=
  tupleReads dataEnd SfTuple.mk

/-- The parse of `msb_cgroup_skb`. -/
def skbReads (dataEnd : Nat) : ByteReader (Option (U32 × U32)) :=
  if dataEnd < sizeofEthhdr then return none
  else do
    let proto ← readHProto 0
    if proto = htons ETH_P_IP then
      let ip := sizeofEthhdr
      if ip + sizeofIphdr ≤ dataEnd then do
        let saddr ← readSaddr ip
        let daddr ← readDaddr ip
        return some (saddr, daddr)
      else return some (0, 0)
    else return some (0, 0)

/-- The TCP branch of `parse_packet`; the flags are byte 13 of the header. -/
def parseTcpReads (dataEnd iph : Nat) (evt : XdpEvent) : ByteReader (S32 × XdpEvent) := do
  let ihl ← readIhl iph
  let tcph := iph + ihl * 4
  if dataEnd < tcph + sizeofTcphdr then return (0, evt)
  else do
    let source ← readSource tcph
    let dest ← readDest tcph
    let flags ← byte (tcph + 13)
    return (0, { evt with srcPort := bswap16 source, dstPort := bswap16 dest, tcpFlags := flags })

/-- The UDP branch of `parse_packet`. -/
def parseUdpReads (dataEnd iph : Nat) (evt : XdpEvent) : ByteReader (S32 × XdpEvent) := do
  let ihl ← readIhl iph
  let udph := iph + ihl * 4
  if dataEnd < udph + sizeofUdphdr then return (0, evt)
  else do
    let source ← readSource udph
    let dest ← readDest udph
    return (0, { evt with srcPort := bswap16 source, dstPort := bswap16 dest })

/-- The IPv4 branch of `parse_packet`; `iph->protocol` is read again for each comparison. -/
def parseIpv4Reads (dataEnd iph : Nat) (evt : XdpEvent) : ByteReader (S32 × XdpEvent) :=
  if dataEnd < iph + sizeofIphdr then return (-1, evt)
  else do
    let ipProto ← readProtocol iph
    let saddr ← readSaddr iph
    let daddr ← readDaddr iph
    let evt := { evt with ipProto := ipProto, srcIp := bswap32 saddr, dstIp := bswap32 daddr }
    let protocol ← readProtocol iph
    if protocol = IPPROTO_TCP then parseTcpReads dataEnd iph evt
    else do
      let protocol ← readProtocol iph
      if protocol = IPPROTO_UDP then parseUdpReads dataEnd iph evt
      else return (0, evt)

/-- `parse_packet`. -/
def parsePacketReads (dataEnd : Nat) (evt : XdpEvent) : ByteReader (S32 × XdpEvent) :=
  if dataEnd < sizeofEthhdr then return (-1, evt)
  else do
    let proto ← readHProto 0
    let hProto := bswap16 proto
    let evt := { evt with ethProto := hProto }
    if hProto = ETH_P_IP then parseIpv4Reads dataEnd sizeofEthhdr evt
    else return (0, evt)

/-! ### What the reads compute -/

variable (bytes : List U8)

theorem portsReads_run (ip : Nat) (protocol : U8) :
    (portsReads bytes.length ip protocol).run bytes = ipv4Ports bytes ip protocol := by
  simp only [portsReads, ipv4Ports, run_ite, run_bind, readIhl_run, (readSource_run bytes _).1,
    (readDest_run bytes _).1]
  rfl

theorem tupleReads_run {α : Type} (build : U32 → U32 → U16 → U16 → U8 → α) :
    (tupleReads bytes.length build).run bytes = ipv4Tuple bytes build := by
  simp only [tupleReads, ipv4Tuple, run_ite, run_bind, readHProto_run, readSaddr_run, readDaddr_run,
    readProtocol_run, portsReads_run]
  rfl

theorem tcReads_run : (tcReads bytes.length).run bytes = tcFlowKey bytes :=
  tupleReads_run bytes FlowKey.mk

theorem sfReads_run : (sfReads bytes.length).run bytes = sfParse bytes :=
  tupleReads_run bytes SfTuple.mk

theorem skbReads_run : (skbReads bytes.length).run bytes = skbParse bytes := by
  simp only [skbReads, skbParse, run_ite, run_bind, readHProto_run, readSaddr_run, readDaddr_run]
  rfl

theorem parseTcpReads_run (iph : Nat) (evt : XdpEvent) :
    (parseTcpReads bytes.length iph evt).run bytes = parseTcp bytes iph evt := by
  simp only [parseTcpReads, parseTcp, run_ite, run_bind, readIhl_run, (readSource_run bytes _).1,
    (readDest_run bytes _).1, run_byte]
  rfl

theorem parseUdpReads_run (iph : Nat) (evt : XdpEvent) :
    (parseUdpReads bytes.length iph evt).run bytes = parseUdp bytes iph evt := by
  simp only [parseUdpReads, parseUdp, run_ite, run_bind, readIhl_run, (readSource_run bytes _).2,
    (readDest_run bytes _).2]
  rfl

/-- Reading the protocol again gives the same protocol. -/
theorem parseIpv4Reads_run (evt : XdpEvent) :
    (parseIpv4Reads bytes.length sizeofEthhdr evt).run bytes = parseIpv4 bytes sizeofEthhdr evt := by
  by_cases short : bytes.length < sizeofEthhdr + sizeofIphdr
  · rw [parseIpv4Reads, parseIpv4, if_pos short, if_pos short]
    rfl
  · have header := Nat.le_of_not_lt short
    simp only [parseIpv4Reads, parseIpv4, if_neg short, run_ite, run_bind, readProtocol_run,
      readSaddr_run, readDaddr_run, iphdrProtocol_inside header, iphdrSaddr_inside header,
      iphdrDaddr_inside header, access_ok_bind, parseTcpReads_run, parseUdpReads_run]
    rfl

theorem parsePacketReads_run (evt : XdpEvent) :
    (parsePacketReads bytes.length evt).run bytes = parsePacket bytes evt := by
  simp only [parsePacketReads, parsePacket, run_ite, run_bind, readHProto_run, parseIpv4Reads_run]
  rfl

/-! ### Where they read -/

/-- **No parser reads outside the packet**, whatever bytes it holds and wherever its `ihl` points. -/
theorem packet_reads_inside (evt : XdpEvent) :
    (∀ offset ∈ (parsePacketReads bytes.length evt).offsets bytes, offset < bytes.length) ∧
      (∀ offset ∈ (tcReads bytes.length).offsets bytes, offset < bytes.length) ∧
      (∀ offset ∈ (sfReads bytes.length).offsets bytes, offset < bytes.length) ∧
      (∀ offset ∈ (skbReads bytes.length).offsets bytes, offset < bytes.length) := by
  refine ⟨?_, ?_, ?_, ?_⟩
  · exact offsets_inside ((parsePacketReads_run bytes evt).trans (parsePacket_eq evt))
  · exact offsets_inside ((tcReads_run bytes).trans (tcFlowKey_eq bytes))
  · exact offsets_inside ((sfReads_run bytes).trans (sfParse_eq bytes))
  · exact offsets_inside ((skbReads_run bytes).trans (skbParse_eq bytes))

/-- An IPv4 TCP packet of 34 bytes with `ihl = 0`, whose ports are then read from the IPv4 header itself. -/
example :
    (sfReads 34).offsets ((List.replicate 34 0).set 12 8 |>.set 23 6) =
      [12, 13, 26, 27, 28, 29, 30, 31, 32, 33, 23, 14, 14, 15, 16, 17] := by
  decide

end S2

end MonsaEbpf

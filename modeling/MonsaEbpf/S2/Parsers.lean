/-
Module: MonsaEbpf.S2.Parsers
Layer: S2
Purpose: The three IPv4 parsers of the S2 network programs against the frames they are given and against
  each other: which headers a reported port comes from, that parsing undoes building a frame, and where
  the three differ.
Imports: MonsaEbpf.S2.XdpPass, MonsaEbpf.S2.TcClassifier, MonsaEbpf.S2.SocketFilter
Trusted boundary: none
Main exports: Parser, Reports, reported_ports_carried, parsers_undo_building, packet_parsers_agree
-/
import MonsaEbpf.S2.XdpPass
import MonsaEbpf.S2.TcClassifier
import MonsaEbpf.S2.SocketFilter

namespace MonsaEbpf.S2

open Wire Ipv4Frame

/-! ### Ports that a parser attributes to a frame -/

inductive Parser where
  | parsePacket
  | msbTcClassifier
  | msbSocketFilter
deriving DecidableEq, Repr

/-- The ports of a frame according to a parser: of the event that `xdp_pass` started with any context, of
the flow key, of the socket filter's locals. -/
inductive Reports (bytes : List U8) : Parser → U16 → U16 → Prop where
  | parsePacket {timestampNs : U64} {ifindex rxQueue pktLen : U32} {action : U8} {verdict : S32}
      {evt : XdpEvent}
      (parsed : S2.parsePacket bytes (.started timestampNs ifindex rxQueue pktLen action) =
        .ok (verdict, evt)) : Reports bytes .parsePacket evt.srcPort evt.dstPort
  | msbTcClassifier {key : FlowKey} (parsed : tcFlowKey bytes = .ok (some key)) :
      Reports bytes .msbTcClassifier key.sport key.dport
  | msbSocketFilter {tuple : SfTuple} (parsed : sfParse bytes = .ok (some tuple)) :
      Reports bytes .msbSocketFilter tuple.sport tuple.dport

/-- A started event has the ports of the dissection after it was parsed. -/
theorem started_parsed_ports (timestampNs : U64) (ifindex rxQueue pktLen : U32) (action : U8)
    (dissection : Dissection) :
    let evt := (XdpEvent.parsed (.started timestampNs ifindex rxQueue pktLen action) dissection).2
    (evt.srcPort, evt.dstPort) = dissection.ports := by
  cases dissection with
  | complete packet transport => cases transport <;> rfl
  | _ => rfl

/-- What a parser reports is the ports of the dissection. -/
theorem Reports.ports {bytes : List U8} {parser : Parser} {sport dport : U16}
    (reports : Reports bytes parser sport dport) : (dissect bytes).ports = (sport, dport) := by
  cases reports with
  | parsePacket parsed =>
      rw [parsePacket_eq] at parsed
      have evtEq := congrArg Prod.snd (Except.ok.inj parsed)
      subst evtEq
      exact (started_parsed_ports _ _ _ _ _ _).symm
  | msbTcClassifier parsed =>
      rw [tcFlowKey_eq] at parsed
      cases dissected : dissect bytes <;> rw [dissected] at parsed <;> cases parsed
      rfl
  | msbSocketFilter parsed =>
      rw [sfParse_eq] at parsed
      cases dissected : dissect bytes <;> rw [dissected] at parsed <;> cases parsed
      rfl

/-- Every parser reports the ports of a complete dissection. -/
theorem reports_of_complete {bytes : List U8} {packet : Packet} {transport : Transport}
    (dissected : dissect bytes = .complete packet transport) (parser : Parser) :
    Reports bytes parser transport.sourcePort transport.destinationPort := by
  cases parser with
  | parsePacket =>
      have parsed : parsePacket bytes (.started 0 0 0 0 0) =
          .ok (XdpEvent.parsed (.started 0 0 0 0 0) (.complete packet transport)) := by
        rw [parsePacket_eq, dissected]
      cases transport <;> exact .parsePacket parsed
  | msbTcClassifier =>
      have parsed := tcFlowKey_eq bytes
      rw [dissected] at parsed
      exact .msbTcClassifier parsed
  | msbSocketFilter =>
      have parsed := sfParse_eq bytes
      rw [dissected] at parsed
      exact .msbSocketFilter parsed

/-- **A reported port comes from a transport header that is there.** -/
theorem reported_ports_carried {bytes : List U8} {parser : Parser} {sport dport : U16}
    (reports : Reports bytes parser sport dport) (nonzero : sport ≠ 0 ∨ dport ≠ 0) :
    Carries bytes ∧ sport = sourcePort bytes ∧ dport = destinationPort bytes := by
  have ports := reports.ports
  have carried : (dissect bytes).ports.1 ≠ 0 ∨ (dissect bytes).ports.2 ≠ 0 := by
    rw [ports]
    exact nonzero
  obtain ⟨carries, same⟩ := carries_of_ports carried
  rw [ports] at same
  cases same
  exact ⟨carries, rfl, rfl⟩

/-- A frame with one UDP datagram from port 53 to port 53, with the given first byte and fragment word of
the IPv4 header. -/
def udpFrame (versionIhl : U8) (fragment : U16) : List U8 :=
  List.replicate 12 0 ++ put16 ETH_P_IP ++ [versionIhl, 0, 0, 28, 0, 0] ++ put16 fragment ++
    [64, IPPROTO_UDP, 0, 0, 10, 0, 0, 1, 10, 0, 0, 2] ++ [0, 53, 0, 53, 0, 8, 0, 0]

theorem reported_ports_carried_udp :
    Reports (udpFrame 0x45 0) .msbTcClassifier 53 53 ∧ Carries (udpFrame 0x45 0) ∧
      53 = sourcePort (udpFrame 0x45 0) ∧ 53 = destinationPort (udpFrame 0x45 0) := by
  have parsed : tcFlowKey (udpFrame 0x45 0) =
      .ok (some { saddr := 0x0100000a, daddr := 0x0200000a, sport := 53, dport := 53, protocol := 17 }) := by
    decide
  exact ⟨.msbTcClassifier parsed, reported_ports_carried (.msbTcClassifier parsed) (Or.inl (by decide))⟩

/-- No parser looks at the version, the lower bound of the header length or the fragment offset: each of
them reports ports for a packet of version 6, for one whose transport header would start inside the IPv4
header, and for a later fragment. -/
theorem ports_reported_when_not_wellFormed :
    (∀ parser, Reports (udpFrame 0x65 0) parser 53 53) ∧ version (udpFrame 0x65 0) ≠ 4 ∧
      (∀ parser, Reports (udpFrame 0x40 0) parser 0x4000 28) ∧ ¬ 5 ≤ ihl (udpFrame 0x40 0) ∧
      (∀ parser, Reports (udpFrame 0x45 1) parser 53 53) ∧ fragmentOffset (udpFrame 0x45 1) ≠ 0 := by
  have version6 : dissect (udpFrame 0x65 0) = .complete ⟨0x0100000a, 0x0200000a, 17⟩ (.udp 53 53) := by
    decide
  have noWords : dissect (udpFrame 0x40 0) =
      .complete ⟨0x0100000a, 0x0200000a, 17⟩ (.udp 0x4000 28) := by
    decide
  have fragment : dissect (udpFrame 0x45 1) = .complete ⟨0x0100000a, 0x0200000a, 17⟩ (.udp 53 53) := by
    decide
  exact ⟨reports_of_complete version6, by decide, reports_of_complete noWords, by decide,
    reports_of_complete fragment, by decide⟩

/-! ### Frames built from header fields -/

/-- Byte 13 of the header of a TCP segment, zero for UDP. -/
def segmentFlags : Segment → U8
  | .tcp header => byteAt header.bytes 13
  | .udp _ => 0

/-- **Parsing undoes frame building.** -/
theorem parsers_undo_building (frame : Built) (timestampNs : U64) (ifindex rxQueue pktLen : U32)
    (action : U8) :
    parsePacket frame.bytes (.started timestampNs ifindex rxQueue pktLen action) =
        .ok (0,
          { timestampNs := timestampNs
            ifindex := ifindex
            rxQueue := rxQueue
            pktLen := pktLen
            ethProto := 0x0800
            ipProto := frame.segment.protocol
            action := action
            srcIp := frame.ip.source
            dstIp := frame.ip.destination
            srcPort := frame.segment.source
            dstPort := frame.segment.destination
            tcpFlags := segmentFlags frame.segment }) ∧
      tcFlowKey frame.bytes =
        .ok (some
          { saddr := saddr frame.bytes
            daddr := daddr frame.bytes
            sport := frame.segment.source
            dport := frame.segment.destination
            protocol := frame.segment.protocol }) ∧
      sfParse frame.bytes =
        .ok (some
          { saddr := saddr frame.bytes
            daddr := daddr frame.bytes
            sport := frame.segment.source
            dport := frame.segment.destination
            protocol := frame.segment.protocol }) := by
  rw [parsePacket_eq, tcFlowKey_eq, sfParse_eq, frame.dissect_bytes, frame.saddr_bytes,
    frame.daddr_bytes]
  refine ⟨?_, ?_, ?_⟩
  · simp only [XdpEvent.parsed, XdpEvent.withPacket, Built.packet, bswap32, swap32_swap32]
    cases frame.segment <;> rfl
  · cases segment : frame.segment <;> simp only [tuple?, Built.packet, segment] <;> rfl
  · cases segment : frame.segment <;> simp only [tuple?, Built.packet, segment] <;> rfl

/-! ### The parsers against each other -/

/-- A rejected frame is a handler that takes no step. -/
theorem msbTcClassifier_finished_iff (skb : SkBuff) (now : U64) (reserved : Option TcEvent) :
    (msbTcClassifier skb now reserved).Finished ↔ tuple? FlowKey.mk (dissect skb.bytes) = none := by
  rw [msbTcClassifier, tcFlowKey_eq]
  cases tuple? FlowKey.mk (dissect skb.bytes) with
  | none => exact iff_of_true rfl rfl
  | some key => exact iff_of_false (fun finished => by cases finished) (fun absent => by cases absent)

theorem msbSocketFilter_finished_iff (skb : SkBuff) (now : U64)
    (reserved : Option SocketFilterEvent) :
    (msbSocketFilter skb now reserved).Finished ↔ tuple? SfTuple.mk (dissect skb.bytes) = none := by
  rw [msbSocketFilter, sfParse_eq]
  cases tuple? SfTuple.mk (dissect skb.bytes) with
  | none => exact iff_of_true rfl rfl
  | some tuple => exact iff_of_false (fun finished => by cases finished) (fun absent => by cases absent)

/-- On a frame with a flow key, the classifier first updates the entry of the key in `tc_flow_stats`. -/
theorem msbTcClassifier_countsFirst {skb : SkBuff} {key : FlowKey} (now : U64)
    (reserved : Option TcEvent) (accounted : tuple? FlowKey.mk (dissect skb.bytes) = some key) :
    tcFlowStats.CountsFirst key (FlowStats.first skb.len) FlowStats.packetsField
      (msbTcClassifier skb now reserved) := by
  have counts : tcFlowStats.CountsFirst key (FlowStats.first skb.len) FlowStats.packetsField
      (accountFlow key skb.len) := ⟨_, _, _, rfl, rfl, fun _ => rfl⟩
  rw [msbTcClassifier, tcFlowKey_eq, accounted]
  exact (counts.bind _).bind _

/-- On a frame that was parsed, the filter first updates the counter of the destination address. -/
theorem msbSocketFilter_countsFirst {skb : SkBuff} {tuple : SfTuple} (now : U64)
    (reserved : Option SocketFilterEvent)
    (accounted : tuple? SfTuple.mk (dissect skb.bytes) = some tuple) :
    sfCounts.CountsFirst tuple.daddr 1 .whole (msbSocketFilter skb now reserved) := by
  rw [msbSocketFilter, sfParse_eq, accounted]
  exact ((countEvent_countsFirst sfCounts tuple.daddr).bind _).bind _

/-- The event of a started parse carries the flow key of an accounted frame. -/
theorem parsed_of_flow {timestampNs : U64} {ifindex rxQueue pktLen : U32} {action : U8}
    {dissection : Dissection} {key : FlowKey} (accounted : tuple? FlowKey.mk dissection = some key) :
    let parsed := XdpEvent.parsed (.started timestampNs ifindex rxQueue pktLen action) dissection
    parsed.1 = 0 ∧ parsed.2.ethProto = 0x0800 ∧ parsed.2.srcPort = key.sport ∧
      parsed.2.dstPort = key.dport ∧ parsed.2.ipProto = key.protocol ∧
      parsed.2.srcIp = bswap32 key.saddr ∧ parsed.2.dstIp = bswap32 key.daddr := by
  cases dissection with
  | complete packet transport =>
      cases accounted
      cases transport <;> exact ⟨rfl, rfl, rfl, rfl, rfl, rfl, rfl⟩
  | _ => cases accounted

/-- An IPv4 frame that the XDP parser accepts and the others reject is too short for its transport
header. -/
theorem parsed_without_flow {bytes : List U8} {timestampNs : U64} {ifindex rxQueue pktLen : U32}
    {action : U8} {dissection : Dissection} (dissected : dissect bytes = dissection)
    (rejected : tuple? FlowKey.mk dissection = none) :
    let parsed := XdpEvent.parsed (.started timestampNs ifindex rxQueue pktLen action) dissection
    parsed.1 = 0 → parsed.2.ethProto = 0x0800 →
      (parsed.2.ipProto = IPPROTO_TCP ∧ bytes.length < transportOffset bytes + tcpSize ∨
        parsed.2.ipProto = IPPROTO_UDP ∧ bytes.length < transportOffset bytes + udpSize) ∧
      parsed.2.srcPort = 0 ∧ parsed.2.dstPort = 0 ∧ parsed.2.tcpFlags = 0 := by
  intro parsed verdict ipv4
  cases dissection with
  | noTransport packet =>
      obtain ⟨packetEq, short⟩ := dissect_noTransport dissected
      subst packetEq
      exact ⟨short, rfl, rfl, rfl⟩
  | complete packet transport => cases rejected
  | notIpv4 proto => exact absurd ipv4 (ne_ipv4_of_dissect dissected)
  | noEthernet => exact absurd verdict (by simp [parsed, XdpEvent.parsed])
  | noIpv4 => exact absurd verdict (by simp [parsed, XdpEvent.parsed])

/-- **The three packet parsers agree**, except that the XDP parser also accepts packets whose transport
header does not fit. -/
theorem packet_parsers_agree (skb : SkBuff) (now now' timestampNs : U64)
    (reserved : Option TcEvent) (reserved' : Option SocketFilterEvent)
    (ifindex rxQueue pktLen : U32) (action : U8) :
    ∃ flow tuple verdict evt,
      tcFlowKey skb.bytes = .ok flow ∧ sfParse skb.bytes = .ok tuple ∧
      parsePacket skb.bytes (.started timestampNs ifindex rxQueue pktLen action) =
        .ok (verdict, evt) ∧
      -- a rejected frame is a handler that takes no step; on any other frame the update comes first
      ((msbTcClassifier skb now reserved).Finished ↔ flow = none) ∧
      (∀ key ∈ flow, tcFlowStats.CountsFirst key (FlowStats.first skb.len) FlowStats.packetsField
        (msbTcClassifier skb now reserved)) ∧
      ((msbSocketFilter skb now' reserved').Finished ↔ tuple = none) ∧
      (∀ parsed ∈ tuple, sfCounts.CountsFirst parsed.daddr 1 .whole
        (msbSocketFilter skb now' reserved')) ∧
      tuple = flow.map (fun key => ⟨key.saddr, key.daddr, key.sport, key.dport, key.protocol⟩) ∧
      (∀ key ∈ flow, verdict = 0 ∧ evt.ethProto = 0x0800 ∧ evt.srcPort = key.sport ∧
        evt.dstPort = key.dport ∧ evt.ipProto = key.protocol ∧
        evt.srcIp = bswap32 key.saddr ∧ evt.dstIp = bswap32 key.daddr) ∧
      (verdict = 0 → evt.ethProto = 0x0800 → flow = none →
        (evt.ipProto = IPPROTO_TCP ∧ skb.bytes.length < transportOffset skb.bytes + 20 ∨
          evt.ipProto = IPPROTO_UDP ∧ skb.bytes.length < transportOffset skb.bytes + 8) ∧
        evt.srcPort = 0 ∧ evt.dstPort = 0 ∧ evt.tcpFlags = 0) := by
  refine ⟨_, _, _, _, tcFlowKey_eq _, sfParse_eq _, parsePacket_eq _, ?_, ?_, ?_, ?_, ?_, ?_, ?_⟩
  · exact msbTcClassifier_finished_iff skb now reserved
  · intro key accounted
    exact msbTcClassifier_countsFirst now reserved accounted
  · exact msbSocketFilter_finished_iff skb now' reserved'
  · intro parsed accounted
    exact msbSocketFilter_countsFirst now' reserved' accounted
  · cases dissect skb.bytes <;> rfl
  · intro key accounted
    exact parsed_of_flow accounted
  · intro verdict ipv4 rejected
    exact parsed_without_flow rfl rejected verdict ipv4

end MonsaEbpf.S2

/-
Module: MonsaEbpf.S2.XdpLine
Layer: S2
Purpose: The line that S2-advanced/examples/network/xdp/xdp_pass_user.c prints for an event of `xdp_pass`.
  The kernel program swaps the addresses of the frame and `handle_event` swaps them back, so each call of
  `inet_ntoa` gets the right one; but both calls stand in one `printf` and share their buffer, so the line
  names the endpoints of the frame only if it has the same address twice.
Imports: MonsaEbpf.S2.HandleEvent, MonsaEbpf.S2.XdpHandler
Trusted boundary: human-reviewed translation
Main exports: xdpProtoName, xdpHandleEvent, XdpCall.frameLine, parsed_of_frame,
  xdpHandleEvent_eq_meant_iff, xdp_line_names_endpoints_iff
-/
import MonsaEbpf.S2.HandleEvent
import MonsaEbpf.S2.XdpHandler

namespace MonsaEbpf.S2

open Wire Ipv4Frame DottedQuad Printf

/-! ### The user program -/

/-- `proto_name`. -/
def xdpProtoName (proto : U8) : String :=
  if proto = 6 then "TCP" else if proto = 17 then "UDP" else if proto = 1 then "ICMP" else "OTHER"

/-- `htonl` on a little-endian host. -/
def htonl (value : U32) : U32 := bswap32 value

/-- `sizeof(struct xdp_event)`, with the padding after `tcp_flags`. -/
def sizeofXdpEvent : Nat := 40

/-- The format of the one `printf`, with its arguments in place. -/
def xdpEventLine (evt : XdpEvent) : List Piece :=
  [.text "XDP Event: ", .text (xdpProtoName evt.ipProto), .text " ",
    .inetNtoa (htonl evt.srcIp), .text ":", .number evt.srcPort.toNat, .text " -> ",
    .inetNtoa (htonl evt.dstIp), .text ":", .number evt.dstPort.toNat,
    .text " len=", .number evt.pktLen.toNat, .text " queue=", .number evt.rxQueue.toNat, .text "\n"]

/-- `handle_event` of xdp_pass_user.c. -/
def xdpHandleEvent : ArgumentOrder → List Char → XdpEvent → Nat → S32 × (List Char × List Char) :=
  handleEvent sizeofXdpEvent fun evt => [xdpEventLine evt]

/-! ### What the line should be -/

/-- The address at a place in a frame as the dotted quad of its four bytes, and a port as its number. -/
def endpointText (bytes : List U8) (offset : Nat) (port : U16) : List Char :=
  dottedQuad (byteAt bytes offset) (byteAt bytes (offset + 1)) (byteAt bytes (offset + 2))
    (byteAt bytes (offset + 3)) ++ (":".toList ++ decimal port.toNat)

/-- The line that names the endpoints of a frame, in segments: its source, then its destination. -/
def XdpCall.frameLine (call : XdpCall) : List (List Char) :=
  ["XDP Event: ".toList, (xdpProtoName (protocol call.bytes)).toList, " ".toList,
    endpointText call.bytes 26 (sourcePort call.bytes), " -> ".toList,
    endpointText call.bytes 30 (destinationPort call.bytes), " len=".toList, decimal call.pktLen.toNat,
    " queue=".toList, decimal call.rxQueueIndex.toNat, "\n".toList]

/-- What the parser makes of a frame with ports, whatever the version and the fragment offset. -/
theorem parsed_of_frame {call : XdpCall} (carries : Carries call.bytes) :
    call.parsed.1 = 0 ∧ call.parsed.2.ipProto = protocol call.bytes ∧
      htonl call.parsed.2.srcIp = saddr call.bytes ∧ htonl call.parsed.2.dstIp = daddr call.bytes ∧
      call.parsed.2.srcPort = sourcePort call.bytes ∧
      call.parsed.2.dstPort = destinationPort call.bytes ∧
      call.parsed.2.pktLen = call.pktLen ∧ call.parsed.2.rxQueue = call.rxQueueIndex := by
  obtain ⟨transport, dissected, ports⟩ := carries.dissect
  have swapped : ∀ address : U32, htonl (bswap32 address) = address := swap32_swap32
  rw [XdpCall.parsed, dissected]
  have sport := congrArg Prod.fst ports
  have dport := congrArg Prod.snd ports
  cases transport <;> exact ⟨rfl, rfl, swapped _, swapped _, sport, dport, rfl, rfl⟩

/-- As the program text has it, the line of a parsed frame is the one that names its endpoints. -/
theorem flatMap_meant_xdpEventLine {call : XdpCall} (carries : Carries call.bytes) :
    (xdpEventLine call.parsed.2).flatMap Piece.meant = call.frameLine.flatten := by
  obtain ⟨_, proto, src, dst, sport, dport, len, queue⟩ := parsed_of_frame carries
  have source : endpointText call.bytes 26 (sourcePort call.bytes) = addressText (saddr call.bytes) ++
      (":".toList ++ decimal (sourcePort call.bytes).toNat) :=
    congrArg (· ++ _) (addressText_wordAt call.bytes 26).symm
  have destination : endpointText call.bytes 30 (destinationPort call.bytes) =
      addressText (daddr call.bytes) ++ (":".toList ++ decimal (destinationPort call.bytes).toNat) :=
    congrArg (· ++ _) (addressText_wordAt call.bytes 30).symm
  rw [XdpCall.frameLine, source, destination]
  simp only [xdpEventLine, List.flatMap_cons, List.flatMap_nil, Piece.meant, proto, src,
    dst, sport, dport, len, queue, List.append_nil, List.flatten_cons, List.flatten_nil, List.append_assoc]

/-- A line with two addresses is as the program text has it only if they are the same. -/
theorem xdpHandleEvent_eq_meant_iff (order : ArgumentOrder) (buffer : List Char) (evt : XdpEvent) :
    (xdpHandleEvent order buffer evt sizeofXdpEvent).2.1 = (xdpEventLine evt).flatMap Piece.meant ↔
      htonl evt.srcIp = htonl evt.dstIp := by
  rw [xdpHandleEvent, handleEvent, if_neg (Nat.lt_irrefl _)]
  change (printf order buffer (xdpEventLine evt)).1 ++ [] = _ ↔ _
  rw [List.append_nil]
  exact printf_eq_meant_iff order buffer rfl

/-! ### From the frame to the line -/

/-- The event of a sampled frame is the parsed one. -/
theorem sampled_eq_parsed {call : XdpCall} {maps : XdpMaps} {evt : XdpEvent}
    (sampled : ((xdpPass call).exec maps).2.xdpEvents = maps.xdpEvents ++ [evt]) :
    evt = call.parsed.2 := by
  rw [events_xdpPass] at sampled
  have submitted := List.append_cancel_left sampled
  rw [XdpCall.sampled?] at submitted
  split at submitted
  · cases reserved : call.reserved with
    | none =>
        rw [reserved] at submitted
        cases submitted
    | some memory =>
        rw [reserved] at submitted
        exact (List.cons.inj submitted).1.symm
  · cases submitted

/-- The line of a parsed frame is right exactly if the frame has the same address twice. -/
theorem parsedLine_eq_iff (order : ArgumentOrder) (buffer : List Char) {call : XdpCall}
    (carries : Carries call.bytes) :
    (xdpHandleEvent order buffer call.parsed.2 sizeofXdpEvent).2.1 = call.frameLine.flatten ↔
      saddr call.bytes = daddr call.bytes := by
  obtain ⟨_, _, src, dst, _⟩ := parsed_of_frame carries
  rw [← flatMap_meant_xdpEventLine carries, xdpHandleEvent_eq_meant_iff, src, dst]

/-- Receiving a datagram at a sampled time, with ring space. -/
def receive (source destination : U32) : XdpCall where
  bytes := (Built.datagram source destination 5353 53).bytes
  ingressIfindex := 2
  rxQueueIndex := 0
  ktimeGetNs := 100
  cpu := 0
  lru := .evicted []
  reserved := some (.started 0 0 0 0 0)

theorem sampled?_receive (source destination : U32) :
    (receive source destination).sampled? = some (receive source destination).parsed.2 := by
  have parsed : (receive source destination).parsed =
      (receive source destination).started.parsed
        (.complete (Built.datagram source destination 5353 53).packet (.udp 5353 53)) := by
    rw [XdpCall.parsed]
    exact congrArg _ (Built.datagram source destination 5353 53).dissect_bytes
  rw [XdpCall.sampled?, parsed]
  exact if_pos ⟨rfl, show (100 : U64) % 100 = 0 by decide⟩

/-- Nothing counted and nothing submitted yet. -/
def XdpMaps.empty : XdpMaps where
  xdpStatistics := fun _ _ => ⟨0, 0, 0, 0⟩
  srcIpCounts := .empty
  xdpEvents := []

/-- **The line of a sampled frame** with a TCP or UDP header names its source address and port and then its
destination address and port if the two addresses are the same, and for no other frame, in whatever order
the arguments of the call are evaluated. -/
theorem xdp_line_names_endpoints_iff (order : ArgumentOrder) (buffer : List Char) (call : XdpCall)
    (maps : XdpMaps) (evt : XdpEvent) (carries : Carries call.bytes)
    (sampled : ((xdpPass call).exec maps).2.xdpEvents = maps.xdpEvents ++ [evt]) :
    (xdpHandleEvent order buffer evt sizeofXdpEvent).2.1 = call.frameLine.flatten ↔
      saddr call.bytes = daddr call.bytes := by
  rw [sampled_eq_parsed sampled]
  exact parsedLine_eq_iff order buffer carries

/-- A datagram of a host to itself, evaluated from right to left. -/
theorem xdp_line_to_itself :
    (xdpHandleEvent .rightToLeft [] (receive 0x0a000001 0x0a000001).parsed.2 sizeofXdpEvent).2.1 =
      (receive 0x0a000001 0x0a000001).frameLine.flatten := by
  have sampled := events_xdpPass (receive 0x0a000001 0x0a000001) .empty
  rw [sampled?_receive] at sampled
  apply (xdp_line_names_endpoints_iff .rightToLeft [] (receive 0x0a000001 0x0a000001) .empty
    (receive 0x0a000001 0x0a000001).parsed.2 (Built.datagram 0x0a000001 0x0a000001 5353 53).carries sampled).mpr
  rw [receive, Built.saddr_bytes, Built.daddr_bytes]
  rfl

/-- A well-formed datagram from 10.0.0.1 to 10.0.0.2 is sampled, and its line is wrong in any order. -/
theorem xdp_line_loses_address :
    WellFormed (receive 0x0a000001 0x0a000002).bytes ∧ Carries (receive 0x0a000001 0x0a000002).bytes ∧
      ((xdpPass (receive 0x0a000001 0x0a000002)).exec .empty).2.xdpEvents =
        [(receive 0x0a000001 0x0a000002).parsed.2] ∧
      ∀ order buffer,
        (xdpHandleEvent order buffer (receive 0x0a000001 0x0a000002).parsed.2 sizeofXdpEvent).2.1 ≠
          (receive 0x0a000001 0x0a000002).frameLine.flatten := by
  have carries : Carries (receive 0x0a000001 0x0a000002).bytes :=
    (Built.datagram 0x0a000001 0x0a000002 5353 53).carries
  have sampled := events_xdpPass (receive 0x0a000001 0x0a000002) .empty
  rw [sampled?_receive] at sampled
  refine ⟨(Built.datagram 0x0a000001 0x0a000002 5353 53).wellFormed, carries, sampled, ?_⟩
  intro order buffer right
  have same := (parsedLine_eq_iff order buffer carries).mp right
  rw [receive, Built.saddr_bytes, Built.daddr_bytes] at same
  have swapped := congrArg swap32 same
  rw [swap32_swap32, swap32_swap32] at swapped
  exact absurd swapped (by decide)

end MonsaEbpf.S2

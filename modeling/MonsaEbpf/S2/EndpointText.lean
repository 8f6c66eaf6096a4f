/-
Module: MonsaEbpf.S2.EndpointText
Layer: S2
Purpose: What the monitors of sockets show of the endpoints that the kernel hands to them, against what the
  packet pipeline shows. All print the addresses in network order that they were given. sk_lookup swaps the
  local port, which is in host order already, and cgroup_sock_addr never swaps the port of the destination,
  which is in network order: both show a port rightly only if its two bytes are equal.
Imports: MonsaEbpf.S2.HandleEvent
Trusted boundary: none
Main exports: lookupText, connectText, frameText, endpoints_shown_iff
-/
import MonsaEbpf.S2.HandleEvent

namespace MonsaEbpf.S2

open Wire Ipv4Frame DottedQuad Printf

/-! ### What should be shown -/

def srcText (source : Endpoint) : List (List Char) :=
  ["  Src:      ".toList, source.text, "\n".toList]

def dstText (destination : Endpoint) : List (List Char) :=
  ["  Dst:      ".toList, destination.text, "\n".toList]

/-- The record of a lookup from a remote endpoint for a local one. -/
def lookupText (protocol : U32) (remote here : Endpoint) (count : U64) : List (List Char) :=
  ["=== SK_LOOKUP Event ===\n".toList,
    "  Proto:    ".toList, (protoName (protocol.setWidth 8)).toList, "\n".toList] ++
  (srcText remote ++ (dstText here ++ ["  Count:    ".toList, decimal count.toNat, "\n\n".toList]))

/-- The record of a connect to a destination. -/
def connectText (cgroupId : U64) (destination : Endpoint) (count : U64) : List (List Char) :=
  ["=== Cgroup Sock Addr Event ===\n".toList,
    "  Cgroup:   ".toList, decimal cgroupId.toNat, "\n".toList,
    "  Family:   ".toList, decimal 2, "\n".toList] ++
  (dstText destination ++ ["  Count:    ".toList, decimal count.toNat, "\n\n".toList])

/-- The context of an IPv4 connect to a destination. -/
def BpfSockAddr.ofConnect (destination : Endpoint) : BpfSockAddr where
  userIp4 := swap32 destination.address
  userPort := (htons destination.port).setWidth 32
  family := 2

/-- The endpoints of a frame. -/
def frameSource (bytes : List U8) : Endpoint := ⟨swap32 (saddr bytes), sourcePort bytes⟩
def frameDestination (bytes : List U8) : Endpoint := ⟨swap32 (daddr bytes), destinationPort bytes⟩

/-- The record of a frame. -/
def frameText (skb : SkBuff) (count : U64) : List (List Char) :=
  ["=== TC Event (sampled) ===\n".toList,
    "  Proto:    ".toList, (protoName (protocol skb.bytes)).toList, "\n".toList] ++
  (srcText (frameSource skb.bytes) ++ (dstText (frameDestination skb.bytes) ++
    ["  Len:      ".toList, decimal skb.len.toNat, " bytes\n".toList,
      "  Mark:     0x".toList, Nat.toDigits 16 skb.mark.toNat, "\n".toList,
      "  Count:    ".toList, decimal count.toNat, "\n\n".toList]))

/-! ### What is printed -/

/-- Records whose calls have at most one address each are printed as the program text has them. -/
theorem printed_handleEvent {E : Type} (size : Nat) (lines : E → List (List Piece)) (order : ArgumentOrder)
    (buffer : List Char) (evt : E) (single : ∀ pieces ∈ lines evt, (addresses pieces).length ≤ 1) :
    (handleEvent size lines order buffer evt size).2.1 = (lines evt).flatten.flatMap Piece.meant := by
  rw [handleEvent, if_neg (Nat.lt_irrefl size)]
  exact printfs_eq_meant order buffer single

section Lines

variable (endpoint : Endpoint)

theorem meant_srcLine : (srcLine (swap32 endpoint.address) endpoint.port).flatMap Piece.meant =
    (srcText endpoint).flatten := by
  simp only [srcLine, srcText, Endpoint.text, List.flatMap_cons, List.flatMap_nil, Piece.meant,
    addressText_swap32, List.flatten_cons, List.flatten_nil, List.append_assoc]

theorem meant_dstLine : (dstLine (swap32 endpoint.address) endpoint.port).flatMap Piece.meant =
    (dstText endpoint).flatten := by
  simp only [dstLine, dstText, Endpoint.text, List.flatMap_cons, List.flatMap_nil, Piece.meant,
    addressText_swap32, List.flatten_cons, List.flatten_nil, List.append_assoc]

/-- The line of the destination is right exactly if the port is. -/
theorem meant_dstLine_iff (port : U16) :
    (dstLine (swap32 endpoint.address) port).flatMap Piece.meant = (dstText endpoint).flatten ↔
      port = endpoint.port := by
  constructor
  · intro same
    rw [← meant_dstLine] at same
    simp only [dstLine, List.flatMap_cons, List.flatMap_nil, Piece.meant, List.append_cancel_left_eq,
      List.append_cancel_right_eq] at same
    exact BitVec.eq_of_toNat_eq (decimal_injective same)
  · rintro rfl
    exact meant_dstLine endpoint

end Lines

/-! ### Socket lookups -/

section Lookup

variable {call : SkLookupCall} {maps : SkLookupMaps} {evt : SkLookupEvent} {protocol : U32}
  {remote here : Endpoint}

/-- The record of a lookup has its endpoints, but for the local port. -/
theorem skLookup_submitted (ctx : call.ctx = .ofLookup protocol remote here)
    (submitted : ((msbSkLookup call).exec maps).2.events = maps.events ++ [evt]) :
    evt.saddr = swap32 remote.address ∧ evt.sport = remote.port ∧ evt.daddr = swap32 here.address ∧
      evt.dport = swap16 here.port ∧ evt.protocol = protocol.setWidth 8 := by
  have found := skLookup.event?_of_submitted call rfl submitted
  obtain ⟨_, _, rfl⟩ := Option.map_eq_some_iff.mp found
  have cut : (here.port.setWidth 32).setWidth 16 = here.port := by simp
  simp only [SkLookupCall.fill, ctx, BpfSkLookup.ofLookup, ntohs_htons, cut]
  exact ⟨trivial, trivial, trivial, rfl, trivial⟩

/-- The text of a lookup is right exactly if the bytes of the local port are equal. -/
theorem skLookup_text_iff (order : ArgumentOrder) (buffer : List Char)
    (ctx : call.ctx = .ofLookup protocol remote here)
    (submitted : ((msbSkLookup call).exec maps).2.events = maps.events ++ [evt]) :
    (skLookupHandleEvent order buffer evt sizeofSkLookupEvent).2.1 =
        (lookupText protocol remote here evt.count).flatten ↔
      byteOf here.port 0 = byteOf here.port 1 := by
  obtain ⟨saddr, sport, daddr, dport, proto⟩ := skLookup_submitted ctx submitted
  rw [← swap16_eq_self_iff, ← meant_dstLine_iff here, skLookupHandleEvent,
    printed_handleEvent _ _ _ _ _ (by simp [skLookupEventLines, srcLine, dstLine])]
  simp only [skLookupEventLines, lookupText, saddr, sport, daddr, dport, proto, List.flatten_cons,
    List.flatten_nil, List.flatten_append, List.flatMap_append, List.flatMap_cons, List.flatMap_nil,
    Piece.meant, meant_srcLine, List.append_assoc, List.append_nil, List.append_cancel_left_eq,
    List.append_cancel_right_eq]

end Lookup

/-! ### Connects -/

section Connect

variable {call : CgroupSockAddrCall} {maps : CgroupMaps CgroupSockAddrEvent} {evt : CgroupSockAddrEvent}
  {destination : Endpoint}

/-- The record of a connect has its destination, but for the order of the port. -/
theorem cgroupSockAddr_submitted (ctx : call.ctx = .ofConnect destination)
    (submitted : ((msbCgroupSockAddr call).exec maps).2.events = maps.events ++ [evt]) :
    evt.daddr = swap32 destination.address ∧ evt.dport = swap16 destination.port ∧ evt.family = 2 ∧
      evt.cgroupId = call.cgroupId := by
  have found := cgroupSockAddr.event?_of_submitted call rfl submitted
  obtain ⟨_, _, rfl⟩ := Option.map_eq_some_iff.mp found
  have cut : ((htons destination.port).setWidth 32).setWidth 16 = htons destination.port := by simp
  simp only [CgroupSockAddrCall.fill, ctx, BpfSockAddr.ofConnect, cut]
  exact ⟨trivial, rfl, trivial, trivial⟩

/-- The text of a connect is right exactly if the bytes of the port are equal. -/
theorem cgroupSockAddr_text_iff (order : ArgumentOrder) (buffer : List Char)
    (ctx : call.ctx = .ofConnect destination)
    (submitted : ((msbCgroupSockAddr call).exec maps).2.events = maps.events ++ [evt]) :
    (sockAddrHandleEvent order buffer evt sizeofCgroupSockAddrEvent).2.1 =
        (connectText call.cgroupId destination evt.count).flatten ↔
      byteOf destination.port 0 = byteOf destination.port 1 := by
  obtain ⟨daddr, dport, family, cgroupId⟩ := cgroupSockAddr_submitted ctx submitted
  have inet : (2 : U32).toNat = 2 := rfl
  rw [← swap16_eq_self_iff, ← meant_dstLine_iff destination, sockAddrHandleEvent,
    printed_handleEvent _ _ _ _ _ (by simp [sockAddrEventLines, dstLine])]
  simp only [sockAddrEventLines, connectText, daddr, dport, family, cgroupId, inet, List.flatten_cons,
    List.flatten_nil, List.flatten_append, List.flatMap_append, List.flatMap_cons, List.flatMap_nil,
    Piece.meant, List.append_assoc, List.append_nil, List.append_cancel_left_eq,
    List.append_cancel_right_eq]

end Connect

/-! ### Frames -/

section Frame

variable {call : TcCall} {maps : TcMaps} {evt : TcEvent}

/-- What the classifier adds to the ring for a frame with a flow key is a record of the frame. -/
theorem tc_submitted {key : FlowKey} (accounted : tcFlow? call.skb = some key)
    (submitted : (maps.step call).tcEvents = maps.tcEvents ++ [evt]) :
    ∃ count, evt = tcRecord call.skb call.ktimeGetNs key count := by
  have ofRecord : ∀ {count : U64}, call.record key count = [evt] →
      evt = tcRecord call.skb call.ktimeGetNs key count := by
    intro count recorded
    obtain ⟨_, _, rfl⟩ := Option.map_eq_some_iff.mp (Option.toList_eq_singleton_iff.mp recorded)
    rfl
  cases found : maps.tcFlowStats.lookup key with
  | none =>
      rw [TcMaps.step_new accounted found] at submitted
      exact ⟨1, ofRecord (List.append_cancel_left submitted)⟩
  | some stats =>
      rw [TcMaps.step_known accounted found] at submitted
      have sampled := List.append_cancel_left submitted
      split at sampled
      · exact ⟨_, ofRecord sampled⟩
      · cases sampled

theorem meant_frameSource (bytes : List U8) :
    (srcLine (saddr bytes) (sourcePort bytes)).flatMap Piece.meant = (srcText (frameSource bytes)).flatten := by
  rw [← swap32_swap32 (saddr bytes)]
  exact meant_srcLine (frameSource bytes)

theorem meant_frameDestination (bytes : List U8) :
    (dstLine (daddr bytes) (destinationPort bytes)).flatMap Piece.meant =
      (dstText (frameDestination bytes)).flatten := by
  rw [← swap32_swap32 (daddr bytes)]
  exact meant_dstLine (frameDestination bytes)

/-- **The text of a frame is always right.** -/
theorem tc_text (order : ArgumentOrder) (buffer : List Char) (carries : Carries call.skb.bytes)
    (submitted : (maps.step call).tcEvents = maps.tcEvents ++ [evt]) :
    (tcHandleEvent order buffer evt sizeofTcEvent).2.1 = (frameText call.skb evt.count).flatten := by
  obtain ⟨transport, dissected, ports⟩ := carries.dissect
  have accounted : tcFlow? call.skb = some (⟨saddr call.skb.bytes, daddr call.skb.bytes,
      transport.sourcePort, transport.destinationPort, protocol call.skb.bytes⟩ : FlowKey) := by
    rw [tcFlow?_eq, dissected]
    rfl
  obtain ⟨count, rfl⟩ := tc_submitted accounted submitted
  have sport : transport.sourcePort = sourcePort call.skb.bytes := congrArg Prod.fst ports
  have dport : transport.destinationPort = destinationPort call.skb.bytes := congrArg Prod.snd ports
  rw [tcHandleEvent, printed_handleEvent _ _ _ _ _ (by simp [tcEventLines, srcLine, dstLine])]
  simp only [tcEventLines, tcRecord, frameText, sport, dport, meant_frameSource, meant_frameDestination,
    List.flatten_cons, List.flatten_nil, List.flatten_append, List.flatMap_append, List.flatMap_cons,
    List.flatMap_nil, Piece.meant, List.append_assoc, List.append_nil]

end Frame

/-! ### All three -/

/-- A lookup from 10.0.0.1:40000 for a port of 10.0.0.2, with ring space. -/
def lookupOf (port : U16) : SkLookupCall where
  ctx := .ofLookup 6 ⟨0x0a000001, 40000⟩ ⟨0x0a000002, port⟩
  ktimeGetNs := 0
  reserved := some ⟨0, 0, 0, 0, 0, 0, 0⟩

/-- Its record. -/
def lookupRecord (port : U16) : SkLookupEvent :=
  (lookupOf port).fill 1 ⟨0, 0, 0, 0, 0, 0, 0⟩

/-- A connect in cgroup 5 to a port of 10.0.0.2, with ring space. -/
def connectTo (port : U16) : CgroupSockAddrCall where
  ctx := .ofConnect ⟨0x0a000002, port⟩
  cgroupId := 5
  ktimeGetNs := 0
  reserved := some ⟨0, 0, 0, 0, 0, 0, 0, 0⟩

/-- Its record. -/
def connectRecord (port : U16) : CgroupSockAddrEvent :=
  (connectTo port).fill 1 ⟨0, 0, 0, 0, 0, 0, 0, 0⟩

/-- A datagram of 10.0.0.1 to a port of 10.0.0.2, with ring space. -/
def frameTo (port : U16) : TcCall where
  skb := { bytes := (Built.datagram 0x0a000001 0x0a000002 5353 port).bytes, len := 42, mark := 0 }
  ktimeGetNs := 0
  reserved := some ⟨0, 0, 0, 0, 0, 0, 0, 0, 0⟩

/-- Its record. -/
def frameRecord (port : U16) : TcEvent :=
  tcRecord (frameTo port).skb 0 ⟨swap32 0x0a000001, swap32 0x0a000002, 5353, port, IPPROTO_UDP⟩ 1

theorem lookupOf_submitted (port : U16) :
    ((msbSkLookup (lookupOf port)).exec .initial).2.events =
      (CounterMaps.initial : SkLookupMaps).events ++ [lookupRecord port] := rfl

theorem connectTo_submitted (port : U16) :
    ((msbCgroupSockAddr (connectTo port)).exec .initial).2.events =
      (CounterMaps.initial : CgroupMaps CgroupSockAddrEvent).events ++ [connectRecord port] := rfl

theorem frameTo_submitted (port : U16) :
    (TcMaps.initial.step (frameTo port)).tcEvents = TcMaps.initial.tcEvents ++ [frameRecord port] := by
  have accounted : tcFlow? (frameTo port).skb =
      some ⟨swap32 0x0a000001, swap32 0x0a000002, 5353, port, IPPROTO_UDP⟩ := by
    rw [tcFlow?_eq, frameTo, Built.dissect_bytes]
    rfl
  rw [TcMaps.step_new accounted rfl]
  rfl

/-- **Endpoints are shown rightly** by sk_lookup exactly if the two bytes of the local port are equal, by
cgroup_sock_addr exactly if the two bytes of the destination's port are equal, and by the packet pipeline
for every frame with a TCP or UDP header. -/
theorem endpoints_shown_iff (order : ArgumentOrder) (buffer : List Char) :
    (∀ (call : SkLookupCall) (maps : SkLookupMaps) (evt : SkLookupEvent) (protocol : U32)
        (remote here : Endpoint), call.ctx = .ofLookup protocol remote here →
      ((msbSkLookup call).exec maps).2.events = maps.events ++ [evt] →
      ((skLookupHandleEvent order buffer evt sizeofSkLookupEvent).2.1 =
          (lookupText protocol remote here evt.count).flatten ↔
        byteOf here.port 0 = byteOf here.port 1)) ∧
    (∀ (call : CgroupSockAddrCall) (maps : CgroupMaps CgroupSockAddrEvent) (evt : CgroupSockAddrEvent)
        (destination : Endpoint), call.ctx = .ofConnect destination →
      ((msbCgroupSockAddr call).exec maps).2.events = maps.events ++ [evt] →
      ((sockAddrHandleEvent order buffer evt sizeofCgroupSockAddrEvent).2.1 =
          (connectText call.cgroupId destination evt.count).flatten ↔
        byteOf destination.port 0 = byteOf destination.port 1)) ∧
    ∀ (call : TcCall) (maps : TcMaps) (evt : TcEvent), Carries call.skb.bytes →
      (maps.step call).tcEvents = maps.tcEvents ++ [evt] →
      (tcHandleEvent order buffer evt sizeofTcEvent).2.1 = (frameText call.skb evt.count).flatten :=
  ⟨fun _ _ _ _ _ _ ctx submitted => skLookup_text_iff order buffer ctx submitted,
    fun _ _ _ _ ctx submitted => cgroupSockAddr_text_iff order buffer ctx submitted,
    fun _ _ _ carries submitted => tc_text order buffer carries submitted⟩

/-- Ports of two equal bytes, and a frame with other ports. -/
theorem endpoints_shown_equal_bytes :
    (skLookupHandleEvent .leftToRight [] (lookupRecord 0x5050) sizeofSkLookupEvent).2.1 =
      (lookupText 6 ⟨0x0a000001, 40000⟩ ⟨0x0a000002, 0x5050⟩ 1).flatten ∧
    (sockAddrHandleEvent .leftToRight [] (connectRecord 0x5050) sizeofCgroupSockAddrEvent).2.1 =
      (connectText 5 ⟨0x0a000002, 0x5050⟩ 1).flatten ∧
    (tcHandleEvent .leftToRight [] (frameRecord 53) sizeofTcEvent).2.1 =
      (frameText (frameTo 53).skb 1).flatten := by
  obtain ⟨lookups, connects, frames⟩ := endpoints_shown_iff .leftToRight []
  refine ⟨?_, ?_, ?_⟩
  · exact (lookups (lookupOf 0x5050) .initial _ 6 _ _ rfl (lookupOf_submitted _)).mpr (by decide)
  · exact (connects (connectTo 0x5050) .initial _ _ rfl (connectTo_submitted _)).mpr (by decide)
  · exact frames (frameTo 53) .initial _ (Built.carries _) (frameTo_submitted _)

/-- The local port 80 and the destination port 443 are shown with their bytes exchanged. -/
theorem endpoints_shown_swapped :
    (((msbSkLookup (lookupOf 80)).exec .initial).2.events = [] ++ [lookupRecord 80] ∧
      (skLookupHandleEvent .leftToRight [] (lookupRecord 80) sizeofSkLookupEvent).2.1 ≠
        (lookupText 6 ⟨0x0a000001, 40000⟩ ⟨0x0a000002, 80⟩ 1).flatten) ∧
    ((msbCgroupSockAddr (connectTo 443)).exec .initial).2.events = [] ++ [connectRecord 443] ∧
      (sockAddrHandleEvent .leftToRight [] (connectRecord 443) sizeofCgroupSockAddrEvent).2.1 ≠
        (connectText 5 ⟨0x0a000002, 443⟩ 1).flatten := by
  refine ⟨⟨lookupOf_submitted 80, ?_⟩, connectTo_submitted 443, ?_⟩
  · have ctx : (lookupOf 80).ctx = .ofLookup 6 ⟨0x0a000001, 40000⟩ ⟨0x0a000002, 80⟩ := rfl
    have shown := skLookup_text_iff .leftToRight [] ctx (lookupOf_submitted 80)
    exact fun right => absurd (shown.mp right) (by decide)
  · have ctx : (connectTo 443).ctx = .ofConnect ⟨0x0a000002, 443⟩ := rfl
    have shown := cgroupSockAddr_text_iff .leftToRight [] ctx (connectTo_submitted 443)
    exact fun right => absurd (shown.mp right) (by decide)

end MonsaEbpf.S2

/-
Module: MonsaEbpf.S2.CgroupSkbAddresses
Layer: S2
Purpose: What the records of S2-advanced/examples/cgroup/cgroup_skb say about the addresses of a packet. At
  the hook the data starts with the IP header, while the program looks for an Ethernet header there: it
  takes the first half of the source address for an EtherType, and bytes behind the header for the
  addresses.
Imports: MonsaEbpf.S2.CgroupSkb
Trusted boundary: what a packet looks like at the hook
Main exports: AtIpHeader, ipSaddr, ipDaddr, LooksFramed, RepeatsAddresses, ReportsOwnAddresses,
  reports_own_iff_skbAddresses, reports_own_addresses_iff
-/
import MonsaEbpf.S2.CgroupSkb

namespace MonsaEbpf.S2

open Wire

/-- An IPv4 packet as it lies at the hook, its data starting with the IP header. -/
structure AtIpHeader (bytes : List U8) : Prop where
  version : (byteAt bytes 0).toNat / 16 = 4
  ihl : 5 ≤ (byteAt bytes 0).toNat % 16
  header : sizeofIphdr ≤ bytes.length

/-- The address words of the IP header at the start of the data. -/
def ipSaddr (bytes : List U8) : U32 := wordAt bytes 12
def ipDaddr (bytes : List U8) : U32 := wordAt bytes 16

/-- The addresses are what the header fields at the start of the data read. -/
theorem AtIpHeader.addresses {bytes : List U8} (packet : AtIpHeader bytes) :
    iphdrSaddr bytes 0 = .ok (ipSaddr bytes) ∧ iphdrDaddr bytes 0 = .ok (ipDaddr bytes) := by
  have header : 20 ≤ bytes.length := packet.header
  exact ⟨load32_inside (by omega), load32_inside (by omega)⟩

/-- The packet looks like a frame with an IPv4 header: its source address is `8.0.x.y`, and it is long
enough. -/
def LooksFramed (bytes : List U8) : Prop :=
  byteAt bytes 12 = 8 ∧ byteAt bytes 13 = 0 ∧ 34 ≤ bytes.length

/-- The eight bytes 14 behind the addresses repeat the addresses. -/
def RepeatsAddresses (bytes : List U8) : Prop :=
  wordAt bytes 26 = wordAt bytes 12 ∧ wordAt bytes 30 = wordAt bytes 16

/-- Every record that a call sends for the packet, in any state of the maps, has the addresses of the packet. -/
def ReportsOwnAddresses (skb : SkBuff) : Prop :=
  ∀ call : CgroupSkbCall, call.skb = skb → ∀ maps event,
    cgroupSkbEvents.get ((msbCgroupSkb call).exec maps).2 = cgroupSkbEvents.get maps ++ [event] →
    event.saddr = ipSaddr skb.bytes ∧ event.daddr = ipDaddr skb.bytes

/-- The handler counts every such packet. -/
theorem AtIpHeader.counted {bytes : List U8} (packet : AtIpHeader bytes) : (skbAddresses bytes).isSome := by
  have long : ¬ bytes.length < sizeofEthhdr := by
    have header : 20 ≤ bytes.length := packet.header
    have ethernet : sizeofEthhdr = 14 := rfl
    omega
  rw [skbAddresses, if_neg long]
  split <;> rfl

/-- What a submitted record says. -/
theorem addresses_of_submitted {call : CgroupSkbCall} {addresses : U32 × U32}
    (parsed : skbAddresses call.skb.bytes = some addresses) {maps : CgroupSkbMaps} {event : CgroupSkbEvent}
    (submitted : cgroupSkbEvents.get ((msbCgroupSkb call).exec maps).2 =
      cgroupSkbEvents.get maps ++ [event]) :
    event.saddr = addresses.1 ∧ event.daddr = addresses.2 := by
  have found : cgroupSkb.key? call = some call.cgroupId := by
    change (skbAddresses call.skb.bytes).map _ = _
    rw [parsed]
    rfl
  rw [← cgroupSkb_handler] at submitted
  have emitted := cgroupSkb.event?_of_submitted call found submitted
  change (if _ then none else call.reserved.map _) = some event at emitted
  split at emitted
  · cases emitted
  · obtain ⟨memory, -, rfl⟩ := Option.map_eq_some_iff.mp emitted
    rw [CgroupSkbCall.fill, parsed]
    exact ⟨rfl, rfl⟩

/-- A state in which the next packet of cgroup zero is the hundredth. -/
def beforeHundredth : CgroupSkbMaps where
  counts := CellMap.empty.insert 0 99
  events := []

/-- A call for the packet in that cgroup, with ring space. -/
def hundredthCall (skb : SkBuff) : CgroupSkbCall where
  skb := skb
  cgroupId := 0
  ktimeGetNs := 0
  reserved := some ⟨0, 0, 0, 0, 0, 0⟩

theorem countFrom_beforeHundredth : countFrom beforeHundredth.counts 0 = 100 := by
  have stored : beforeHundredth.counts.find? 0 = some 99 := by decide
  rw [countFrom, stored]
  rfl

/-- The hundredth packet is reported with the addresses that the parse finds. -/
theorem submitted_hundredth {skb : SkBuff} {addresses : U32 × U32}
    (parsed : skbAddresses skb.bytes = some addresses) :
    ∃ event, cgroupSkbEvents.get ((msbCgroupSkb (hundredthCall skb)).exec beforeHundredth).2 =
      cgroupSkbEvents.get beforeHundredth ++ [event] := by
  have found : cgroupSkb.key? (hundredthCall skb) = some 0 := by
    change (skbAddresses skb.bytes).map _ = _
    rw [parsed]
    rfl
  have sampled : cgroupSkb.event? (hundredthCall skb) 100 =
      some ((hundredthCall skb).fill 100 ⟨0, 0, 0, 0, 0, 0⟩) := by
    have hundred : ¬ (100 : U64) % 100 ≠ 0 := by decide
    change (if (100 : U64) % 100 ≠ 0 then none else some _) = _
    rw [if_neg hundred]
  have events := CountingHandler.events_handler found beforeHundredth
  refine ⟨(hundredthCall skb).fill 100 ⟨0, 0, 0, 0, 0, 0⟩, ?_⟩
  rw [← cgroupSkb_handler]
  refine events.trans ?_
  change _ ++ (cgroupSkb.event? (hundredthCall skb) (countFrom beforeHundredth.counts 0)).toList = _
  rw [countFrom_beforeHundredth, sampled]
  rfl

/-- The records have the addresses of the packet exactly if the parse finds them. -/
theorem reports_own_iff_skbAddresses {skb : SkBuff} (packet : AtIpHeader skb.bytes) :
    ReportsOwnAddresses skb ↔ skbAddresses skb.bytes = some (ipSaddr skb.bytes, ipDaddr skb.bytes) := by
  obtain ⟨addresses, parsed⟩ := Option.isSome_iff_exists.mp packet.counted
  constructor
  · intro reports
    obtain ⟨event, submitted⟩ := submitted_hundredth parsed
    have own := reports (hundredthCall skb) rfl beforeHundredth event submitted
    have said := addresses_of_submitted parsed submitted
    rw [parsed, Option.some.injEq, Prod.ext_iff]
    exact ⟨said.1.symm.trans own.1, said.2.symm.trans own.2⟩
  · rintro own call rfl maps event submitted
    exact addresses_of_submitted own submitted

/-- The EtherType that the program reads is the first half of the source address. -/
theorem etherType_eq_ipv4_iff (bytes : List U8) :
    Ipv4Frame.etherType bytes = ETH_P_IP ↔ byteAt bytes 12 = 8 ∧ byteAt bytes 13 = 0 := by
  have read : Ipv4Frame.etherType bytes = byteAt bytes 12 ++ byteAt bytes 13 := swap16_append _ _
  have ipv4 : ETH_P_IP = (8 : U8) ++ (0 : U8) := by decide
  rw [read, ipv4]
  constructor
  · intro same
    have low := congrArg (byteOf · 0) same
    have high := congrArg (byteOf · 1) same
    simp only [byteOf_zero_append, byteOf_one_append] at low high
    exact ⟨high, low⟩
  · rintro ⟨high, low⟩
    rw [high, low]

/-- What the parse finds in a packet of any length from an IP header on. -/
theorem skbAddresses_atIpHeader {bytes : List U8} (packet : AtIpHeader bytes) [Decidable (LooksFramed bytes)] :
    skbAddresses bytes = some (if LooksFramed bytes then (wordAt bytes 26, wordAt bytes 30) else (0, 0)) := by
  have header : 20 ≤ bytes.length := packet.header
  have long : ¬ bytes.length < sizeofEthhdr := by
    have ethernet : sizeofEthhdr = 14 := rfl
    omega
  have framed : (Ipv4Frame.etherType bytes = ETH_P_IP ∧ sizeofEthhdr + sizeofIphdr ≤ bytes.length) ↔
      LooksFramed bytes := by
    rw [etherType_eq_ipv4_iff, LooksFramed, and_assoc]
    rfl
  rw [skbAddresses, if_neg long]
  by_cases looks : LooksFramed bytes
  · rw [if_pos looks, if_pos (framed.mpr looks)]
    rfl
  · rw [if_neg looks, if_neg fun both => looks (framed.mp both)]

/-- A source address of zero does not look like an EtherType. -/
theorem not_looksFramed_of_zero {bytes : List U8} (zero : ipSaddr bytes = 0) : ¬ LooksFramed bytes := by
  rintro ⟨eight, -, -⟩
  have low : byteOf (ipSaddr bytes) 0 = byteAt bytes 12 := (byteOf_word _ _ _ _).1
  rw [zero, eight] at low
  exact absurd low (by decide)

/-- **The records have the addresses of the packet** exactly if both addresses are zero, or the source
address is `8.0.x.y` and the bytes 14 behind the addresses repeat them. -/
theorem reports_own_addresses_iff {skb : SkBuff} (packet : AtIpHeader skb.bytes) :
    ReportsOwnAddresses skb ↔
      (ipSaddr skb.bytes = 0 ∧ ipDaddr skb.bytes = 0) ∨
        (LooksFramed skb.bytes ∧ RepeatsAddresses skb.bytes) := by
  classical
  rw [reports_own_iff_skbAddresses packet, skbAddresses_atIpHeader packet, Option.some.injEq]
  by_cases looks : LooksFramed skb.bytes
  · rw [if_pos looks, Prod.mk.injEq]
    constructor
    · intro repeats
      exact Or.inr ⟨looks, repeats⟩
    · rintro (⟨zero, -⟩ | ⟨-, repeats⟩)
      · exact absurd looks (not_looksFramed_of_zero zero)
      · exact repeats
  · rw [if_neg looks, Prod.mk.injEq]
    constructor
    · rintro ⟨source, destination⟩
      exact Or.inl ⟨source.symm, destination.symm⟩
    · rintro (⟨source, destination⟩ | ⟨framed, -⟩)
      · exact ⟨source.symm, destination.symm⟩
      · exact absurd framed looks

/-- A packet from 10.0.0.1 to 10.0.0.2: its IP header, and sixteen bytes behind it. -/
def plainPacket : SkBuff where
  bytes := [0x45, 0, 0, 36, 0, 0, 0, 0, 64, 17, 0, 0, 10, 0, 0, 1, 10, 0, 0, 2] ++ List.replicate 16 0
  len := 36
  mark := 0

theorem plainPacket_atIpHeader : AtIpHeader plainPacket.bytes where
  version := by decide
  ihl := by decide
  header := by decide

/-- A packet from 8.0.0.1 to 10.0.0.2 whose bytes 26 to 33 are its addresses again. -/
def repeatingPacket : SkBuff where
  bytes := [0x45, 0, 0, 34, 0, 0, 0, 0, 64, 17, 0, 0, 8, 0, 0, 1, 10, 0, 0, 2] ++ List.replicate 6 0 ++
    [8, 0, 0, 1, 10, 0, 0, 2]
  len := 34
  mark := 0

/-- A packet with both addresses zero is reported with its own addresses, and so is the one that repeats
its addresses. -/
theorem reports_zero_and_repeated_addresses :
    AtIpHeader (0x45 :: List.replicate 19 0) ∧ ReportsOwnAddresses ⟨0x45 :: List.replicate 19 0, 20, 0⟩ ∧
      AtIpHeader repeatingPacket.bytes ∧ ReportsOwnAddresses repeatingPacket := by
  have zero : AtIpHeader (0x45 :: List.replicate 19 0) := ⟨by decide, by decide, by decide⟩
  have repeating : AtIpHeader repeatingPacket.bytes := ⟨by decide, by decide, by decide⟩
  refine ⟨zero, ?_, repeating, ?_⟩
  · exact (reports_own_addresses_iff zero).mpr (Or.inl ⟨by decide, by decide⟩)
  · have looks : LooksFramed repeatingPacket.bytes := ⟨by decide, by decide, by decide⟩
    have repeats : RepeatsAddresses repeatingPacket.bytes := ⟨by decide, by decide⟩
    exact (reports_own_addresses_iff repeating).mpr (Or.inr ⟨looks, repeats⟩)

/-- A packet from 10.0.0.1 to 10.0.0.2 is reported with addresses zero. -/
theorem plainPacket_not_reported : AtIpHeader plainPacket.bytes ∧ ¬ ReportsOwnAddresses plainPacket := by
  refine ⟨plainPacket_atIpHeader, fun reports => ?_⟩
  have parsed := (reports_own_iff_skbAddresses plainPacket_atIpHeader).mp reports
  exact absurd parsed (by decide)

end MonsaEbpf.S2

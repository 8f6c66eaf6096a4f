/-
Module: MonsaEbpf.S2.RecordFormats
Layer: S2
Purpose: The records xdp_event, tc_event, kprobe_event and kretprobe_event on their way from a kernel program to
  its user program. Each structure is declared twice, once in the .bpf.c file and once in the _user.c file; a
  record is laid out by the one and read by the other, after the size check of `handle_event`.
Imports: MonsaEbpf.Lib.CLayout, MonsaEbpf.S2.Kprobe, MonsaEbpf.S2.Kretprobe, MonsaEbpf.S2.XdpLine
Trusted boundary: human-reviewed transcription of the declarations
Main exports: xdpFormat, tcFormat, kprobeFormat, kretprobeFormat, Survives,
  survives_of_declares, records_survive
-/
import MonsaEbpf.Lib.CLayout
import MonsaEbpf.S2.Kprobe
import MonsaEbpf.S2.Kretprobe
import MonsaEbpf.S2.XdpLine

namespace MonsaEbpf.S2

open Wire CLayout

/-- Records survive the way from a producer's declaration to a consumer's: with any bytes in the padding and
behind the record every value is read back; the size check accepts every produced record and rejects every
shorter one; and a reader that accepts a record never reads past its end. -/
structure Survives {F E : Type} [DecidableEq F] (record : Record F E) (producer consumer : Declaration F) :
    Prop where
  roundTrip : ∀ memory value,
    consume record consumer (produce record producer memory value) (sizeof producer) = some (.ok value)
  rejects : ∀ memory dataSz, dataSz < sizeof producer → consume record consumer memory dataSz = none
  inside : ∀ memory dataSz, (consume record consumer memory dataSz).isSome →
    ∃ value, consume record consumer memory dataSz = some (.ok value)

/-- Two equal declarations of all members lay records out in the same way. -/
theorem survives_of_declares {F E : Type} [DecidableEq F] {record : Record F E}
    {producer consumer : Declaration F} (declares : Declares record producer) (same : consumer = producer) :
    Survives record producer consumer where
  roundTrip memory value := by
    rw [same]
    exact consume_produce record declares (Nat.le_refl _) memory value
  rejects memory dataSz short := by
    rw [same]
    exact consume_short record short memory
  inside memory dataSz accepted := by
    by_cases short : dataSz < sizeof consumer
    · rw [consume_short record short] at accepted
      cases accepted
    · exact consume_inside record (Nat.le_of_not_lt short) memory

/-! ### xdp_event -/

/-- The members of `struct xdp_event`. -/
inductive XdpField where
  | timestampNs
  | ifindex
  | rxQueue
  | pktLen
  | ethProto
  | ipProto
  | action
  | srcIp
  | dstIp
  | srcPort
  | dstPort
  | tcpFlags
deriving DecidableEq, Repr

def xdpFormat : Record XdpField XdpEvent where
  type
    | .timestampNs => .int64
    | .ifindex => .int32
    | .rxQueue => .int32
    | .pktLen => .int32
    | .ethProto => .int16
    | .ipProto => .int8
    | .action => .int8
    | .srcIp => .int32
    | .dstIp => .int32
    | .srcPort => .int16
    | .dstPort => .int16
    | .tcpFlags => .int8
  bytesOf evt
    | .timestampNs => encode 8 evt.timestampNs
    | .ifindex => encode 4 evt.ifindex
    | .rxQueue => encode 4 evt.rxQueue
    | .pktLen => encode 4 evt.pktLen
    | .ethProto => encode 2 evt.ethProto
    | .ipProto => encode 1 evt.ipProto
    | .action => encode 1 evt.action
    | .srcIp => encode 4 evt.srcIp
    | .dstIp => encode 4 evt.dstIp
    | .srcPort => encode 2 evt.srcPort
    | .dstPort => encode 2 evt.dstPort
    | .tcpFlags => encode 1 evt.tcpFlags
  ofBytes bytes :=
    { timestampNs := decode 64 (bytes .timestampNs)
      ifindex := decode 32 (bytes .ifindex)
      rxQueue := decode 32 (bytes .rxQueue)
      pktLen := decode 32 (bytes .pktLen)
      ethProto := decode 16 (bytes .ethProto)
      ipProto := decode 8 (bytes .ipProto)
      action := decode 8 (bytes .action)
      srcIp := decode 32 (bytes .srcIp)
      dstIp := decode 32 (bytes .dstIp)
      srcPort := decode 16 (bytes .srcPort)
      dstPort := decode 16 (bytes .dstPort)
      tcpFlags := decode 8 (bytes .tcpFlags) }
  length_bytesOf evt field := by
    cases field <;> simp [CType.size]
  ofBytes_bytesOf evt := by
    simp

/-- `struct xdp_event` of xdp_pass.bpf.c. -/
def xdpProducer : Declaration XdpField :=
  [(.timestampNs, .int64),
    (.ifindex, .int32),
    (.rxQueue, .int32),
    (.pktLen, .int32),
    (.ethProto, .int16),
    (.ipProto, .int8),
    (.action, .int8),
    (.srcIp, .int32),
    (.dstIp, .int32),
    (.srcPort, .int16),
    (.dstPort, .int16),
    (.tcpFlags, .int8)]

/-- `struct xdp_event` of xdp_pass_user.c. -/
def xdpConsumer : Declaration XdpField :=
  [(.timestampNs, .int64),
    (.ifindex, .int32),
    (.rxQueue, .int32),
    (.pktLen, .int32),
    (.ethProto, .int16),
    (.ipProto, .int8),
    (.action, .int8),
    (.srcIp, .int32),
    (.dstIp, .int32),
    (.srcPort, .int16),
    (.dstPort, .int16),
    (.tcpFlags, .int8)]

theorem xdpProducer_declares : Declares xdpFormat xdpProducer where
  types := by decide
  complete field := by cases field <;> decide

/-! ### tc_event -/

/-- The members of `struct tc_event`. -/
inductive TcField where
  | timestampNs
  | saddr
  | daddr
  | sport
  | dport
  | protocol
  | len
  | mark
  | count
deriving DecidableEq, Repr

def tcFormat : Record TcField TcEvent where
  type
    | .timestampNs => .int64
    | .saddr => .int32
    | .daddr => .int32
    | .sport => .int16
    | .dport => .int16
    | .protocol => .int8
    | .len => .int32
    | .mark => .int32
    | .count => .int64
  bytesOf evt
    | .timestampNs => encode 8 evt.timestampNs
    | .saddr => encode 4 evt.saddr
    | .daddr => encode 4 evt.daddr
    | .sport => encode 2 evt.sport
    | .dport => encode 2 evt.dport
    | .protocol => encode 1 evt.protocol
    | .len => encode 4 evt.len
    | .mark => encode 4 evt.mark
    | .count => encode 8 evt.count
  ofBytes bytes :=
    { timestampNs := decode 64 (bytes .timestampNs)
      saddr := decode 32 (bytes .saddr)
      daddr := decode 32 (bytes .daddr)
      sport := decode 16 (bytes .sport)
      dport := decode 16 (bytes .dport)
      protocol := decode 8 (bytes .protocol)
      len := decode 32 (bytes .len)
      mark := decode 32 (bytes .mark)
      count := decode 64 (bytes .count) }
  length_bytesOf evt field := by
    cases field <;> simp [CType.size]
  ofBytes_bytesOf evt := by
    simp

/-- `struct tc_event` of example_tc_classifier.bpf.c. -/
def tcProducer : Declaration TcField :=
  [(.timestampNs, .int64),
    (.saddr, .int32),
    (.daddr, .int32),
    (.sport, .int16),
    (.dport, .int16),
    (.protocol, .int8),
    (.len, .int32),
    (.mark, .int32),
    (.count, .int64)]

/-- `struct tc_event` of example_tc_classifier_user.c. -/
def tcConsumer : Declaration TcField :=
  [(.timestampNs, .int64),
    (.saddr, .int32),
    (.daddr, .int32),
    (.sport, .int16),
    (.dport, .int16),
    (.protocol, .int8),
    (.len, .int32),
    (.mark, .int32),
    (.count, .int64)]

theorem tcProducer_declares : Declares tcFormat tcProducer where
  types := by decide
  complete field := by cases field <;> decide

/-! ### kprobe_event -/

/-- The members of `struct kprobe_event`. -/
inductive KprobeField where
  | timestampNs
  | pid
  | tid
  | ppid
  | uid
  | gid
  | cgroupId
  | comm
  | arg0
  | arg1
  | arg2
  | count
  | funcName
deriving DecidableEq, Repr

def kprobeFormat : Record KprobeField KprobeEvent where
  type
    | .timestampNs => .int64
    | .pid => .int32
    | .tid => .int32
    | .ppid => .int32
    | .uid => .int32
    | .gid => .int32
    | .cgroupId => .int64
    | .comm => .array .int8 16
    | .arg0 => .int64
    | .arg1 => .int64
    | .arg2 => .int64
    | .count => .int64
    | .funcName => .array .int8 32
  bytesOf evt
    | .timestampNs => encode 8 evt.timestampNs
    | .pid => encode 4 evt.pid
    | .tid => encode 4 evt.tid
    | .ppid => encode 4 evt.ppid
    | .uid => encode 4 evt.uid
    | .gid => encode 4 evt.gid
    | .cgroupId => encode 8 evt.cgroupId
    | .comm => evt.comm.toList
    | .arg0 => encode 8 evt.arg0
    | .arg1 => encode 8 evt.arg1
    | .arg2 => encode 8 evt.arg2
    | .count => encode 8 evt.count
    | .funcName => evt.funcName.toList
  ofBytes bytes :=
    { timestampNs := decode 64 (bytes .timestampNs)
      pid := decode 32 (bytes .pid)
      tid := decode 32 (bytes .tid)
      ppid := decode 32 (bytes .ppid)
      uid := decode 32 (bytes .uid)
      gid := decode 32 (bytes .gid)
      cgroupId := decode 64 (bytes .cgroupId)
      comm := decodeArray 16 (bytes .comm)
      arg0 := decode 64 (bytes .arg0)
      arg1 := decode 64 (bytes .arg1)
      arg2 := decode 64 (bytes .arg2)
      count := decode 64 (bytes .count)
      funcName := decodeArray 32 (bytes .funcName) }
  length_bytesOf evt field := by
    cases field <;> simp [CType.size]
  ofBytes_bytesOf evt := by
    simp

/-- `struct kprobe_event` of example_kprobe.bpf.c. -/
def kprobeProducer : Declaration KprobeField :=
  [(.timestampNs, .int64),
    (.pid, .int32),
    (.tid, .int32),
    (.ppid, .int32),
    (.uid, .int32),
    (.gid, .int32),
    (.cgroupId, .int64),
    (.comm, .array .int8 16),
    (.arg0, .int64),
    (.arg1, .int64),
    (.arg2, .int64),
    (.count, .int64),
    (.funcName, .array .int8 32)]

/-- `struct kprobe_event` of example_kprobe_user.c. -/
def kprobeConsumer : Declaration KprobeField :=
  [(.timestampNs, .int64),
    (.pid, .int32),
    (.tid, .int32),
    (.ppid, .int32),
    (.uid, .int32),
    (.gid, .int32),
    (.cgroupId, .int64),
    (.comm, .array .int8 16),
    (.arg0, .int64),
    (.arg1, .int64),
    (.arg2, .int64),
    (.count, .int64),
    (.funcName, .array .int8 32)]

theorem kprobeProducer_declares : Declares kprobeFormat kprobeProducer where
  types := by decide
  complete field := by cases field <;> decide

/-! ### kretprobe_event -/

/-- The members of `struct kretprobe_event`. -/
inductive KretprobeField where
  | timestampNs
  | latencyNs
  | pid
  | tid
  | uid
  | gid
  | cgroupId
  | comm
  | retval
  | isError
  | errorCode
  | funcName
deriving DecidableEq, Repr

def kretprobeFormat : Record KretprobeField KretprobeEvent where
  type
    | .timestampNs => .int64
    | .latencyNs => .int64
    | .pid => .int32
    | .tid => .int32
    | .uid => .int32
    | .gid => .int32
    | .cgroupId => .int64
    | .comm => .array .int8 16
    | .retval => .int64
    | .isError => .int8
    | .errorCode => .int32
    | .funcName => .array .int8 32
  bytesOf evt
    | .timestampNs => encode 8 evt.timestampNs
    | .latencyNs => encode 8 evt.latencyNs
    | .pid => encode 4 evt.pid
    | .tid => encode 4 evt.tid
    | .uid => encode 4 evt.uid
    | .gid => encode 4 evt.gid
    | .cgroupId => encode 8 evt.cgroupId
    | .comm => evt.comm.toList
    | .retval => encode 8 evt.retval
    | .isError => encode 1 evt.isError
    | .errorCode => encode 4 evt.errorCode
    | .funcName => evt.funcName.toList
  ofBytes bytes :=
    { timestampNs := decode 64 (bytes .timestampNs)
      latencyNs := decode 64 (bytes .latencyNs)
      pid := decode 32 (bytes .pid)
      tid := decode 32 (bytes .tid)
      uid := decode 32 (bytes .uid)
      gid := decode 32 (bytes .gid)
      cgroupId := decode 64 (bytes .cgroupId)
      comm := decodeArray 16 (bytes .comm)
      retval := decode 64 (bytes .retval)
      isError := decode 8 (bytes .isError)
      errorCode := decode 32 (bytes .errorCode)
      funcName := decodeArray 32 (bytes .funcName) }
  length_bytesOf evt field := by
    cases field <;> simp [CType.size]
  ofBytes_bytesOf evt := by
    simp

/-- `struct kretprobe_event` of example_kretprobe.bpf.c. -/
def kretprobeProducer : Declaration KretprobeField :=
  [(.timestampNs, .int64),
    (.latencyNs, .int64),
    (.pid, .int32),
    (.tid, .int32),
    (.uid, .int32),
    (.gid, .int32),
    (.cgroupId, .int64),
    (.comm, .array .int8 16),
    (.retval, .int64),
    (.isError, .int8),
    (.errorCode, .int32),
    (.funcName, .array .int8 32)]

/-- `struct kretprobe_event` of example_kretprobe_user.c. -/
def kretprobeConsumer : Declaration KretprobeField :=
  [(.timestampNs, .int64),
    (.latencyNs, .int64),
    (.pid, .int32),
    (.tid, .int32),
    (.uid, .int32),
    (.gid, .int32),
    (.cgroupId, .int64),
    (.comm, .array .int8 16),
    (.retval, .int64),
    (.isError, .int8),
    (.errorCode, .int32),
    (.funcName, .array .int8 32)]

theorem kretprobeProducer_declares : Declares kretprobeFormat kretprobeProducer where
  types := by decide
  complete field := by cases field <;> decide

/-! ### All four -/

/-- **The records survive the format between kernel and user space.** -/
theorem records_survive :
    Survives xdpFormat xdpProducer xdpConsumer ∧ Survives tcFormat tcProducer tcConsumer ∧
      Survives kprobeFormat kprobeProducer kprobeConsumer ∧
      Survives kretprobeFormat kretprobeProducer kretprobeConsumer :=
  ⟨survives_of_declares xdpProducer_declares rfl, survives_of_declares tcProducer_declares rfl,
    survives_of_declares kprobeProducer_declares rfl, survives_of_declares kretprobeProducer_declares rfl⟩

/-- The sizes that the size checks compare with. -/
example :
    sizeof xdpConsumer = sizeofXdpEvent ∧ sizeof tcConsumer = sizeofTcEvent ∧
      sizeof kprobeConsumer = 120 ∧ sizeof kretprobeConsumer = 104 := by
  decide

end MonsaEbpf.S2

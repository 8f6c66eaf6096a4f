/-
Module: MonsaEbpf.S2.EventLines
Layer: S2
Purpose: The `handle_event` functions of the user programs beside those in `S2.HandleEvent` and `S2.XdpLine`:
  the sizes that they check, and the calls of `printf` that they make for a record. What `%.3f` shows of a
  number of nanoseconds divided by 1000.0 is a number of thousandths, whatever floating point makes of it.
Imports: MonsaEbpf.Bpf.Names, MonsaEbpf.Lib.CLayout, MonsaEbpf.Lib.ReportRows, MonsaEbpf.S2.CgroupSkb,
  MonsaEbpf.S2.FentryFexit, MonsaEbpf.S2.HandleEvent, MonsaEbpf.S2.Kretprobe, MonsaEbpf.S2.LsmFileOpen,
  MonsaEbpf.S2.PerfEvent, MonsaEbpf.S2.SocketFilter, MonsaEbpf.S2.Tracepoint, MonsaEbpf.S2.Uprobe,
  MonsaEbpf.S2.Uretprobe, MonsaEbpf.User.Timestamps
Trusted boundary: human-reviewed translation
Main exports: sizeofMembers, signedPieces, nameLine, idLine, kprobeEventLines, kretprobeEventLines,
  uprobeEventLines, uretprobeEventLines, fentryFexitEventLines, tpEventLines, rawTpEventLines,
  perfSampleLines, lsmEventLines, socketFilterEventLines, cgroupBpfEventLines, cgroupDeviceEventLines,
  cgroupSkbEventLines, cgroupSockEventLines, cgroupSockoptEventLines, cgroupSysctlEventLines
-/
import MonsaEbpf.Bpf.Names
import MonsaEbpf.Lib.CLayout
import MonsaEbpf.Lib.ReportRows
import MonsaEbpf.S2.CgroupSkb
import MonsaEbpf.S2.FentryFexit
import MonsaEbpf.S2.HandleEvent
import MonsaEbpf.S2.Kretprobe
import MonsaEbpf.S2.LsmFileOpen
import MonsaEbpf.S2.PerfEvent
import MonsaEbpf.S2.SocketFilter
import MonsaEbpf.S2.Tracepoint
import MonsaEbpf.S2.Uprobe
import MonsaEbpf.S2.Uretprobe
import MonsaEbpf.User.Timestamps

namespace MonsaEbpf.S2

open CLayout DottedQuad Printf ReportRows Snprintf

/-! ### Parts of lines -/

/-- `sizeof` of a structure with members of these types. -/
def sizeofMembers (types : List CType) : Nat :=
  sizeof (types.map fun type => ((), type))

/-- `"%s"` for an array of bytes. -/
def stringPiece {length : Nat} (array : Vector U8 length) : Piece :=
  .text (.ofList (charsOf (nameOf array)))

/-- `"%d"` and `"%lld"`. -/
def signedPieces {width : Nat} (number : BitVec width) : List Piece :=
  (if number.toInt < 0 then [.text "-"] else []) ++ [.number number.toInt.natAbs]

/-- `"%.3f"` for a number of thousandths. -/
def thousandthsPieces (thousandths : Nat) : List Piece :=
  [.number (thousandths / 1000), .text ".", .text (.ofList (padded 3 (thousandths % 1000)))]

/-- A line with one unsigned number. -/
def numberLine (label : String) {width : Nat} (number : BitVec width) : List Piece :=
  [.text label, .number number.toNat, .text "\n"]

/-- A line with one unsigned number in hexadecimal. -/
def hexadecimalLine (label : String) {width : Nat} (number : BitVec width) : List Piece :=
  [.text label, .hexadecimal number.toNat, .text "\n"]

/-- A line with one signed number. -/
def signedLine (label : String) {width : Nat} (number : BitVec width) : List Piece :=
  .text label :: (signedPieces number ++ [.text "\n"])

/-- A line with one string. -/
def nameLine (label : String) {length : Nat} (array : Vector U8 length) : List Piece :=
  [.text label, stringPiece array, .text "\n"]

/-- A line with one of the strings of the program. -/
def wordLine (label word : String) : List Piece :=
  [.text label, .text word, .text "\n"]

/-- `"  UID/GID:  %u/%u\n"`. -/
def idLine (uid gid : U32) : List Piece :=
  [.text "  UID/GID:  ", .number uid.toNat, .text "/", .number gid.toNat, .text "\n"]

/-- `"  Count:    %llu\n\n"`. -/
def lastCountLine (count : U64) : List Piece :=
  [.text "  Count:    ", .number count.toNat, .text "\n\n"]

/-- `"  Latency:  %llu ns (%.3f μs)\n"`. -/
def latencyLine (thousandths : U64 → Nat) (latencyNs : U64) : List Piece :=
  [.text "  Latency:  ", .number latencyNs.toNat, .text " ns ("] ++
    (thousandthsPieces (thousandths latencyNs) ++ [.text " μs)\n"])

/-- The line of the error code, for errors only. -/
def errorLines (isError : U8) (errorCode : S32) : List (List Piece) :=
  if isError ≠ 0 then [signedLine "  Error Code:  " errorCode] else []

/-! ### What the lines print -/

section Lines

variable (label : String) {width length : Nat}

@[simp] theorem meant_signedPieces (number : BitVec width) : (signedPieces number).flatMap Piece.meant =
    signedText number.toInt := by
  by_cases negative : number.toInt < 0 <;> simp [signedPieces, signedText, negative, Piece.meant]

@[simp] theorem meant_thousandthsPieces (thousandths : Nat) :
    (thousandthsPieces thousandths).flatMap Piece.meant =
      fixedPoint 3 (thousandths / 1000) (thousandths % 1000) := by
  simp [thousandthsPieces, fixedPoint, Piece.meant]

@[simp] theorem meant_numberLine (number : BitVec width) : (numberLine label number).flatMap Piece.meant =
    label.toList ++ (decimal number.toNat ++ ['\n']) := by
  simp [numberLine, Piece.meant]

@[simp] theorem meant_hexadecimalLine (number : BitVec width) :
    (hexadecimalLine label number).flatMap Piece.meant =
      label.toList ++ (Nat.toDigits 16 number.toNat ++ ['\n']) := by
  simp [hexadecimalLine, Piece.meant]

@[simp] theorem meant_signedLine (number : BitVec width) : (signedLine label number).flatMap Piece.meant =
    label.toList ++ (signedText number.toInt ++ ['\n']) := by
  simp [signedLine, Piece.meant]

@[simp] theorem meant_nameLine (array : Vector U8 length) : (nameLine label array).flatMap Piece.meant =
    label.toList ++ (charsOf (nameOf array) ++ ['\n']) := by
  simp [nameLine, stringPiece, Piece.meant]

@[simp] theorem meant_wordLine (word : String) : (wordLine label word).flatMap Piece.meant =
    label.toList ++ (word.toList ++ ['\n']) := by
  simp [wordLine, Piece.meant]

@[simp] theorem addresses_signedPieces (number : BitVec width) (pieces : List Piece) :
    addresses (signedPieces number ++ pieces) = addresses pieces := by
  by_cases negative : number.toInt < 0 <;> simp [signedPieces, negative]

@[simp] theorem addresses_numberLine (number : BitVec width) : addresses (numberLine label number) = [] := rfl

@[simp] theorem addresses_hexadecimalLine (number : BitVec width) :
    addresses (hexadecimalLine label number) = [] := rfl

@[simp] theorem addresses_signedLine (number : BitVec width) : addresses (signedLine label number) = [] := by
  simp [signedLine]

theorem single_errorLines (isError : U8) (errorCode : S32) :
    ∀ pieces ∈ errorLines isError errorCode, (addresses pieces).length ≤ 1 := by
  intro pieces member
  rw [errorLines] at member
  split at member
  · rw [List.mem_singleton.mp member, addresses_signedLine]
    exact Nat.zero_le 1
  · cases member

@[simp] theorem addresses_nameLine (array : Vector U8 length) : addresses (nameLine label array) = [] := rfl

@[simp] theorem addresses_wordLine (word : String) : addresses (wordLine label word) = [] := rfl

@[simp] theorem addresses_idLine (uid gid : U32) : addresses (idLine uid gid) = [] := rfl

@[simp] theorem addresses_srcLine (address : U32) (port : U16) :
    addresses (srcLine address port) = [address] := rfl

@[simp] theorem addresses_dstLine (address : U32) (port : U16) :
    addresses (dstLine address port) = [address] := rfl

@[simp] theorem addresses_lastCountLine (count : U64) : addresses (lastCountLine count) = [] := rfl

@[simp] theorem addresses_latencyLine (thousandths : U64 → Nat) (latencyNs : U64) :
    addresses (latencyLine thousandths latencyNs) = [] := rfl

@[simp] theorem addresses_thousandths (thousandths : Nat) (pieces : List Piece) :
    addresses (thousandthsPieces thousandths ++ pieces) = addresses pieces := rfl

end Lines

/-! ### kprobe and kretprobe -/

/-- `sizeof(struct kprobe_event)`. -/
def sizeofKprobeEvent : Nat :=
  sizeofMembers [.int64, .int32, .int32, .int32, .int32, .int32, .int64, .array .int8 16, .int64, .int64,
    .int64, .int64, .array .int8 32]

/-- The record, and what stands in the buffer `ts` of `handle_event` before it is called. -/
def kprobeEventLines (record : Vector Char User.sizeofTs × KprobeEvent) : List (List Piece) :=
  let evt := record.2
  [[.text "=== Kprobe Event ===\n"],
    [.text "  Timestamp:  ", .text (.ofList (User.shownTimestamp record.1 evt.timestampNs)), .text "\n"],
    nameLine "  Function:   " evt.funcName,
    numberLine "  PID:        " evt.pid,
    numberLine "  TID:        " evt.tid,
    numberLine "  PPID:       " evt.ppid,
    nameLine "  Comm:       " evt.comm,
    numberLine "  UID:        " evt.uid,
    numberLine "  GID:        " evt.gid,
    numberLine "  Cgroup ID:  " evt.cgroupId,
    hexadecimalLine "  Arg0:       0x" evt.arg0,
    hexadecimalLine "  Arg1:       0x" evt.arg1,
    hexadecimalLine "  Arg2:       0x" evt.arg2,
    numberLine "  Call Count: " evt.count,
    [.text "\n"]]

/-- `sizeof(struct kretprobe_event)`. -/
def sizeofKretprobeEvent : Nat :=
  sizeofMembers [.int64, .int64, .int32, .int32, .int32, .int32, .int64, .array .int8 16, .int64, .int8,
    .int32, .array .int8 32]

def kretprobeEventLines (thousandths : U64 → Nat) (record : Vector Char User.sizeofTs × KretprobeEvent) :
    List (List Piece) :=
  let evt := record.2
  [[.text "=== Kretprobe Event ===\n"],
    [.text "  Timestamp:   ", .text (.ofList (User.shownTimestamp record.1 evt.timestampNs)), .text "\n"],
    nameLine "  Function:    " evt.funcName,
    numberLine "  PID:         " evt.pid,
    numberLine "  TID:         " evt.tid,
    nameLine "  Comm:        " evt.comm,
    numberLine "  UID:         " evt.uid,
    numberLine "  GID:         " evt.gid,
    numberLine "  Cgroup ID:   " evt.cgroupId,
    signedLine "  Return Val:  " evt.retval,
    wordLine "  Status:      " (if evt.isError ≠ 0 then "ERROR" else "SUCCESS")] ++
  errorLines evt.isError evt.errorCode ++
  [.text "  Latency:     " :: (thousandthsPieces (thousandths evt.latencyNs) ++ [.text " us\n"]),
    [.text "\n"]]

/-! ### uprobe and uretprobe -/

/-- `sizeof(struct uprobe_event)`. -/
def sizeofUprobeEvent : Nat :=
  sizeofMembers [.int64, .int32, .int32, .int32, .int32, .int64, .array .int8 16, .int64, .int64, .int64,
    .int64, .array .int8 32]

def uprobeEventLines (evt : UprobeEvent) : List (List Piece) :=
  [[.text "=== Uprobe Event ===\n"],
    numberLine "  PID:      " evt.pid,
    nameLine "  Comm:     " evt.comm,
    idLine evt.uid evt.gid,
    numberLine "  Cgroup:   " evt.cgroupId,
    [.text "  Arg0-2:   0x", .hexadecimal evt.arg0.toNat, .text ", 0x", .hexadecimal evt.arg1.toNat,
      .text ", 0x", .hexadecimal evt.arg2.toNat, .text "\n"],
    lastCountLine evt.count]

/-- `sizeof(struct uretprobe_event)`. -/
def sizeofUretprobeEvent : Nat :=
  sizeofMembers [.int64, .int32, .int32, .int32, .int32, .int64, .int64, .int64, .int64, .array .int8 16]

def uretprobeEventLines (thousandths : U64 → Nat) (evt : UretprobeEvent) : List (List Piece) :=
  [[.text "=== Uretprobe Event ===\n"],
    numberLine "  PID:      " evt.pid,
    nameLine "  Comm:     " evt.comm,
    idLine evt.uid evt.gid,
    latencyLine thousandths evt.latencyNs,
    .text "  RetVal:   " :: (signedPieces evt.retval ++ [.text "\n\n"])]

/-! ### fentry_fexit -/

/-- `sizeof(struct fentry_fexit_event)`. -/
def sizeofFentryFexitEvent : Nat :=
  sizeofMembers [.int64, .int32, .int32, .int32, .int32, .int64, .array .int8 16, .int64, .int64, .int64,
    .int64, .int64]

def fentryFexitEventLines (thousandths : U64 → Nat) (evt : FentryFexitEvent) : List (List Piece) :=
  [[.text "=== Fentry/Fexit Event ===\n"],
    numberLine "  PID:      " evt.pid,
    nameLine "  Comm:     " evt.comm,
    idLine evt.uid evt.gid,
    latencyLine thousandths evt.latencyNs,
    signedLine "  RetVal:   " evt.retval,
    lastCountLine evt.count]

/-! ### tracepoint and raw_tracepoint -/

/-- `sizeof(struct tp_event)`. -/
def sizeofTpEvent : Nat :=
  sizeofMembers [.int64, .int32, .int32, .int32, .int32, .int64, .array .int8 16, .int64, .int32, .int32]

def tpEventLines (evt : TpEvent) : List (List Piece) :=
  [[.text "=== Tracepoint Event (sched_process_exec) ===\n"],
    numberLine "  PID:      " evt.pid,
    nameLine "  Comm:     " evt.comm,
    idLine evt.uid evt.gid,
    numberLine "  CPU:      " evt.cpu,
    numberLine "  Cgroup:   " evt.cgroupId,
    lastCountLine evt.count]

/-- `sizeof(struct raw_tp_event)`. -/
def sizeofRawTpEvent : Nat :=
  sizeofMembers [.int64, .int32, .int32, .int32, .int32, .int64, .array .int8 16, .int64, .int32]

def rawTpEventLines (evt : RawTpEvent) : List (List Piece) :=
  [[.text "=== Raw Tracepoint Event ===\n"],
    numberLine "  PID:      " evt.pid,
    nameLine "  Comm:     " evt.comm,
    idLine evt.uid evt.gid,
    numberLine "  CPU:      " evt.cpu,
    numberLine "  Cgroup:   " evt.cgroupId,
    lastCountLine evt.count]

/-! ### perf_event -/

/-- `sizeof(struct perf_sample)`. -/
def sizeofPerfSample : Nat :=
  sizeofMembers [.int64, .int32, .int32, .int32, .int64, .array .int8 16, .int64]

def perfSampleLines (evt : PerfSample) : List (List Piece) :=
  [[.text "=== Perf Event Sample (cpu-cycles) ===\n"],
    numberLine "  PID:      " evt.pid,
    nameLine "  Comm:     " evt.comm,
    numberLine "  CPU:      " evt.cpu,
    numberLine "  Period:   " evt.period,
    lastCountLine evt.count]

/-! ### lsm -/

/-- `sizeof(struct lsm_event)`. -/
def sizeofLsmEvent : Nat :=
  sizeofMembers [.int64, .int32, .int32, .int32, .int32, .int64, .array .int8 16, .array .int8 256, .int32,
    .int32, .int32, .int64]

def lsmEventLines (evt : LsmEvent) : List (List Piece) :=
  [[.text "=== LSM File Open Event ===\n"],
    numberLine "  PID:      " evt.pid,
    nameLine "  Comm:     " evt.comm,
    idLine evt.uid evt.gid,
    numberLine "  Cgroup:   " evt.cgroupId,
    nameLine "  Path:     " evt.path,
    wordLine "  Decision: " (if evt.decision = 0 then "ALLOW" else "DENY"),
    lastCountLine evt.count]

/-! ### socket_filter -/

/-- `sizeof(struct socket_filter_event)`. -/
def sizeofSocketFilterEvent : Nat :=
  sizeofMembers [.int64, .int32, .int32, .int16, .int16, .int8, .int32, .int64]

/-- Its `proto_name` is that of tc and sk_lookup. -/
def socketFilterEventLines (evt : SocketFilterEvent) : List (List Piece) :=
  [[.text "=== Socket Filter Event (sampled) ===\n"],
    wordLine "  Proto:    " (protoName evt.protocol),
    srcLine evt.saddr evt.sport,
    dstLine evt.daddr evt.dport,
    [.text "  Len:      ", .number evt.len.toNat, .text " bytes\n"],
    lastCountLine evt.count]

/-! ### Cgroups -/

/-- `sizeof(struct cgroup_bpf_event)`. -/
def sizeofCgroupBpfEvent : Nat :=
  sizeofMembers [.int64, .int64, .int32, .array .int8 16, .int64]

def cgroupBpfEventLines (evt : CgroupBpfEvent) : List (List Piece) :=
  [[.text "=== Cgroup BPF Event ===\n"],
    numberLine "  Cgroup:   " evt.cgroupId,
    numberLine "  PID:      " evt.pid,
    nameLine "  Comm:     " evt.comm,
    lastCountLine evt.count]

/-- `sizeof(struct cgroup_device_event)`. -/
def sizeofCgroupDeviceEvent : Nat :=
  sizeofMembers [.int64, .int32, .int32, .int32, .int64, .int32, .int64]

def cgroupDeviceEventLines (evt : CgroupDeviceEvent) : List (List Piece) :=
  [[.text "=== Cgroup Device Event ===\n"],
    numberLine "  Cgroup:   " evt.cgroupId,
    [.text "  Device:   ", .number evt.major.toNat, .text ":", .number evt.minor.toNat, .text "\n"],
    hexadecimalLine "  Access:   0x" evt.accessType,
    wordLine "  Allowed:  " (if evt.allowed ≠ 0 then "YES" else "NO"),
    lastCountLine evt.count]

/-- `sizeof(struct cgroup_skb_event)`. -/
def sizeofCgroupSkbEvent : Nat :=
  sizeofMembers [.int64, .int32, .int32, .int32, .int64, .int64]

def cgroupSkbEventLines (evt : CgroupSkbEvent) : List (List Piece) :=
  [[.text "=== Cgroup SKB Event ===\n"],
    numberLine "  Cgroup:   " evt.cgroupId,
    [.text "  Len:      ", .number evt.len.toNat, .text " bytes\n"],
    lastCountLine evt.count]

/-- `sizeof(struct cgroup_sock_event)`. -/
def sizeofCgroupSockEvent : Nat :=
  sizeofMembers [.int64, .int32, .int32, .int32, .int64, .int64]

def cgroupSockEventLines (evt : CgroupSockEvent) : List (List Piece) :=
  [[.text "=== Cgroup Sock Event ===\n"],
    numberLine "  Cgroup:   " evt.cgroupId,
    numberLine "  Family:   " evt.family,
    numberLine "  Type:     " evt.type,
    numberLine "  Protocol: " evt.protocol,
    lastCountLine evt.count]

/-- `sizeof(struct cgroup_sockopt_event)`. -/
def sizeofCgroupSockoptEvent : Nat :=
  sizeofMembers [.int64, .int32, .int32, .int64, .int64]

def cgroupSockoptEventLines (evt : CgroupSockoptEvent) : List (List Piece) :=
  [[.text "=== Cgroup Sockopt Event ===\n"],
    numberLine "  Cgroup:   " evt.cgroupId,
    signedLine "  Level:    " evt.level,
    signedLine "  Optname:  " evt.optname,
    lastCountLine evt.count]

/-- `sizeof(struct cgroup_sysctl_event)`. -/
def sizeofCgroupSysctlEvent : Nat :=
  sizeofMembers [.int64, .array .int8 128, .int32, .int64, .int64]

def cgroupSysctlEventLines (evt : CgroupSysctlEvent) : List (List Piece) :=
  [[.text "=== Cgroup Sysctl Event ===\n"],
    numberLine "  Cgroup:   " evt.cgroupId,
    nameLine "  Name:     " evt.name,
    wordLine "  Write:    " (if evt.write ≠ 0 then "YES" else "NO"),
    lastCountLine evt.count]

/-- Records are followed by padding where their last members do not end at a multiple of eight. -/
example : sizeofKprobeEvent = 120 ∧ sizeofKretprobeEvent = 104 ∧ sizeofRawTpEvent = 64 ∧
    sizeofLsmEvent = 328 ∧ sizeofSocketFilterEvent = 40 ∧ sizeofCgroupSysctlEvent = 160 := by
  decide

end MonsaEbpf.S2

/-
Module: MonsaEbpf.S1.CounterLoops
Layer: S1
Purpose: The user programs of S1-basic that print per-CPU counters once a second while their handlers count:
  cgroup_sock, cgroup_sockopt, cgroup_sysctl, cgroup_skb, socket_filter, tc, perf_event and raw_tracepoint,
  beside those of `S1.CountReaders` and `S1.CgroupDevice`. The handlers of the programs with one counter do
  not look at their context.
Imports: MonsaEbpf.Bpf.LiveCounters, MonsaEbpf.S1.CountReaders, MonsaEbpf.S1.CgroupDevice
Trusted boundary: human-reviewed translation
Main exports: countOne, oneCounter, totalLine, msbSetsockopt, msbGetsockopt, msbCgroupSysctl,
  msbCgroupIngress, msbCgroupEgress, cgroupSkbPrintStats, loops_watch_counts
-/
import MonsaEbpf.Bpf.LiveCounters
import MonsaEbpf.S1.CountReaders
import MonsaEbpf.S1.CgroupDevice

namespace MonsaEbpf.S1

open Wire Printf

/-! ### One counter -/

/-- The body of the handlers that count every event in the entry 0 of their array. -/
def countOne (verdict : S32) (cpu : Nat) (_ : Unit) :
    StepProgram (BpfOp PerCpuCountMap) PerCpuCounts S32 := do
  bump 1 cpu 0
  return verdict

/-- Such a handler as a counting program. -/
def oneCounter (verdict : S32) : CounterProgram Unit where
  counterMax := 1
  index := fun _ => 0
  verdict := verdict
  inside := fun _ => Nat.zero_lt_one

theorem oneCounter_handler (verdict : S32) : (oneCounter verdict).handler = countOne verdict := rfl

/-- A label and a total. -/
def totalLine (label : String) (total : U64) : List Piece :=
  [.text label, .number total.toNat, .text "\n"]

/-- The readers of one total. -/
def printTotal (label : String) (possibleCpus : Nat) (maps : PerCpuCounts) (values : Vector U64 128) :
    Access (List (List Piece)) :=
  printTotals 1 possibleCpus [totalLine label] maps values

/-- `msb_cgroup_sock`: allow. -/
def msbCgroupSock := countOne 1

/-- `msb_socket_filter`: keep no byte of the packet. -/
def msbSocketFilter := countOne 0

/-- `msb_tc_classifier`: `TC_ACT_OK`. -/
def msbTcClassifier := countOne 0

/-- `msb_perf_sample`. -/
def msbPerfSample := countOne 0

/-- `msb_sched_fork`. -/
def msbSchedFork := countOne 0

def cgroupSockPrintStats := printTotal "socket_create count = "
def socketFilterPrintStats := printTotal "socket packets = "
def tcPrintStats := printTotal "tc packets = "
def perfPrintStats := printTotal "perf samples = "
def forkPrintCount := printTotal "fork count = "

/-! ### cgroup_sockopt -/

/-- `enum counter_idx` of cgroup_sockopt. -/
def SETSOCKOPT_CNT : Nat := 0
def GETSOCKOPT_CNT : Nat := 1

/-- `msb_setsockopt`: allow. -/
def msbSetsockopt (cpu : Nat) : StepProgram (BpfOp PerCpuCountMap) PerCpuCounts S32 := do
  bump 2 cpu SETSOCKOPT_CNT
  return 1

/-- `msb_getsockopt`. -/
def msbGetsockopt (cpu : Nat) : StepProgram (BpfOp PerCpuCountMap) PerCpuCounts S32 := do
  bump 2 cpu GETSOCKOPT_CNT
  return 1

/-- The hooks of the two programs. -/
inductive SockoptHook where
  | setsockopt
  | getsockopt
deriving DecidableEq, Repr

namespace SockoptHook

def handler : SockoptHook → Nat → StepProgram (BpfOp PerCpuCountMap) PerCpuCounts S32
  | .setsockopt => msbSetsockopt
  | .getsockopt => msbGetsockopt

/-- The counter that the handler of a hook bumps. -/
def counter : SockoptHook → Nat
  | .setsockopt => SETSOCKOPT_CNT
  | .getsockopt => GETSOCKOPT_CNT

theorem counter_lt (hook : SockoptHook) : hook.counter < 2 := by
  cases hook <;> decide

end SockoptHook

/-- The two programs as one counting program. -/
def cgroupSockopt : CounterProgram SockoptHook where
  counterMax := 2
  index := SockoptHook.counter
  verdict := 1
  inside := SockoptHook.counter_lt

theorem cgroupSockopt_handler (hook : SockoptHook) (cpu : Nat) :
    cgroupSockopt.handler cpu hook = hook.handler cpu := by
  cases hook <;> rfl

/-- `"%s count = %llu\n"` with the names of cgroup_sockopt. -/
def sockoptLines : List (U64 → List Piece) :=
  ["setsockopt", "getsockopt"].map fun name total => countLine name total.toNat

/-- `print_stats` of example_cgroup_sockopt_user.c. -/
def sockoptPrintStats (possibleCpus : Nat) (maps : PerCpuCounts) (values : Vector U64 128) :
    Access (List (List Piece)) :=
  printTotals 2 possibleCpus sockoptLines maps values

/-! ### cgroup_sysctl -/

/-- `enum counter_idx` of cgroup_sysctl. -/
def SYSCTL_READ_CNT : Nat := 0
def SYSCTL_WRITE_CNT : Nat := 1

/-- `ctx->write ? SYSCTL_WRITE_CNT : SYSCTL_READ_CNT`. -/
def sysctlCounter (write : U32) : Nat :=
  if write ≠ 0 then SYSCTL_WRITE_CNT else SYSCTL_READ_CNT

/-- `msb_cgroup_sysctl`; of its context it reads `write`. -/
def msbCgroupSysctl (cpu : Nat) (write : U32) : StepProgram (BpfOp PerCpuCountMap) PerCpuCounts S32 := do
  let idx := sysctlCounter write
  bump 2 cpu idx
  return 1

theorem sysctlCounter_lt (write : U32) : sysctlCounter write < 2 := by
  unfold sysctlCounter
  split <;> decide

def cgroupSysctl : CounterProgram U32 where
  counterMax := 2
  index := sysctlCounter
  verdict := 1
  inside := sysctlCounter_lt

theorem cgroupSysctl_handler : cgroupSysctl.handler = msbCgroupSysctl := rfl

/-- `"sysctl %s = %llu\n"`. -/
def sysctlLine (name : String) (total : U64) : List Piece :=
  [.text "sysctl ", .text name, .text " = ", .number total.toNat, .text "\n"]

/-- `print_stats` of example_cgroup_sysctl_user.c. -/
def sysctlPrintStats (possibleCpus : Nat) (maps : PerCpuCounts) (values : Vector U64 128) :
    Access (List (List Piece)) :=
  printTotals 2 possibleCpus (["read", "write"].map sysctlLine) maps values

/-! ### cgroup_skb -/

/-- The two arrays of the programs, of one entry each. -/
structure CgroupPktCounts where
  ingress : PerCpuCounts
  egress : PerCpuCounts

inductive CgroupPktMap where
  | cgroupPktCount
  | cgroupPktCountEgress
deriving DecidableEq, Repr

def cgroupPktCount : PerCpuRef CgroupPktMap CgroupPktCounts U64 1 where
  name := .cgroupPktCount
  get := fun maps => maps.ingress.counts
  set := fun maps counts => { maps with ingress := ⟨counts⟩ }

def cgroupPktCountEgress : PerCpuRef CgroupPktMap CgroupPktCounts U64 1 where
  name := .cgroupPktCountEgress
  get := fun maps => maps.egress.counts
  set := fun maps counts => { maps with egress := ⟨counts⟩ }

/-- Count the packet in the entry 0 of an array and allow it. -/
def countPacket (map : PerCpuRef CgroupPktMap CgroupPktCounts U64 1) (cpu : Nat) :
    StepProgram (BpfOp CgroupPktMap) CgroupPktCounts S32 := do
  let cnt ← bpfPerCpuLookup map 0
  match cnt with
  | none => return 1
  | some cnt => do
      let _ ← perCpuFetchAndAdd map cpu cnt .whole 1
      return 1

/-- `msb_cgroup_ingress`. -/
def msbCgroupIngress := countPacket cgroupPktCount

/-- `msb_cgroup_egress`. -/
def msbCgroupEgress := countPacket cgroupPktCountEgress

/-- The hooks of the two programs. -/
inductive SkbHook where
  | ingress
  | egress
deriving DecidableEq, Repr

namespace SkbHook

def handler : SkbHook → Nat → StepProgram (BpfOp CgroupPktMap) CgroupPktCounts S32
  | .ingress => msbCgroupIngress
  | .egress => msbCgroupEgress

/-- The place of the array of a hook in the order in which the arrays are read. -/
def position : SkbHook → Nat
  | .ingress => 0
  | .egress => 1

end SkbHook

/-- Nothing counted yet. -/
def CgroupPktCounts.initial : CgroupPktCounts where
  ingress := .initial
  egress := .initial

section CgroupSkb

variable {possibleCpus : Nat}

/-- Run one handler alone. -/
def CgroupPktCounts.step (maps : CgroupPktCounts) (placed : Placed possibleCpus SkbHook) : CgroupPktCounts :=
  ((placed.2.handler placed.1).exec maps).2

/-- The maps after packets that are handled one after another. -/
def CgroupPktCounts.run (packets : List (Placed possibleCpus SkbHook)) : CgroupPktCounts :=
  Runs.run CgroupPktCounts.step .initial packets

/-- What the lookups of a round find. -/
def CgroupPktCounts.copied (packets : List (Placed possibleCpus SkbHook)) (handled : Nat → Nat → Nat) :
    CgroupPktCounts where
  ingress := ⟨fun cpu key => (run (packets.take (handled 0 cpu))).ingress.counts cpu key⟩
  egress := ⟨fun cpu key => (run (packets.take (handled 1 cpu))).egress.counts cpu key⟩

/-- A packet adds to the slot of its CPU in the array of its hook. -/
theorem ingress_adds : Sharded.Adds (CgroupPktCounts.step : _ → Placed possibleCpus SkbHook → _)
    (fun maps cpu => maps.ingress.counts cpu 0) (fun placed => placed.1.val)
    fun placed => if placed.2.position = 0 then (1 : U64) else 0 := by
  rintro maps ⟨cpu, hook⟩ other
  cases hook with
  | ingress =>
      change (if other = cpu ∧ 0 = 0 then maps.ingress.counts cpu 0 + 1 else maps.ingress.counts other 0) = _
      by_cases here : other = cpu <;> simp [here, SkbHook.position]
  | egress =>
      change maps.ingress.counts other 0 = _
      simp [SkbHook.position]

theorem egress_adds : Sharded.Adds (CgroupPktCounts.step : _ → Placed possibleCpus SkbHook → _)
    (fun maps cpu => maps.egress.counts cpu 0) (fun placed => placed.1.val)
    fun placed => if placed.2.position = 1 then (1 : U64) else 0 := by
  rintro maps ⟨cpu, hook⟩ other
  cases hook with
  | ingress =>
      change maps.egress.counts other 0 = _
      simp [SkbHook.position]
  | egress =>
      change (if other = cpu ∧ 0 = 0 then maps.egress.counts cpu 0 + 1 else maps.egress.counts other 0) = _
      by_cases here : other = cpu <;> simp [here, SkbHook.position]

end CgroupSkb

/-- The lines of the two arrays, in the order in which they are read. -/
def cgroupSkbLines : List (U64 → List Piece) :=
  [totalLine "cgroup ingress packets = ", totalLine "cgroup egress packets = "]

/-- `print_stats` of example_cgroup_skb_user.c: the entry 0 of one array after the other. -/
def cgroupSkbPrintStats (possibleCpus : Nat) (maps : CgroupPktCounts) (values : Vector U64 128) :
    Access (List (List Piece)) :=
  printCounters
    (fun position =>
      (if position = 0 then maps.ingress else maps.egress).lookupElem 1 possibleCpus 0)
    (fun values => sumValues values (clampedCpus possibleCpus)) cgroupSkbLines 0 values.toList

/-- The reader of the two arrays reads as one of an array with two entries. -/
theorem cgroupSkbPrintStats_eq {possibleCpus : Nat} {maps : CgroupPktCounts} {both : PerCpuCounts}
    (ingress : ∀ cpu, maps.ingress.counts cpu 0 = both.counts cpu 0)
    (egress : ∀ cpu, maps.egress.counts cpu 0 = both.counts cpu 1) (values : Vector U64 128) :
    cgroupSkbPrintStats possibleCpus maps values = printTotals 2 possibleCpus cgroupSkbLines both values := by
  have first : maps.ingress.slots possibleCpus 0 = both.slots possibleCpus 0 :=
    List.map_congr_left fun cpu _ => ingress cpu
  have second : maps.egress.slots possibleCpus 0 = both.slots possibleCpus 1 :=
    List.map_congr_left fun cpu _ => egress cpu
  simp [cgroupSkbPrintStats, printTotals, cgroupSkbLines, printCounters, PerCpuCounts.lookupElem, first, second]

/-- A round of the loop prints the totals of the two arrays. -/
theorem cgroupSkb_totals {possibleCpus : Nat} (packets : List (Placed possibleCpus SkbHook))
    (handled : Nat → Nat → Nat) (values : Vector U64 128) :
    cgroupSkbPrintStats possibleCpus (CgroupPktCounts.copied packets handled) values =
      printTotals 2 possibleCpus cgroupSkbLines (copiedCounts SkbHook.position packets handled) values := by
  apply cgroupSkbPrintStats_eq
  · exact fun cpu => slot_run ingress_adds (fun _ => rfl) _ cpu
  · exact fun cpu => slot_run egress_adds (fun _ => rfl) _ cpu

/-! ### The loops -/

/-- The loops of the programs with a counter of every event. -/
theorem oneCounter_watchedBy (verdict : S32) (label : String) :
    (oneCounter verdict).WatchedBy [totalLine label] (printTotal label) :=
  (oneCounter verdict).watchedBy_printTotals (List.cons_ne_nil (totalLine label) []) (Nat.le_refl _)

/-- **The counters of S1-basic that are watched while they count.** In each of these programs every line of
every round is the number of events of its counter at one moment of its lookup, on every machine with at most
128 possible CPUs; on any other the first round writes past its buffer. -/
theorem loops_watch_counts :
    (execveCounter.WatchedBy [execveLine] printCount ∧
      (oneCounter 0).WatchedBy [totalLine "fork count = "] forkPrintCount ∧
      (oneCounter 0).WatchedBy [totalLine "perf samples = "] perfPrintStats) ∧
    (xdpCounter.WatchedBy [xdpPacketsLine] xdpPrintStats ∧
      (oneCounter 0).WatchedBy [totalLine "tc packets = "] tcPrintStats ∧
      (oneCounter 0).WatchedBy [totalLine "socket packets = "] socketFilterPrintStats) ∧
    bpfCmdCounter.WatchedBy (["prog_load", "map_create", "prog_attach", "prog_detach", "other"].map cmdLine)
      bpfPrintStats ∧
    cgroupDevice.WatchedBy devLines devPrintStats ∧
    (oneCounter 1).WatchedBy [totalLine "socket_create count = "] cgroupSockPrintStats ∧
    cgroupSockopt.WatchedBy sockoptLines sockoptPrintStats ∧
    cgroupSysctl.WatchedBy (["read", "write"].map sysctlLine) sysctlPrintStats ∧
    WatchesCounts SkbHook.position cgroupSkbLines fun {possibleCpus} packets handled values =>
      cgroupSkbPrintStats possibleCpus (CgroupPktCounts.copied packets handled) values := by
  refine ⟨⟨?execs, oneCounter_watchedBy .., oneCounter_watchedBy ..⟩,
    ⟨?frames, oneCounter_watchedBy .., oneCounter_watchedBy ..⟩, ?commands, ?accesses,
    oneCounter_watchedBy .., ?options, ?sysctls, ?packets⟩
  case execs => exact execveCounter.watchedBy_printTotals (List.cons_ne_nil execveLine []) (Nat.le_refl _)
  case frames => exact xdpCounter.watchedBy_printTotals (List.cons_ne_nil xdpPacketsLine []) (Nat.le_refl _)
  case commands => exact bpfCmdCounter.watchedBy_printTotals (by simp) (Nat.le_refl _)
  case accesses => exact cgroupDevice.watchedBy_printTotals (by simp [devLines]) (Nat.le_refl _)
  case options => exact cgroupSockopt.watchedBy_printTotals (by simp [sockoptLines]) (Nat.le_refl _)
  case sysctls => exact cgroupSysctl.watchedBy_printTotals (by simp) (Nat.le_refl _)
  case packets => exact watchesCounts_of_totals (by simp [cgroupSkbLines]) (Nat.le_refl _) cgroupSkb_totals

end MonsaEbpf.S1

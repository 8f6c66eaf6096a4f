/-
Module: MonsaEbpf.S1.CountReaders
Layer: S1
Purpose: The counting programs of S1-basic/examples/tracing/tracepoint, network/xdp and cgroup/cgroup_bpf and
  their readers. Each reader adds up the slots of at most 128 CPUs, in a buffer of 128 values that the lookup
  fills with a slot for every possible CPU.
Imports: MonsaEbpf.Bpf.PerCpuCounters
Trusted boundary: human-reviewed translation
Main exports: msbExecveEnter, execveCounter, printCount, xdpPassMinimal, xdpCounter, xdpPrintStats, msbLsmBpf,
  bpfCmdCounter, bpfPrintStats, counters_read_back_iff
-/
import MonsaEbpf.Bpf.PerCpuCounters

namespace MonsaEbpf.S1

open Wire Printf

/-! ### tracepoint -/

/-- `msb_execve_enter`; it does not look at its context. -/
def msbExecveEnter (cpu : Nat) (_ : Unit) : StepProgram (BpfOp PerCpuCountMap) PerCpuCounts S32 := do
  bump 1 cpu 0
  return 0

def execveCounter : CounterProgram Unit where
  counterMax := 1
  index := fun _ => 0
  verdict := 0
  inside := fun _ => Nat.zero_lt_one

theorem execveCounter_handler : execveCounter.handler = msbExecveEnter := rfl

/-- `"execve count = %llu\n"`. -/
def execveLine (total : U64) : List Piece :=
  [.text "execve count = ", .number total.toNat, .text "\n"]

/-- `print_count`. -/
def printCount (possibleCpus : Nat) (maps : PerCpuCounts) (values : Vector U64 128) :
    Access (List (List Piece)) :=
  printTotals 1 possibleCpus [execveLine] maps values

/-! ### xdp -/

/-- `xdp_pass` of the minimal example, which returns `XDP_PASS`. -/
def xdpPassMinimal (cpu : Nat) (_ : Unit) : StepProgram (BpfOp PerCpuCountMap) PerCpuCounts S32 := do
  bump 1 cpu 0
  return 2

def xdpCounter : CounterProgram Unit where
  counterMax := 1
  index := fun _ => 0
  verdict := 2
  inside := fun _ => Nat.zero_lt_one

theorem xdpCounter_handler : xdpCounter.handler = xdpPassMinimal := rfl

/-- `"xdp packets = %llu\n"`. -/
def xdpPacketsLine (total : U64) : List Piece :=
  [.text "xdp packets = ", .number total.toNat, .text "\n"]

/-- `print_stats` of xdp_pass_user.c. -/
def xdpPrintStats (possibleCpus : Nat) (maps : PerCpuCounts) (values : Vector U64 128) :
    Access (List (List Piece)) :=
  printTotals 1 possibleCpus [xdpPacketsLine] maps values

/-! ### cgroup_bpf -/

/-- `enum counter_idx`. -/
def PROG_LOAD_CNT : Nat := 0
def MAP_CREATE_CNT : Nat := 1
def PROG_ATTACH_CNT : Nat := 2
def PROG_DETACH_CNT : Nat := 3
def OTHER_CMD_CNT : Nat := 4

/-- Commands of `enum bpf_cmd`. -/
def BPF_MAP_CREATE : S32 := 0
def BPF_PROG_LOAD : S32 := 5
def BPF_PROG_ATTACH : S32 := 8
def BPF_PROG_DETACH : S32 := 9

/-- The counter that the switch over `cmd` chooses. -/
def cmdCounter (cmd : S32) : Nat :=
  if cmd = BPF_PROG_LOAD then PROG_LOAD_CNT
  else if cmd = BPF_MAP_CREATE then MAP_CREATE_CNT
  else if cmd = BPF_PROG_ATTACH then PROG_ATTACH_CNT
  else if cmd = BPF_PROG_DETACH then PROG_DETACH_CNT
  else OTHER_CMD_CNT

/-- `msb_lsm_bpf`; of its arguments it reads `cmd`. -/
def msbLsmBpf (cpu : Nat) (cmd : S32) : StepProgram (BpfOp PerCpuCountMap) PerCpuCounts S32 := do
  let idx := cmdCounter cmd
  bump 5 cpu idx
  return 0

theorem cmdCounter_lt (cmd : S32) : cmdCounter cmd < 5 := by
  unfold cmdCounter
  split
  · decide
  · split
    · decide
    · split
      · decide
      · split <;> decide

def bpfCmdCounter : CounterProgram S32 where
  counterMax := 5
  index := cmdCounter
  verdict := 0
  inside := cmdCounter_lt

theorem bpfCmdCounter_handler : bpfCmdCounter.handler = msbLsmBpf := rfl

/-- `"%s = %llu\n"`. -/
def cmdLine (name : String) (total : U64) : List Piece :=
  [.text name, .text " = ", .number total.toNat, .text "\n"]

/-- `print_stats` of example_cgroup_bpf_user.c. -/
def bpfPrintStats (possibleCpus : Nat) (maps : PerCpuCounts) (values : Vector U64 128) :
    Access (List (List Piece)) :=
  printTotals 5 possibleCpus (["prog_load", "map_create", "prog_attach", "prog_detach", "other"].map cmdLine)
    maps values

/-! ### Reading back -/

section ReadBack

variable {possibleCpus : Nat}

/-- How many commands the handler counts under a key, modulo 2^64. -/
def countCmds (commands : List (Placed possibleCpus S32)) (key : Nat) : U64 :=
  (commands.countP fun placed => cmdCounter placed.2 = key : Nat)

/-- The lookup of `print_count` stays in its array, and it prints the number of execs. -/
def ExecsReadBack (execs : List (Placed possibleCpus Unit)) (values : Vector U64 128) : Prop :=
  slotBytes possibleCpus ≤ slotBytes 128 ∧
    printCount possibleCpus (execveCounter.run execs) values = .ok [execveLine (execs.length : Nat)]

/-- The lookup of `print_stats` stays in its array, and it prints the number of packets. -/
def PacketsReadBack (packets : List (Placed possibleCpus Unit)) (values : Vector U64 128) : Prop :=
  slotBytes possibleCpus ≤ slotBytes 128 ∧
    xdpPrintStats possibleCpus (xdpCounter.run packets) values = .ok [xdpPacketsLine (packets.length : Nat)]

/-- The lookups of `print_stats` stay in their array, and it prints the number of commands of each kind. -/
def CommandsReadBack (commands : List (Placed possibleCpus S32)) (values : Vector U64 128) : Prop :=
  slotBytes possibleCpus ≤ slotBytes 128 ∧
    bpfPrintStats possibleCpus (bpfCmdCounter.run commands) values =
      .ok [cmdLine "prog_load" (countCmds commands PROG_LOAD_CNT),
        cmdLine "map_create" (countCmds commands MAP_CREATE_CNT),
        cmdLine "prog_attach" (countCmds commands PROG_ATTACH_CNT),
        cmdLine "prog_detach" (countCmds commands PROG_DETACH_CNT),
        cmdLine "other" (countCmds commands OTHER_CMD_CNT)]

/-- A program with one counter assigns every event to it. -/
theorem assigned_single (program : CounterProgram Unit) (single : ∀ event, program.index event = 0)
    (events : List (Placed possibleCpus Unit)) : program.assigned events 0 = events.length := by
  rw [CounterProgram.assigned, List.countP_eq_length]
  intro placed _
  exact decide_eq_true (single placed.2)

theorem execs_read_back_iff (execs : List (Placed possibleCpus Unit)) (values : Vector U64 128) :
    ExecsReadBack execs values ↔ possibleCpus ≤ 128 := by
  have shown := execveCounter.printTotals_run_iff (List.cons_ne_nil execveLine []) (by decide) execs values
  rw [ExecsReadBack, ← assigned_single execveCounter (fun _ => rfl) execs]
  exact shown

theorem packets_read_back_iff (packets : List (Placed possibleCpus Unit)) (values : Vector U64 128) :
    PacketsReadBack packets values ↔ possibleCpus ≤ 128 := by
  have shown := xdpCounter.printTotals_run_iff (List.cons_ne_nil xdpPacketsLine []) (by decide) packets values
  rw [PacketsReadBack, ← assigned_single xdpCounter (fun _ => rfl) packets]
  exact shown

theorem commands_read_back_iff (commands : List (Placed possibleCpus S32)) (values : Vector U64 128) :
    CommandsReadBack commands values ↔ possibleCpus ≤ 128 :=
  bpfCmdCounter.printTotals_run_iff (by simp) (by decide) commands values

/-- **The counters of the three programs are read back exactly on machines with at most 128 possible CPUs**,
whatever was counted and wherever. -/
theorem counters_read_back_iff (execs packets : List (Placed possibleCpus Unit))
    (commands : List (Placed possibleCpus S32)) (values : Vector U64 128) :
    (ExecsReadBack execs values ↔ possibleCpus ≤ 128) ∧
      (PacketsReadBack packets values ↔ possibleCpus ≤ 128) ∧
      (CommandsReadBack commands values ↔ possibleCpus ≤ 128) :=
  ⟨execs_read_back_iff execs values, packets_read_back_iff packets values,
    commands_read_back_iff commands values⟩

end ReadBack

/-- One exec on a machine with 129 possible CPUs: the lookup writes past the array. -/
theorem execs_not_read_back : ¬ ExecsReadBack [((0 : Fin 129), ())] (Vector.replicate 128 0) := by
  rintro ⟨fits, -⟩
  exact absurd fits (by decide)

end MonsaEbpf.S1

/-
Module: MonsaEbpf.S1.CgroupSockAddr
Layer: S1
Purpose: S1-basic/examples/cgroup/cgroup_sock_addr: connects, binds and messages sent, for both address
  families, in one per-CPU array. The reader gives its lookups a single 64-bit variable.
Imports: MonsaEbpf.Bpf.PerCpuCounters
Trusted boundary: human-reviewed translation
Main exports: SockAddrHook, msbConnect4, msbConnect6, msbBind4, msbBind6, msbSendmsg4, msbSendmsg6,
  cgroupSockAddr, sockAddrPrintStats, ShowsHooks, shows_hooks_iff
-/
import MonsaEbpf.Bpf.PerCpuCounters

namespace MonsaEbpf.S1

open Wire Printf

/-- `enum counter_idx`. -/
def CONNECT_CNT : Nat := 0
def BIND_CNT : Nat := 1
def SENDMSG_CNT : Nat := 2

/-- The handlers bump their counter and allow the call. -/
def bumpAndAllow (counter cpu : Nat) : StepProgram (BpfOp PerCpuCountMap) PerCpuCounts S32 := do
  bump 3 cpu counter
  return 1

def msbConnect4 := bumpAndAllow CONNECT_CNT
def msbConnect6 := bumpAndAllow CONNECT_CNT
def msbBind4 := bumpAndAllow BIND_CNT
def msbBind6 := bumpAndAllow BIND_CNT
def msbSendmsg4 := bumpAndAllow SENDMSG_CNT
def msbSendmsg6 := bumpAndAllow SENDMSG_CNT

/-- The hooks that the programs are attached to. -/
inductive SockAddrHook where
  | connect4
  | connect6
  | bind4
  | bind6
  | sendmsg4
  | sendmsg6
deriving DecidableEq, Repr

namespace SockAddrHook

/-- The handler of a hook. -/
def handler : SockAddrHook → Nat → StepProgram (BpfOp PerCpuCountMap) PerCpuCounts S32
  | .connect4 => msbConnect4
  | .connect6 => msbConnect6
  | .bind4 => msbBind4
  | .bind6 => msbBind6
  | .sendmsg4 => msbSendmsg4
  | .sendmsg6 => msbSendmsg6

def IsConnect (hook : SockAddrHook) : Prop := hook = .connect4 ∨ hook = .connect6
def IsBind (hook : SockAddrHook) : Prop := hook = .bind4 ∨ hook = .bind6
def IsSendmsg (hook : SockAddrHook) : Prop := hook = .sendmsg4 ∨ hook = .sendmsg6

instance : DecidablePred IsConnect := fun _ => inferInstanceAs (Decidable (_ ∨ _))
instance : DecidablePred IsBind := fun _ => inferInstanceAs (Decidable (_ ∨ _))
instance : DecidablePred IsSendmsg := fun _ => inferInstanceAs (Decidable (_ ∨ _))

/-- The counter that the handler of a hook bumps. -/
def counter : SockAddrHook → Nat
  | .connect4 | .connect6 => CONNECT_CNT
  | .bind4 | .bind6 => BIND_CNT
  | .sendmsg4 | .sendmsg6 => SENDMSG_CNT

theorem counter_lt (hook : SockAddrHook) : hook.counter < 3 := by
  cases hook <;> decide

theorem counter_eq_connect (hook : SockAddrHook) : hook.counter = CONNECT_CNT ↔ hook.IsConnect := by
  cases hook <;> decide

theorem counter_eq_bind (hook : SockAddrHook) : hook.counter = BIND_CNT ↔ hook.IsBind := by
  cases hook <;> decide

theorem counter_eq_sendmsg (hook : SockAddrHook) : hook.counter = SENDMSG_CNT ↔ hook.IsSendmsg := by
  cases hook <;> decide

end SockAddrHook

/-- The six programs as one counting program. -/
def cgroupSockAddr : CounterProgram SockAddrHook where
  counterMax := 3
  index := SockAddrHook.counter
  verdict := 1
  inside := SockAddrHook.counter_lt

theorem cgroupSockAddr_handler (hook : SockAddrHook) (cpu : Nat) :
    cgroupSockAddr.handler cpu hook = hook.handler cpu := by
  cases hook <;> rfl

/-! ### The user program -/

/-- The lines of `print_stats`, by key. -/
def sockAddrLines : List (U64 → List Piece) :=
  ["connect", "bind", "sendmsg"].map fun name value => countLine name value.toNat

/-- `print_stats`; the buffer of its lookups is the one variable `value`. -/
def sockAddrPrintStats (possibleCpus : Nat) (maps : PerCpuCounts) (value : U64) :
    Access (List (List Piece)) :=
  printCounters (maps.lookupElem 3 possibleCpus) (fun values => loadSlot values 0) sockAddrLines 0 [value]

/-! ### What it shows -/

/-- How many events are of a kind. -/
def countHooks {possibleCpus : Nat} (kind : SockAddrHook → Prop) [DecidablePred kind]
    (events : List (Placed possibleCpus SockAddrHook)) : Nat :=
  events.countP fun placed => kind placed.2

/-- The user program shows the number of connects, binds and messages, and its lookups stay in `value`. -/
def ShowsHooks {possibleCpus : Nat} (events : List (Placed possibleCpus SockAddrHook)) (value : U64) : Prop :=
  slotBytes possibleCpus ≤ slotBytes 1 ∧
    sockAddrPrintStats possibleCpus (cgroupSockAddr.run events) value =
      .ok [countLine "connect" (countHooks SockAddrHook.IsConnect events),
        countLine "bind" (countHooks SockAddrHook.IsBind events),
        countLine "sendmsg" (countHooks SockAddrHook.IsSendmsg events)]

/-- What belongs to a counter. -/
theorem assigned_eq_countHooks {possibleCpus key : Nat} {kind : SockAddrHook → Prop} [DecidablePred kind]
    (counts : ∀ hook : SockAddrHook, hook.counter = key ↔ kind hook)
    (events : List (Placed possibleCpus SockAddrHook)) :
    cgroupSockAddr.assigned events key = countHooks kind events := by
  rw [CounterProgram.assigned, countHooks]
  congr 1
  funext placed
  exact decide_eq_decide.mpr (counts placed.2)

/-- On a single CPU the one slot is the sum. -/
theorem sockAddrPrintStats_single (events : List (Placed 1 SockAddrHook)) (value : U64) :
    sockAddrPrintStats 1 (cgroupSockAddr.run events) value =
      .ok (counterLines sockAddrLines 0 fun key => (cgroupSockAddr.assigned events key : U64)) := by
  have reads (key : Nat) (rest : List U64) :
      loadSlot ((cgroupSockAddr.run events).slots 1 key ++ rest) 0 =
        .ok (cgroupSockAddr.assigned events key : U64) := by
    rw [← cgroupSockAddr.sum_counts_run events key, Finset.sum_range_one]
    rfl
  exact printCounters_fits _ reads sockAddrLines (by decide) (by simp)

/-- With more CPUs the first lookup writes past the variable. -/
theorem sockAddrPrintStats_many {possibleCpus : Nat} (many : 1 < possibleCpus) (maps : PerCpuCounts)
    (value : U64) : sockAddrPrintStats possibleCpus maps value = .error (.outOfBounds (8 * 1)) :=
  printCounters_overruns _ _ _ (by decide) many

/-- **The user program shows the events exactly on machines with one possible CPU**, while no count has
reached 2^64. -/
theorem shows_hooks_iff {possibleCpus : Nat} (present : 1 ≤ possibleCpus)
    (events : List (Placed possibleCpus SockAddrHook)) (value : U64) :
    ShowsHooks events value ↔ possibleCpus = 1 ∧ countHooks SockAddrHook.IsConnect events < 2 ^ 64 ∧
      countHooks SockAddrHook.IsBind events < 2 ^ 64 ∧ countHooks SockAddrHook.IsSendmsg events < 2 ^ 64 := by
  rw [ShowsHooks]
  by_cases single : possibleCpus = 1
  · subst single
    have lines (value : Nat → U64) : counterLines sockAddrLines 0 value =
        [countLine "connect" (value CONNECT_CNT).toNat, countLine "bind" (value BIND_CNT).toNat,
          countLine "sendmsg" (value SENDMSG_CNT).toNat] := rfl
    rw [sockAddrPrintStats_single, lines, assigned_eq_countHooks SockAddrHook.counter_eq_connect events,
      assigned_eq_countHooks SockAddrHook.counter_eq_bind events,
      assigned_eq_countHooks SockAddrHook.counter_eq_sendmsg events]
    simp only [Except.ok.injEq, List.cons.injEq, countLine_inj, toNat_count_eq_iff, le_refl, true_and, and_true]
  · have many : 1 < possibleCpus := by omega
    rw [sockAddrPrintStats_many many]
    constructor
    · rintro ⟨-, shown⟩
      cases shown
    · rintro ⟨same, -⟩
      exact absurd same single

/-- On one CPU a connect and a bind are shown. -/
theorem shows_hooks_single :
    1 ≤ 1 ∧ ShowsHooks [((0 : Fin 1), .connect4), (0, .bind6)] 0 :=
  ⟨by decide, (shows_hooks_iff (by decide) [((0 : Fin 1), .connect4), (0, .bind6)] 0).mpr (by decide)⟩

/-- On a machine with two possible CPUs the reader writes past its variable before it shows anything. -/
theorem shows_no_hooks_of_two : ¬ ShowsHooks [((1 : Fin 2), .connect4)] 0 := by
  rintro ⟨fits, -⟩
  exact absurd fits (by decide)

end MonsaEbpf.S1

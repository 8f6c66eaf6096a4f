/-
Module: MonsaEbpf.User.Lifecycle
Layer: User
Purpose: The calls that the `main` functions make from their arguments to their exit status, and what a run of
  them has to account for: descriptors, skeletons, links and ring buffers leave the hand exactly once and in an
  order in which nothing is used behind that, and the exit status tells whether the set-up went through. A run
  has any answers to the calls, and any number of rounds before the flag `stop` is seen.
Imports: MonsaEbpf.Lib.Custody, MonsaEbpf.User.PollLoops
Trusted boundary: human-reviewed translation; which handles the functions of libbpf hand out. What they do with
  a null pointer and with the descriptor of a perf event is the parameter `Libbpf`, with the assumptions
  `Libbpf.IgnoresNull` and `Libbpf.LinkOwnsDescriptor`.
Main exports: SysCall, Main, Libbpf, Libbpf.IgnoresNull, Libbpf.LinkOwnsDescriptor, signalsFail, attachAll,
  detachAll, pollUntilStopped, watchMaps, listen, SysCall.fails,
  polls, Accounts, PerfAccounts, Seen, note, accounts_of_leads, perfAccounts_of_leads
-/
import MonsaEbpf.Lib.Custody
import MonsaEbpf.User.PollLoops

namespace MonsaEbpf.User

open Custody
open Printf (Piece)

/-! ### Calls -/

/-- The kernel programs that are attached by their names. -/
inductive KernelProgram where
  | msbCgroupDev
  | msbCgroupIngress
  | msbCgroupEgress
  | msbCgroupSock
  | msbConnect4
  | msbConnect6
  | msbBind4
  | msbBind6
  | msbSendmsg4
  | msbSendmsg6
  | msbSetsockopt
  | msbGetsockopt
  | msbCgroupSysctl
  | msbSkLookup
  | msbSocketFilter
  | msbTcClassifier
  | xdpPass
  | msbPerfSample
  | msbUprobeTarget
  | msbUretprobeEntry
  | msbUretprobeExit
  | msbCgroupBpf
  | msbCgroupDevice
  | msbCgroupSkb
  | msbCgroupSockAddr
  | msbCgroupSockopt
  | msbUprobeEntry
  | msbPerfEvent
deriving DecidableEq, Repr

/-- Where a function `bpf_program__attach_..` attaches a program. Cgroups and perf events are descriptors; the
network namespace is the current one, and the process that is probed any. -/
inductive Hook where
  | cgroup
  | netns
  | perfEvent
  | xdp (ifindex : S32)
  | uprobe (retprobe : Bool) (binary : String) (offset : Nat)
  | uprobeOpts (retprobe : Bool) (binary : String) (offset : Nat) (funcName : String)
deriving DecidableEq, Repr

inductive Signal where
  | sigint
  | sigterm
deriving DecidableEq, Repr

/-- What the user programs call. `readMaps` is what they print of their maps, once a second. -/
inductive SysCall where
  | signal (sig : Signal)
  | ifNametoindex (ifname : String)
  | openCgroup (path : String) (directory : Bool)
  | socket
  | bind (ifindex : S32)
  | setsockopt (program : KernelProgram)
  | perfEventOpen (cpu : S32)
  | openAndLoad
  | attachSkeleton
  | attach (program : KernelProgram) (hook : Hook)
  | bpfXdpAttach (program : KernelProgram) (ifindex : S32)
  | bpfTcHookCreate (ifindex : S32)
  | bpfTcAttach (program : KernelProgram) (ifindex : S32)
  | bpfTcDetach (ifindex : S32)
  | bpfTcHookDestroy (ifindex : S32)
  | ringBufferNew
  | ringBufferPoll
  | readMaps
  | printf (line : List Piece)
  | fprintfStderr (line : List Piece)
  | perror (text : String)
  | ringBufferFree
  | bpfLinkDestroy
  | bpfXdpDetach (ifindex : S32)
  | close
  | destroy
deriving DecidableEq, Repr

/-- A function of a user program. -/
abbrev Main := Program SysCall S32

/-- What the programs rely on libbpf for and cannot see in its answers. -/
class Libbpf where
  /-- What a function that gives back a handle does with a null pointer. -/
  withNull : SysCall → Main Unit
  /-- The descriptor that a link of `bpf_program__attach_perf_event` closes when it is destroyed. -/
  takesOver : Nat → Option Nat

/-- `ring_buffer__free`, `bpf_link__destroy` and `.._bpf__destroy` do nothing with a null pointer. -/
class Libbpf.IgnoresNull [Libbpf] : Prop where
  withNull_eq : ∀ call, Libbpf.withNull call = .ret ()

/-- The link of a perf event owns the descriptor that it was attached to: `bpf_link__destroy` closes it. -/
class Libbpf.LinkOwnsDescriptor [Libbpf] : Prop where
  takesOver_eq : ∀ perfFd, Libbpf.takesOver perfFd = some perfFd

/-- Libbpf as it is documented. -/
@[reducible] def Libbpf.documented : Libbpf where
  withNull _ := .ret ()
  takesOver := some

theorem Libbpf.documented_ignoresNull : @Libbpf.IgnoresNull .documented :=
  @Libbpf.IgnoresNull.mk .documented fun _ => rfl

theorem Libbpf.documented_linkOwnsDescriptor : @Libbpf.LinkOwnsDescriptor .documented :=
  @Libbpf.LinkOwnsDescriptor.mk .documented fun _ => rfl

def SIG_ERR : S32 := -1

def EEXIST : S32 := 17

/-- `printf`, and `fprintf` to the standard output. -/
def say (line : List Piece) : Main Unit :=
  .ask (.printf line) [] fun _ => .ret ()

/-- One `printf` after another. -/
def sayAll : List (List Piece) → Main Unit
  | [] => .ret ()
  | line :: lines => do
      say line
      sayAll lines

/-- `fprintf(stderr, ..)`. -/
def complain (line : List Piece) : Main Unit :=
  .ask (.fprintfStderr line) [] fun _ => .ret ()

def perror (text : String) : Main Unit :=
  .ask (.perror text) [] fun _ => .ret ()

def signal (sig : Signal) : Main S32 :=
  .ask (.signal sig) [] .ret

def ifNametoindex (ifname : String) : Main S32 :=
  .ask (.ifNametoindex ifname) [] .ret

/-- `open` of a cgroup; none when the descriptor is negative. -/
def openCgroup (path : String) (directory : Bool) : Main (Except S32 Nat) :=
  .acquire (.openCgroup path directory) [] none .ret

def perfEventOpen (cpu : S32) : Main (Except S32 Nat) :=
  .acquire (.perfEventOpen cpu) [] none .ret

def openAndLoad : Main (Except S32 Nat) :=
  .acquire .openAndLoad [] none .ret

/-- `.._bpf__attach`: the links belong to the skeleton. -/
def attachSkeleton (skel : Nat) : Main S32 :=
  .ask .attachSkeleton [skel] .ret

/-- `bpf_program__attach_..` with the skeleton, and a descriptor if the hook is one. -/
def attach (program : KernelProgram) (hook : Hook) (skel : Nat) (descriptor : Option Nat) :
    Main (Except S32 Nat) :=
  .acquire (.attach program hook) (skel :: descriptor.toList) none .ret

/-- `bpf_program__attach_perf_event`, with the descriptor that the link takes over. -/
def attachPerfEvent [Libbpf] (program : KernelProgram) (skel perfFd : Nat) : Main (Except S32 Nat) :=
  .acquire (.attach program .perfEvent) [skel] (Libbpf.takesOver perfFd) .ret

def ringBufferNew (skel : Nat) : Main (Except S32 Nat) :=
  .acquire .ringBufferNew [skel] none .ret

/-- A function of libbpf that gives back a handle, which may be a null pointer. -/
def releaseIfAny [Libbpf] (call : SysCall) : Option Nat → Main Unit
  | none => Libbpf.withNull call
  | some handle => .release call handle (.ret ())

def ringBufferFree [Libbpf] (rb : Option Nat) : Main Unit :=
  releaseIfAny .ringBufferFree rb

def bpfLinkDestroy [Libbpf] (link : Option Nat) : Main Unit :=
  releaseIfAny .bpfLinkDestroy link

def destroy [Libbpf] (skel : Option Nat) : Main Unit :=
  releaseIfAny .destroy skel

/-- `if (fd >= 0) close(fd)`. -/
def close : Option Nat → Main Unit
  | none => .ret ()
  | some fd => .release .close fd (.ret ())

/-! ### Parts of `main` -/

/-- `argv[index]`. -/
def argument (argv : List String) (index : Nat) : String :=
  argv[index]?.getD ""

/-- `signal(SIGINT, ..) == SIG_ERR || signal(SIGTERM, ..) == SIG_ERR`. -/
def signalsFail : Main Bool := do
  let interrupt ← signal .sigint
  if interrupt = SIG_ERR then
    return true
  else
    let terminate ← signal .sigterm
    return decide (terminate = SIG_ERR)

/-- `while (!stop) { print_..(skel->maps..); sleep(1); }`, with so many rounds before the flag is seen. -/
def watchMaps (skel : Nat) : Nat → Main Unit
  | 0 => .ret ()
  | rounds + 1 => .ask .readMaps [skel] fun _ => watchMaps skel rounds

/-- `while (!stop) ring_buffer__poll(rb, 100);`. -/
def listen (rb : Nat) : Nat → Main Unit
  | 0 => .ret ()
  | rounds + 1 => .ask .ringBufferPoll [rb] fun _ => listen rb rounds

/-- The loop that ends with the first negative number, and what it leaves in `err`. -/
def pollUntilStopped (pollError : S32 → List Piece) (rb : Nat) : Nat → S32 → Main S32
  | 0, err => .ret err
  | rounds + 1, _ =>
      .ask .ringBufferPoll [rb] fun result =>
        if result = -EINTR then .ret 0
        else if result.toInt < 0 then do
          complain (pollError result)
          return result
        else pollUntilStopped pollError rb rounds result

/-- Programs attached to a cgroup one after another; none for those that are refused. -/
def attachAll (skel cgroup : Nat) : List KernelProgram → Main (List (Option Nat))
  | [] => .ret []
  | program :: programs => do
      let link ← attach program .cgroup skel (some cgroup)
      let links ← attachAll skel cgroup programs
      return link.toOption :: links

/-- `bpf_link__destroy` of one link after another. -/
def detachAll [Libbpf] : List (Option Nat) → Main Unit
  | [] => .ret ()
  | link :: links => do
      bpfLinkDestroy link
      detachAll links

/-! ### What a run accounts for -/

/-- The answers when only the call of one moment is refused. -/
def refusedAt (moment now : Nat) : S32 :=
  if now = moment then -1 else 0

/-- The answers that the programs take for failures; the S2 programs do not look at those of `signal`. -/
def SysCall.fails (checksSignals : Bool) (call : SysCall) (answer : S32) : Bool :=
  match call with
  | .signal _ => checksSignals && decide (answer = SIG_ERR)
  | .ifNametoindex _ => decide (answer = 0)
  | .bind _ | .setsockopt _ => decide (answer.toInt < 0)
  | .attachSkeleton | .bpfTcAttach _ _ => decide (answer ≠ 0)
  | .bpfTcHookCreate _ => decide (answer ≠ 0 ∧ answer ≠ -EEXIST)
  | _ => false

/-- A call fails. -/
def failed (checksSignals : Bool) : Event SysCall S32 → Bool
  | .acquire _ _ _ (.error _) => true
  | .acquire _ _ _ (.ok _) => false
  | .ask call _ answer => call.fails checksSignals answer
  | .release _ _ => false

/-- What a poll returns. -/
def pollResult? : Event SysCall S32 → Option S32
  | .ask .ringBufferPoll _ result => some result
  | _ => none

/-- What the polls of a trace return. -/
def polls (trace : List (Event SysCall S32)) : List S32 :=
  trace.filterMap pollResult?

/-- Every run of `main` is orderly, so that every handle leaves the hand exactly once; and `main` returns one when
it has too few arguments or a call fails, and otherwise what `finish` makes of the polls. -/
structure Accounts (checksSignals : Bool) (argc : Nat) (finish : List S32 → S32)
    (main : List String → Nat → Main S32) : Prop where
  orderly : ∀ argv rounds answers, Orderly (exec answers 0 (main argv rounds)).2
  once : ∀ argv rounds answers, (leaving (exec answers 0 (main argv rounds)).2).Perm
    (handedOut (exec answers 0 (main argv rounds)).2)
  status : ∀ argv rounds answers, (exec answers 0 (main argv rounds)).1 =
    if argv.length < argc ∨ (exec answers 0 (main argv rounds)).2.any (failed checksSignals) then 1
    else finish (polls (exec answers 0 (main argv rounds)).2)

/-- Every run of `main` gives everything back, what a link takes over twice: once with the link and once by itself.
A run that returns zero has a descriptor that is closed twice. -/
structure PerfAccounts (checksSignals : Bool) (main : List String → Nat → Main S32) : Prop where
  orderly_iff : ∀ argv rounds answers,
    Orderly (exec answers 0 (main argv rounds)).2 ↔ takenOver (exec answers 0 (main argv rounds)).2 = []
  twice : ∀ argv rounds answers, (leaving (exec answers 0 (main argv rounds)).2).Perm
    (handedOut (exec answers 0 (main argv rounds)).2 ++ takenOver (exec answers 0 (main argv rounds)).2)
  status : ∀ argv rounds answers, (exec answers 0 (main argv rounds)).1 =
    if (exec answers 0 (main argv rounds)).2.any (failed checksSignals) then 1 else 0
  succeeds : ∀ argv rounds answers, (exec answers 0 (main argv rounds)).1 = 0 →
    ∃ perfFd, takenOver (exec answers 0 (main argv rounds)).2 = [perfFd]

/-! ### Following a run -/

/-- What is kept of a trace. -/
structure Seen where
  hand : Hand
  failed : Bool
  took : List Nat
  polls : List S32

def Seen.start : Seen := ⟨.start, false, [], []⟩

def note (checksSignals : Bool) (seen : Seen) (event : Event SysCall S32) : Seen where
  hand := seen.hand.after event
  failed := seen.failed || User.failed checksSignals event
  took := seen.took ++ event.takenOver?.toList
  polls := seen.polls ++ (pollResult? event).toList

theorem run_note (checksSignals : Bool) (seen : Seen) (trace : List (Event SysCall S32)) :
    Runs.run (note checksSignals) seen trace =
      ⟨Runs.run Hand.after seen.hand trace, seen.failed || trace.any (failed checksSignals),
        seen.took ++ takenOver trace, seen.polls ++ polls trace⟩ := by
  induction trace generalizing seen with
  | nil => simp [polls, takenOver]
  | cons event rest ih =>
      rw [Runs.run_cons, ih, Runs.run_cons, List.any_cons, takenOver, takenOver, polls, polls, note]
      congr 1
      · exact Bool.or_assoc _ _ _
      · cases taken : event.takenOver? <;> simp [taken]
      · cases result : pollResult? event <;> simp [result]

namespace Seen

variable (seen : Seen)

/-- A handle was handed out. -/
def gain (handle : Nat) (needs : List Nat) : Seen :=
  { seen with hand := { seen.hand with held := ⟨handle, needs⟩ :: seen.hand.held } }

/-- A handle was given back. -/
def lose (handle : Nat) : Seen :=
  { seen with hand := { seen.hand with held := without seen.hand.held handle } }

/-- A call failed, or a condition says whether it did. -/
def failIf (fails : Bool) : Seen :=
  { seen with failed := seen.failed || fails }

/-- Links were handed out that need the same handles, or refused. -/
def gainAll (links : List (Option Nat)) (needs : List Nat) : Seen :=
  links.foldl (fun seen link => link.elim (seen.failIf true) fun handle => seen.gain handle needs) seen

/-- Links were given back. -/
def loseAll (links : List (Option Nat)) : Seen :=
  links.foldl (fun seen link => link.elim seen seen.lose) seen

/-- A handle was taken over. -/
def takeOver (handle : Nat) : Seen :=
  { seen.lose handle with took := seen.took ++ [handle] }

/-- A handle was given back that was not in hand. -/
def loseAgain (handle : Nat) : Seen :=
  { seen with hand := ⟨seen.hand.held, false, seen.hand.strays ++ [handle]⟩ }

/-- Polls returned these numbers. -/
def polled (results : List S32) : Seen :=
  { seen with polls := seen.polls ++ results }

end Seen

section Fields

variable {seen : Seen} {handle : Nat} {needs : List Nat} {fails : Bool} {results : List S32}

@[simp] theorem held_start : Seen.start.hand.held = [] := rfl

@[simp] theorem held_gain : (seen.gain handle needs).hand.held = ⟨handle, needs⟩ :: seen.hand.held := rfl

@[simp] theorem held_lose : (seen.lose handle).hand.held = without seen.hand.held handle := rfl

@[simp] theorem held_failIf : (seen.failIf fails).hand.held = seen.hand.held := rfl

@[simp] theorem held_polled : (seen.polled results).hand.held = seen.hand.held := rfl

@[simp] theorem held_takeOver : (seen.takeOver handle).hand.held = without seen.hand.held handle := rfl

@[simp] theorem held_loseAgain : (seen.loseAgain handle).hand.held = seen.hand.held := rfl

@[simp] theorem failed_start : Seen.start.failed = false := rfl

@[simp] theorem failed_gain : (seen.gain handle needs).failed = seen.failed := rfl

@[simp] theorem failed_lose : (seen.lose handle).failed = seen.failed := rfl

@[simp] theorem failed_failIf : (seen.failIf fails).failed = (seen.failed || fails) := rfl

@[simp] theorem failed_polled : (seen.polled results).failed = seen.failed := rfl

@[simp] theorem without_nil : without [] handle = [] := rfl

@[simp] theorem without_cons {holding : Holding} {held : List Holding} :
    without (holding :: held) handle =
      if holding.handle = handle then without held handle else holding :: without held handle := by
  by_cases same : holding.handle = handle <;> simp [without, same]

@[simp] theorem has_nil : ¬ Has [] handle := List.not_mem_nil

@[simp] theorem has_cons {holding : Holding} {held : List Holding} :
    Has (holding :: held) handle ↔ handle = holding.handle ∨ Has held handle :=
  List.mem_cons

end Fields

theorem without_of_not_has {held : List Holding} {handle : Nat} (gone : ¬ Has held handle) :
    without held handle = held := by
  rw [without, List.filter_eq_self]
  intro holding member
  simpa using fun same : holding.handle = handle => gone (List.mem_map.mpr ⟨holding, member, same⟩)

/-- What a run has to end with. -/
def AccountsFor (argv : List String) (argc : Nat) (finish : List S32 → S32) (status : S32) (seen : Seen) :
    Prop :=
  seen.hand = .start ∧ status = if argv.length < argc ∨ seen.failed then 1 else finish seen.polls

/-- Nothing is in hand, and everything has fitted. -/
theorem emptied {seen : Seen} (held : seen.hand.held = []) (fits : seen.hand.fits = true)
    (strays : seen.hand.strays = []) : seen.hand = .start :=
  Hand.ext held fits strays

section Ends

variable {argv : List String} {argc : Nat} {finish : List S32 → S32} {seen : Seen}

theorem accountsFor_usage (short : argv.length < argc) (empty : seen.hand = .start) :
    AccountsFor argv argc finish 1 seen :=
  ⟨empty, (if_pos (.inl short)).symm⟩

theorem accountsFor_failed (empty : seen.hand = .start) (failed : seen.failed = true) :
    AccountsFor argv argc finish 1 seen :=
  ⟨empty, (if_pos (.inr failed)).symm⟩

theorem accountsFor_finished {status : S32} (enough : ¬ argv.length < argc) (empty : seen.hand = .start)
    (succeeded : seen.failed = false) (finishes : status = finish seen.polls) :
    AccountsFor argv argc finish status seen := by
  refine ⟨empty, finishes.trans (if_neg ?_).symm⟩
  rw [succeeded]
  exact fun fails => fails.elim enough nofun

end Ends

/-- **A `main` that leads to what a run has to end with accounts for every run.** -/
theorem accounts_of_leads {checksSignals : Bool} {argc : Nat} {finish : List S32 → S32}
    {main : List String → Nat → Main S32}
    (leads : ∀ argv rounds, Leads (note checksSignals) (main argv rounds) 0 .start fun status _ seen =>
      AccountsFor argv argc finish status seen) : Accounts checksSignals argc finish main := by
  have ends (argv : List String) (rounds : Nat) (answers : Nat → S32) := exec_of_leads (leads argv rounds) answers
  simp only [run_note] at ends
  have orderly (argv : List String) (rounds : Nat) (answers : Nat → S32) :
      Orderly (exec answers 0 (main argv rounds)).2 := by
    obtain ⟨_, emptied, _⟩ := ends argv rounds answers
    exact orderly_iff.mpr emptied
  refine ⟨orderly, ?_, ?_⟩
  · intro argv rounds answers
    exact (orderly argv rounds answers).leave_once (nodup_handedOut answers 0 _)
  · intro argv rounds answers
    obtain ⟨_, _, status⟩ := ends argv rounds answers
    simpa [Seen.start] using status

/-- What a run has to end with that may have lost a descriptor to a link. -/
def PerfAccountsFor (status : S32) (seen : Seen) : Prop :=
  seen.hand = ⟨[], seen.took.isEmpty, seen.took⟩ ∧ (status = if seen.failed then 1 else 0) ∧
    (status = 0 → ∃ perfFd, seen.took = [perfFd])

theorem perfAccountsFor_failed {seen : Seen} (empty : seen.hand = .start) (kept : seen.took = [])
    (failed : seen.failed = true) : PerfAccountsFor 1 seen := by
  have nonzero : (1 : S32) ≠ 0 := by decide
  refine ⟨?_, (if_pos failed).symm, fun zero => absurd zero nonzero⟩
  rw [empty, kept]
  rfl

theorem perfAccounts_of_leads {checksSignals : Bool} {main : List String → Nat → Main S32}
    (leads : ∀ argv rounds, Leads (note checksSignals) (main argv rounds) 0 .start fun status _ seen =>
      PerfAccountsFor status seen) : PerfAccounts checksSignals main := by
  have ends (argv : List String) (rounds : Nat) (answers : Nat → S32) := exec_of_leads (leads argv rounds) answers
  simp only [run_note] at ends
  have emptied (argv : List String) (rounds : Nat) (answers : Nat → S32) :
      Runs.run Hand.after .start (exec answers 0 (main argv rounds)).2 =
        ⟨[], (takenOver (exec answers 0 (main argv rounds)).2).isEmpty,
          takenOver (exec answers 0 (main argv rounds)).2⟩ := by
    obtain ⟨_, hand, _⟩ := ends argv rounds answers
    exact hand
  constructor
  · intro argv rounds answers
    rw [orderly_iff, emptied]
    constructor
    · exact congrArg Hand.strays
    · intro none
      rw [none]
      rfl
  · intro argv rounds answers
    have returned : inHand (exec answers 0 (main argv rounds)).2 = [] :=
      (held_run .start _).symm.trans (congrArg Hand.held (emptied argv rounds answers))
    rw [List.perm_iff_count]
    intro handle
    have counts := count_leaving (nodup_handedOut answers 0 (main argv rounds)) handle
    rw [returned, emptied] at counts
    rw [List.count_append]
    exact counts
  · intro argv rounds answers
    obtain ⟨_, _, status, _⟩ := ends argv rounds answers
    exact status
  · intro argv rounds answers
    obtain ⟨_, _, _, taken⟩ := ends argv rounds answers
    exact taken

/-! ### Where the calls lead to -/

section Calls

variable {checksSignals : Bool} {now : Nat} {seen : Seen} {call : SysCall} {needs : List Nat}

/-- What is kept of a call that fits and takes no handle over. -/
theorem note_of_fits {event : Event SysCall S32} (fits : Fits seen.hand.held event)
    (keeps : event.takenOver? = none) :
    note checksSignals seen event =
      ⟨⟨hold seen.hand.held event, seen.hand.fits, seen.hand.strays⟩, seen.failed || failed checksSignals event,
        seen.took, seen.polls ++ (pollResult? event).toList⟩ := by
  rw [note, Hand.after, decide_eq_true fits, stray_of_fits fits, keeps, Bool.and_true, List.append_nil,
    Option.toList_none, List.append_nil]

/-- A call that fits and is no poll leaves the summary, up to its failure. -/
theorem note_ask (has : ∀ need ∈ needs, Has seen.hand.held need) (quiet : call ≠ .ringBufferPoll) (answer : S32) :
    note checksSignals seen (.ask call needs answer) = seen.failIf (call.fails checksSignals answer) := by
  have fits : Fits seen.hand.held (.ask call needs answer : Event SysCall S32) := has
  have silent : pollResult? (.ask call needs answer) = none := by
    cases call with
    | ringBufferPoll => exact absurd rfl quiet
    | _ => rfl
  rw [note_of_fits fits rfl, silent, Option.toList_none, List.append_nil]
  rfl

/-- A poll fails nothing. -/
theorem note_poll (has : ∀ need ∈ needs, Has seen.hand.held need) (result : S32) :
    note checksSignals seen (.ask .ringBufferPoll needs result) = seen.polled [result] := by
  have fits : Fits seen.hand.held (.ask .ringBufferPoll needs result : Event SysCall S32) := has
  have counts : failed checksSignals (.ask .ringBufferPoll needs result) = false := rfl
  rw [note_of_fits fits rfl, counts, Bool.or_false]
  rfl

theorem note_release {handle : Nat} (free : Free seen.hand.held handle) :
    note checksSignals seen (.release call handle) = seen.lose handle := by
  have fits : Fits seen.hand.held (.release call handle : Event SysCall S32) := free
  have succeeds : failed checksSignals (.release call handle) = false := rfl
  have silent : pollResult? (.release call handle) = none := rfl
  rw [note_of_fits fits rfl, succeeds, silent, Bool.or_false, Option.toList_none, List.append_nil]
  rfl

theorem note_granted (has : ∀ need ∈ needs, Has seen.hand.held need) (handle : Nat) :
    note checksSignals seen (.acquire call needs none (.ok handle)) = seen.gain handle needs := by
  have fits : Fits seen.hand.held (.acquire call needs none (.ok handle) : Event SysCall S32) := ⟨has, nofun⟩
  have succeeds : failed checksSignals (.acquire call needs none (.ok handle)) = false := rfl
  have silent : pollResult? (.acquire call needs none (.ok handle)) = none := rfl
  rw [note_of_fits fits rfl, succeeds, silent, Bool.or_false, Option.toList_none, List.append_nil]
  rfl

/-- A call that fits and is refused leaves the hand, also where it would have taken a handle over. -/
theorem note_refused {takes : Option Nat} (has : ∀ need ∈ needs, Has seen.hand.held need)
    (free : ∀ taken ∈ takes, Free seen.hand.held taken) (err : S32) :
    note checksSignals seen (.acquire call needs takes (.error err)) = seen.failIf true := by
  have fits : Fits seen.hand.held (.acquire call needs takes (.error err) : Event SysCall S32) := ⟨has, free⟩
  have silent : pollResult? (.acquire call needs takes (.error err)) = none := rfl
  rw [note_of_fits fits rfl, silent, Option.toList_none, List.append_nil]
  rfl

/-- A descriptor leaves the hand with a link that takes it over. -/
theorem note_takenOver {perfFd : Nat} (has : ∀ need ∈ needs, Has seen.hand.held need)
    (free : Free seen.hand.held perfFd) (handle : Nat) :
    note checksSignals seen (.acquire call needs (some perfFd) (.ok handle)) =
      (seen.takeOver perfFd).gain handle needs := by
  have fits : Fits seen.hand.held (.acquire call needs (some perfFd) (.ok handle) : Event SysCall S32) :=
    ⟨has, fun taken same => Option.some.inj same ▸ free⟩
  have succeeds : failed checksSignals (.acquire call needs (some perfFd) (.ok handle)) = false := rfl
  have silent : pollResult? (.acquire call needs (some perfFd) (.ok handle)) = none := rfl
  rw [note, Hand.after, decide_eq_true fits, stray_of_fits fits, succeeds, silent, Bool.or_false, Bool.and_true,
    List.append_nil, Option.toList_none, List.append_nil]
  rfl

/-- What leaves without being in hand is a stray. -/
theorem note_releaseAgain {handle : Nat} (gone : ¬ Has seen.hand.held handle) :
    note checksSignals seen (.release call handle) = seen.loseAgain handle := by
  have misfits : ¬ Fits seen.hand.held (.release call handle : Event SysCall S32) := fun free => gone free.1
  have succeeds : failed checksSignals (.release call handle) = false := rfl
  have silent : pollResult? (.release call handle) = none := rfl
  have keeps : (Event.release call handle : Event SysCall S32).takenOver? = none := rfl
  have kept : hold seen.hand.held (.release call handle : Event SysCall S32) = seen.hand.held :=
    without_of_not_has gone
  have strays : stray seen.hand.held (.release call handle : Event SysCall S32) = [handle] := by
    change List.filter _ [handle] = [handle]
    simp [gone]
  rw [note, Hand.after, decide_eq_false misfits, kept, strays, succeeds, silent, keeps, Bool.or_false,
    Bool.and_false, Option.toList_none, List.append_nil, Option.toList_none, List.append_nil]
  rfl

section Printing

variable {post : Unit → Nat → Seen → Prop}

/-- Printing leaves everything as it is. -/
theorem leads_printing (quiet : call ≠ .ringBufferPoll)
    (succeeds : ∀ answer, call.fails checksSignals answer = false) :
    Leads (note checksSignals) (.ask call [] fun _ => .ret ()) now seen post ↔ post () (now + 1) seen := by
  have noted (answer : S32) : note checksSignals seen (.ask call [] answer) = seen := by
    rw [note_ask (by simp) quiet, succeeds, Seen.failIf, Bool.or_false]
  simp only [Leads, noted, forall_const]

theorem leads_say {line : List Piece} :
    Leads (note checksSignals) (say line) now seen post ↔ post () (now + 1) seen :=
  leads_printing nofun fun _ => rfl

theorem leads_sayAll (lines : List (List Piece)) (all : ∀ later, post () later seen) :
    Leads (note checksSignals) (sayAll lines) now seen post := by
  induction lines generalizing now with
  | nil => exact all now
  | cons line lines ih =>
      rw [sayAll, leads_bind, leads_say]
      exact ih

theorem leads_complain {line : List Piece} :
    Leads (note checksSignals) (complain line) now seen post ↔ post () (now + 1) seen :=
  leads_printing nofun fun _ => rfl

theorem leads_perror {text : String} :
    Leads (note checksSignals) (perror text) now seen post ↔ post () (now + 1) seen :=
  leads_printing nofun fun _ => rfl

end Printing

/-- A call that is granted or refused. -/
theorem leads_acquire {post : Except S32 Nat → Nat → Seen → Prop}
    (has : ∀ need ∈ needs, Has seen.hand.held need) :
    Leads (note checksSignals) (.acquire call needs none .ret) now seen post ↔
      post (.ok now) (now + 1) (seen.gain now needs) ∧
        ∀ err, err ≠ 0 → post (.error err) (now + 1) (seen.failIf true) := by
  have takes : ∀ taken ∈ none, Free seen.hand.held taken := nofun
  simp only [Leads, note_granted has, note_refused has takes]

theorem leads_openAndLoad {post : Except S32 Nat → Nat → Seen → Prop} :
    Leads (note checksSignals) openAndLoad now seen post ↔
      post (.ok now) (now + 1) (seen.gain now []) ∧
        ∀ err, err ≠ 0 → post (.error err) (now + 1) (seen.failIf true) :=
  leads_acquire (by simp)

theorem leads_attachPerfEvent [Libbpf] [owns : Libbpf.LinkOwnsDescriptor]
    {post : Except S32 Nat → Nat → Seen → Prop} {program : KernelProgram} {skel perfFd : Nat}
    (has : Has seen.hand.held skel) (free : Free seen.hand.held perfFd) :
    Leads (note checksSignals) (attachPerfEvent program skel perfFd) now seen post ↔
      post (.ok now) (now + 1) ((seen.takeOver perfFd).gain now [skel]) ∧
        ∀ err, err ≠ 0 → post (.error err) (now + 1) (seen.failIf true) := by
  have needs : ∀ need ∈ [skel], Has seen.hand.held need := by simpa using has
  have takes : ∀ taken ∈ some perfFd, Free seen.hand.held taken := fun taken same => Option.some.inj same ▸ free
  simp only [attachPerfEvent, owns.takesOver_eq, Leads, note_takenOver needs free, note_refused needs takes]

/-- A call that answers with a number. -/
theorem leads_ask {post : S32 → Nat → Seen → Prop} (has : ∀ need ∈ needs, Has seen.hand.held need)
    (quiet : call ≠ .ringBufferPoll) :
    Leads (note checksSignals) (.ask call needs .ret) now seen post ↔
      ∀ answer, post answer (now + 1) (seen.failIf (call.fails checksSignals answer)) := by
  simp only [Leads, note_ask has quiet]

/-- A handle that is given back in order. -/
theorem leads_giveBack {post : Unit → Nat → Seen → Prop} {handle : Nat} (free : Free seen.hand.held handle) :
    Leads (note checksSignals) (.release call handle (.ret ())) now seen post ↔
      post () (now + 1) (seen.lose handle) := by
  simp only [Leads, note_release free]

theorem leads_release [Libbpf] {post : Unit → Nat → Seen → Prop} {handle : Nat}
    (free : Free seen.hand.held handle) :
    Leads (note checksSignals) (releaseIfAny call (some handle)) now seen post ↔
      post () (now + 1) (seen.lose handle) :=
  leads_giveBack free

/-- A null pointer is nothing to give back. -/
theorem leads_releaseIfAny_none [Libbpf] [ignores : Libbpf.IgnoresNull] {post : Unit → Nat → Seen → Prop} :
    Leads (note checksSignals) (releaseIfAny call none) now seen post ↔ post () now seen := by
  rw [releaseIfAny, ignores.withNull_eq]
  exact Iff.rfl

theorem leads_close {post : Unit → Nat → Seen → Prop} {fd : Nat} (free : Free seen.hand.held fd) :
    Leads (note checksSignals) (close (some fd)) now seen post ↔ post () (now + 1) (seen.lose fd) :=
  leads_giveBack free

theorem leads_close_none {post : Unit → Nat → Seen → Prop} :
    Leads (note checksSignals) (close none) now seen post ↔ post () now seen :=
  Iff.rfl

/-- A descriptor that is closed when it is not in hand any more. -/
theorem leads_closeAgain {post : Unit → Nat → Seen → Prop} {fd : Nat} (gone : ¬ Has seen.hand.held fd) :
    Leads (note checksSignals) (close (some fd)) now seen post ↔ post () (now + 1) (seen.loseAgain fd) := by
  simp only [close, Leads, note_releaseAgain gone]

@[simp] theorem failIf_false : seen.failIf false = seen := by
  rw [Seen.failIf, Bool.or_false]

theorem fails_signal (sig : Signal) (answer : S32) :
    SysCall.fails checksSignals (.signal sig) answer = (checksSignals && decide (answer = SIG_ERR)) := rfl

theorem fails_attachSkeleton (answer : S32) :
    SysCall.fails checksSignals .attachSkeleton answer = decide (answer ≠ 0) := rfl

theorem fails_ifNametoindex (ifname : String) (answer : S32) :
    SysCall.fails checksSignals (.ifNametoindex ifname) answer = decide (answer = 0) := rfl

theorem fails_bind (ifindex answer : S32) :
    SysCall.fails checksSignals (.bind ifindex) answer = decide (answer.toInt < 0) := rfl

theorem fails_setsockopt (program : KernelProgram) (answer : S32) :
    SysCall.fails checksSignals (.setsockopt program) answer = decide (answer.toInt < 0) := rfl

theorem fails_bpfTcHookCreate (ifindex answer : S32) :
    SysCall.fails checksSignals (.bpfTcHookCreate ifindex) answer = decide (answer ≠ 0 ∧ answer ≠ -EEXIST) := rfl

/-- Both signals are handled, or one of them fails. -/
theorem leads_signalsFail {post : Bool → Nat → Seen → Prop}
    (handled : post false (now + 2) seen) (interrupt : post true (now + 1) (seen.failIf true))
    (terminate : post true (now + 2) (seen.failIf true)) :
    Leads (note true) signalsFail now seen post := by
  rw [signalsFail, leads_bind, signal, leads_ask (by simp) (by simp)]
  intro answer
  by_cases first : answer = SIG_ERR
  · rw [if_pos first, fails_signal, decide_eq_true first]
    exact interrupt
  · rw [if_neg first, fails_signal, decide_eq_false first, Bool.and_false, failIf_false, leads_bind, signal,
      leads_ask (by simp) (by simp)]
    intro answer
    by_cases second : answer = SIG_ERR
    · rw [fails_signal, decide_eq_true second]
      exact terminate
    · rw [fails_signal, decide_eq_false second, Bool.and_false, failIf_false]
      exact handled

/-- Where signals are not looked at, they change nothing. -/
theorem leads_signal {sig : Signal} {post : S32 → Nat → Seen → Prop} (all : ∀ answer, post answer (now + 1) seen) :
    Leads (note false) (signal sig) now seen post := by
  rw [signal, leads_ask (by simp) (by simp)]
  intro answer
  rw [fails_signal, Bool.false_and, failIf_false]
  exact all answer

/-! ### Loops -/

theorem leads_watchMaps {post : Unit → Nat → Seen → Prop} {skel : Nat} (has : Has seen.hand.held skel) (rounds : Nat)
    (all : ∀ now, post () now seen) : Leads (note checksSignals) (watchMaps skel rounds) now seen post := by
  induction rounds generalizing now with
  | zero => exact all now
  | succ rounds ih =>
      intro answer
      have needs : ∀ need ∈ [skel], Has seen.hand.held need := by simpa using has
      have succeeds : SysCall.fails checksSignals .readMaps answer = false := rfl
      rw [note_ask needs (by simp), succeeds, failIf_false]
      exact ih

theorem polled_nil (seen : Seen) : seen.polled [] = seen := by
  rw [Seen.polled, List.append_nil]

theorem polled_polled (results later : List S32) :
    (seen.polled results).polled later = seen.polled (results ++ later) := by
  rw [Seen.polled, Seen.polled, Seen.polled, List.append_assoc]

theorem leads_listen {post : Unit → Nat → Seen → Prop} {rb : Nat} (has : Has seen.hand.held rb) (rounds : Nat)
    (all : ∀ now results, post () now (seen.polled results)) :
    Leads (note checksSignals) (listen rb rounds) now seen post := by
  induction rounds generalizing now seen with
  | zero => exact polled_nil seen ▸ all now []
  | succ rounds ih =>
      intro answer
      have needs : ∀ need ∈ [rb], Has seen.hand.held need := by simpa using has
      have still : Has (seen.polled [answer]).hand.held rb := has
      rw [note_poll needs]
      apply ih still
      intro now results
      rw [polled_polled]
      exact all now _

/-- The loop leaves in `err` what `pollLoop` makes of the results. -/
theorem leads_pollUntilStopped {post : S32 → Nat → Seen → Prop} {pollError : S32 → List Piece} {rb : Nat}
    (has : Has seen.hand.held rb) (rounds : Nat) (err : S32)
    (all : ∀ now results, post (pollLoop pollError results err).1 now (seen.polled results)) :
    Leads (note checksSignals) (pollUntilStopped pollError rb rounds err) now seen post := by
  induction rounds generalizing now seen err with
  | zero => exact polled_nil seen ▸ all now []
  | succ rounds ih =>
      intro result
      have needs : ∀ need ∈ [rb], Has seen.hand.held need := by simpa using has
      have still : Has (seen.polled [result]).hand.held rb := has
      rw [note_poll needs]
      beta_reduce
      by_cases signalled : result = -EINTR
      · have ends := all (now + 1) [result]
        rw [pollLoop, if_pos signalled] at ends
        rw [if_pos signalled]
        exact ends
      · rw [if_neg signalled]
        by_cases negative : result.toInt < 0
        · have ends := all (now + 1 + 1) [result]
          rw [pollLoop, if_neg signalled, if_pos negative] at ends
          rw [if_pos negative, leads_bind, leads_complain]
          exact ends
        · rw [if_neg negative]
          apply ih still
          intro now results
          have goes := all now (result :: results)
          rw [pollLoop, if_neg signalled, if_neg negative] at goes
          rw [polled_polled]
          exact goes

/-! ### Several links -/

/-- Every link is refused, or called by the moment at which it was asked for. -/
def InSequence : Nat → List (Option Nat) → Prop
  | _, [] => True
  | now, link :: links => (∀ handle ∈ link, handle = now) ∧ InSequence (now + 1) links

theorem InSequence.le {links : List (Option Nat)} (inSequence : InSequence now links) {handle : Nat}
    (member : some handle ∈ links) : now ≤ handle := by
  induction links generalizing now with
  | nil => cases member
  | cons link links ih =>
      rcases List.mem_cons.mp member with rfl | later
      · exact Nat.le_of_eq (inSequence.1 handle rfl).symm
      · exact Nat.le_of_succ_le (ih inSequence.2 later)

theorem leads_attachAll {post : List (Option Nat) → Nat → Seen → Prop} {skel cgroup : Nat}
    (hasSkel : Has seen.hand.held skel) (hasCgroup : Has seen.hand.held cgroup) (programs : List KernelProgram)
    (all : ∀ links later, InSequence now links → post links later (seen.gainAll links [skel, cgroup])) :
    Leads (note checksSignals) (attachAll skel cgroup programs) now seen post := by
  induction programs generalizing now seen post with
  | nil => exact all [] now trivial
  | cons program programs ih =>
      rw [attachAll, leads_bind, attach, leads_acquire (by simp [hasSkel, hasCgroup])]
      constructor
      · rw [leads_bind]
        have skelStays : Has (seen.gain now [skel, cgroup]).hand.held skel := has_cons.mpr (.inr hasSkel)
        have cgroupStays : Has (seen.gain now [skel, cgroup]).hand.held cgroup := has_cons.mpr (.inr hasCgroup)
        apply ih skelStays cgroupStays
        intro links later inSequence
        exact all (some now :: links) later ⟨fun handle same => (Option.some.inj same).symm, inSequence⟩
      · intro err refused
        rw [leads_bind]
        have skelStays : Has (seen.failIf true).hand.held skel := hasSkel
        apply ih skelStays hasCgroup
        intro links later inSequence
        exact all (none :: links) later ⟨nofun, inSequence⟩

theorem leads_detachAll [Libbpf] [Libbpf.IgnoresNull] {post : Unit → Nat → Seen → Prop}
    {links : List (Option Nat)} {first : Nat}
    (inSequence : InSequence first links) (free : ∀ handle, some handle ∈ links → Free seen.hand.held handle)
    (all : ∀ later, post () later (seen.loseAll links)) :
    Leads (note checksSignals) (detachAll links) now seen post := by
  induction links generalizing now seen first with
  | nil => exact all now
  | cons link links ih =>
      rw [detachAll, leads_bind, bpfLinkDestroy]
      cases link with
      | none =>
          rw [leads_releaseIfAny_none]
          exact ih inSequence.2 (fun handle member => free handle (List.mem_cons_of_mem _ member)) all
      | some gone =>
          rw [leads_release (free gone List.mem_cons_self)]
          apply ih inSequence.2
          · intro handle member
            have later := inSequence.2.le member
            have here := inSequence.1 gone rfl
            obtain ⟨has, unneeded⟩ := free handle (List.mem_cons_of_mem _ member)
            constructor
            · obtain ⟨holding, held, rfl⟩ := List.mem_map.mp has
              have stays : holding.handle ≠ gone := by omega
              exact List.mem_map_of_mem (List.mem_filter.mpr ⟨held, by simpa using stays⟩)
            · intro holding held
              exact unneeded holding (List.mem_filter.mp held).1
          · exact all

theorem mem_gainAll {links : List (Option Nat)} {holding : Holding} :
    holding ∈ (seen.gainAll links needs).hand.held ↔
      (∃ handle, some handle ∈ links ∧ holding = ⟨handle, needs⟩) ∨ holding ∈ seen.hand.held := by
  induction links generalizing seen with
  | nil => simp [Seen.gainAll]
  | cons link links ih =>
      rw [Seen.gainAll, List.foldl_cons, ← Seen.gainAll, ih]
      cases link with
      | none => simp [Seen.failIf]
      | some handle =>
          simp only [Option.elim_some, Seen.gain, List.mem_cons]
          constructor
          · rintro (⟨other, member, rfl⟩ | rfl | held)
            · exact Or.inl ⟨other, Or.inr member, rfl⟩
            · exact Or.inl ⟨handle, Or.inl rfl, rfl⟩
            · exact Or.inr held
          · rintro (⟨other, same | member, rfl⟩ | held)
            · exact Or.inr (Or.inl (by rw [Option.some.inj same]))
            · exact Or.inl ⟨other, member, rfl⟩
            · exact Or.inr (Or.inr held)

/-- The links are free, since they are younger than all that is needed. -/
theorem free_gainAll {links : List (Option Nat)} (inSequence : InSequence now links)
    (older : ∀ need ∈ needs, need < now)
    (heldOlder : ∀ holding ∈ seen.hand.held, ∀ need ∈ holding.needs, need < now) {handle : Nat}
    (member : some handle ∈ links) : Free (seen.gainAll links needs).hand.held handle := by
  constructor
  · exact List.mem_map.mpr ⟨⟨handle, needs⟩, mem_gainAll.mpr (.inl ⟨handle, member, rfl⟩), rfl⟩
  · intro holding held again
    have young := inSequence.le member
    rcases mem_gainAll.mp held with ⟨other, _, rfl⟩ | before
    · exact absurd (older handle again) (Nat.not_lt.mpr young)
    · exact absurd (heldOlder holding before handle again) (Nat.not_lt.mpr young)

theorem lose_gainAll {links : List (Option Nat)} {gone : Nat} (others : some gone ∉ links) :
    (seen.gainAll links needs).lose gone = (seen.lose gone).gainAll links needs := by
  induction links generalizing seen with
  | nil => rfl
  | cons link links ih =>
      rw [List.mem_cons, not_or] at others
      rw [Seen.gainAll, List.foldl_cons, ← Seen.gainAll, ih others.2, Seen.gainAll, Seen.gainAll, List.foldl_cons]
      cases link with
      | none => rfl
      | some handle =>
          have other : handle ≠ gone := fun same => others.1 (congrArg some same.symm)
          simp [Seen.gain, Seen.lose, without, other]

theorem lose_gain {handle : Nat} (fresh : ¬ Has seen.hand.held handle) :
    (seen.gain handle needs).lose handle = seen := by
  have stays : without seen.hand.held handle = seen.hand.held := without_of_not_has fresh
  have dropped : without (⟨handle, needs⟩ :: seen.hand.held) handle = without seen.hand.held handle := by
    simp [without]
  rw [Seen.gain, Seen.lose, dropped, stays]

/-- What comes of attaching links and giving them all back. -/
theorem loseAll_gainAll {links : List (Option Nat)} (inSequence : InSequence now links)
    (older : ∀ handle, Has seen.hand.held handle → handle < now) :
    (seen.gainAll links needs).loseAll links = seen.failIf (links.any Option.isNone) := by
  induction links generalizing now seen with
  | nil => exact failIf_false.symm
  | cons link links ih =>
      have later (handle : Nat) (has : Has seen.hand.held handle) : handle < now + 1 :=
        Nat.lt_succ_of_lt (older handle has)
      rw [Seen.gainAll, List.foldl_cons, ← Seen.gainAll, Seen.loseAll, List.foldl_cons, ← Seen.loseAll]
      cases link with
      | none =>
          have before : ∀ handle, Has (seen.failIf true).hand.held handle → handle < now + 1 := later
          rw [Option.elim_none, Option.elim_none, ih inSequence.2 before]
          simp [Seen.failIf]
      | some handle =>
          obtain rfl := inSequence.1 handle rfl
          have others : some handle ∉ links := fun again => absurd (inSequence.2.le again) (Nat.not_succ_le_self _)
          have fresh : ¬ Has seen.hand.held handle := fun has => Nat.lt_irrefl _ (older handle has)
          rw [Option.elim_some, Option.elim_some, lose_gainAll others, lose_gain fresh, ih inSequence.2 later]
          rfl

end Calls

end MonsaEbpf.User

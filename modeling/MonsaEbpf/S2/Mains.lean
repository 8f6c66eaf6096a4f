/-
Module: MonsaEbpf.S2.Mains
Layer: S2
Purpose: The `main` functions of S2-advanced, from the arguments to the exit status. They give back what they were
  handed out in every run, except for the programs on perf events, in both trees: the link of such a program
  takes over the descriptor of the event, and `main` closes the descriptor behind the link. The poll loops of
  kprobe and kretprobe end badly when they leave `err` non-zero, a positive last poll included; the others
  ignore what their polls return.
Imports: MonsaEbpf.S1.Mains
Trusted boundary: human-reviewed translation; `Libbpf.IgnoresNull`, `Libbpf.LinkOwnsDescriptor`
Main exports: skeletonMain, cgroupMain, reporters_account, perf_descriptors_leave_twice
-/
import MonsaEbpf.S1.Mains

namespace MonsaEbpf.S2

open Custody User
open Printf (Piece)

/-- The text for too few arguments. -/
def usage (arguments : String) (argv : List String) : Main Unit :=
  complain [.text "Usage: ", .text (argument argv 0), .text arguments]

def loadFailed : List Piece :=
  [.text "Failed to open/load BPF skeleton\n"]

/-! ### Programs that attach their skeleton -/

variable [Libbpf]

/-- `main` of the programs that attach the skeleton and poll their ring buffer until the signal. -/
def skeletonMain (attachFailed banner : String) (rounds : Nat) : Main S32 := do
  let _ ← signal .sigint
  match ← openAndLoad with
  | .error _ =>
      complain loadFailed
      return 1
  | .ok skel =>
      let err ← attachSkeleton skel
      if err ≠ 0 then
        complain [.text attachFailed]
        cleanup none skel err
      else
        match ← ringBufferNew skel with
        | .error _ => cleanup none skel (-1)
        | .ok rb =>
            say [.text banner]
            listen rb rounds
            cleanup (some rb) skel err
where
  cleanup (rb : Option Nat) (skel : Nat) (err : S32) : Main S32 := do
    ringBufferFree rb
    destroy (some skel)
    return exitStatus err

/-- `main` of S2-advanced/examples/network/sk_lookup. -/
def skLookupMain (_argv : List String) (rounds : Nat) : Main S32 :=
  skeletonMain "Failed to attach sk_lookup\n" "SK_LOOKUP monitor started. Ctrl+C to stop.\n\n" rounds

/-- `main` of S2-advanced/examples/network/socket_filter. -/
def socketFilterMain (_argv : List String) (rounds : Nat) : Main S32 :=
  skeletonMain "Failed to attach socket_filter\n" "Socket Filter monitor started. Ctrl+C to stop.\n\n" rounds

/-- `main` of S2-advanced/examples/security/lsm. -/
def lsmFileOpenMain (_argv : List String) (rounds : Nat) : Main S32 :=
  skeletonMain "Failed to attach LSM program\n" "LSM file_open monitor started. Ctrl+C to stop.\n\n" rounds

/-- `main` of S2-advanced/examples/tracing/fentry_fexit. -/
def fentryFexitMain (_argv : List String) (rounds : Nat) : Main S32 :=
  skeletonMain "Failed to attach fentry/fexit\n"
    "Fentry/Fexit monitor started (do_sys_openat2). Ctrl+C to stop.\n\n" rounds

/-- `main` of S2-advanced/examples/tracing/raw_tracepoint. -/
def rawTracepointMain (_argv : List String) (rounds : Nat) : Main S32 :=
  skeletonMain "Failed to attach raw_tracepoint\n" "Raw Tracepoint monitor started. Ctrl+C to stop.\n\n" rounds

/-- `main` of S2-advanced/examples/tracing/tracepoint. -/
def tracepointMain (_argv : List String) (rounds : Nat) : Main S32 :=
  skeletonMain "Failed to attach tracepoint\n"
    "Tracepoint monitor started (sched_process_exec). Ctrl+C to stop.\n\n" rounds

/-- `main` of S2-advanced/examples/tracing/kprobe. -/
def kprobeMain (_argv : List String) (rounds : Nat) : Main S32 :=
  S1.ringMain .s2Kprobe "failed to attach kprobe: "
    ["Attached kprobe to __x64_sys_execve. Ctrl+C to stop.\n",
      "Collecting comprehensive event data (PID, UID, cgroup, args, etc.)\n",
      "Kernel-side logs: sudo cat /sys/kernel/debug/tracing/trace_pipe\n\n"] rounds

/-- `main` of S2-advanced/examples/tracing/kretprobe. -/
def kretprobeMain (_argv : List String) (rounds : Nat) : Main S32 :=
  S1.ringMain .s2Kretprobe "failed to attach kretprobe: "
    ["Attached kprobe/kretprobe to __x64_sys_openat. Ctrl+C to stop.\n",
      "Tracking: latency, return values, success/error stats\n",
      "Kernel logs: sudo cat /sys/kernel/debug/tracing/trace_pipe\n\n"] rounds

/-! ### Programs on a cgroup -/

/-- `main` of the programs that attach a program to a cgroup. The descriptor is closed before the skeleton is
destroyed. -/
def cgroupMain (program : KernelProgram) (attachFailed started : String) (argv : List String) (rounds : Nat) :
    Main S32 :=
  if argv.length < 2 then do
    usage " <cgroup_path>\n" argv
    return 1
  else do
    let _ ← signal .sigint
    match ← openCgroup (argument argv 1) false with
    | .error _ =>
        complain [.text "Failed to open cgroup: ", .text (argument argv 1), .text "\n"]
        return 1
    | .ok cgroupFd =>
        match ← openAndLoad with
        | .error _ =>
            complain loadFailed
            close (some cgroupFd)
            return 1
        | .ok skel =>
            match ← attach program .cgroup skel (some cgroupFd) with
            | .error _ =>
                complain [.text attachFailed]
                cleanup none none cgroupFd skel 1
            | .ok link =>
                match ← ringBufferNew skel with
                | .error _ => cleanup none (some link) cgroupFd skel (-1)
                | .ok rb =>
                    say [.text started, .text (argument argv 1), .text ". Ctrl+C to stop.\n\n"]
                    listen rb rounds
                    cleanup (some rb) (some link) cgroupFd skel 0
where
  cleanup (rb link : Option Nat) (cgroupFd skel : Nat) (err : S32) : Main S32 := do
    ringBufferFree rb
    bpfLinkDestroy link
    close (some cgroupFd)
    destroy (some skel)
    return exitStatus err

/-- `main` of S2-advanced/examples/cgroup/cgroup_bpf. -/
def cgroupBpfMain : List String → Nat → Main S32 :=
  cgroupMain .msbCgroupBpf "Failed to attach cgroup_bpf\n" "Cgroup BPF monitor started for "

/-- `main` of S2-advanced/examples/cgroup/cgroup_device. -/
def cgroupDeviceMain : List String → Nat → Main S32 :=
  cgroupMain .msbCgroupDevice "Failed to attach cgroup_device\n" "Cgroup Device monitor started for "

/-- `main` of S2-advanced/examples/cgroup/cgroup_skb. -/
def cgroupSkbMain : List String → Nat → Main S32 :=
  cgroupMain .msbCgroupSkb "Failed to attach cgroup_skb\n" "Cgroup SKB monitor started for "

/-- `main` of S2-advanced/examples/cgroup/cgroup_sock. -/
def cgroupSockMain : List String → Nat → Main S32 :=
  cgroupMain .msbCgroupSock "Failed to attach cgroup_sock\n" "Cgroup Sock monitor started for "

/-- `main` of S2-advanced/examples/cgroup/cgroup_sock_addr. -/
def cgroupSockAddrMain : List String → Nat → Main S32 :=
  cgroupMain .msbCgroupSockAddr "Failed to attach cgroup_sock_addr\n" "Cgroup Sock Addr monitor started for "

/-- `main` of S2-advanced/examples/cgroup/cgroup_sockopt. -/
def cgroupSockoptMain : List String → Nat → Main S32 :=
  cgroupMain .msbCgroupSockopt "Failed to attach cgroup_sockopt\n" "Cgroup Sockopt monitor started for "

/-- `main` of S2-advanced/examples/cgroup/cgroup_sysctl. -/
def cgroupSysctlMain : List String → Nat → Main S32 :=
  cgroupMain .msbCgroupSysctl "Failed to attach cgroup_sysctl\n" "Cgroup Sysctl monitor started for "

/-! ### Programs that probe other programs -/

/-- `main` of S2-advanced/examples/userspace/uprobe. The symbol is only printed: the probe sits at offset zero. -/
def uprobeMain (argv : List String) (rounds : Nat) : Main S32 :=
  if argv.length < 3 then do
    usage " <binary> <symbol>\n" argv
    return 1
  else do
    let _ ← signal .sigint
    match ← openAndLoad with
    | .error _ =>
        complain loadFailed
        return 1
    | .ok skel =>
        match ← attach .msbUprobeEntry (.uprobe false (argument argv 1) 0) skel none with
        | .error _ =>
            complain [.text "Failed to attach uprobe\n"]
            cleanup none none skel 1
        | .ok link =>
            match ← ringBufferNew skel with
            | .error _ => cleanup none (some link) skel (-1)
            | .ok rb =>
                say [.text "Attached uprobe to ", .text (argument argv 1), .text ":", .text (argument argv 2),
                  .text ". Ctrl+C to stop.\n\n"]
                listen rb rounds
                cleanup (some rb) (some link) skel 0
where
  cleanup (rb link : Option Nat) (skel : Nat) (err : S32) : Main S32 := do
    ringBufferFree rb
    bpfLinkDestroy link
    destroy (some skel)
    return exitStatus err

/-- `main` of S2-advanced/examples/userspace/uretprobe. Here too the symbol is only printed. -/
def uretprobeMain (argv : List String) (rounds : Nat) : Main S32 :=
  if argv.length < 3 then do
    usage " <binary> <symbol>\n" argv
    return 1
  else do
    let _ ← signal .sigint
    match ← openAndLoad with
    | .error _ =>
        complain loadFailed
        return 1
    | .ok skel =>
        match ← attach .msbUretprobeEntry (.uprobe false (argument argv 1) 0) skel none with
        | .error _ =>
            complain [.text "Failed to attach uprobe entry\n"]
            cleanup none none none skel 1
        | .ok entryLink =>
            match ← attach .msbUretprobeExit (.uprobe true (argument argv 1) 0) skel none with
            | .error _ =>
                complain [.text "Failed to attach uprobe exit (uretprobe)\n"]
                cleanup none (some entryLink) none skel 1
            | .ok exitLink =>
                match ← ringBufferNew skel with
                | .error _ => cleanup none (some entryLink) (some exitLink) skel (-1)
                | .ok rb =>
                    say [.text "Attached uretprobe to ", .text (argument argv 1), .text ":",
                      .text (argument argv 2), .text ". Ctrl+C to stop.\n\n"]
                    listen rb rounds
                    cleanup (some rb) (some entryLink) (some exitLink) skel 0
where
  cleanup (rb entryLink exitLink : Option Nat) (skel : Nat) (err : S32) : Main S32 := do
    ringBufferFree rb
    bpfLinkDestroy entryLink
    bpfLinkDestroy exitLink
    destroy (some skel)
    return exitStatus err

/-! ### Programs on an interface -/

/-- `main` of S2-advanced/examples/network/tc. It attaches nothing. -/
def tcClassifierMain (argv : List String) (rounds : Nat) : Main S32 :=
  if argv.length < 2 then do
    usage " <ifname>\n" argv
    return 1
  else do
    let _ ← signal .sigint
    match ← openAndLoad with
    | .error _ =>
        complain loadFailed
        return 1
    | .ok skel =>
        match ← ringBufferNew skel with
        | .error _ => cleanup none skel (-1)
        | .ok rb =>
            sayAll
              [[.text "TC classifier loaded. Attach manually with tc command.\n"],
                [.text "Example: tc qdisc add dev ", .text (argument argv 1), .text " clsact\n"],
                [.text "         tc filter add dev ", .text (argument argv 1),
                  .text " ingress bpf obj tc_classifier.bpf.o sec tc\n\n"],
                [.text "Monitoring events. Ctrl+C to stop.\n\n"]]
            listen rb rounds
            cleanup (some rb) skel 0
where
  cleanup (rb : Option Nat) (skel : Nat) (err : S32) : Main S32 := do
    ringBufferFree rb
    destroy (some skel)
    return exitStatus err

/-- `main` of S2-advanced/examples/network/xdp. -/
def xdpPassMain (argv : List String) (rounds : Nat) : Main S32 :=
  if argv.length < 2 then do
    usage " <ifname>\n" argv
    return 1
  else do
    let ifindex ← ifNametoindex (argument argv 1)
    if ifindex = 0 then
      perror "if_nametoindex"
      return 1
    else
      let _ ← signal .sigint
      let _ ← signal .sigterm
      match ← openAndLoad with
      | .error _ =>
          complain loadFailed
          return 1
      | .ok skel =>
          match ← .acquire (.bpfXdpAttach .xdpPass ifindex) [skel] none .ret with
          | .error err =>
              complain (.text "Failed to attach XDP program: " :: signedNumber err ++ [.text "\n"])
              cleanup none skel err
          | .ok attached =>
              match ← ringBufferNew skel with
              | .error _ =>
                  complain [.text "Failed to create ring buffer\n"]
                  detach ifindex attached none skel (-1)
              | .ok rb =>
                  sayAll
                    [[.text "Attached XDP to ", .text (argument argv 1), .text " (ifindex="] ++
                        signedNumber ifindex ++ [.text "). Ctrl+C to stop.\n"],
                      [.text "Collecting: L2-L4 headers, DDoS patterns, per-CPU stats\n\n"]]
                  listen rb rounds
                  detach ifindex attached (some rb) skel 0
where
  cleanup (rb : Option Nat) (skel : Nat) (err : S32) : Main S32 := do
    ringBufferFree rb
    destroy (some skel)
    return exitStatus err
  detach (ifindex : S32) (attached : Nat) (rb : Option Nat) (skel : Nat) (err : S32) : Main S32 := do
    .release (.bpfXdpDetach ifindex) attached (.ret ())
    cleanup rb skel err

/-! ### Programs on a perf event -/

/-- `main` of S2-advanced/examples/perf/example_perf_event_user.c. -/
def perfEventMain (_argv : List String) (rounds : Nat) : Main S32 := do
  let _ ← signal .sigint
  match ← openAndLoad with
  | .error _ =>
      complain loadFailed
      return 1
  | .ok skel =>
      match ← perfEventOpen 0 with
      | .error _ =>
          complain [.text "Failed to open perf event\n"]
          cleanup none none none skel 1
      | .ok perfFd =>
          match ← attachPerfEvent .msbPerfEvent skel perfFd with
          | .error _ =>
              complain [.text "Failed to attach perf_event\n"]
              cleanup none none (some perfFd) skel 1
          | .ok link =>
              match ← ringBufferNew skel with
              | .error _ => cleanup none (some link) (some perfFd) skel (-1)
              | .ok rb =>
                  say [.text "Perf event monitor started (cpu-cycles). Ctrl+C to stop.\n\n"]
                  listen rb rounds
                  cleanup (some rb) (some link) (some perfFd) skel 0
where
  cleanup (rb link perfFd : Option Nat) (skel : Nat) (err : S32) : Main S32 := do
    ringBufferFree rb
    bpfLinkDestroy link
    close perfFd
    destroy (some skel)
    return exitStatus err

/-! ### What they account for -/

variable [Libbpf.IgnoresNull]

theorem skeletonMain_accounts (attachFailed banner : String) :
    Accounts false 0 (fun _ => 0) fun _ => skeletonMain attachFailed banner := by
  apply accounts_of_leads
  intro argv rounds
  rw [skeletonMain, leads_bind]
  apply leads_signal
  intro handled
  rw [leads_bind, leads_openAndLoad]
  constructor
  · rw [leads_bind, attachSkeleton, leads_ask (by simp) (by simp)]
    intro err
    by_cases attached : err = 0
    · subst attached
      rw [if_neg (by simp), leads_bind, ringBufferNew, leads_acquire (by simp)]
      constructor
      · rw [leads_bind, leads_say, leads_bind]
        apply leads_listen (by simp)
        intro later results
        rw [skeletonMain.cleanup, leads_bind, ringBufferFree, leads_release (by simp [Free]), leads_bind, destroy,
          leads_release (by simp [Free]), leads_pure]
        apply accountsFor_finished
        · simp
        · rfl
        · rfl
        · rfl
      · intro err refused
        rw [skeletonMain.cleanup, leads_bind, ringBufferFree, leads_releaseIfAny_none, leads_bind, destroy,
          leads_release (by simp [Free]), leads_pure]
        apply accountsFor_failed
        · rfl
        · simp
    · rw [if_pos attached, leads_bind, leads_complain, skeletonMain.cleanup, leads_bind, ringBufferFree,
        leads_releaseIfAny_none, leads_bind, destroy, leads_release (by simp [Free]), leads_pure, exitStatus,
        if_pos attached]
      apply accountsFor_failed
      · rfl
      · simpa [fails_attachSkeleton] using attached
  · intro err refused
    rw [leads_bind, leads_complain, leads_pure]
    apply accountsFor_failed
    · rfl
    · rfl

theorem cgroupMain_accounts (program : KernelProgram) (attachFailed started : String) :
    Accounts false 2 (fun _ => 0) (cgroupMain program attachFailed started) := by
  apply accounts_of_leads
  intro argv rounds
  rw [cgroupMain]
  by_cases short : argv.length < 2
  · rw [if_pos short, leads_bind, usage, leads_complain, leads_pure]
    exact accountsFor_usage short rfl
  rw [if_neg short, leads_bind]
  apply leads_signal
  intro handled
  rw [leads_bind, openCgroup, leads_acquire (by simp)]
  constructor
  · rw [leads_bind, leads_openAndLoad]
    constructor
    · rw [leads_bind, attach, leads_acquire (by simp)]
      constructor
      · rw [leads_bind, ringBufferNew, leads_acquire (by simp)]
        constructor
        · rw [leads_bind, leads_say, leads_bind]
          apply leads_listen (by simp)
          intro later results
          rw [cgroupMain.cleanup, leads_bind, ringBufferFree, leads_release (by simp [Free]), leads_bind,
            bpfLinkDestroy, leads_release (by simp [Free]), leads_bind, leads_close (by simp [Free]),
            leads_bind, destroy, leads_release (by simp [Free]), leads_pure]
          apply accountsFor_finished short
          · rfl
          · rfl
          · rfl
        · intro err refused
          rw [cgroupMain.cleanup, leads_bind, ringBufferFree, leads_releaseIfAny_none, leads_bind,
            bpfLinkDestroy, leads_release (by simp [Free]), leads_bind, leads_close (by simp [Free]),
            leads_bind, destroy, leads_release (by simp [Free]), leads_pure]
          apply accountsFor_failed
          · rfl
          · simp
      · intro err refused
        rw [leads_bind, leads_complain, cgroupMain.cleanup, leads_bind, ringBufferFree, leads_releaseIfAny_none,
          leads_bind, bpfLinkDestroy, leads_releaseIfAny_none, leads_bind, leads_close (by simp [Free]),
          leads_bind, destroy, leads_release (by simp [Free]), leads_pure]
        apply accountsFor_failed
        · rfl
        · simp
    · intro err refused
      rw [leads_bind, leads_complain, leads_bind, leads_close (by simp [Free]), leads_pure]
      apply accountsFor_failed
      · rfl
      · simp
  · intro err refused
    rw [leads_bind, leads_complain, leads_pure]
    apply accountsFor_failed
    · rfl
    · rfl

theorem uprobeMain_accounts : Accounts false 3 (fun _ => 0) uprobeMain := by
  apply accounts_of_leads
  intro argv rounds
  rw [uprobeMain]
  by_cases short : argv.length < 3
  · rw [if_pos short, leads_bind, usage, leads_complain, leads_pure]
    exact accountsFor_usage short rfl
  rw [if_neg short, leads_bind]
  apply leads_signal
  intro handled
  rw [leads_bind, leads_openAndLoad]
  constructor
  · rw [leads_bind, attach, leads_acquire (by simp)]
    constructor
    · rw [leads_bind, ringBufferNew, leads_acquire (by simp)]
      constructor
      · rw [leads_bind, leads_say, leads_bind]
        apply leads_listen (by simp)
        intro later results
        rw [uprobeMain.cleanup, leads_bind, ringBufferFree, leads_release (by simp [Free]), leads_bind,
          bpfLinkDestroy, leads_release (by simp [Free]), leads_bind, destroy, leads_release (by simp [Free]),
          leads_pure]
        apply accountsFor_finished short
        · rfl
        · rfl
        · rfl
      · intro err refused
        rw [uprobeMain.cleanup, leads_bind, ringBufferFree, leads_releaseIfAny_none, leads_bind,
          bpfLinkDestroy, leads_release (by simp [Free]), leads_bind, destroy, leads_release (by simp [Free]),
          leads_pure]
        apply accountsFor_failed
        · rfl
        · simp
    · intro err refused
      rw [leads_bind, leads_complain, uprobeMain.cleanup, leads_bind, ringBufferFree, leads_releaseIfAny_none,
        leads_bind, bpfLinkDestroy, leads_releaseIfAny_none, leads_bind, destroy,
        leads_release (by simp [Free]), leads_pure]
      apply accountsFor_failed
      · rfl
      · simp
  · intro err refused
    rw [leads_bind, leads_complain, leads_pure]
    apply accountsFor_failed
    · rfl
    · rfl

theorem uretprobeMain_accounts : Accounts false 3 (fun _ => 0) uretprobeMain := by
  apply accounts_of_leads
  intro argv rounds
  rw [uretprobeMain]
  by_cases short : argv.length < 3
  · rw [if_pos short, leads_bind, usage, leads_complain, leads_pure]
    exact accountsFor_usage short rfl
  rw [if_neg short, leads_bind]
  apply leads_signal
  intro handled
  rw [leads_bind, leads_openAndLoad]
  constructor
  · rw [leads_bind, attach, leads_acquire (by simp)]
    constructor
    · rw [leads_bind, attach, leads_acquire (by simp)]
      constructor
      · rw [leads_bind, ringBufferNew, leads_acquire (by simp)]
        constructor
        · rw [leads_bind, leads_say, leads_bind]
          apply leads_listen (by simp)
          intro later results
          rw [uretprobeMain.cleanup, leads_bind, ringBufferFree, leads_release (by simp [Free]), leads_bind,
            bpfLinkDestroy, leads_release (by simp [Free]), leads_bind, bpfLinkDestroy,
            leads_release (by simp [Free]), leads_bind, destroy, leads_release (by simp [Free]), leads_pure]
          apply accountsFor_finished short
          · rfl
          · rfl
          · rfl
        · intro err refused
          rw [uretprobeMain.cleanup, leads_bind, ringBufferFree, leads_releaseIfAny_none, leads_bind,
            bpfLinkDestroy, leads_release (by simp [Free]), leads_bind, bpfLinkDestroy,
            leads_release (by simp [Free]), leads_bind, destroy, leads_release (by simp [Free]), leads_pure]
          apply accountsFor_failed
          · rfl
          · simp
      · intro err refused
        rw [leads_bind, leads_complain, uretprobeMain.cleanup, leads_bind, ringBufferFree,
          leads_releaseIfAny_none, leads_bind, bpfLinkDestroy, leads_release (by simp [Free]), leads_bind,
          bpfLinkDestroy, leads_releaseIfAny_none, leads_bind, destroy, leads_release (by simp [Free]), leads_pure]
        apply accountsFor_failed
        · rfl
        · simp
    · intro err refused
      rw [leads_bind, leads_complain, uretprobeMain.cleanup, leads_bind, ringBufferFree,
        leads_releaseIfAny_none, leads_bind, bpfLinkDestroy, leads_releaseIfAny_none, leads_bind,
        leads_releaseIfAny_none, leads_bind, destroy, leads_release (by simp [Free]), leads_pure]
      apply accountsFor_failed
      · rfl
      · simp
  · intro err refused
    rw [leads_bind, leads_complain, leads_pure]
    apply accountsFor_failed
    · rfl
    · rfl

theorem tcClassifierMain_accounts : Accounts false 2 (fun _ => 0) tcClassifierMain := by
  apply accounts_of_leads
  intro argv rounds
  rw [tcClassifierMain]
  by_cases short : argv.length < 2
  · rw [if_pos short, leads_bind, usage, leads_complain, leads_pure]
    exact accountsFor_usage short rfl
  rw [if_neg short, leads_bind]
  apply leads_signal
  intro handled
  rw [leads_bind, leads_openAndLoad]
  constructor
  · rw [leads_bind, ringBufferNew, leads_acquire (by simp)]
    constructor
    · rw [leads_bind]
      apply leads_sayAll
      intro later
      rw [leads_bind]
      apply leads_listen (by simp)
      intro later results
      rw [tcClassifierMain.cleanup, leads_bind, ringBufferFree, leads_release (by simp [Free]), leads_bind,
        destroy, leads_release (by simp [Free]), leads_pure]
      apply accountsFor_finished short
      · rfl
      · rfl
      · rfl
    · intro err refused
      rw [tcClassifierMain.cleanup, leads_bind, ringBufferFree, leads_releaseIfAny_none, leads_bind, destroy,
        leads_release (by simp [Free]), leads_pure]
      apply accountsFor_failed
      · rfl
      · simp
  · intro err refused
    rw [leads_bind, leads_complain, leads_pure]
    apply accountsFor_failed
    · rfl
    · rfl

theorem xdpPassMain_accounts : Accounts false 2 (fun _ => 0) xdpPassMain := by
  apply accounts_of_leads
  intro argv rounds
  rw [xdpPassMain]
  by_cases short : argv.length < 2
  · rw [if_pos short, leads_bind, usage, leads_complain, leads_pure]
    exact accountsFor_usage short rfl
  rw [if_neg short, leads_bind, ifNametoindex, leads_ask (by simp) (by simp)]
  intro ifindex
  by_cases none : ifindex = 0
  · rw [if_pos none, leads_bind, leads_perror, leads_pure]
    apply accountsFor_failed
    · rfl
    · simpa [fails_ifNametoindex] using none
  rw [if_neg none, fails_ifNametoindex, decide_eq_false none, failIf_false, leads_bind]
  apply leads_signal
  intro handled
  rw [leads_bind]
  apply leads_signal
  intro handled
  rw [leads_bind, leads_openAndLoad]
  constructor
  · rw [leads_bind, leads_acquire (by simp)]
    constructor
    · rw [leads_bind, ringBufferNew, leads_acquire (by simp)]
      constructor
      · rw [leads_bind]
        apply leads_sayAll
        intro later
        rw [leads_bind]
        apply leads_listen (by simp)
        intro later results
        rw [xdpPassMain.detach, leads_bind, leads_giveBack (by simp [Free]), xdpPassMain.cleanup, leads_bind,
          ringBufferFree, leads_release (by simp [Free]), leads_bind, destroy, leads_release (by simp [Free]),
          leads_pure]
        apply accountsFor_finished short
        · rfl
        · rfl
        · rfl
      · intro err refused
        rw [leads_bind, leads_complain, xdpPassMain.detach, leads_bind, leads_giveBack (by simp [Free]),
          xdpPassMain.cleanup, leads_bind, ringBufferFree, leads_releaseIfAny_none, leads_bind, destroy,
          leads_release (by simp [Free]), leads_pure]
        apply accountsFor_failed
        · rfl
        · simp
    · intro err refused
      rw [leads_bind, leads_complain, xdpPassMain.cleanup, leads_bind, ringBufferFree, leads_releaseIfAny_none,
        leads_bind, destroy, leads_release (by simp [Free]), leads_pure, exitStatus, if_pos refused]
      apply accountsFor_failed
      · rfl
      · simp
  · intro err refused
    rw [leads_bind, leads_complain, leads_pure]
    apply accountsFor_failed
    · rfl
    · rfl

/-- **The user programs of S2-advanced account for their runs**, but for those on perf events, when libbpf ignores
null pointers: whatever their calls answer and whenever the signal comes, they work only with what is in hand,
give everything back once, and return zero exactly if they have their arguments, no call fails, and their poll
loop leaves zero in `err`. Only kprobe and kretprobe look at what `signal` and their polls return; for them a
positive last poll is a bad end. -/
theorem reporters_account :
    Accounts false 0 (fun _ => 0) skLookupMain ∧ Accounts false 0 (fun _ => 0) socketFilterMain ∧
      Accounts false 0 (fun _ => 0) lsmFileOpenMain ∧ Accounts false 0 (fun _ => 0) fentryFexitMain ∧
      Accounts false 0 (fun _ => 0) rawTracepointMain ∧ Accounts false 0 (fun _ => 0) tracepointMain ∧
      Accounts true 0 (RingUser.main .s2Kprobe) kprobeMain ∧
      Accounts true 0 (RingUser.main .s2Kretprobe) kretprobeMain ∧
      Accounts false 2 (fun _ => 0) cgroupBpfMain ∧ Accounts false 2 (fun _ => 0) cgroupDeviceMain ∧
      Accounts false 2 (fun _ => 0) cgroupSkbMain ∧ Accounts false 2 (fun _ => 0) cgroupSockMain ∧
      Accounts false 2 (fun _ => 0) cgroupSockAddrMain ∧ Accounts false 2 (fun _ => 0) cgroupSockoptMain ∧
      Accounts false 2 (fun _ => 0) cgroupSysctlMain ∧ Accounts false 3 (fun _ => 0) uprobeMain ∧
      Accounts false 3 (fun _ => 0) uretprobeMain ∧ Accounts false 2 (fun _ => 0) tcClassifierMain ∧
      Accounts false 2 (fun _ => 0) xdpPassMain :=
  ⟨skeletonMain_accounts _ _, skeletonMain_accounts _ _, skeletonMain_accounts _ _, skeletonMain_accounts _ _,
    skeletonMain_accounts _ _, skeletonMain_accounts _ _, S1.ringMain_accounts _ _ _, S1.ringMain_accounts _ _ _,
    cgroupMain_accounts _ _ _, cgroupMain_accounts _ _ _, cgroupMain_accounts _ _ _, cgroupMain_accounts _ _ _,
    cgroupMain_accounts _ _ _, cgroupMain_accounts _ _ _, cgroupMain_accounts _ _ _, uprobeMain_accounts,
    uretprobeMain_accounts, tcClassifierMain_accounts, xdpPassMain_accounts⟩

omit [Libbpf] [Libbpf.IgnoresNull] in
/-- A run in which the probe at the return is refused. -/
theorem reporters_account_refused :
    Orderly (exec (refusedAt 3) 0 (@uretprobeMain .documented ["uretprobe", "/bin/bash", "readline"] 3)).2 ∧
      (exec (refusedAt 3) 0 (@uretprobeMain .documented ["uretprobe", "/bin/bash", "readline"] 3)).1 = 1 := by
  rcases @reporters_account .documented Libbpf.documented_ignoresNull with
    ⟨-, -, -, -, -, -, -, -, -, -, -, -, -, -, -, -, accounts, -⟩
  refine ⟨accounts.orderly _ _ _, (accounts.status _ _ _).trans ?_⟩
  decide

/-! ### Descriptors that are closed twice -/

variable [Libbpf.LinkOwnsDescriptor]

theorem s1PerfEventMain_accounts (atoi : String → S32) : PerfAccounts true (S1.perfEventMain atoi) := by
  apply perfAccounts_of_leads
  intro argv rounds
  rw [S1.perfEventMain]
  apply S1.leads_afterSignals
  · rw [leads_bind, S1.openPerfEvent, leads_bind, perfEventOpen, leads_acquire (by simp)]
    constructor
    · rw [leads_pure, leads_bind, leads_openAndLoad]
      constructor
      · rw [leads_bind, leads_attachPerfEvent (by simp) (by simp [Free])]
        constructor
        · rw [leads_bind, leads_say, leads_bind]
          apply leads_watchMaps (by simp)
          intro later
          rw [S1.perfEventMain.cleanup, leads_bind, bpfLinkDestroy, leads_release (by simp [Free]), leads_bind,
            destroy, leads_release (by simp [Free]), leads_bind, leads_closeAgain (by simp), leads_pure]
          exact ⟨rfl, rfl, fun _ => ⟨2, rfl⟩⟩
        · intro err refused
          rw [leads_bind, leads_complain, S1.perfEventMain.cleanup, leads_bind, bpfLinkDestroy,
            leads_releaseIfAny_none, leads_bind, destroy, leads_release (by simp [Free]), leads_bind,
            leads_close (by simp [Free]), leads_pure]
          apply perfAccountsFor_failed
          · rfl
          · rfl
          · simp
      · intro err refused
        rw [leads_bind, leads_complain, S1.perfEventMain.cleanup, leads_bind, bpfLinkDestroy,
          leads_releaseIfAny_none, leads_bind, destroy, leads_releaseIfAny_none, leads_bind,
          leads_close (by simp [Free]), leads_pure]
        apply perfAccountsFor_failed
        · rfl
        · rfl
        · simp
    · intro err refused
      rw [leads_bind, leads_perror, leads_pure, leads_pure]
      apply perfAccountsFor_failed
      · rfl
      · rfl
      · rfl
  · intro later
    apply perfAccountsFor_failed
    · rfl
    · rfl
    · rfl

theorem perfEventMain_accounts : PerfAccounts false perfEventMain := by
  apply perfAccounts_of_leads
  intro argv rounds
  rw [perfEventMain, leads_bind]
  apply leads_signal
  intro handled
  rw [leads_bind, leads_openAndLoad]
  constructor
  · rw [leads_bind, perfEventOpen, leads_acquire (by simp)]
    constructor
    · rw [leads_bind, leads_attachPerfEvent (by simp) (by simp [Free])]
      constructor
      · rw [leads_bind, ringBufferNew, leads_acquire (by simp)]
        constructor
        · rw [leads_bind, leads_say, leads_bind]
          apply leads_listen (by simp)
          intro later results
          rw [perfEventMain.cleanup, leads_bind, ringBufferFree, leads_release (by simp [Free]), leads_bind,
            bpfLinkDestroy, leads_release (by simp [Free]), leads_bind, leads_closeAgain (by simp),
            leads_bind, destroy, leads_release (by simp [Free]), leads_pure]
          exact ⟨rfl, rfl, fun _ => ⟨2, rfl⟩⟩
        · intro err refused
          rw [perfEventMain.cleanup, leads_bind, ringBufferFree, leads_releaseIfAny_none, leads_bind,
            bpfLinkDestroy, leads_release (by simp [Free]), leads_bind, leads_closeAgain (by simp),
            leads_bind, destroy, leads_release (by simp [Free]), leads_pure]
          exact ⟨rfl, rfl, fun _ => ⟨2, rfl⟩⟩
      · intro err refused
        rw [leads_bind, leads_complain, perfEventMain.cleanup, leads_bind, ringBufferFree, leads_releaseIfAny_none,
          leads_bind, bpfLinkDestroy, leads_releaseIfAny_none, leads_bind, leads_close (by simp [Free]),
          leads_bind, destroy, leads_release (by simp [Free]), leads_pure]
        apply perfAccountsFor_failed
        · rfl
        · rfl
        · simp
    · intro err refused
      rw [leads_bind, leads_complain, perfEventMain.cleanup, leads_bind, ringBufferFree, leads_releaseIfAny_none,
        leads_bind, bpfLinkDestroy, leads_releaseIfAny_none, leads_bind, leads_close_none, leads_bind,
        destroy, leads_release (by simp [Free]), leads_pure]
      apply perfAccountsFor_failed
      · rfl
      · rfl
      · simp
  · intro err refused
    rw [leads_bind, leads_complain, leads_pure]
    apply perfAccountsFor_failed
    · rfl
    · rfl
    · rfl

/-- **The programs on perf events close a descriptor twice** in every run that returns zero, when the link of a
perf event owns its descriptor: the one that the link took over. All else leaves the hand once, and a run is
orderly exactly if its link was never attached. -/
theorem perf_descriptors_leave_twice (atoi : String → S32) :
    PerfAccounts true (S1.perfEventMain atoi) ∧ PerfAccounts false perfEventMain :=
  ⟨s1PerfEventMain_accounts atoi, perfEventMain_accounts⟩

omit [Libbpf] [Libbpf.IgnoresNull] [Libbpf.LinkOwnsDescriptor] in
/-- A run in which all calls are granted, with one round: the descriptor 2 leaves the hand with the link and once
more. -/
theorem perf_descriptors_leave_twice_granted :
    (exec (fun _ => 0) 0 (@S1.perfEventMain .documented (fun _ => 0) ["perf_event"] 1)).1 = 0 ∧
      ¬ Orderly (exec (fun _ => 0) 0 (@S1.perfEventMain .documented (fun _ => 0) ["perf_event"] 1)).2 ∧
      (leaving (exec (fun _ => 0) 0
        (@S1.perfEventMain .documented (fun _ => 0) ["perf_event"] 1)).2).count 2 = 2 := by
  rcases @perf_descriptors_leave_twice .documented Libbpf.documented_ignoresNull
    Libbpf.documented_linkOwnsDescriptor fun _ => 0 with ⟨accounts, -⟩
  refine ⟨(accounts.status _ _ _).trans ?_, ?_, ((accounts.twice _ _ _).count_eq 2).trans ?_⟩
  · decide
  · rw [accounts.orderly_iff]
    decide
  · decide

end MonsaEbpf.S2

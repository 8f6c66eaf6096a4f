/-
Module: MonsaEbpf.S1.Mains
Layer: S1
Purpose: The `main` functions of S1-basic, from the arguments to the exit status: in every run, whatever is refused
  and whenever the loop ends, they give back what they were handed out. A poll loop ends badly when it leaves
  `err` non-zero: after a negative poll, and also when the last poll before the flag was seen is positive.
Imports: MonsaEbpf.User.Lifecycle
Trusted boundary: human-reviewed translation; `Libbpf.IgnoresNull`
Main exports: skeletonMain, ringMain, cgroupMain, monitors_account
-/
import MonsaEbpf.User.Lifecycle

namespace MonsaEbpf.S1

open Custody User
open Printf (Piece)

/-- `usage`, for the arguments of a program. -/
def usage (arguments : String) (argv : List String) : Main Unit :=
  complain [.text "Usage: sudo ", .text (argument argv 0), .text arguments]

/-- What comes behind the two calls of `signal`. -/
def afterSignals (rest : Main S32) : Main S32 := do
  if ← signalsFail then
    perror "signal"
    return 1
  else rest

def loadFailed : List Piece :=
  [.text "failed to open/load BPF skeleton\n"]

/-! ### Programs that attach their skeleton -/

variable [Libbpf]

/-- `main` of the programs that attach the skeleton and print their maps every second. -/
def skeletonMain (attachFailed banner : String) (rounds : Nat) : Main S32 :=
  afterSignals do
    match ← openAndLoad with
    | .error _ =>
        complain loadFailed
        return 1
    | .ok skel =>
        let err ← attachSkeleton skel
        if err ≠ 0 then
          complain (.text attachFailed :: signedNumber err ++ [.text "\n"])
          cleanup skel err
        else
          say [.text banner]
          watchMaps skel rounds
          cleanup skel err
where
  cleanup (skel : Nat) (err : S32) : Main S32 := do
    destroy (some skel)
    return exitStatus err

/-- `main` of S1-basic/examples/cgroup/cgroup_bpf. -/
def cgroupBpfMain (_argv : List String) (rounds : Nat) : Main S32 :=
  skeletonMain "failed to attach LSM program: " "Attached BPF LSM hook. Ctrl+C to stop.\n" rounds

/-- `main` of S1-basic/examples/tracing/kretprobe. -/
def kretprobeMain (_argv : List String) (rounds : Nat) : Main S32 :=
  skeletonMain "failed to attach kretprobe: " "Attached kretprobe to __x64_sys_getpid. Ctrl+C to stop.\n" rounds

/-- `main` of S1-basic/examples/tracing/raw_tracepoint. -/
def rawTracepointMain (_argv : List String) (rounds : Nat) : Main S32 :=
  skeletonMain "failed to attach raw tracepoint: "
    "Attached raw tracepoint to sched_process_fork. Ctrl+C to stop.\n" rounds

/-- `main` of S1-basic/examples/tracing/tracepoint. -/
def tracepointMain (_argv : List String) (rounds : Nat) : Main S32 :=
  skeletonMain "failed to attach tracepoint: " "Attached tracepoint to sys_enter_execve. Ctrl+C to stop.\n" rounds

/-! ### Programs that poll a ring buffer -/

/-- `main` of the programs that attach the skeleton and poll a ring buffer until a poll is negative. -/
def ringMain (user : RingUser) (attachFailed : String) (banner : List String) (rounds : Nat) : Main S32 :=
  afterSignals do
    match ← openAndLoad with
    | .error _ =>
        complain loadFailed
        return 1
    | .ok skel =>
        let err ← attachSkeleton skel
        if err ≠ 0 then
          complain (.text attachFailed :: signedNumber err ++ [.text "\n"])
          cleanup none skel err
        else
          match ← ringBufferNew skel with
          | .error _ =>
              complain [.text "failed to create ring buffer\n"]
              cleanup none skel (-1)
          | .ok rb =>
              sayAll (banner.map fun line => [.text line])
              let err ← pollUntilStopped user.pollError rb rounds err
              cleanup (some rb) skel err
where
  cleanup (rb : Option Nat) (skel : Nat) (err : S32) : Main S32 := do
    ringBufferFree rb
    destroy (some skel)
    return exitStatus err

/-- `main` of S1-basic/examples/security/lsm. -/
def lsmFileOpenMain (_argv : List String) (rounds : Nat) : Main S32 :=
  ringMain .s1LsmFileOpen "failed to attach LSM program: "
    ["Listening for file_open LSM events... Ctrl+C to stop.\n"] rounds

/-- `main` of S1-basic/examples/tracing/fentry_fexit. -/
def fentryFexitMain (_argv : List String) (rounds : Nat) : Main S32 :=
  ringMain .s1FentryExecLatency "failed to attach fentry/fexit: "
    ["Collecting exec latency events... Ctrl+C to stop.\n"] rounds

/-- `main` of S1-basic/examples/tracing/kprobe. -/
def kprobeMain (_argv : List String) (rounds : Nat) : Main S32 :=
  ringMain .s1Kprobe "failed to attach kprobe: " ["listening for execve events... (Ctrl+C to quit)\n"] rounds

/-! ### Programs on a cgroup -/

/-- `main` of the programs that attach programs to a cgroup; all of them are attached before the links are
looked at. -/
def cgroupMain (programs : List KernelProgram) (attachFailed attached : String) (argv : List String)
    (rounds : Nat) : Main S32 :=
  if argv.length < 2 then do
    usage " <cgroup_path>\n" argv
    return 1
  else
    afterSignals do
      match ← openCgroup (argument argv 1) true with
      | .error _ =>
          perror "open cgroup path"
          return 1
      | .ok cgFd =>
          match ← openAndLoad with
          | .error _ =>
              complain loadFailed
              cleanup (programs.map fun _ => none) none cgFd 1
          | .ok skel =>
              let links ← attachAll skel cgFd programs
              if links.any Option.isNone then
                complain [.text attachFailed]
                cleanup links (some skel) cgFd 1
              else
                say [.text attached, .text (argument argv 1), .text ". Ctrl+C to stop.\n"]
                watchMaps skel rounds
                cleanup links (some skel) cgFd 0
where
  cleanup (links : List (Option Nat)) (skel : Option Nat) (cgFd : Nat) (err : S32) : Main S32 := do
    detachAll links
    destroy skel
    close (some cgFd)
    return exitStatus err

/-- `main` of S1-basic/examples/cgroup/cgroup_device. -/
def cgroupDeviceMain : List String → Nat → Main S32 :=
  cgroupMain [.msbCgroupDev] "failed to attach cgroup/dev program\n" "Attached cgroup/dev to "

/-- `main` of S1-basic/examples/cgroup/cgroup_skb. -/
def cgroupSkbMain : List String → Nat → Main S32 :=
  cgroupMain [.msbCgroupIngress, .msbCgroupEgress] "failed to attach cgroup_skb ingress/egress\n"
    "Attached cgroup_skb ingress/egress to "

/-- `main` of S1-basic/examples/cgroup/cgroup_sock. -/
def cgroupSockMain : List String → Nat → Main S32 :=
  cgroupMain [.msbCgroupSock] "failed to attach cgroup/sock_create program\n" "Attached cgroup/sock_create to "

/-- `main` of S1-basic/examples/cgroup/cgroup_sock_addr, with `attach_all` and `detach_all`. -/
def cgroupSockAddrMain : List String → Nat → Main S32 :=
  cgroupMain [.msbConnect4, .msbConnect6, .msbBind4, .msbBind6, .msbSendmsg4, .msbSendmsg6]
    "failed to attach one of the sock_addr programs\n" "Attached cgroup sock_addr hooks to "

/-- `main` of S1-basic/examples/cgroup/cgroup_sockopt. -/
def cgroupSockoptMain : List String → Nat → Main S32 :=
  cgroupMain [.msbSetsockopt, .msbGetsockopt] "failed to attach one of the sockopt programs\n"
    "Attached cgroup sockopt hooks to "

/-- `main` of S1-basic/examples/cgroup/cgroup_sysctl. -/
def cgroupSysctlMain : List String → Nat → Main S32 :=
  cgroupMain [.msbCgroupSysctl] "failed to attach cgroup/sysctl program\n" "Attached cgroup/sysctl to "

/-! ### Programs with one link of their own -/

/-- From the skeleton on: one link, and the maps every second. -/
def linkMain (program : KernelProgram) (hook : Hook) (linkErr : S32) (attachFailed attached : List Piece)
    (rounds : Nat) : Main S32 := do
  match ← openAndLoad with
  | .error _ =>
      complain loadFailed
      return 1
  | .ok skel =>
      match ← attach program hook skel none with
      | .error _ =>
          complain attachFailed
          cleanup none skel linkErr
      | .ok link =>
          say attached
          watchMaps skel rounds
          cleanup (some link) skel 0
where
  cleanup (link : Option Nat) (skel : Nat) (err : S32) : Main S32 := do
    bpfLinkDestroy link
    destroy (some skel)
    return exitStatus err

/-- `main` of S1-basic/examples/network/sk_lookup. -/
def skLookupMain (_argv : List String) (rounds : Nat) : Main S32 :=
  afterSignals (linkMain .msbSkLookup .netns 1 [.text "failed to attach sk_lookup program\n"]
    [.text "Attached sk_lookup to current netns. Ctrl+C to stop.\n"] rounds)

/-- `main` of S1-basic/examples/userspace/uprobe. -/
def uprobeMain (argv : List String) (rounds : Nat) : Main S32 :=
  if argv.length < 3 then do
    usage " <binary> <symbol>\n" argv
    return 1
  else
    afterSignals (linkMain .msbUprobeTarget (.uprobeOpts false (argument argv 1) 0 (argument argv 2)) 1
      [.text "failed to attach uprobe for ", .text (argument argv 1), .text ":", .text (argument argv 2),
        .text "\n"]
      [.text "Attached uprobe to ", .text (argument argv 1), .text ":", .text (argument argv 2),
        .text ". Ctrl+C to stop.\n"] rounds)

/-- The part of a `main` that needs the index of an interface. -/
def onInterface (argv : List String) (rest : S32 → Main S32) : Main S32 :=
  if argv.length < 2 then do
    usage " <ifname>\n" argv
    return 1
  else do
    let ifindex ← ifNametoindex (argument argv 1)
    if ifindex = 0 then
      perror "if_nametoindex"
      return 1
    else
      afterSignals (rest ifindex)

/-- `main` of S1-basic/examples/network/xdp. -/
def xdpPassMain (argv : List String) (rounds : Nat) : Main S32 :=
  onInterface argv fun ifindex =>
    linkMain .xdpPass (.xdp ifindex) (-1)
      (.text "failed to attach XDP program (ifindex=" :: signedNumber ifindex ++ [.text ")\n"])
      ([.text "Attached XDP program to ", .text (argument argv 1), .text " (ifindex="] ++ signedNumber ifindex ++
        [.text "). Ctrl+C to stop.\n"]) rounds

/-! ### The other programs -/

/-- `main` of S1-basic/examples/userspace/uretprobe. -/
def uretprobeMain (argv : List String) (rounds : Nat) : Main S32 :=
  if argv.length < 3 then do
    usage " <binary> <symbol>\n" argv
    return 1
  else
    afterSignals do
      match ← openAndLoad with
      | .error _ =>
          complain loadFailed
          return 1
      | .ok skel =>
          match ← attach .msbUretprobeEntry (.uprobeOpts false (argument argv 1) 0 (argument argv 2)) skel none with
          | .error _ =>
              complain [.text "failed to attach uprobe entry for ", .text (argument argv 1), .text ":",
                .text (argument argv 2), .text "\n"]
              cleanup none none skel 1
          | .ok linkEntry =>
              match ← attach .msbUretprobeExit (.uprobeOpts true (argument argv 1) 0 (argument argv 2)) skel none with
              | .error _ =>
                  complain [.text "failed to attach uretprobe for ", .text (argument argv 1), .text ":",
                    .text (argument argv 2), .text "\n"]
                  cleanup none (some linkEntry) skel 1
              | .ok linkExit =>
                  say [.text "Attached uprobe/uretprobe to ", .text (argument argv 1), .text ":",
                    .text (argument argv 2), .text ". Ctrl+C to stop.\n"]
                  watchMaps skel rounds
                  cleanup (some linkExit) (some linkEntry) skel 0
where
  cleanup (linkExit linkEntry : Option Nat) (skel : Nat) (err : S32) : Main S32 := do
    bpfLinkDestroy linkExit
    bpfLinkDestroy linkEntry
    destroy (some skel)
    return exitStatus err

/-- `main` of S1-basic/examples/network/socket_filter. -/
def socketFilterMain (argv : List String) (rounds : Nat) : Main S32 :=
  onInterface argv fun ifindex => do
    match ← openAndLoad with
    | .error _ =>
        complain loadFailed
        return 1
    | .ok skel =>
        match ← .acquire .socket [] none .ret with
        | .error _ =>
            perror "socket"
            cleanup none skel 1
        | .ok sockFd =>
            let bound : S32 ← .ask (.bind ifindex) [sockFd] .ret
            if bound.toInt < 0 then
              perror "bind"
              cleanup (some sockFd) skel 1
            else
              let set : S32 ← .ask (.setsockopt .msbSocketFilter) [sockFd, skel] .ret
              if set.toInt < 0 then
                perror "SO_ATTACH_BPF"
                cleanup (some sockFd) skel 1
              else
                say [.text "Attached socket filter to ", .text (argument argv 1), .text ". Ctrl+C to stop.\n"]
                watchMaps skel rounds
                cleanup (some sockFd) skel 0
where
  cleanup (sockFd : Option Nat) (skel : Nat) (err : S32) : Main S32 := do
    close sockFd
    destroy (some skel)
    return exitStatus err

/-- `attach_tc`. -/
def tcAttach (skel : Nat) (ifindex : S32) : Main S32 := do
  let err ← .ask (.bpfTcHookCreate ifindex) [] .ret
  if err ≠ 0 ∧ err ≠ -User.EEXIST then
    return err
  else
    .ask (.bpfTcAttach .msbTcClassifier ifindex) [skel] .ret

/-- `detach_tc`. -/
def tcDetach (ifindex : S32) : Main Unit := do
  let _ : S32 ← .ask (.bpfTcDetach ifindex) [] .ret
  let _ : S32 ← .ask (.bpfTcHookDestroy ifindex) [] .ret
  return ()

/-- `main` of S1-basic/examples/network/tc. -/
def tcClassifierMain (argv : List String) (rounds : Nat) : Main S32 :=
  onInterface argv fun ifindex => do
    match ← openAndLoad with
    | .error _ =>
        complain loadFailed
        return 1
    | .ok skel =>
        let err ← tcAttach skel ifindex
        if err ≠ 0 then
          complain (.text "failed to attach TC program: " :: signedNumber err ++ [.text "\n"])
          cleanup skel ifindex err
        else
          say [.text "Attached TC classifier to ", .text (argument argv 1),
            .text " ingress. Ctrl+C to stop.\n"]
          watchMaps skel rounds
          cleanup skel ifindex err
where
  cleanup (skel : Nat) (ifindex err : S32) : Main S32 := do
    tcDetach ifindex
    destroy (some skel)
    return exitStatus err

/-- `open_perf_event`. -/
def openPerfEvent (cpu : S32) : Main (Except S32 Nat) := do
  match ← perfEventOpen cpu with
  | .error err =>
      perror "perf_event_open"
      return .error err
  | .ok fd => return .ok fd

/-- `main` of S1-basic/examples/perf/perf_event, with what `atoi` makes of its argument. -/
def perfEventMain (atoi : String → S32) (argv : List String) (rounds : Nat) : Main S32 :=
  let cpu := if 2 ≤ argv.length then atoi (argument argv 1) else 0
  afterSignals do
    match ← openPerfEvent cpu with
    | .error _ => return 1
    | .ok pfd =>
        match ← openAndLoad with
        | .error _ =>
            complain loadFailed
            cleanup none none pfd 1
        | .ok skel =>
            match ← attachPerfEvent .msbPerfSample skel pfd with
            | .error _ =>
                complain [.text "failed to attach perf_event program\n"]
                cleanup none (some skel) pfd 1
            | .ok link =>
                say (.text "Attached perf event on CPU " :: signedNumber cpu ++ [.text ". Ctrl+C to stop.\n"])
                watchMaps skel rounds
                cleanup (some link) (some skel) pfd 0
where
  cleanup (link skel : Option Nat) (pfd : Nat) (err : S32) : Main S32 := do
    bpfLinkDestroy link
    destroy skel
    close (some pfd)
    return exitStatus err

/-! ### What they account for -/

omit [Libbpf] in
theorem leads_afterSignals {rest : Main S32} {now : Nat} {seen : Seen} {post : S32 → Nat → Seen → Prop}
    (handled : Leads (note true) rest (now + 2) seen post) (refused : ∀ later, post 1 later (seen.failIf true)) :
    Leads (note true) (afterSignals rest) now seen post := by
  rw [afterSignals, leads_bind]
  apply leads_signalsFail
  · exact handled
  · rw [if_pos rfl, leads_bind, leads_perror]
    exact refused _
  · rw [if_pos rfl, leads_bind, leads_perror]
    exact refused _

theorem skeletonMain_accounts (attachFailed banner : String) :
    Accounts true 0 (fun _ => 0) fun _ => skeletonMain attachFailed banner := by
  apply accounts_of_leads
  intro argv rounds
  apply leads_afterSignals
  · rw [leads_bind, leads_openAndLoad]
    constructor
    · rw [leads_bind, attachSkeleton, leads_ask (by simp) (by simp)]
      intro err
      by_cases attached : err = 0
      · subst attached
        rw [if_neg (by simp), leads_bind, leads_say, leads_bind]
        apply leads_watchMaps (by simp)
        intro later
        rw [skeletonMain.cleanup, leads_bind, destroy, leads_release (by simp [Free]),
          leads_pure]
        apply accountsFor_finished
        · simp
        · rfl
        · rfl
        · rfl
      · rw [if_pos attached, leads_bind, leads_complain, skeletonMain.cleanup, leads_bind, destroy,
          leads_release (by simp [Free]), leads_pure, exitStatus, if_pos attached]
        apply accountsFor_failed
        · rfl
        · simpa [fails_attachSkeleton] using attached
    · intro err refused
      rw [leads_bind, leads_complain, leads_pure]
      apply accountsFor_failed
      · rfl
      · rfl
  · intro later
    apply accountsFor_failed
    · rfl
    · rfl

variable [Libbpf.IgnoresNull]

theorem ringMain_accounts (user : RingUser) (attachFailed : String) (banner : List String) :
    Accounts true 0 user.main fun _ => ringMain user attachFailed banner := by
  apply accounts_of_leads
  intro argv rounds
  apply leads_afterSignals
  · rw [leads_bind, leads_openAndLoad]
    constructor
    · rw [leads_bind, attachSkeleton, leads_ask (by simp) (by simp)]
      intro err
      by_cases attached : err = 0
      · subst attached
        rw [if_neg (by simp), leads_bind, ringBufferNew, leads_acquire (by simp)]
        constructor
        · rw [leads_bind]
          apply leads_sayAll
          intro later
          rw [leads_bind]
          apply leads_pollUntilStopped (by simp)
          intro later results
          rw [ringMain.cleanup, leads_bind, ringBufferFree, leads_release (by simp [Free]), leads_bind, destroy,
            leads_release (by simp [Free]), leads_pure]
          apply accountsFor_finished
          · simp
          · rfl
          · rfl
          · rfl
        · intro err refused
          rw [leads_bind, leads_complain, ringMain.cleanup, leads_bind, ringBufferFree, leads_releaseIfAny_none,
            leads_bind, destroy, leads_release (by simp [Free]), leads_pure]
          apply accountsFor_failed
          · rfl
          · simp
      · rw [if_pos attached, leads_bind, leads_complain, ringMain.cleanup, leads_bind, ringBufferFree,
          leads_releaseIfAny_none, leads_bind, destroy, leads_release (by simp [Free]), leads_pure, exitStatus,
          if_pos attached]
        apply accountsFor_failed
        · rfl
        · simpa [fails_attachSkeleton] using attached
    · intro err refused
      rw [leads_bind, leads_complain, leads_pure]
      apply accountsFor_failed
      · rfl
      · rfl
  · intro later
    apply accountsFor_failed
    · rfl
    · rfl

/-- Links that were never attached are nothing to give back. -/
theorem leads_detachAll_none {now : Nat} {seen : Seen} {post : Unit → Nat → Seen → Prop}
    (programs : List KernelProgram) :
    Leads (note true) (detachAll (programs.map fun _ => none)) now seen post ↔ post () now seen := by
  induction programs with
  | nil => exact Iff.rfl
  | cons program programs ih =>
      rw [List.map_cons, detachAll, leads_bind, bpfLinkDestroy, leads_releaseIfAny_none]
      exact ih

/-- The hand of a program with the descriptor of a cgroup and a skeleton. -/
def cgroupSeen : Seen :=
  (Seen.start.gain 2 []).gain 3 []

/-- What is left of the links when they have been given back is whether one was refused. -/
theorem leads_cgroupCleanup {links : List (Option Nat)} (inSequence : InSequence 4 links) (err : S32) {now : Nat}
    {post : S32 → Nat → Seen → Prop}
    (all : ∀ later, post (exitStatus err) later (Seen.start.failIf (links.any Option.isNone))) :
    Leads (note true) (cgroupMain.cleanup links (some 3) 2 err) now (cgroupSeen.gainAll links [3, 2]) post := by
  have older : ∀ need ∈ [3, 2], need < 4 := by simp
  have heldOlder : ∀ holding ∈ cgroupSeen.hand.held, ∀ need ∈ holding.needs, need < 4 := by simp [cgroupSeen]
  have handlesOlder : ∀ handle, Has cgroupSeen.hand.held handle → handle < 4 := by
    intro handle has
    simp only [cgroupSeen, held_gain, has_cons, held_start, has_nil, or_false] at has
    omega
  rw [cgroupMain.cleanup, leads_bind]
  apply leads_detachAll inSequence fun handle member => free_gainAll inSequence older heldOlder member
  intro later
  rw [loseAll_gainAll inSequence handlesOlder, leads_bind, destroy, leads_release (by simp [cgroupSeen, Free]),
    leads_bind, leads_close (by simp [cgroupSeen, Free]), leads_pure]
  exact all _

theorem cgroupMain_accounts (programs : List KernelProgram) (attachFailed attached : String) :
    Accounts true 2 (fun _ => 0) (cgroupMain programs attachFailed attached) := by
  apply accounts_of_leads
  intro argv rounds
  rw [cgroupMain]
  by_cases short : argv.length < 2
  · rw [if_pos short, leads_bind, usage, leads_complain, leads_pure]
    exact accountsFor_usage short rfl
  rw [if_neg short]
  apply leads_afterSignals
  · rw [leads_bind, openCgroup, leads_acquire (by simp)]
    constructor
    · rw [leads_bind, leads_openAndLoad]
      constructor
      · rw [leads_bind]
        apply leads_attachAll (by simp) (by simp)
        intro links later inSequence
        change Leads _ _ _ (cgroupSeen.gainAll links [3, 2]) _
        by_cases refused : links.any Option.isNone = true
        · rw [if_pos refused, leads_bind, leads_complain]
          apply leads_cgroupCleanup inSequence
          intro later
          apply accountsFor_failed
          · rfl
          · rw [refused]
            rfl
        · rw [if_neg refused, leads_bind, leads_say, leads_bind]
          have skel : Has (cgroupSeen.gainAll links [3, 2]).hand.held 3 :=
            List.mem_map.mpr ⟨⟨3, []⟩, mem_gainAll.mpr (.inr List.mem_cons_self), rfl⟩
          apply leads_watchMaps skel
          intro later
          apply leads_cgroupCleanup inSequence
          intro later
          apply accountsFor_finished short
          · rfl
          · rw [Bool.eq_false_of_not_eq_true refused]
            rfl
          · rfl
      · intro err refused
        rw [leads_bind, leads_complain, cgroupMain.cleanup, leads_bind, leads_detachAll_none, leads_bind, destroy,
          leads_releaseIfAny_none, leads_bind, leads_close (by simp [Free]), leads_pure]
        apply accountsFor_failed
        · rfl
        · simp
    · intro err refused
      rw [leads_bind, leads_perror, leads_pure]
      apply accountsFor_failed
      · rfl
      · rfl
  · intro later
    apply accountsFor_failed
    · rfl
    · rfl

section Links

variable {argv : List String} {argc now : Nat} (enough : ¬ argv.length < argc)

include enough

theorem leads_linkMain (program : KernelProgram) (hook : Hook) {linkErr : S32} (nonzero : linkErr ≠ 0)
    (attachFailed attached : List Piece) (rounds : Nat) :
    Leads (note true) (linkMain program hook linkErr attachFailed attached rounds) now .start
      fun status _ seen => AccountsFor argv argc (fun _ => 0) status seen := by
  rw [linkMain, leads_bind, leads_openAndLoad]
  constructor
  · rw [leads_bind, attach, leads_acquire (by simp)]
    constructor
    · rw [leads_bind, leads_say, leads_bind]
      apply leads_watchMaps (by simp)
      intro later
      rw [linkMain.cleanup, leads_bind, bpfLinkDestroy, leads_release (by simp [Free]), leads_bind, destroy,
        leads_release (by simp [Free]), leads_pure]
      apply accountsFor_finished enough
      · exact emptied (by simp) rfl rfl
      · rfl
      · rfl
    · intro err refused
      rw [leads_bind, leads_complain, linkMain.cleanup, leads_bind, bpfLinkDestroy, leads_releaseIfAny_none,
        leads_bind, destroy, leads_release (by simp [Free]), leads_pure, exitStatus, if_pos nonzero]
      apply accountsFor_failed
      · exact emptied (by simp) rfl rfl
      · simp
  · intro err refused
    rw [leads_bind, leads_complain, leads_pure]
    apply accountsFor_failed
    · rfl
    · rfl

end Links

theorem skLookupMain_accounts : Accounts true 0 (fun _ => 0) skLookupMain := by
  apply accounts_of_leads
  intro argv rounds
  apply leads_afterSignals
  · exact leads_linkMain (Nat.not_lt_zero _) _ _ (by decide) _ _ rounds
  · intro later
    apply accountsFor_failed
    · rfl
    · rfl

theorem uprobeMain_accounts : Accounts true 3 (fun _ => 0) uprobeMain := by
  apply accounts_of_leads
  intro argv rounds
  rw [uprobeMain]
  by_cases short : argv.length < 3
  · rw [if_pos short, leads_bind, usage, leads_complain, leads_pure]
    exact accountsFor_usage short rfl
  · rw [if_neg short]
    apply leads_afterSignals
    · exact leads_linkMain short _ _ (by decide) _ _ rounds
    · intro later
      apply accountsFor_failed
      · rfl
      · rfl

omit [Libbpf] [Libbpf.IgnoresNull] in
/-- What is left to show of a program on an interface. -/
theorem accounts_onInterface {rest : List String → Nat → S32 → Main S32}
    (leads : ∀ argv rounds ifindex, ¬ argv.length < 2 →
      Leads (note true) (rest argv rounds ifindex) 3 .start fun status _ seen =>
        AccountsFor argv 2 (fun _ => 0) status seen) :
    Accounts true 2 (fun _ => 0) fun argv rounds => onInterface argv (rest argv rounds) := by
  apply accounts_of_leads
  intro argv rounds
  rw [onInterface]
  by_cases short : argv.length < 2
  · rw [if_pos short, leads_bind, usage, leads_complain, leads_pure]
    exact accountsFor_usage short rfl
  · rw [if_neg short, leads_bind, ifNametoindex, leads_ask (by simp) (by simp)]
    intro ifindex
    by_cases none : ifindex = 0
    · rw [if_pos none, leads_bind, leads_perror, leads_pure]
      apply accountsFor_failed
      · rfl
      · simpa [fails_ifNametoindex] using none
    · rw [if_neg none, fails_ifNametoindex, decide_eq_false none, failIf_false]
      apply leads_afterSignals
      · exact leads argv rounds ifindex short
      · intro later
        apply accountsFor_failed
        · rfl
        · rfl

theorem xdpPassMain_accounts : Accounts true 2 (fun _ => 0) xdpPassMain :=
  accounts_onInterface fun _ rounds _ enough => leads_linkMain enough _ _ (by decide) _ _ rounds

theorem uretprobeMain_accounts : Accounts true 3 (fun _ => 0) uretprobeMain := by
  apply accounts_of_leads
  intro argv rounds
  rw [uretprobeMain]
  by_cases short : argv.length < 3
  · rw [if_pos short, leads_bind, usage, leads_complain, leads_pure]
    exact accountsFor_usage short rfl
  rw [if_neg short]
  apply leads_afterSignals
  · rw [leads_bind, leads_openAndLoad]
    constructor
    · rw [leads_bind, attach, leads_acquire (by simp)]
      constructor
      · rw [leads_bind, attach, leads_acquire (by simp)]
        constructor
        · rw [leads_bind, leads_say, leads_bind]
          apply leads_watchMaps (by simp)
          intro later
          rw [uretprobeMain.cleanup, leads_bind, bpfLinkDestroy, leads_release (by simp [Free]), leads_bind,
            bpfLinkDestroy, leads_release (by simp [Free]), leads_bind, destroy, leads_release (by simp [Free]),
            leads_pure]
          apply accountsFor_finished short
          · rfl
          · rfl
          · rfl
        · intro err refused
          rw [leads_bind, leads_complain, uretprobeMain.cleanup, leads_bind, bpfLinkDestroy,
            leads_releaseIfAny_none, leads_bind, bpfLinkDestroy, leads_release (by simp [Free]), leads_bind,
            destroy, leads_release (by simp [Free]), leads_pure]
          apply accountsFor_failed
          · rfl
          · simp
      · intro err refused
        rw [leads_bind, leads_complain, uretprobeMain.cleanup, leads_bind, bpfLinkDestroy,
          leads_releaseIfAny_none, leads_bind, leads_releaseIfAny_none, leads_bind, destroy,
          leads_release (by simp [Free]), leads_pure]
        apply accountsFor_failed
        · rfl
        · simp
    · intro err refused
      rw [leads_bind, leads_complain, leads_pure]
      apply accountsFor_failed
      · rfl
      · rfl
  · intro later
    apply accountsFor_failed
    · rfl
    · rfl

omit [Libbpf.IgnoresNull] in
theorem socketFilterMain_accounts : Accounts true 2 (fun _ => 0) socketFilterMain := by
  apply accounts_onInterface
  intro argv rounds ifindex enough
  rw [leads_bind, leads_openAndLoad]
  constructor
  · rw [leads_bind, leads_acquire (by simp)]
    constructor
    · rw [leads_bind, leads_ask (by simp) (by simp)]
      intro bound
      by_cases fails : bound.toInt < 0
      · rw [if_pos fails, leads_bind, leads_perror, socketFilterMain.cleanup, leads_bind,
          leads_close (by simp [Free]), leads_bind, destroy, leads_release (by simp [Free]), leads_pure]
        apply accountsFor_failed
        · rfl
        · simpa [fails_bind] using fails
      · rw [if_neg fails, fails_bind, decide_eq_false fails, failIf_false, leads_bind,
          leads_ask (by simp) (by simp)]
        intro set
        by_cases fails : set.toInt < 0
        · rw [if_pos fails, leads_bind, leads_perror, socketFilterMain.cleanup, leads_bind,
            leads_close (by simp [Free]), leads_bind, destroy, leads_release (by simp [Free]), leads_pure]
          apply accountsFor_failed
          · rfl
          · simpa [fails_setsockopt] using fails
        · rw [if_neg fails, fails_setsockopt, decide_eq_false fails, failIf_false, leads_bind, leads_say,
            leads_bind]
          apply leads_watchMaps (by simp)
          intro later
          rw [socketFilterMain.cleanup, leads_bind, leads_close (by simp [Free]), leads_bind, destroy,
            leads_release (by simp [Free]), leads_pure]
          apply accountsFor_finished enough
          · rfl
          · rfl
          · rfl
    · intro err refused
      rw [leads_bind, leads_perror, socketFilterMain.cleanup, leads_bind, leads_close_none,
        leads_bind, destroy, leads_release (by simp [Free]), leads_pure]
      apply accountsFor_failed
      · rfl
      · simp
  · intro err refused
    rw [leads_bind, leads_complain, leads_pure]
    apply accountsFor_failed
    · rfl
    · rfl

omit [Libbpf] [Libbpf.IgnoresNull] in
/-- `attach_tc` fails when one of its calls does. -/
theorem leads_tcAttach {skel now : Nat} {seen : Seen} {ifindex : S32} {post : S32 → Nat → Seen → Prop}
    (has : Has seen.hand.held skel)
    (all : ∀ err later, post err later (seen.failIf (decide (err ≠ 0)))) :
    Leads (note true) (tcAttach skel ifindex) now seen post := by
  rw [tcAttach, leads_bind, leads_ask (by simp) (by simp)]
  intro created
  by_cases fails : created ≠ 0 ∧ created ≠ -User.EEXIST
  · rw [if_pos fails, fails_bpfTcHookCreate, decide_eq_true fails, leads_pure, ← decide_eq_true fails.1]
    exact all created _
  · rw [if_neg fails, fails_bpfTcHookCreate, decide_eq_false fails, failIf_false,
      leads_ask (by simpa using has) (by simp)]
    intro err
    exact all err _

omit [Libbpf] [Libbpf.IgnoresNull] in
theorem leads_tcDetach {now : Nat} {seen : Seen} {ifindex : S32} {post : Unit → Nat → Seen → Prop}
    (all : ∀ later, post () later seen) : Leads (note true) (tcDetach ifindex) now seen post := by
  rw [tcDetach, leads_bind, leads_ask (by simp) (by simp)]
  intro detached
  have ignored : SysCall.fails true (.bpfTcDetach ifindex) detached = false := rfl
  rw [ignored, failIf_false, leads_bind, leads_ask (by simp) (by simp)]
  intro destroyed
  have ignored : SysCall.fails true (.bpfTcHookDestroy ifindex) destroyed = false := rfl
  rw [ignored, failIf_false]
  exact all _

omit [Libbpf.IgnoresNull] in
theorem tcClassifierMain_accounts : Accounts true 2 (fun _ => 0) tcClassifierMain := by
  apply accounts_onInterface
  intro argv rounds ifindex enough
  rw [leads_bind, leads_openAndLoad]
  constructor
  · rw [leads_bind]
    apply leads_tcAttach (by simp)
    intro err later
    by_cases attached : err = 0
    · subst attached
      rw [if_neg (by simp), leads_bind, leads_say, leads_bind]
      apply leads_watchMaps (by simp)
      intro later
      rw [tcClassifierMain.cleanup, leads_bind]
      apply leads_tcDetach
      intro later
      rw [leads_bind, destroy, leads_release (by simp [Free]), leads_pure]
      apply accountsFor_finished enough
      · rfl
      · rfl
      · rfl
    · rw [if_pos attached, leads_bind, leads_complain, tcClassifierMain.cleanup, leads_bind]
      apply leads_tcDetach
      intro later
      rw [leads_bind, destroy, leads_release (by simp [Free]), leads_pure, exitStatus, if_pos attached]
      apply accountsFor_failed
      · rfl
      · simpa using attached
  · intro err refused
    rw [leads_bind, leads_complain, leads_pure]
    apply accountsFor_failed
    · rfl
    · rfl

/-- **The user programs of S1-basic account for their runs**, when libbpf ignores null pointers: whatever their
calls answer and whenever the signal comes, they work only with what is in hand, give everything back once, and
return zero exactly if they have their arguments, no call fails, and their poll loop leaves zero in `err`. A last
poll that is positive leaves its number there, so such a run returns one. -/
theorem monitors_account :
    Accounts true 0 (fun _ => 0) cgroupBpfMain ∧ Accounts true 0 (fun _ => 0) kretprobeMain ∧
      Accounts true 0 (fun _ => 0) rawTracepointMain ∧ Accounts true 0 (fun _ => 0) tracepointMain ∧
      Accounts true 0 (RingUser.main .s1LsmFileOpen) lsmFileOpenMain ∧
      Accounts true 0 (RingUser.main .s1FentryExecLatency) fentryFexitMain ∧
      Accounts true 0 (RingUser.main .s1Kprobe) kprobeMain ∧
      Accounts true 2 (fun _ => 0) cgroupDeviceMain ∧ Accounts true 2 (fun _ => 0) cgroupSkbMain ∧
      Accounts true 2 (fun _ => 0) cgroupSockMain ∧ Accounts true 2 (fun _ => 0) cgroupSockAddrMain ∧
      Accounts true 2 (fun _ => 0) cgroupSockoptMain ∧ Accounts true 2 (fun _ => 0) cgroupSysctlMain ∧
      Accounts true 0 (fun _ => 0) skLookupMain ∧ Accounts true 2 (fun _ => 0) xdpPassMain ∧
      Accounts true 3 (fun _ => 0) uprobeMain ∧ Accounts true 3 (fun _ => 0) uretprobeMain ∧
      Accounts true 2 (fun _ => 0) socketFilterMain ∧ Accounts true 2 (fun _ => 0) tcClassifierMain :=
  ⟨skeletonMain_accounts _ _, skeletonMain_accounts _ _, skeletonMain_accounts _ _, skeletonMain_accounts _ _,
    ringMain_accounts _ _ _, ringMain_accounts _ _ _, ringMain_accounts _ _ _,
    cgroupMain_accounts _ _ _, cgroupMain_accounts _ _ _, cgroupMain_accounts _ _ _, cgroupMain_accounts _ _ _,
    cgroupMain_accounts _ _ _, cgroupMain_accounts _ _ _, skLookupMain_accounts, xdpPassMain_accounts,
    uprobeMain_accounts, uretprobeMain_accounts, socketFilterMain_accounts, tcClassifierMain_accounts⟩

omit [Libbpf] [Libbpf.IgnoresNull] in
/-- A run in which the second program of cgroup_skb is refused. -/
theorem monitors_account_refused :
    Orderly (exec (refusedAt 5) 0 (@cgroupSkbMain .documented ["cgroup_skb", "/sys/fs/cgroup"] 3)).2 ∧
      (exec (refusedAt 5) 0 (@cgroupSkbMain .documented ["cgroup_skb", "/sys/fs/cgroup"] 3)).1 = 1 := by
  rcases @monitors_account .documented Libbpf.documented_ignoresNull with
    ⟨-, -, -, -, -, -, -, -, accounts, -⟩
  refine ⟨accounts.orderly _ _ _, (accounts.status _ _ _).trans ?_⟩
  decide

end MonsaEbpf.S1

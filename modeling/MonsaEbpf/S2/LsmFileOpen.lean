/-
Module: MonsaEbpf.S2.LsmFileOpen
Layer: S2
Purpose: S2-advanced/examples/security/lsm/lsm_file_open.bpf.c. The hook reserves its event first and
  returns when there is no ring space; otherwise it fills the event, updates `lsm_stats_map`, submits the
  event and returns its decision, which is always to allow. The `bpf_printk` line changes no state and is
  left out.
Imports: MonsaEbpf.Bpf.Counting, MonsaEbpf.Lib.Runs
Trusted boundary: human-reviewed translation
Main exports: LsmEvent, LsmCall, LsmMaps, LsmStats.record, msbLsmFileOpen, LsmMaps.step,
  LsmMaps.step_unreserved, LsmMaps.step_reserved, LsmMaps.touches
-/
import MonsaEbpf.Bpf.Counting
import MonsaEbpf.Lib.Runs

namespace MonsaEbpf.S2

/-- `struct lsm_event`. -/
structure LsmEvent where
  timestampNs : U64
  pid : U32
  tid : U32
  uid : U32
  gid : U32
  cgroupId : U64
  comm : Comm
  path : Vector U8 256
  flags : U32
  mode : U32
  decision : S32
  count : U64

/-- `struct lsm_stats`. -/
structure LsmStats where
  allowCount : U64
  denyCount : U64
deriving Repr, DecidableEq

instance : Inhabited LsmStats := ⟨⟨0, 0⟩⟩

namespace LsmStats

def allowField : Field LsmStats U64 := ⟨allowCount, fun stats v => { stats with allowCount := v }⟩
def denyField : Field LsmStats U64 := ⟨denyCount, fun stats v => { stats with denyCount := v }⟩

/-- `new_stats` of the first file open. -/
def first : LsmStats where
  allowCount := 1
  denyCount := 0

/-- The statistics after one more allowed open of a PID that may be new. -/
def record (stats : Option LsmStats) (_ : Unit) : LsmStats :=
  match stats with
  | none => first
  | some stats => { stats with allowCount := stats.allowCount + 1 }

/-- An open always changes the statistics. -/
theorem record_changes (stats : Option LsmStats) (opened : Unit) :
    some (record stats opened) ≠ stats := by
  cases stats with
  | none => simp
  | some stats =>
      intro same
      have counts := congrArg LsmStats.allowCount (Option.some.inj same)
      change stats.allowCount + 1 = stats.allowCount at counts
      bv_omega

end LsmStats

/-- What one invocation sees, with the outcome of its reservation. -/
structure LsmCall where
  task : Task
  ktimeGetNs : U64
  reserved : Option LsmEvent

/-- The maps of the program. -/
structure LsmMaps where
  lsmStatsMap : CellMap U32 LsmStats 1024
  lsmEvents : List LsmEvent

inductive LsmMap where
  | lsmStatsMap
deriving DecidableEq, Repr

def lsmStatsMap : MapRef LsmMap LsmMaps U32 LsmStats 1024 where
  name := .lsmStatsMap
  get := LsmMaps.lsmStatsMap
  set := fun maps map => { maps with lsmStatsMap := map }
  get_set := fun _ _ => rfl
  set_get := fun _ => rfl
  set_set := fun _ _ _ => rfl

def lsmEvents : RingRef LsmMaps LsmEvent where
  get := LsmMaps.lsmEvents
  set := fun maps events => { maps with lsmEvents := events }

/-- The string `"unknown"`. -/
def unknownPath : List U8 := [0x75, 0x6e, 0x6b, 0x6e, 0x6f, 0x77, 0x6e]

abbrev LsmProgram := StepProgram (BpfOp LsmMap) LsmMaps

/-- Add one to the counter of the decision and read it back. -/
def countDecision (stats : Nat) (decision : S32) : LsmProgram U64 :=
  if decision = 0 then do
    let _ ← syncFetchAndAdd lsmStatsMap stats LsmStats.allowField 1
    load lsmStatsMap stats LsmStats.allowCount
  else do
    let _ ← syncFetchAndAdd lsmStatsMap stats LsmStats.denyField 1
    load lsmStatsMap stats LsmStats.denyCount

/-- Update the statistics of a PID and return the count for the event. -/
def lsmCount (pid : U32) (decision : S32) : LsmProgram U64 := do
  let stats ← bpfMapLookupElem lsmStatsMap pid
  match stats with
  | none => do
      let _ ← bpfMapUpdateElem lsmStatsMap pid LsmStats.first
      return 1
  | some stats => countDecision stats decision

/-- The event of an open; every field of the reserved memory is written. -/
def lsmEvent (call : LsmCall) (decision : S32) (count : U64) : LsmEvent where
  timestampNs := call.ktimeGetNs
  pid := pidOf call.task.pidTgid
  tid := tidOf call.task.pidTgid
  uid := call.task.uid
  gid := call.task.gid
  cgroupId := call.task.cgroupId
  comm := call.task.comm
  path := memcpy (Vector.replicate 256 0) unknownPath
  flags := 0
  mode := 0
  decision := decision
  count := count

/-- `msb_lsm_file_open`: allow by default. -/
def msbLsmFileOpen (call : LsmCall) : LsmProgram S32 := do
  let decision : S32 := 0
  let evt ← bpfRingbufReserve call.reserved
  match evt with
  | none => return 0
  | some _ => do
      let count ← lsmCount (pidOf call.task.pidTgid) decision
      bpfRingbufSubmit lsmEvents (lsmEvent call decision count)
      return decision

/-- No map holds a key yet and nothing was submitted. -/
def LsmMaps.initial : LsmMaps where
  lsmStatsMap := .empty
  lsmEvents := []

/-! ### Run alone -/

/-- Run the hook alone. -/
def LsmMaps.step (maps : LsmMaps) (call : LsmCall) : LsmMaps :=
  ((msbLsmFileOpen call).exec maps).2

variable {maps : LsmMaps}

/-- The count returned is the one that is stored then. -/
theorem exec_lsmCount (pid : U32) :
    ∃ after, (lsmCount pid 0).exec maps =
        ((LsmStats.record (maps.lsmStatsMap.find? pid) ()).allowCount,
          { maps with lsmStatsMap := after }) ∧
      (maps.lsmStatsMap.HasRoom pid → ∀ other, after.find? other =
        if pid = other then some (LsmStats.record (maps.lsmStatsMap.find? other) ())
        else maps.lsmStatsMap.find? other) := by
  cases found : maps.lsmStatsMap.lookup pid with
  | none =>
      refine ⟨maps.lsmStatsMap.insert pid LsmStats.first, ?_, fun room other => ?_⟩
      · rw [lsmCount, exec_lookup_bind S2.lsmStatsMap found, CellMap.find?_eq_none.mpr found]
        rfl
      · exact CellMap.find?_insert_next (LsmStats.record · ()) found room other
  | some stats =>
      have allocated : stats < maps.lsmStatsMap.cells.length := maps.lsmStatsMap.live found
      have held : lsmStatsMap.holding maps stats (maps.lsmStatsMap.read stats) = maps :=
        holding_read allocated
      have added : (syncFetchAndAdd S2.lsmStatsMap stats LsmStats.allowField 1).exec
          (S2.lsmStatsMap.holding maps stats (maps.lsmStatsMap.read stats)) = _ :=
        exec_syncFetchAndAdd_holding allocated _ LsmStats.allowField 1
      rw [held] at added
      refine ⟨maps.lsmStatsMap.assign stats
        (LsmStats.record (some (maps.lsmStatsMap.read stats)) ()), ?_, fun _ other => ?_⟩
      · rw [lsmCount, exec_lookup_bind S2.lsmStatsMap found, CellMap.find?_of_lookup found]
        change (countDecision stats 0).exec maps = _
        rw [countDecision, if_pos rfl, StepProgram.exec_bind, added]
        exact exec_load_holding allocated _ LsmStats.allowCount
      · exact CellMap.find?_assign_next (LsmStats.record · ()) found other

/-- Without ring space an open leaves no trace. -/
theorem LsmMaps.step_unreserved {call : LsmCall} (full : call.reserved = none) :
    maps.step call = maps := by
  rw [LsmMaps.step, msbLsmFileOpen, full]
  rfl

/-- **What an open with ring space does.** -/
theorem LsmMaps.step_reserved {call : LsmCall} {memory : LsmEvent}
    (reserved : call.reserved = some memory) :
    ∃ after, maps.step call =
        { lsmStatsMap := after
          lsmEvents := maps.lsmEvents ++
            [lsmEvent call 0
              (LsmStats.record (maps.lsmStatsMap.find? (pidOf call.task.pidTgid)) ()).allowCount] } ∧
      (maps.lsmStatsMap.HasRoom (pidOf call.task.pidTgid) → ∀ other, after.find? other =
        if pidOf call.task.pidTgid = other then
          some (LsmStats.record (maps.lsmStatsMap.find? other) ())
        else maps.lsmStatsMap.find? other) := by
  obtain ⟨after, counted, find⟩ := exec_lsmCount (pidOf call.task.pidTgid)
  refine ⟨after, ?_, find⟩
  rw [LsmMaps.step, msbLsmFileOpen, reserved]
  change ((lsmCount (pidOf call.task.pidTgid) 0 >>= _).exec maps).2 = _
  rw [StepProgram.exec_bind, counted]
  rfl

/-- An open with ring space is recorded for its PID. -/
def LsmCall.record? (call : LsmCall) : Option (U32 × Unit) :=
  call.reserved.map fun _ => (pidOf call.task.pidTgid, ())

/-- An open changes the statistics by what it records. -/
theorem LsmMaps.touches {call : LsmCall} (room : maps.lsmStatsMap.HasRoom (pidOf call.task.pidTgid)) :
    Runs.Touches LsmMaps.step (fun maps => maps.lsmStatsMap.find?) (fun _ call => call.record?)
      LsmStats.record maps call := by
  intro pid
  simp only [LsmCall.record?]
  cases reserved : call.reserved with
  | none => rw [LsmMaps.step_unreserved reserved, Option.map_none]
  | some memory =>
      obtain ⟨after, step, find⟩ := LsmMaps.step_reserved reserved
      rw [step, Option.map_some]
      exact find room pid

end MonsaEbpf.S2

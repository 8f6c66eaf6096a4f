/-
Module: MonsaEbpf.S2.XdpController
Layer: S2
Purpose: The controller in S2-advanced/examples/network/xdp/xdp_pass_user.c and the interface it shares with
  other processes. `main` is a machine that takes one step at a time; between its steps others attach and
  detach programs of their own. The controller takes no program away from them exactly when their actions
  leave none attached at the moments of its own attach and detach.
Imports: MonsaEbpf.Bpf.Helpers, MonsaEbpf.Lib.Runs
Trusted boundary: human-reviewed translation, what the kernel does with flags 0 and no expected program
Main exports: AttachedProgram, XdpOutcomes, XdpPoint, XdpMain, XdpState, XdpAction, XdpOutcomes.mainStep,
  XdpOutcomes.step, LeavesPrograms, OthersLeaveNothing, xdp_leaves_programs_iff
-/
import MonsaEbpf.Bpf.Helpers
import MonsaEbpf.Lib.Runs

namespace MonsaEbpf.S2

/-- A program on the interface: the controller's, or one that another process attached. -/
inductive AttachedProgram where
  | own
  | foreign (id : Nat)
deriving DecidableEq, Repr

/-! ### The kernel -/

/-- `bpf_xdp_attach` with flags 0 and no options replaces whatever is attached; an error changes nothing. -/
def bpfXdpAttach (program : AttachedProgram) (result : S32) (attached : Option AttachedProgram) :
    Option AttachedProgram :=
  if result = 0 then some program else attached

/-- `bpf_xdp_detach` with flags 0 and no options removes whatever is attached. -/
def bpfXdpDetach (_attached : Option AttachedProgram) : Option AttachedProgram :=
  none

/-! ### The controller -/

/-- What `main` gets from its surroundings, apart from the signal that stops it: its arguments, the
interface, the skeleton, and what `bpf_xdp_attach` and `ring_buffer__new` return. -/
structure XdpOutcomes where
  argc : Nat
  ifindex : U32
  skelLoaded : Bool
  attach : S32
  ringCreated : Bool

/-- Where `main` is. -/
inductive XdpPoint where
  | setup
  | attach
  | ring
  | loop
  | detach
  | cleanup
  | ended (status : S32)
deriving DecidableEq, Repr

/-- The variables of `main`. -/
structure XdpMain where
  point : XdpPoint
  err : S32
  stop : Bool
deriving DecidableEq, Repr

/-- `main` and the interface. -/
structure XdpState where
  main : XdpMain
  attached : Option AttachedProgram
deriving DecidableEq, Repr

/-- What happens next: another process attaches or detaches, the signal arrives, or `main` goes on. -/
inductive XdpAction where
  | otherAttaches (id : Nat)
  | otherDetaches
  | signal
  | main
deriving DecidableEq, Repr

namespace XdpOutcomes

variable (outcomes : XdpOutcomes)

/-- What a step does to the variables of `main`. -/
def mainStep (main : XdpMain) : XdpMain :=
  match main.point with
  | .setup =>
      if outcomes.argc < 2 then { main with point := .ended 1 }
      else if outcomes.ifindex = 0 then { main with point := .ended 1 }
      else if ¬ outcomes.skelLoaded then { main with point := .ended 1 }
      else { main with point := .attach }
  | .attach =>
      if outcomes.attach ≠ 0 then { main with point := .cleanup, err := outcomes.attach }
      else { main with point := .ring, err := outcomes.attach }
  | .ring =>
      if ¬ outcomes.ringCreated then { main with point := .detach, err := -1 }
      else { main with point := .loop }
  | .loop => if main.stop then { main with point := .detach } else main
  | .detach => { main with point := .cleanup }
  | .cleanup => { main with point := .ended (if main.err ≠ 0 then 1 else 0) }
  | .ended _ => main

/-- What a step of `main` does to the interface. -/
def mainAttached (main : XdpMain) (attached : Option AttachedProgram) : Option AttachedProgram :=
  match main.point with
  | .attach => bpfXdpAttach .own outcomes.attach attached
  | .detach => bpfXdpDetach attached
  | .setup | .ring | .loop | .cleanup | .ended _ => attached

/-- One action. -/
def step (state : XdpState) : XdpAction → XdpState
  | .otherAttaches id => { state with attached := some (.foreign id) }
  | .otherDetaches => { state with attached := none }
  | .signal => { state with main := { state.main with stop := true } }
  | .main =>
      { main := outcomes.mainStep state.main
        attached := outcomes.mainAttached state.main state.attached }

/-- One action, if the controller left the interface alone: what the others make of it. -/
def othersStep (state : XdpState) (action : XdpAction) : XdpState :=
  match action with
  | .main => { state with main := outcomes.mainStep state.main }
  | .otherAttaches _ | .otherDetaches | .signal => outcomes.step state action

/-- The step that `main` takes next changes what is attached. -/
def Acts (main : XdpMain) : Prop :=
  main.point = .attach ∧ outcomes.attach = 0 ∨ main.point = .detach

instance (main : XdpMain) : Decidable (outcomes.Acts main) :=
  inferInstanceAs (Decidable (_ ∨ _))

end XdpOutcomes

/-- `main` before its first step, on an interface with the program of another process or none. -/
def xdpStart (before : Option Nat) : XdpState where
  main := { point := .setup, err := 0, stop := false }
  attached := before.map .foreign

/-- Along the run no step of the controller replaces or detaches a program of another process. -/
def LeavesPrograms (outcomes : XdpOutcomes) (before : Option Nat) (actions : List XdpAction) : Prop :=
  Runs.Before outcomes.step (fun state action => action = .main → ∀ id,
    state.attached = some (.foreign id) → (outcomes.step state action).attached = some (.foreign id))
    (xdpStart before) actions

/-- Whenever the controller attaches or detaches, the others have left no program on the interface. -/
def OthersLeaveNothing (outcomes : XdpOutcomes) (before : Option Nat) (actions : List XdpAction) : Prop :=
  Runs.Before outcomes.othersStep (fun state action => action = .main → outcomes.Acts state.main →
    state.attached = none) (xdpStart before) actions

/-! ### The interface with and without the controller -/

/-- The same point of `main`, and the same program of another process, if there is one. -/
structure SameForeign (state others : XdpState) : Prop where
  main : state.main = others.main
  foreign : ∀ id, state.attached = some (.foreign id) ↔ others.attached = some (.foreign id)
  noneOwn : others.attached ≠ some .own

section

variable {outcomes : XdpOutcomes} {main : XdpMain} {attached : Option AttachedProgram} {state others : XdpState}
  {action : XdpAction}

/-- A step that acts leaves no program of another process. -/
theorem mainAttached_of_acts (acts : outcomes.Acts main) (id : Nat) :
    outcomes.mainAttached main attached ≠ some (.foreign id) := by
  rw [XdpOutcomes.mainAttached]
  rcases acts with ⟨point, accepted⟩ | point
  · rw [point, bpfXdpAttach, if_pos accepted]
    exact nofun
  · rw [point]
    exact nofun

/-- Any other step leaves the interface as it is. -/
theorem mainAttached_of_not_acts (idle : ¬ outcomes.Acts main) :
    outcomes.mainAttached main attached = attached := by
  rw [XdpOutcomes.mainAttached]
  obtain ⟨noAttach, noDetach⟩ := not_or.mp idle
  cases point : main.point with
  | setup | ring | loop | cleanup | ended => rfl
  | attach => exact if_neg fun accepted => noAttach ⟨point, accepted⟩
  | detach => exact absurd point noDetach

/-- **One step**: the controller takes a program away exactly when it acts and the others have left one. -/
theorem leaves_iff (same : SameForeign state others) :
    (∀ id, state.attached = some (.foreign id) →
        (outcomes.step state .main).attached = some (.foreign id)) ↔
      (outcomes.Acts others.main → others.attached = none) := by
  change (∀ id, _ → outcomes.mainAttached state.main state.attached = _) ↔ _
  rw [← same.main]
  by_cases acts : outcomes.Acts state.main
  · rw [forall_prop_of_true acts]
    constructor
    · intro leaves
      cases left : others.attached with
      | none => rfl
      | some program =>
          cases program with
          | own => exact absurd left same.noneOwn
          | foreign id =>
              exact absurd (leaves id ((same.foreign id).mpr left)) (mainAttached_of_acts acts id)
    · intro nothing id there
      rw [same.foreign, nothing] at there
      cases there
  · rw [mainAttached_of_not_acts acts]
    exact iff_of_true (fun _ there => there) fun now => absurd now acts

/-- As long as the controller takes nothing away, the interface shows what the others make of it. -/
theorem sameForeign_step (same : SameForeign state others)
    (leaves : action = .main → ∀ id, state.attached = some (.foreign id) →
      (outcomes.step state action).attached = some (.foreign id)) :
    SameForeign (outcomes.step state action) (outcomes.othersStep others action) := by
  cases action with
  | otherAttaches id => exact ⟨same.main, fun _ => Iff.rfl, nofun⟩
  | otherDetaches => exact ⟨same.main, fun _ => Iff.rfl, nofun⟩
  | signal =>
      exact ⟨congrArg (fun main => { main with stop := true }) same.main, same.foreign, same.noneOwn⟩
  | main =>
      refine ⟨congrArg outcomes.mainStep same.main, fun id => ?_, same.noneOwn⟩
      refine Iff.trans ⟨fun there => ?_, leaves rfl id⟩ (same.foreign id)
      by_cases acts : outcomes.Acts state.main
      · exact absurd there (mainAttached_of_acts acts id)
      · exact (mainAttached_of_not_acts acts).symm.trans there

end

/-- **The S2 XDP controller takes no program away from another process exactly when, at its successful attach
and at its detach, the actions of the others up to then have left none on the interface.** -/
theorem xdp_leaves_programs_iff (outcomes : XdpOutcomes) (before : Option Nat) (actions : List XdpAction) :
    LeavesPrograms outcomes before actions ↔ OthersLeaveNothing outcomes before actions := by
  have start : SameForeign (xdpStart before) (xdpStart before) := by
    refine ⟨rfl, fun _ => Iff.rfl, ?_⟩
    cases before <;> exact nofun
  apply Runs.before_iff_before ?_ ?_ start actions
  · intro state others action same
    refine forall_congr' fun isMain => ?_
    subst isMain
    exact leaves_iff same
  · intro state others action same leaves
    exact sameForeign_step same leaves

/-- A start in which every call succeeds. -/
def xdpGood : XdpOutcomes where
  argc := 2
  ifindex := 3
  skelLoaded := true
  attach := 0
  ringCreated := true

/-- The run of `main` without others: up to the loop, a signal, and on to the end. -/
def xdpUndisturbed : List XdpAction :=
  [.main, .main, .main, .signal, .main, .main, .main]

/-- Another process replaces the program while the controller polls. -/
def xdpReplaced : List XdpAction :=
  [.main, .main, .main, .otherAttaches 9, .signal, .main, .main, .main]

/-- Program 7 was there before and is replaced by the attach; program 9 comes later and is removed by the
detach. Both runs end with status 0. -/
theorem xdp_takes_programs_away :
    (Runs.run xdpGood.step (xdpStart (some 7)) xdpUndisturbed).main.point = .ended 0 ∧
      ¬ LeavesPrograms xdpGood (some 7) xdpUndisturbed ∧
      (Runs.run xdpGood.step (xdpStart none) xdpReplaced).main.point = .ended 0 ∧
      ¬ LeavesPrograms xdpGood none xdpReplaced := by
  refine ⟨by decide, fun leaves => ?_, by decide, fun leaves => ?_⟩
  · have kept := leaves.2.1 rfl 7 rfl
    cases kept
  · have kept := leaves.2.2.2.2.2.2.1 rfl 9 rfl
    cases kept

end MonsaEbpf.S2

/-
Module: MonsaEbpf.S1.TcController
Layer: S1
Purpose: S1-basic/examples/network/tc/example_tc_classifier_user.c: the controller that attaches the
  classifier to the ingress hook of an interface. Success and both failures of `attach_tc` reach the same
  cleanup, which destroys the hook with all its filters, so filters of other processes survive only when
  `main` returns before it attaches anything.
Imports: MonsaEbpf.Bpf.Helpers
Trusted boundary: human-reviewed translation, the documented effects of libbpf's tc functions on filters
Main exports: TcFilter, TcSetup, TcOutcomes, attachTc, detachTc, tcMain, tcMain_filters, LeavesFilters,
  tc_leaves_filters_iff
-/
import MonsaEbpf.Bpf.Helpers

namespace MonsaEbpf.S1

/-- Who installed a filter. -/
inductive FilterOwner where
  | controller
  | other (process : Nat)
deriving DecidableEq, Repr

/-- A filter on the ingress hook of the interface. -/
structure TcFilter where
  handle : U32
  priority : U32
  owner : FilterOwner
deriving DecidableEq, Repr

abbrev TcFilters := Finset TcFilter

/-- `struct bpf_tc_opts`, as far as it names a filter. -/
structure TcOpts where
  handle : U32
  priority : U32

/-- The filter is the one that the options name. -/
def TcOpts.Names (opts : TcOpts) (filter : TcFilter) : Prop :=
  filter.handle = opts.handle ∧ filter.priority = opts.priority

instance (opts : TcOpts) (filter : TcFilter) : Decidable (opts.Names filter) :=
  inferInstanceAs (Decidable (_ ∧ _))

/-! ### The functions of libbpf -/

/-- `bpf_tc_attach` with `BPF_TC_F_REPLACE`: the controller's filter takes the place of one with the same
handle and priority; an error changes nothing. -/
def bpfTcAttach (opts : TcOpts) (result : S32) (filters : TcFilters) : S32 × TcFilters :=
  if result = 0 then
    (0, insert { handle := opts.handle, priority := opts.priority, owner := .controller }
      (filters.filter fun filter => ¬ opts.Names filter))
  else (result, filters)

/-- `bpf_tc_detach` removes the filter that the options name, whoever owns it. -/
def bpfTcDetach (opts : TcOpts) (filters : TcFilters) : TcFilters :=
  filters.filter fun filter => ¬ opts.Names filter

/-- `bpf_tc_hook_destroy` with `BPF_TC_INGRESS` removes all filters of the hook. -/
def bpfTcHookDestroy (_filters : TcFilters) : TcFilters :=
  ∅

/-! ### The controller -/

def EEXIST : S32 := 17

/-- What `main` finds before it attaches: its arguments, the interface, the signal handlers, the skeleton. -/
structure TcSetup where
  argc : Nat
  ifindex : U32
  signalsSet : Bool
  skelLoaded : Bool

/-- What `bpf_tc_hook_create` and `bpf_tc_attach` return. -/
structure TcOutcomes where
  hookCreate : S32
  attach : S32

/-- `.handle = 1, .priority = 1`. -/
def tcOpts : TcOpts where
  handle := 1
  priority := 1

/-- `attach_tc`. -/
def attachTc (outcomes : TcOutcomes) (filters : TcFilters) : S32 × TcFilters :=
  let err := outcomes.hookCreate
  if err ≠ 0 ∧ err ≠ -EEXIST then (err, filters)
  else
    let (err, filters) := bpfTcAttach tcOpts outcomes.attach filters
    if err ≠ 0 then (err, filters) else (0, filters)

/-- `detach_tc`. -/
def detachTc (filters : TcFilters) : TcFilters :=
  bpfTcHookDestroy (bpfTcDetach tcOpts filters)

/-- `main`: its exit status and the filters it leaves. The loop behind a successful attach only reads the
statistics, until a signal stops it. -/
def tcMain (setup : TcSetup) (outcomes : TcOutcomes) (filters : TcFilters) : S32 × TcFilters :=
  if setup.argc < 2 then (1, filters)
  else if setup.ifindex = 0 then (1, filters)
  else if ¬ setup.signalsSet then (1, filters)
  else if ¬ setup.skelLoaded then (1, filters)
  else
    let (err, filters) := attachTc outcomes filters
    (if err ≠ 0 then 1 else 0, detachTc filters)

/-! ### What is left -/

/-- `main` gets as far as `attach_tc`. -/
def TcSetup.Ready (setup : TcSetup) : Prop :=
  2 ≤ setup.argc ∧ setup.ifindex ≠ 0 ∧ setup.signalsSet ∧ setup.skelLoaded

instance (setup : TcSetup) : Decidable setup.Ready :=
  inferInstanceAs (Decidable (_ ∧ _))

/-- `attach_tc` succeeds: there is a hook, new or old, and the filter is accepted. -/
def TcOutcomes.Attaches (outcomes : TcOutcomes) : Prop :=
  (outcomes.hookCreate = 0 ∨ outcomes.hookCreate = -EEXIST) ∧ outcomes.attach = 0

instance (outcomes : TcOutcomes) : Decidable outcomes.Attaches :=
  inferInstanceAs (Decidable (_ ∧ _))

variable (setup : TcSetup) (outcomes : TcOutcomes) (filters : TcFilters)

/-- Destroying the hook leaves nothing, whatever was detached before. -/
theorem detachTc_eq_empty : detachTc filters = ∅ := rfl

theorem bpfTcAttach_result (opts : TcOpts) (result : S32) :
    (bpfTcAttach opts result filters).1 = result := by
  rw [bpfTcAttach]
  split
  · rename_i accepted
    exact accepted.symm
  · rfl

/-- What `attach_tc` returns: the error of the first function that fails. -/
theorem attachTc_result :
    (attachTc outcomes filters).1 =
      if outcomes.hookCreate ≠ 0 ∧ outcomes.hookCreate ≠ -EEXIST then outcomes.hookCreate
      else outcomes.attach := by
  have attached := bpfTcAttach_result filters tcOpts outcomes.attach
  rw [attachTc]
  split
  · rfl
  · dsimp only
    split
    · exact attached
    · rename_i accepted
      exact (not_not.mp accepted).symm.trans attached

/-- **What `main` leaves**: nothing, once it has got as far as `attach_tc`, whatever became of that. -/
theorem tcMain_filters : (tcMain setup outcomes filters).2 = if setup.Ready then ∅ else filters := by
  rw [tcMain]
  by_cases arguments : setup.argc < 2
  · rw [if_pos arguments, if_neg fun ready => Nat.not_lt.mpr ready.1 arguments]
  · by_cases interface : setup.ifindex = 0
    · rw [if_neg arguments, if_pos interface, if_neg fun ready => ready.2.1 interface]
    · by_cases signals : setup.signalsSet
      · by_cases loaded : setup.skelLoaded
        · rw [if_neg arguments, if_neg interface, if_neg (not_not.mpr signals),
            if_neg (not_not.mpr loaded), if_pos ⟨Nat.not_lt.mp arguments, interface, signals, loaded⟩]
          exact detachTc_eq_empty (attachTc outcomes filters).2
        · rw [if_neg arguments, if_neg interface, if_neg (not_not.mpr signals), if_pos loaded,
            if_neg fun ready => loaded ready.2.2.2]
      · rw [if_neg arguments, if_neg interface, if_pos signals, if_neg fun ready => signals ready.2.2.1]

/-- Every filter that the controller did not install is still there when `main` ends, except that an attach
may have replaced the one at its own handle and priority. -/
def LeavesFilters : Prop :=
  ∀ filter ∈ filters, filter.owner ≠ .controller →
    filter ∈ (tcMain setup outcomes filters).2 ∨ (outcomes.Attaches ∧ tcOpts.Names filter)

instance : Decidable (LeavesFilters setup outcomes filters) :=
  inferInstanceAs (Decidable (∀ filter ∈ filters, _))

/-- **The S1 tc controller leaves the filters of others alone exactly when it ends before it attaches, or
its attach succeeds and replaces all of them**; in particular when there are none. -/
theorem tc_leaves_filters_iff :
    LeavesFilters setup outcomes filters ↔
      ¬ setup.Ready ∨ ∀ filter ∈ filters, filter.owner ≠ .controller →
        outcomes.Attaches ∧ tcOpts.Names filter := by
  rw [LeavesFilters, tcMain_filters]
  by_cases ready : setup.Ready
  · rw [if_pos ready, or_iff_right (not_not.mpr ready)]
    refine forall₃_congr fun filter member foreign => ?_
    exact or_iff_right (Finset.notMem_empty filter)
  · rw [if_neg ready]
    exact iff_of_true (fun filter member _ => Or.inl member) (Or.inl ready)

/-- A filter of another process at handle 7, priority 5. -/
def foreignFilter : TcFilter where
  handle := 7
  priority := 5
  owner := .other 1

/-- A start in which `main` gets as far as `attach_tc`. -/
def tcReady : TcSetup where
  argc := 2
  ifindex := 3
  signalsSet := true
  skelLoaded := true

/-- The other filter is gone after an attach to the hook that was there before, and also after one that
failed. -/
theorem tc_removes_foreign_filter :
    ¬ LeavesFilters tcReady { hookCreate := -EEXIST, attach := 0 } {foreignFilter} ∧
      ¬ LeavesFilters tcReady { hookCreate := -EEXIST, attach := -22 } {foreignFilter} := by
  decide

end MonsaEbpf.S1

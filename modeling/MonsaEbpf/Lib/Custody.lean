/-
Module: MonsaEbpf.Lib.Custody
Layer: Lib
Purpose: Programs that are handed out handles by their surroundings and have to give them back. The surroundings
  may grant or refuse every call. A trace is orderly if no call works with a handle that is not in hand, no handle
  leaves the hand while something made from it is in hand, and nothing is in hand at the end; then every handle
  leaves the hand exactly once (`Orderly.leave_once`); without order, what leaves besides is what was not in hand
  (`count_leaving`). `Leads` follows a program through all answers at once and
  keeps a summary of the trace; `exec_of_leads` carries what it says over to the traces.
Imports: MonsaEbpf.Lib.Runs
Trusted boundary: none
Main exports: Custody.Program, Custody.Event, Custody.exec, Custody.inHand, Custody.Fits, Custody.Orderly,
  Custody.Hand, Custody.orderly_iff, Custody.count_leaving, Custody.Orderly.leave_once, Custody.Leads,
  Custody.leads_bind, Custody.exec_of_leads
-/
import Mathlib.Data.List.Induction
import Mathlib.Data.List.Nodup
import MonsaEbpf.Lib.Runs

namespace Custody

open Runs

/-- A program that calls its surroundings. An `acquire` that is granted hands out a handle, which may take over
another one; an `ask` answers with a number; a `release` gives a handle back. `needs` are the handles that a
call works with, and that a new handle goes on needing. -/
inductive Program (C N α : Type) where
  | ret (value : α)
  | acquire (call : C) (needs : List Nat) (takes : Option Nat) (next : Except N Nat → Program C N α)
  | ask (call : C) (needs : List Nat) (next : N → Program C N α)
  | release (call : C) (handle : Nat) (next : Program C N α)

/-- A call with its answer. -/
inductive Event (C N : Type) where
  | acquire (call : C) (needs : List Nat) (takes : Option Nat) (answer : Except N Nat)
  | ask (call : C) (needs : List Nat) (answer : N)
  | release (call : C) (handle : Nat)

namespace Program

variable {C N α β : Type}

/-- Sequencing grafts the continuation onto the leaves. -/
def bind : Program C N α → (α → Program C N β) → Program C N β
  | .ret value, rest => rest value
  | .acquire call needs takes next, rest => .acquire call needs takes fun answer => (next answer).bind rest
  | .ask call needs next, rest => .ask call needs fun answer => (next answer).bind rest
  | .release call handle next, rest => .release call handle (next.bind rest)

instance : Monad (Program C N) where
  pure := .ret
  bind := bind

end Program

variable {C N α β : Type}

section Execution

variable [Zero N] [DecidableEq N]

/-- The answer to the call of a moment: zero grants it. A handle is called by the moment that handed it out. -/
def answered (answers : Nat → N) (now : Nat) : Except N Nat :=
  if answers now = 0 then .ok now else .error (answers now)

/-- What a program returns, and the trace of its calls. -/
def exec (answers : Nat → N) : Nat → Program C N α → α × List (Event C N)
  | _, .ret value => (value, [])
  | now, .acquire call needs takes next =>
      let later := exec answers (now + 1) (next (answered answers now))
      (later.1, .acquire call needs takes (answered answers now) :: later.2)
  | now, .ask call needs next =>
      let later := exec answers (now + 1) (next (answers now))
      (later.1, .ask call needs (answers now) :: later.2)
  | now, .release call handle next =>
      let later := exec answers (now + 1) next
      (later.1, .release call handle :: later.2)

end Execution

/-! ### Handles in hand -/

/-- A handle in hand, and the handles that it needs. -/
structure Holding where
  handle : Nat
  needs : List Nat
deriving DecidableEq, Repr

/-- The handle is in hand. -/
def Has (held : List Holding) (handle : Nat) : Prop :=
  handle ∈ held.map Holding.handle

instance (held : List Holding) (handle : Nat) : Decidable (Has held handle) :=
  inferInstanceAs (Decidable (_ ∈ _))

/-- The handle is in hand, and nothing that needs it is. -/
def Free (held : List Holding) (handle : Nat) : Prop :=
  Has held handle ∧ ∀ holding ∈ held, handle ∉ holding.needs

instance (held : List Holding) (handle : Nat) : Decidable (Free held handle) :=
  inferInstanceAs (Decidable (_ ∧ _))

/-- What is left when a handle leaves the hand. -/
def without (held : List Holding) (handle : Nat) : List Holding :=
  held.filter fun holding => holding.handle ≠ handle

/-- What is in hand after a call. -/
def hold (held : List Holding) : Event C N → List Holding
  | .acquire _ needs takes (.ok handle) => ⟨handle, needs⟩ :: takes.elim held (without held)
  | .acquire _ _ _ (.error _) => held
  | .ask _ _ _ => held
  | .release _ handle => without held handle

/-- What is in hand at the end of a trace. -/
def inHand (trace : List (Event C N)) : List Holding :=
  run hold [] trace

/-- The call works with handles that are in hand, and what leaves the hand is not needed for what stays. -/
def Fits (held : List Holding) : Event C N → Prop
  | .acquire _ needs takes _ => (∀ need ∈ needs, Has held need) ∧ ∀ taken ∈ takes, Free held taken
  | .ask _ needs _ => ∀ need ∈ needs, Has held need
  | .release _ handle => Free held handle

instance (held : List Holding) : (event : Event C N) → Decidable (Fits held event)
  | .acquire _ _ takes _ =>
      inferInstanceAs (Decidable ((∀ need ∈ _, Has held need) ∧ ∀ taken ∈ takes, Free held taken))
  | .ask _ needs _ => inferInstanceAs (Decidable (∀ need ∈ needs, Has held need))
  | .release _ handle => inferInstanceAs (Decidable (Free held handle))

/-- Every call fits what is in hand when it is made, and in the end nothing is. -/
structure Orderly (trace : List (Event C N)) : Prop where
  fits : Before hold Fits [] trace
  returned : inHand trace = []

/-! ### Following a trace -/

/-- The handle that a call hands out. -/
def Event.handedOut? : Event C N → Option Nat
  | .acquire _ _ _ (.ok handle) => some handle
  | .acquire _ _ _ (.error _) | .ask _ _ _ | .release _ _ => none

/-- The handle that a call takes over. -/
def Event.takenOver? : Event C N → Option Nat
  | .acquire _ _ takes (.ok _) => takes
  | .acquire _ _ _ (.error _) | .ask _ _ _ | .release _ _ => none

/-- The handle that leaves the hand with a call. -/
def Event.leaving? : Event C N → Option Nat
  | .acquire _ _ takes (.ok _) => takes
  | .acquire _ _ _ (.error _) | .ask _ _ _ => none
  | .release _ handle => some handle

/-- The handles that a trace hands out. -/
def handedOut (trace : List (Event C N)) : List Nat :=
  trace.filterMap Event.handedOut?

/-- The handles that are taken over along a trace. -/
def takenOver (trace : List (Event C N)) : List Nat :=
  trace.filterMap Event.takenOver?

/-- The handles that leave the hand along a trace. -/
def leaving (trace : List (Event C N)) : List Nat :=
  trace.filterMap Event.leaving?

/-- The handle that leaves with a call and is not in hand. -/
def stray (held : List Holding) (event : Event C N) : List Nat :=
  event.leaving?.toList.filter fun handle => ¬ Has held handle

/-- What is in hand, whether all calls up to now have fitted, and what left without being in hand. -/
@[ext]
structure Hand where
  held : List Holding
  fits : Bool
  strays : List Nat
deriving DecidableEq, Repr

/-- The hand of a program that has made no call. -/
def Hand.start : Hand := ⟨[], true, []⟩

/-- The hand after a call. -/
def Hand.after (hand : Hand) (event : Event C N) : Hand :=
  ⟨hold hand.held event, hand.fits && decide (Fits hand.held event), hand.strays ++ stray hand.held event⟩

/-- Nothing strays with a call that fits. -/
theorem stray_of_fits {held : List Holding} {event : Event C N} (fits : Fits held event) : stray held event = [] := by
  rw [stray, List.filter_eq_nil_iff]
  intro handle leaves
  cases event with
  | acquire call needs takes answer =>
      cases answer with
      | error err => cases leaves
      | ok given => simpa using (fits.2 handle (Option.mem_toList.mp leaves)).1
  | ask call needs answer => cases leaves
  | release call gone =>
      obtain rfl := List.mem_singleton.mp leaves
      simpa using fits.1

theorem held_run (hand : Hand) (trace : List (Event C N)) :
    (run Hand.after hand trace).held = run hold hand.held trace := by
  induction trace generalizing hand with
  | nil => rfl
  | cons event rest ih => exact ih _

theorem fits_run (hand : Hand) (trace : List (Event C N)) :
    (run Hand.after hand trace).fits = true ↔ hand.fits = true ∧ Before hold Fits hand.held trace := by
  induction trace generalizing hand with
  | nil => exact (and_iff_left trivial).symm
  | cons event rest ih =>
      rw [run_cons, ih, Hand.after, Bool.and_eq_true, decide_eq_true_iff, and_assoc]
      rfl

theorem strays_run {hand : Hand} {trace : List (Event C N)} (fits : Before hold Fits hand.held trace) :
    (run Hand.after hand trace).strays = hand.strays := by
  induction trace generalizing hand with
  | nil => rfl
  | cons event rest ih =>
      have next : (hand.after event).strays = hand.strays := by
        rw [Hand.after, stray_of_fits fits.1, List.append_nil]
      exact (ih fits.2).trans next

/-- A trace is orderly if following it ends with an empty hand that everything has fitted. -/
theorem orderly_iff {trace : List (Event C N)} : Orderly trace ↔ run Hand.after .start trace = .start := by
  constructor
  · intro orderly
    apply Hand.ext
    · exact (held_run .start trace).trans orderly.returned
    · exact (fits_run .start trace).mpr ⟨rfl, orderly.fits⟩
    · exact strays_run orderly.fits
  · intro followed
    have fits := (fits_run .start trace).mp (congrArg Hand.fits followed)
    exact ⟨fits.2, (held_run .start trace).symm.trans (congrArg Hand.held followed)⟩

/-! ### How often a handle leaves the hand -/

theorem count_without (held : List Holding) (gone handle : Nat)
    (once : (held.map Holding.handle).count handle ≤ 1) :
    [gone].count handle + ((without held gone).map Holding.handle).count handle =
      (held.map Holding.handle).count handle + ([gone].filter fun other => ¬ Has held other).count handle := by
  have handles : (without held gone).map Holding.handle =
      (held.map Holding.handle).filter fun other => other ≠ gone := by
    rw [without, List.filter_map]
    rfl
  rw [handles]
  by_cases same : gone = handle
  · subst same
    have none : ((held.map Holding.handle).filter fun other => other ≠ gone).count gone = 0 := by
      rw [List.count_eq_zero]
      simp
    rw [none]
    by_cases has : Has held gone
    · have present := List.count_pos_iff.mpr has
      simp only [List.count_singleton_self, has, not_true_eq_false, decide_false, Bool.false_eq_true,
        not_false_eq_true, List.filter_cons_of_neg, List.filter_nil, List.count_nil]
      omega
    · have absent := List.count_eq_zero.mpr has
      simp [has, absent]
  · have kept : ∀ others : List Nat, others ⊆ [gone] → others.count handle = 0 := by
      intro others within
      rw [List.count_eq_zero]
      exact fun member => same (List.mem_singleton.mp (within member)).symm
    rw [List.count_filter (by simpa using Ne.symm same), kept [gone] (List.Subset.refl _),
      kept _ (List.filter_subset_self _)]
    omega

/-- What a call changes about a handle. -/
theorem count_hold (held : List Holding) (event : Event C N) (handle : Nat)
    (once : (held.map Holding.handle).count handle ≤ 1) :
    event.leaving?.toList.count handle + ((hold held event).map Holding.handle).count handle =
      event.handedOut?.toList.count handle + (held.map Holding.handle).count handle +
        (stray held event).count handle := by
  cases event with
  | acquire call needs takes answer =>
      cases answer with
      | error err => rfl
      | ok given =>
          cases takes with
          | none =>
              change 0 + (given :: held.map Holding.handle).count handle = [given].count handle + _ + 0
              simp only [List.count_cons, List.count_nil]
              omega
          | some taken =>
              have split := count_without held taken handle once
              change [taken].count handle + (given :: (without held taken).map Holding.handle).count handle =
                [given].count handle + _ + ([taken].filter fun other => ¬ Has held other).count handle
              simp only [List.count_cons, List.count_nil] at split ⊢
              omega
  | ask call needs answer => rfl
  | release call gone =>
      have split := count_without held gone handle once
      change [gone].count handle + ((without held gone).map Holding.handle).count handle =
        0 + _ + ([gone].filter fun other => ¬ Has held other).count handle
      omega

theorem filterMap_concat {A B : Type} (pick : A → Option B) (list : List A) (last : A) :
    (list ++ [last]).filterMap pick = list.filterMap pick ++ (pick last).toList := by
  cases picked : pick last <;> simp [picked]

theorem count_strays_le (trace : List (Event C N)) (handle : Nat) :
    (run Hand.after .start trace).strays.count handle ≤ (leaving trace).count handle := by
  induction trace using List.reverseRecOn with
  | nil => exact Nat.le_refl _
  | append_singleton trace event ih =>
      rw [run_concat, Hand.after, List.count_append, leaving, filterMap_concat, List.count_append, ← leaving]
      exact Nat.add_le_add ih (List.filter_sublist.count_le handle)

/-- **What leaves the hand**: what was handed out and is not in hand any more, and the strays; as long as no handle
is handed out twice. -/
theorem count_leaving {trace : List (Event C N)} (distinct : (handedOut trace).Nodup) (handle : Nat) :
    (leaving trace).count handle + ((inHand trace).map Holding.handle).count handle =
      (handedOut trace).count handle + (run Hand.after .start trace).strays.count handle := by
  induction trace using List.reverseRecOn with
  | nil => rfl
  | append_singleton trace event ih =>
      rw [handedOut, List.filterMap_append] at distinct
      have earlier : (handedOut trace).Nodup := (List.nodup_append.mp distinct).1
      have counts := ih earlier
      have given := List.nodup_iff_count_le_one.mp earlier handle
      have strayed := count_strays_le trace handle
      have step := count_hold (inHand trace) event handle (by omega)
      have held : (run Hand.after .start trace).held = inHand trace := held_run .start trace
      rw [run_concat, Hand.after, held, List.count_append, inHand, run_concat, ← inHand, leaving,
        filterMap_concat, List.count_append, ← leaving, handedOut, filterMap_concat, List.count_append, ← handedOut]
      omega

/-- **In an orderly trace every handle leaves the hand exactly once.** -/
theorem Orderly.leave_once {trace : List (Event C N)} (orderly : Orderly trace)
    (distinct : (handedOut trace).Nodup) : (leaving trace).Perm (handedOut trace) := by
  rw [List.perm_iff_count]
  intro handle
  have counts := count_leaving distinct handle
  rw [orderly.returned, orderly_iff.mp orderly] at counts
  exact counts

section Execution

variable [Zero N] [DecidableEq N] (answers : Nat → N)

theorem handedOut_answered {call : C} {needs : List Nat} {takes : Option Nat} {now handle : Nat}
    (given : (Event.acquire call needs takes (answered answers now)).handedOut? = some handle) :
    handle = now := by
  rw [answered] at given
  split at given
  · exact (Option.some.inj given).symm
  · cases given

/-- A program is handed out handles of its own time. -/
theorem le_of_mem_handedOut {now handle : Nat} {program : Program C N α}
    (given : handle ∈ handedOut (exec answers now program).2) : now ≤ handle := by
  induction program generalizing now with
  | ret value => cases given
  | acquire call needs takes next ih =>
      obtain ⟨event, member, out⟩ := List.mem_filterMap.mp given
      rcases List.mem_cons.mp member with rfl | later
      · exact Nat.le_of_eq (handedOut_answered answers out).symm
      · exact Nat.le_of_succ_le (ih _ (List.mem_filterMap.mpr ⟨event, later, out⟩))
  | ask call needs next ih => exact Nat.le_of_succ_le (ih _ given)
  | release call released next ih => exact Nat.le_of_succ_le (ih given)

/-- No handle is handed out twice. -/
theorem nodup_handedOut (now : Nat) (program : Program C N α) :
    (handedOut (exec answers now program).2).Nodup := by
  induction program generalizing now with
  | ret value => exact List.nodup_nil
  | acquire call needs takes next ih =>
      rw [handedOut, exec, List.filterMap_cons]
      cases out : (Event.acquire call needs takes (answered answers now)).handedOut? with
      | none => exact ih _ _
      | some handle =>
          obtain rfl := handedOut_answered answers out
          apply List.nodup_cons.mpr ⟨?_, ih _ _⟩
          intro again
          exact absurd (le_of_mem_handedOut answers again) (Nat.not_succ_le_self _)
  | ask call needs next ih => exact ih _ _
  | release call released next ih => exact ih _

end Execution

/-! ### All answers at once -/

variable {S : Type} (note : S → Event C N → S)

/-- From a moment and a summary of the trace up to there, the program leads to `post`, whatever the answers are:
`post` holds of what it returns, of the moment, and of the summary of the whole trace. -/
def Leads [Zero N] : Program C N α → Nat → S → (α → Nat → S → Prop) → Prop
  | .ret value, now, seen, post => post value now seen
  | .acquire call needs takes next, now, seen, post =>
      Leads (next (.ok now)) (now + 1) (note seen (.acquire call needs takes (.ok now))) post ∧
        ∀ err, err ≠ 0 →
          Leads (next (.error err)) (now + 1) (note seen (.acquire call needs takes (.error err))) post
  | .ask call needs next, now, seen, post =>
      ∀ answer, Leads (next answer) (now + 1) (note seen (.ask call needs answer)) post
  | .release call handle next, now, seen, post =>
      Leads next (now + 1) (note seen (.release call handle)) post

section Rules

variable [Zero N] {note : S → Event C N → S} {now : Nat} {seen : S}

theorem leads_pure {value : α} {post : α → Nat → S → Prop} :
    Leads note (pure value : Program C N α) now seen post ↔ post value now seen :=
  Iff.rfl

/-- **Sequencing**: where the first program leads to is where the second one starts. -/
theorem leads_bind {program : Program C N α} {rest : α → Program C N β} {post : β → Nat → S → Prop} :
    Leads note (program >>= rest) now seen post ↔
      Leads note program now seen fun value now seen => Leads note (rest value) now seen post := by
  induction program generalizing now seen with
  | ret value => exact Iff.rfl
  | acquire call needs takes next ih => exact and_congr (ih _) (forall₂_congr fun _ _ => ih _)
  | ask call needs next ih => exact forall_congr' fun _ => ih _
  | release call handle next ih => exact ih

/-- What a program leads to may be weakened. -/
theorem Leads.mono {program : Program C N α} {post post' : α → Nat → S → Prop}
    (leads : Leads note program now seen post)
    (implies : ∀ value now seen, post value now seen → post' value now seen) :
    Leads note program now seen post' := by
  induction program generalizing now seen with
  | ret value => exact implies value now seen leads
  | acquire call needs takes next ih =>
      exact ⟨ih _ leads.1, fun err refused => ih _ (leads.2 err refused)⟩
  | ask call needs next ih => exact fun answer => ih _ (leads answer)
  | release call handle next ih => exact ih leads

/-- **What a program leads to holds of all its traces.** -/
theorem exec_of_leads [DecidableEq N] {program : Program C N α} {post : α → Nat → S → Prop}
    (leads : Leads note program now seen post) (answers : Nat → N) :
    ∃ later, post (exec answers now program).1 later (run note seen (exec answers now program).2) := by
  induction program generalizing now seen with
  | ret value => exact ⟨now, leads⟩
  | acquire call needs takes next ih =>
      have later : Leads note (next (answered answers now)) (now + 1)
          (note seen (.acquire call needs takes (answered answers now))) post := by
        rw [answered]
        split
        · exact leads.1
        · exact leads.2 _ ‹_›
      exact ih _ later
  | ask call needs next ih => exact ih _ (leads (answers now))
  | release call handle next ih => exact ih leads

end Rules

end Custody

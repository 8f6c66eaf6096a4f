/-
Module: MonsaEbpf.Lib.CallStacks
Layer: Lib
Purpose: Entries and exits of a traced function by many threads. The meaning of a trace is a stack of open
  calls for every thread: an entry pushes its time, an exit pops the call it ends. A tracer that keeps one
  stamp per thread, which an entry overwrites and an exit clears, sees the top of the stack as long as the
  thread strictly alternates (`stamps_of_alternates`), and completes every call exactly when no thread
  returns twice in a row (`stampedCalls_eq_iff`).
Imports: MonsaEbpf.Lib.Runs
Trusted boundary: none
Main exports: CallEvent, openCalls, completedCalls, inside, Alternates, WellBracketed, ReturnsApart,
  stamps, stampedCalls, stamps_of_alternates, stampedCalls_eq_iff
-/
import Mathlib.Data.Finset.Card
import Mathlib.Data.List.Chain
import MonsaEbpf.Lib.Runs

/-- A thread enters or leaves the traced function. -/
inductive CallEvent (T Time : Type) where
  | enter (thread : T) (time : Time)
  | leave (thread : T) (time : Time)
deriving DecidableEq, Repr

namespace CallEvent

variable {T Time : Type}

def thread : CallEvent T Time → T
  | .enter thread _ => thread
  | .leave thread _ => thread

def time : CallEvent T Time → Time
  | .enter _ time => time
  | .leave _ time => time

def isEnter : CallEvent T Time → Bool
  | .enter _ _ => true
  | .leave _ _ => false

end CallEvent

namespace CallStacks

variable {T Time : Type} [DecidableEq T]

/-- A completed call. -/
structure Call (T Time : Type) where
  thread : T
  entered : Time
  left : Time
deriving DecidableEq, Repr

/-- The stack of open calls of every thread, the latest first, each as the time it was entered. -/
abbrev OpenCalls (T Time : Type) := T → List Time

/-- An entry pushes, an exit pops. -/
def OpenCalls.after (opened : OpenCalls T Time) : CallEvent T Time → OpenCalls T Time
  | .enter thread time => Function.update opened thread (time :: opened thread)
  | .leave thread _ => Function.update opened thread (opened thread).tail

/-- The call that an exit ends. -/
def OpenCalls.completes (opened : OpenCalls T Time) : CallEvent T Time → Option (Call T Time)
  | .enter _ _ => none
  | .leave thread left => (opened thread).head?.map fun entered => ⟨thread, entered, left⟩

/-- The open calls after a trace that starts outside the function. -/
def openCalls (trace : List (CallEvent T Time)) : OpenCalls T Time :=
  Runs.run OpenCalls.after (fun _ => []) trace

/-- The completed calls of a trace, in the order of their exits. -/
def completedCalls (trace : List (CallEvent T Time)) : List (Call T Time) :=
  Runs.emitted OpenCalls.after OpenCalls.completes (fun _ => []) trace

/-- The threads inside the function. -/
def inside (trace : List (CallEvent T Time)) : Finset T :=
  (trace.map CallEvent.thread).toFinset.filter fun thread => openCalls trace thread ≠ []

/-- The events of one thread, `true` for an entry. -/
def kinds (thread : T) (trace : List (CallEvent T Time)) : List Bool :=
  (trace.filter fun event => event.thread = thread).map CallEvent.isEnter

/-- Every thread strictly alternates entries and exits; it may start with an exit. -/
def Alternates (trace : List (CallEvent T Time)) : Prop :=
  ∀ thread, (kinds thread trace).IsChain (· ≠ ·)

/-- Every exit ends an open call. -/
def WellBracketed (trace : List (CallEvent T Time)) : Prop :=
  Runs.Before OpenCalls.after (fun opened event => event.isEnter = false → opened event.thread ≠ [])
    (fun _ => []) trace

/-- No exit of a thread directly follows another exit of it: no completed call has called itself. -/
def ReturnsApart (trace : List (CallEvent T Time)) : Prop :=
  ∀ thread, (kinds thread trace).IsChain fun former latter => former = true ∨ latter = true

/-- One stamp per thread. -/
abbrev Stamps (T Time : Type) := T → Option Time

/-- An entry stamps its thread, an exit clears the stamp. -/
def Stamps.after (stamps : Stamps T Time) : CallEvent T Time → Stamps T Time
  | .enter thread time => Function.update stamps thread (some time)
  | .leave thread _ => Function.update stamps thread none

/-- The call that an exit ends, as far as the stamps tell. -/
def Stamps.completes (stamps : Stamps T Time) : CallEvent T Time → Option (Call T Time)
  | .enter _ _ => none
  | .leave thread left => (stamps thread).map fun entered => ⟨thread, entered, left⟩

/-- The stamps after a trace. -/
def stamps (trace : List (CallEvent T Time)) : Stamps T Time :=
  Runs.run Stamps.after (fun _ => none) trace

/-- The calls that the stamps complete. -/
def stampedCalls (trace : List (CallEvent T Time)) : List (Call T Time) :=
  Runs.emitted Stamps.after Stamps.completes (fun _ => none) trace

/-! ### One more event -/

variable {trace : List (CallEvent T Time)} {thread other : T} {time : Time}

@[simp] theorem stamps_nil : stamps ([] : List (CallEvent T Time)) thread = none := rfl

theorem openCalls_enter :
    openCalls (trace ++ [.enter thread time]) other =
      if other = thread then time :: openCalls trace other else openCalls trace other := by
  rw [openCalls, Runs.run_concat, OpenCalls.after, Function.update_apply]
  split
  · rename_i same
    rw [same]
    rfl
  · rfl

theorem openCalls_leave :
    openCalls (trace ++ [.leave thread time]) other =
      if other = thread then (openCalls trace other).tail else openCalls trace other := by
  rw [openCalls, Runs.run_concat, OpenCalls.after, Function.update_apply]
  split
  · rename_i same
    rw [same]
    rfl
  · rfl

theorem stamps_enter :
    stamps (trace ++ [.enter thread time]) other =
      if other = thread then some time else stamps trace other := by
  rw [stamps, Runs.run_concat, Stamps.after, Function.update_apply]
  rfl

theorem stamps_leave :
    stamps (trace ++ [.leave thread time]) other =
      if other = thread then none else stamps trace other := by
  rw [stamps, Runs.run_concat, Stamps.after, Function.update_apply]
  rfl

theorem kinds_concat (event : CallEvent T Time) :
    kinds thread (trace ++ [event]) =
      kinds thread trace ++ if event.thread = thread then [event.isEnter] else [] := by
  rw [kinds, List.filter_append, List.map_append]
  by_cases same : event.thread = thread <;> simp [kinds, same]

/-- A condition on neighbouring events of a thread, for one more event. -/
theorem isChain_kinds_concat {R : Bool → Bool → Prop} {event : CallEvent T Time} :
    (∀ thread, (kinds thread (trace ++ [event])).IsChain R) ↔
      (∀ thread, (kinds thread trace).IsChain R) ∧
        ∀ former ∈ (kinds event.thread trace).getLast?, R former event.isEnter := by
  simp only [kinds_concat, List.isChain_append]
  constructor
  · intro chains
    refine ⟨fun thread => (chains thread).1, fun former last => ?_⟩
    exact (chains event.thread).2.2 former last event.isEnter (by simp)
  · rintro ⟨chains, last⟩ thread
    refine ⟨chains thread, ?_, ?_⟩
    · split <;> simp
    · intro former member latter next
      split at next
      · rename_i same
        subst same
        cases next
        exact last former member
      · cases next

/-- Only the threads of the trace need a look. -/
theorem isChain_kinds_iff_mem {R : Bool → Bool → Prop} :
    (∀ thread, (kinds thread trace).IsChain R) ↔
      ∀ event ∈ trace, (kinds event.thread trace).IsChain R := by
  refine ⟨fun chains event _ => chains event.thread, fun chains thread => ?_⟩
  cases filtered : trace.filter fun event => event.thread = thread with
  | nil =>
      rw [kinds, filtered]
      exact List.IsChain.nil
  | cons event rest =>
      have occurs : event ∈ trace.filter fun event => event.thread = thread := by simp [filtered]
      obtain ⟨member, same⟩ := List.mem_filter.mp occurs
      rw [← of_decide_eq_true same]
      exact chains event member

/-! ### The stamps and the stacks -/

/-- A thread has a stamp when its last event was an entry. -/
theorem isSome_stamps : (stamps trace thread).isSome ↔ (kinds thread trace).getLast? = some true := by
  induction trace using List.reverseRecOn with
  | nil => simp [kinds]
  | append_singleton done event ih =>
      rw [kinds_concat]
      cases event with
      | enter entering time =>
          rw [stamps_enter, CallEvent.thread]
          by_cases same : thread = entering
          · simp [same, CallEvent.isEnter]
          · rw [if_neg same, if_neg (Ne.symm same), ih, List.append_nil]
      | leave leaving time =>
          rw [stamps_leave, CallEvent.thread]
          by_cases same : thread = leaving
          · simp [same, CallEvent.isEnter]
          · rw [if_neg same, if_neg (Ne.symm same), ih, List.append_nil]

/-- A stamp is the time of the latest open call. -/
theorem head?_openCalls (stamped : stamps trace thread = some time) :
    (openCalls trace thread).head? = some time := by
  induction trace using List.reverseRecOn with
  | nil => cases stamped
  | append_singleton done event ih =>
      cases event with
      | enter entering entered =>
          rw [stamps_enter] at stamped
          rw [openCalls_enter]
          split at stamped
          · rename_i same
            rw [if_pos same, List.head?_cons]
            exact stamped
          · rename_i different
            rw [if_neg different]
            exact ih stamped
      | leave leaving left =>
          rw [stamps_leave] at stamped
          rw [openCalls_leave]
          split at stamped
          · cases stamped
          · rename_i different
            rw [if_neg different]
            exact ih stamped

theorem Alternates.of_append {rest : List (CallEvent T Time)} (alternates : Alternates (trace ++ rest)) :
    Alternates trace := by
  intro thread
  have chain := alternates thread
  rw [kinds, List.filter_append, List.map_append] at chain
  exact chain.left_of_append

/-- An alternating thread is outside before it enters. -/
theorem unstamped_of_enter (alternates : Alternates (trace ++ [.enter thread time])) :
    stamps trace thread = none := by
  rw [← Option.not_isSome_iff_eq_none, isSome_stamps]
  exact fun entered => (isChain_kinds_concat.mp alternates).2 true entered rfl

/-- **A thread that alternates is inside at most one call**, and its stamp is the entry of it. -/
theorem openCalls_of_alternates (alternates : Alternates trace) (thread : T) :
    openCalls trace thread = (stamps trace thread).toList := by
  induction trace using List.reverseRecOn generalizing thread with
  | nil => rfl
  | append_singleton done event ih =>
      have before := alternates.of_append
      cases event with
      | enter entering time =>
          rw [openCalls_enter, stamps_enter, ih before]
          split
          · rename_i same
            -- the event before an entry is no entry, so there was no stamp
            rw [same, unstamped_of_enter alternates]
            rfl
          · rfl
      | leave leaving time =>
          rw [openCalls_leave, stamps_leave, ih before]
          split
          · cases stamps done thread <;> rfl
          · rfl

/-- The stamps of an alternating trace show who is inside and since when. -/
theorem stamps_of_alternates (alternates : Alternates trace) (thread : T) :
    stamps trace thread = (openCalls trace thread).head? := by
  rw [openCalls_of_alternates alternates]
  cases stamps trace thread <;> rfl

theorem mem_thread_of_open (isOpen : openCalls trace thread ≠ []) :
    thread ∈ trace.map CallEvent.thread := by
  induction trace using List.reverseRecOn with
  | nil => exact absurd rfl isOpen
  | append_singleton done event ih =>
      rw [List.map_append, List.mem_append, List.map_singleton, List.mem_singleton]
      cases event with
      | enter entering time =>
          rw [openCalls_enter] at isOpen
          split at isOpen
          · rename_i same
            exact Or.inr same
          · exact Or.inl (ih isOpen)
      | leave leaving time =>
          rw [openCalls_leave] at isOpen
          split at isOpen
          · rename_i same
            exact Or.inr same
          · exact Or.inl (ih isOpen)

theorem mem_inside : thread ∈ inside trace ↔ openCalls trace thread ≠ [] := by
  rw [inside, Finset.mem_filter, List.mem_toFinset, and_iff_right_iff_imp]
  exact mem_thread_of_open

/-- No more threads are inside than events happened. -/
theorem card_inside_le (trace : List (CallEvent T Time)) : (inside trace).card ≤ trace.length :=
  calc (inside trace).card
    _ ≤ (trace.map CallEvent.thread).toFinset.card := Finset.card_filter_le _ _
    _ ≤ (trace.map CallEvent.thread).length := List.toFinset_card_le _
    _ = trace.length := List.length_map _

/-- An open call was entered at the time of some event. -/
theorem mem_time_of_open (member : time ∈ openCalls trace thread) : time ∈ trace.map CallEvent.time := by
  induction trace using List.reverseRecOn with
  | nil => cases member
  | append_singleton done event ih =>
      rw [List.map_append, List.mem_append, List.map_singleton, List.mem_singleton]
      cases event with
      | enter entering entered =>
          rw [openCalls_enter] at member
          split at member
          · rcases List.mem_cons.mp member with rfl | earlier
            · exact Or.inr rfl
            · exact Or.inl (ih earlier)
          · exact Or.inl (ih member)
      | leave leaving left =>
          rw [openCalls_leave] at member
          split at member
          · exact Or.inl (ih (List.mem_of_mem_tail member))
          · exact Or.inl (ih member)

/-! ### Completed calls -/

theorem completedCalls_concat (event : CallEvent T Time) :
    completedCalls (trace ++ [event]) =
      completedCalls trace ++ ((openCalls trace).completes event).toList :=
  Runs.emitted_concat _ _ _ _

theorem stampedCalls_concat (event : CallEvent T Time) :
    stampedCalls (trace ++ [event]) =
      stampedCalls trace ++ ((stamps trace).completes event).toList :=
  Runs.emitted_concat _ _ _ _

/-- What the stamps complete is a call that is completed. -/
theorem completes_of_stamped {event : CallEvent T Time} {call : Call T Time}
    (stamped : (stamps trace).completes event = some call) :
    (openCalls trace).completes event = some call := by
  cases event with
  | enter thread time => cases stamped
  | leave thread left =>
      obtain ⟨entered, found, rfl⟩ := Option.map_eq_some_iff.mp stamped
      rw [OpenCalls.completes, head?_openCalls found]
      rfl

/-- The stamps complete no call that is not completed. -/
theorem stampedCalls_sublist (trace : List (CallEvent T Time)) :
    (stampedCalls trace).Sublist (completedCalls trace) := by
  induction trace using List.reverseRecOn with
  | nil => exact List.Sublist.refl _
  | append_singleton done event ih =>
      rw [stampedCalls_concat, completedCalls_concat]
      apply ih.append
      cases stamped : (stamps done).completes event with
      | none => exact List.nil_sublist _
      | some call => rw [completes_of_stamped stamped]

/-- One more event keeps the completed calls equal exactly when it completes the same. -/
theorem stampedCalls_concat_eq_iff {event : CallEvent T Time} :
    stampedCalls (trace ++ [event]) = completedCalls (trace ++ [event]) ↔
      stampedCalls trace = completedCalls trace ∧
        (stamps trace).completes event = (openCalls trace).completes event := by
  rw [stampedCalls_concat, completedCalls_concat]
  constructor
  · intro equal
    have fewer := (stampedCalls_sublist trace).length_le
    have lengths := congrArg List.length equal
    rw [List.length_append, List.length_append] at lengths
    cases stamped : (stamps trace).completes event with
    | none =>
        rw [stamped] at equal lengths
        cases completed : (openCalls trace).completes event with
        | none =>
            rw [completed] at equal
            simp only [Option.toList_none, List.append_nil] at equal
            exact ⟨equal, rfl⟩
        | some call =>
            rw [completed] at lengths
            simp only [Option.toList_none, Option.toList_some, List.length_nil,
              List.length_singleton] at lengths
            omega
    | some call =>
        have completed := completes_of_stamped stamped
        rw [stamped, completed] at equal
        exact ⟨List.append_cancel_right equal, completed.symm⟩
  · rintro ⟨equal, same⟩
    rw [equal, same]

theorem WellBracketed.concat {event : CallEvent T Time} (bracketed : WellBracketed (trace ++ [event])) :
    WellBracketed trace ∧ (event.isEnter = false → openCalls trace event.thread ≠ []) := by
  have splits := Runs.before_iff_forall_split.mp bracketed
  constructor
  · apply Runs.before_iff_forall_split.mpr
    rintro done next rest rfl
    exact splits done next (rest ++ [event]) (by simp)
  · exact splits trace event [] rfl

/-- A thread with open calls and no stamp has just returned. -/
theorem getLast?_kinds_of_unstamped (isOpen : openCalls trace thread ≠ [])
    (unstamped : stamps trace thread = none) : (kinds thread trace).getLast? = some false := by
  cases last : (kinds thread trace).getLast? with
  | none =>
      obtain ⟨event, member, same⟩ := List.mem_map.mp (mem_thread_of_open isOpen)
      rw [List.getLast?_eq_none_iff, kinds, List.map_eq_nil_iff, List.filter_eq_nil_iff] at last
      exact absurd (decide_eq_true same) (last event member)
  | some former =>
      cases former with
      | false => rfl
      | true =>
          have stamped := isSome_stamps.mpr last
          rw [unstamped] at stamped
          cases stamped

/-- **One stamp per thread completes every call exactly when no thread returns twice in a row.** -/
theorem stampedCalls_eq_iff (bracketed : WellBracketed trace) :
    stampedCalls trace = completedCalls trace ↔ ReturnsApart trace := by
  induction trace using List.reverseRecOn with
  | nil => exact iff_of_true rfl fun _ => List.IsChain.nil
  | append_singleton done event ih =>
      obtain ⟨before, isOpen⟩ := bracketed.concat
      rw [stampedCalls_concat_eq_iff, ih before, ReturnsApart, ReturnsApart, isChain_kinds_concat]
      refine and_congr_right fun _ => ?_
      cases event with
      | enter thread time => exact iff_of_true rfl fun _ _ => Or.inr rfl
      | leave thread left =>
          cases stamped : stamps done thread with
          | some entered =>
              have last : (kinds thread done).getLast? = some true :=
                isSome_stamps.mp (by rw [stamped]; rfl)
              refine iff_of_true ?_ ?_
              · rw [Stamps.completes, OpenCalls.completes, stamped, head?_openCalls stamped]
              · intro former member
                rw [CallEvent.thread, last] at member
                cases member
                exact Or.inl rfl
          | none =>
              have last : (kinds thread done).getLast? = some false :=
                getLast?_kinds_of_unstamped (isOpen rfl) stamped
              refine iff_of_false ?_ ?_
              · rw [Stamps.completes, OpenCalls.completes, stamped]
                intro same
                exact isOpen rfl (List.head?_eq_none_iff.mp (Option.map_eq_none_iff.mp same.symm))
              · intro apart
                exact absurd (apart false last) (by simp [CallEvent.isEnter])

end CallStacks

/-
Module: MonsaEbpf.Lib.ThreadLives
Layer: Lib
Purpose: Threads that are created, call a traced function, and may terminate inside it. A store of stamps
  hears of entries and exits only, so a thread that terminates inside leaves its stamp behind. The store
  holds stamps of calls in progress and of such lost calls (`stamped_of_mem_keys`), so there is room for a
  further call while the live threads and the lost calls together fit (`hasRoom_of_few_lost`), and there is
  none once lost calls fill it (`not_hasRoom_of_lost`).
Imports: MonsaEbpf.Lib.StampMap
Trusted boundary: none
Main exports: LifeEvent, ThreadLives.calls, ThreadLives.alive, ThreadLives.inProgress, ThreadLives.lost,
  ThreadLives.Lawful, ThreadLives.hasRoom_of_few_lost, ThreadLives.lostCalls,
  ThreadLives.not_hasRoom_of_lost
-/
import MonsaEbpf.Lib.StampMap

/-- A thread comes into being, calls, or terminates. -/
inductive LifeEvent (T X : Type) where
  | created (thread : T)
  | ran (call : X)
  | terminated (thread : T)
deriving DecidableEq, Repr

/-- Read the calls of a history in another way. -/
def LifeEvent.map {T X Y : Type} (f : X → Y) : LifeEvent T X → LifeEvent T Y
  | .created thread => .created thread
  | .ran call => .ran (f call)
  | .terminated thread => .terminated thread

def LifeEvent.ran? {T X : Type} : LifeEvent T X → Option X
  | .ran call => some call
  | .created _ | .terminated _ => none

namespace ThreadLives

open CallStacks

variable {T X Time : Type}

/-- The calls of a history. -/
def calls (history : List (LifeEvent T X)) : List X :=
  history.filterMap LifeEvent.ran?

variable [DecidableEq T]

/-- The live threads after one more event. -/
def Living.after (living : Finset T) : LifeEvent T X → Finset T
  | .created thread => insert thread living
  | .ran _ => living
  | .terminated thread => living.erase thread

/-- The live threads. -/
def alive (history : List (LifeEvent T X)) : Finset T :=
  Runs.run Living.after ∅ history

/-- The calls in progress after one more event: a thread is born outside the function and takes its calls
with it when it terminates. -/
def Progress.after (opened : OpenCalls T Time) :
    LifeEvent T (CallEvent T Time) → OpenCalls T Time
  | .created thread | .terminated thread => Function.update opened thread []
  | .ran call => opened.after call

/-- The calls in progress. -/
def inProgress (history : List (LifeEvent T (CallEvent T Time))) : OpenCalls T Time :=
  Runs.run Progress.after (fun _ => []) history

/-- The thread that terminates inside the function. -/
def Progress.loses (opened : OpenCalls T Time) : LifeEvent T (CallEvent T Time) → Option T
  | .created _ | .ran _ => none
  | .terminated thread => if opened thread = [] then none else some thread

/-- The threads that terminated inside the function, in order. -/
def lost (history : List (LifeEvent T (CallEvent T Time))) : List T :=
  Runs.emitted Progress.after Progress.loses (fun _ => []) history

/-- Only live threads call and terminate, and only others are created. -/
def Allowed (living : Finset T) : LifeEvent T (CallEvent T Time) → Prop
  | .created thread => thread ∉ living
  | .ran call => call.thread ∈ living
  | .terminated thread => thread ∈ living

/-- Every event of the history is allowed when it happens. -/
def Lawful (history : List (LifeEvent T (CallEvent T Time))) : Prop :=
  Runs.Before Living.after Allowed ∅ history

/-- At no time more threads are alive than `capacity`. -/
def FewAlive (capacity : Nat) (history : List (LifeEvent T (CallEvent T Time))) : Prop :=
  ∀ done rest, history = done ++ rest → (alive done).card ≤ capacity

variable {history : List (LifeEvent T (CallEvent T Time))} {event : LifeEvent T (CallEvent T Time)}
  {thread : T} {capacity : Nat}

/-! ### One more event -/

theorem alive_concat : alive (history ++ [event]) = Living.after (alive history) event :=
  Runs.run_concat _ _ _

theorem inProgress_concat :
    inProgress (history ++ [event]) = Progress.after (inProgress history) event :=
  Runs.run_concat _ _ _

theorem lost_concat :
    lost (history ++ [event]) = lost history ++ (Progress.loses (inProgress history) event).toList :=
  Runs.emitted_concat _ _ _ _

omit [DecidableEq T] in
theorem calls_map {Y : Type} (f : X → Y) (past : List (LifeEvent T X)) :
    calls (past.map (LifeEvent.map f)) = (calls past).map f := by
  rw [calls, calls, List.filterMap_map, List.map_filterMap]
  congr 1
  funext event
  cases event <;> rfl

omit [DecidableEq T] in
theorem calls_concat : calls (history ++ [event]) = calls history ++ event.ran?.toList := by
  rw [calls, List.filterMap_append, calls]
  cases event <;> rfl

theorem Lawful.concat (lawful : Lawful (history ++ [event])) :
    Lawful history ∧ Allowed (alive history) event := by
  have splits := Runs.before_iff_forall_split.mp lawful
  constructor
  · apply Runs.before_iff_forall_split.mpr
    rintro done next rest rfl
    exact splits done next (rest ++ [event]) (by simp)
  · exact splits history event [] rfl

theorem openCalls_after_ne {opened : OpenCalls T Time} {call : CallEvent T Time}
    (other : thread ≠ call.thread) : opened.after call thread = opened thread := by
  cases call with
  | enter caller time => exact Function.update_of_ne other ..
  | leave caller time => exact Function.update_of_ne other ..

/-- A call in progress is that of a live thread. -/
theorem alive_of_inProgress (lawful : Lawful history) (busy : inProgress history thread ≠ []) :
    thread ∈ alive history := by
  induction history using List.reverseRecOn with
  | nil => exact absurd rfl busy
  | append_singleton done event ih =>
      obtain ⟨lawfulDone, allowed⟩ := lawful.concat
      rw [alive_concat]
      rw [inProgress_concat] at busy
      cases event with
      | created newcomer =>
          rw [Progress.after, Function.update_apply] at busy
          split at busy
          · exact absurd rfl busy
          · exact Finset.mem_insert_of_mem (ih lawfulDone busy)
      | terminated leaver =>
          rw [Progress.after, Function.update_apply] at busy
          split at busy
          · exact absurd rfl busy
          · rename_i different
            exact Finset.mem_erase.mpr ⟨different, ih lawfulDone busy⟩
      | ran call =>
          by_cases same : thread = call.thread
          · rw [same]
            exact allowed
          · rw [Progress.after, openCalls_after_ne same] at busy
            exact ih lawfulDone busy

/-! ### What the stamps are -/

/-- **A stamp is that of a call in progress or of a lost call.** -/
theorem stamped_of_mem_keys (lawful : Lawful history)
    (member : thread ∈ (stampMap capacity (calls history)).keys) :
    inProgress history thread ≠ [] ∨ thread ∈ lost history := by
  induction history using List.reverseRecOn with
  | nil => cases member
  | append_singleton done event ih =>
      obtain ⟨lawfulDone, allowed⟩ := lawful.concat
      rw [calls_concat] at member
      rw [inProgress_concat, lost_concat, List.mem_append]
      cases event with
      | created newcomer =>
          rw [LifeEvent.ran?, Option.toList_none, List.append_nil] at member
          refine (ih lawfulDone member).imp (fun busy => ?_) Or.inl
          have different : thread ≠ newcomer := by
            rintro rfl
            exact allowed (alive_of_inProgress lawfulDone busy)
          rw [Progress.after, Function.update_of_ne different]
          exact busy
      | terminated leaver =>
          rw [LifeEvent.ran?, Option.toList_none, List.append_nil] at member
          rcases ih lawfulDone member with busy | gone
          · by_cases same : thread = leaver
            · -- the stamp of the thread that terminates here stays behind
              subst same
              rw [Progress.loses, if_neg busy]
              exact Or.inr (Or.inr (List.mem_singleton_self thread))
            · rw [Progress.after, Function.update_of_ne same]
              exact Or.inl busy
          · exact Or.inr (Or.inl gone)
      | ran call =>
          rw [LifeEvent.ran?, Option.toList_some] at member
          rw [Progress.after]
          rcases mem_keys_stampMap_concat member with ⟨enters, same⟩ | ⟨other, before⟩
          · cases call with
            | leave leaver time => cases enters
            | enter caller time =>
                have callerIs : caller = thread := same
                rw [OpenCalls.after, callerIs, Function.update_self]
                exact Or.inl (List.cons_ne_nil _ _)
          · rw [openCalls_after_ne (Ne.symm other)]
            exact (ih lawfulDone before).imp_right Or.inl

/-- **There is room for a live thread outside the function** while the live threads and the lost calls
together fit the store. -/
theorem hasRoom_of_few_lost (lawful : Lawful history) (living : thread ∈ alive history)
    (idle : inProgress history thread = [])
    (few : (alive history).card + (lost history).length ≤ capacity) :
    (stampMap capacity (calls history)).HasRoom thread := by
  by_cases bound : thread ∈ (stampMap capacity (calls history)).keys
  · exact Or.inl bound
  · right
    have within : (stampMap capacity (calls history)).keys ⊆
        (alive history).erase thread ∪ (lost history).toFinset := by
      intro other member
      rw [Finset.mem_union, List.mem_toFinset]
      refine (stamped_of_mem_keys lawful member).imp_left fun busy => ?_
      refine Finset.mem_erase.mpr ⟨?_, alive_of_inProgress lawful busy⟩
      rintro rfl
      exact busy idle
    have positive := Finset.card_pos.mpr ⟨thread, living⟩
    calc (stampMap capacity (calls history)).keys.card
      _ ≤ ((alive history).erase thread ∪ (lost history).toFinset).card := Finset.card_le_card within
      _ ≤ ((alive history).erase thread).card + (lost history).toFinset.card := Finset.card_union_le _ _
      _ ≤ ((alive history).card - 1) + (lost history).length := by
        rw [Finset.card_erase_of_mem living]
        exact Nat.add_le_add_left (List.toFinset_card_le _) _
      _ < capacity := by omega

/-! ### Losing calls until the store is full -/

/-- Threads that are created, enter and terminate, one after the other. -/
def lostCalls (time : Time) (threads : List T) : List (LifeEvent T (CallEvent T Time)) :=
  threads.flatMap fun thread => [.created thread, .ran (.enter thread time), .terminated thread]

omit [DecidableEq T] in
theorem calls_lostCalls (time : Time) (threads : List T) :
    calls (lostCalls time threads) = threads.map fun thread => .enter thread time := by
  induction threads with
  | nil => rfl
  | cons thread rest ih =>
      rw [List.map_cons, ← ih]
      rfl

/-- What happens after lost calls happens among no live threads. -/
theorem alive_lostCalls_append (time : Time) (threads : List T)
    (rest : List (LifeEvent T (CallEvent T Time))) :
    alive (lostCalls time threads ++ rest) = alive rest := by
  induction threads with
  | nil => rfl
  | cons thread more ih =>
      have gone : (insert thread (∅ : Finset T)).erase thread = ∅ := by simp
      rw [← ih]
      change Runs.run Living.after ((insert thread ∅ : Finset T).erase thread) _ = _
      rw [gone]
      rfl

/-- Lost calls are not in progress. -/
theorem inProgress_lostCalls_append (time : Time) (threads : List T)
    (rest : List (LifeEvent T (CallEvent T Time))) :
    inProgress (lostCalls time threads ++ rest) = inProgress rest := by
  induction threads with
  | nil => rfl
  | cons thread more ih =>
      have idle : Progress.after (Progress.after (Progress.after (fun _ => [])
          (.created thread)) (.ran (.enter thread time))) (.terminated thread) = fun _ => [] := by
        funext other
        by_cases same : other = thread <;> simp [Progress.after, OpenCalls.after, same]
      rw [← ih]
      change Runs.run Progress.after (Progress.after (Progress.after (Progress.after (fun _ => [])
        (.created thread)) (.ran (.enter thread time))) (.terminated thread)) _ = _
      rw [idle]
      rfl

theorem lawful_lostCalls_append (time : Time) (threads : List T)
    {rest : List (LifeEvent T (CallEvent T Time))} (lawful : Lawful rest) :
    Lawful (lostCalls time threads ++ rest) := by
  induction threads with
  | nil => exact lawful
  | cons thread more ih =>
      have gone : (insert thread (∅ : Finset T)).erase thread = ∅ := by simp
      refine ⟨Finset.notMem_empty thread, Finset.mem_insert_self thread ∅,
        Finset.mem_insert_self thread ∅, ?_⟩
      change Runs.Before Living.after Allowed ((insert thread ∅ : Finset T).erase thread) _
      rw [gone]
      exact ih

theorem fewAlive_iff_always :
    FewAlive capacity history ↔
      Runs.Always Living.after (fun living => living.card ≤ capacity) ∅ history := by
  rw [Runs.always_iff_forall_take]
  constructor
  · intro few count
    exact few _ (history.drop count) (List.take_append_drop count history).symm
  · rintro few done rest rfl
    have here := few done.length
    rwa [List.take_left] at here

/-- Threads that lose their calls one after the other are never alive together. -/
theorem fewAlive_lostCalls_append (time : Time) (threads : List T)
    {rest : List (LifeEvent T (CallEvent T Time))} (positive : 0 < capacity)
    (few : FewAlive capacity rest) : FewAlive capacity (lostCalls time threads ++ rest) := by
  rw [fewAlive_iff_always] at few ⊢
  induction threads with
  | nil => exact few
  | cons thread more ih =>
      have one : (insert thread (∅ : Finset T)).card ≤ capacity :=
        (Finset.card_singleton thread).le.trans positive
      have gone : (insert thread (∅ : Finset T)).erase thread = ∅ := by simp
      refine ⟨Nat.zero_le _, one, one, ?_⟩
      change Runs.Always Living.after _ ((insert thread ∅ : Finset T).erase thread) _
      rw [gone]
      exact ih

/-- Distinct threads that enter have their stamps, as far as they fit. -/
theorem keys_stampMap_enters {threads : List T} (time : Time) (distinct : threads.Nodup)
    (fit : threads.length ≤ capacity) :
    (stampMap capacity (threads.map fun thread => .enter thread time)).keys = threads.toFinset := by
  induction threads using List.reverseRecOn with
  | nil => rfl
  | append_singleton done thread ih =>
      rw [List.length_append, List.length_singleton] at fit
      obtain ⟨distinctDone, _, apart⟩ := List.nodup_append.mp distinct
      have keys := ih distinctDone (by omega)
      have room : (stampMap capacity (done.map fun thread => CallEvent.enter thread time)).HasRoom thread := by
        right
        rw [keys, List.toFinset_card_of_nodup distinctDone]
        omega
      rw [List.map_append, List.map_singleton, stampMap_concat, CellMap.stamp, CellMap.keys_insert _ room,
        keys]
      ext other
      simp

/-- **Lost calls of other threads that fill the store leave no room.** -/
theorem not_hasRoom_of_lost {threads : List T} (time : Time) (distinct : threads.Nodup)
    (full : threads.length = capacity) (other : thread ∉ threads) :
    ¬ (stampMap capacity (calls (lostCalls time threads))).HasRoom thread := by
  rw [calls_lostCalls, CellMap.HasRoom, keys_stampMap_enters time distinct full.le,
    List.toFinset_card_of_nodup distinct, full, List.mem_toFinset]
  simp [other]

end ThreadLives

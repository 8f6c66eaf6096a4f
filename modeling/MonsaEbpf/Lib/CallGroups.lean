/-
Module: MonsaEbpf.Lib.CallGroups
Layer: Lib
Purpose: Calls of many threads seen as the calls of their groups, by a tracer that cannot tell the threads
  of a group apart. When threads alternate, the open calls of a group are as many as its threads inside
  (`card_insideOf`). Once all calls have returned, one stamp per group completes every call exactly when
  never two threads of a group are inside (`returnsApart_regroup_iff`), and then the calls of the groups
  are those of their threads (`completedCalls_regroup`).
Imports: MonsaEbpf.Lib.CallStacks
Trusted boundary: none
Main exports: CallEvent.regroup, regroup, insideOf, NeverOverlap, AllReturned, card_insideOf,
  wellBracketed_regroup, alternates_of_shallow, alternates_of_returnsApart, returnsApart_regroup_iff,
  completedCalls_regroup, countP_completedCalls_regroup
-/
import MonsaEbpf.Lib.CallStacks

/-- An event of a thread as an event of its group. -/
def CallEvent.regroup {T G Time : Type} (group : T → G) : CallEvent T Time → CallEvent G Time
  | .enter thread time => .enter (group thread) time
  | .leave thread time => .leave (group thread) time

namespace CallStacks

variable {T G Time : Type} [DecidableEq T] [DecidableEq G]

/-- A call of a thread as a call of its group. -/
def Call.regroup (group : T → G) (call : Call T Time) : Call G Time where
  thread := group call.thread
  entered := call.entered
  left := call.left

/-- A trace of threads as a trace of their groups. -/
def regroup (group : T → G) (trace : List (CallEvent T Time)) : List (CallEvent G Time) :=
  trace.map (CallEvent.regroup group)

/-- The threads of a group that are inside. -/
def insideOf (group : T → G) (g : G) (trace : List (CallEvent T Time)) : Finset T :=
  (inside trace).filter fun thread => group thread = g

/-- At no time two threads of a group are inside. -/
def NeverOverlap (group : T → G) (trace : List (CallEvent T Time)) : Prop :=
  ∀ done rest, trace = done ++ rest → ∀ g, (insideOf group g done).card ≤ 1

/-- No call is open at the end of the trace. -/
def AllReturned (trace : List (CallEvent T Time)) : Prop :=
  ∀ thread, openCalls trace thread = []

variable {group : T → G} {trace : List (CallEvent T Time)} {thread : T} {time : Time}

omit [DecidableEq T] [DecidableEq G] in
theorem regroup_concat (event : CallEvent T Time) :
    regroup group (trace ++ [event]) = regroup group trace ++ [event.regroup group] := by
  rw [regroup, List.map_append, List.map_singleton, regroup]

/-! ### Who is inside -/

theorem mem_insideOf {g : G} :
    thread ∈ insideOf group g trace ↔ openCalls trace thread ≠ [] ∧ group thread = g := by
  rw [insideOf, Finset.mem_filter, mem_inside]

/-- An alternating thread that leaves is outside. -/
theorem openCalls_leave_of_alternates (alternates : Alternates trace) (other : T) :
    openCalls (trace ++ [.leave thread time]) other =
      if other = thread then [] else openCalls trace other := by
  rw [openCalls_leave, openCalls_of_alternates alternates]
  split
  · cases stamps trace other <;> rfl
  · rfl

theorem insideOf_enter (g : G) :
    insideOf group g (trace ++ [.enter thread time]) =
      if group thread = g then insert thread (insideOf group g trace) else insideOf group g trace := by
  ext other
  rw [mem_insideOf, openCalls_enter]
  by_cases same : other = thread
  · subst same
    by_cases member : group other = g <;> simp [member, mem_insideOf]
  · by_cases member : group thread = g <;> simp [same, member, mem_insideOf]

theorem insideOf_leave (alternates : Alternates trace) (g : G) :
    insideOf group g (trace ++ [.leave thread time]) =
      if group thread = g then (insideOf group g trace).erase thread else insideOf group g trace := by
  ext other
  rw [mem_insideOf, openCalls_leave_of_alternates alternates]
  by_cases same : other = thread
  · subst same
    by_cases member : group other = g <;> simp [member, mem_insideOf]
  · by_cases member : group thread = g <;> simp [same, member, mem_insideOf]

/-- **The open calls of a group are as many as its threads inside.** -/
theorem card_insideOf (alternates : Alternates trace) (bracketed : WellBracketed trace) (g : G) :
    (insideOf group g trace).card = (openCalls (regroup group trace) g).length := by
  induction trace using List.reverseRecOn with
  | nil => rfl
  | append_singleton done event ih =>
      obtain ⟨bracketedDone, isOpen⟩ := bracketed.concat
      have before := ih alternates.of_append bracketedDone
      rw [regroup_concat]
      cases event with
      | enter entering entered =>
          rw [insideOf_enter, CallEvent.regroup, openCalls_enter]
          by_cases same : group entering = g
          · have outside : entering ∉ insideOf group g done := by
              rw [mem_insideOf, openCalls_of_alternates alternates.of_append,
                unstamped_of_enter alternates]
              simp
            rw [if_pos same, if_pos same.symm, Finset.card_insert_of_notMem outside, before,
              List.length_cons]
          · rw [if_neg same, if_neg (Ne.symm same), before]
      | leave leaving left =>
          rw [insideOf_leave alternates.of_append, CallEvent.regroup, openCalls_leave]
          by_cases same : group leaving = g
          · have isInside : leaving ∈ insideOf group g done := mem_insideOf.mpr ⟨isOpen rfl, same⟩
            rw [if_pos same, if_pos same.symm, Finset.card_erase_of_mem isInside, before,
              List.length_tail]
          · rw [if_neg same, if_neg (Ne.symm same), before]

variable (group) in
/-- A thread inside is an open call of its group. -/
theorem openCalls_regroup_ne_nil (alternates : Alternates trace) (bracketed : WellBracketed trace)
    (isOpen : openCalls trace thread ≠ []) : openCalls (regroup group trace) (group thread) ≠ [] := by
  have member : thread ∈ insideOf group (group thread) trace := mem_insideOf.mpr ⟨isOpen, rfl⟩
  have positive := Finset.card_pos.mpr ⟨thread, member⟩
  rw [card_insideOf alternates bracketed] at positive
  exact List.ne_nil_of_length_pos positive

theorem WellBracketed.of_append {rest : List (CallEvent T Time)}
    (bracketed : WellBracketed (trace ++ rest)) : WellBracketed trace := by
  have splits := Runs.before_iff_forall_split.mp bracketed
  apply Runs.before_iff_forall_split.mpr
  rintro done event later rfl
  exact splits done event (later ++ rest) (by simp)

/-- Every exit of a group ends an open call of the group. -/
theorem wellBracketed_regroup (group : T → G) (alternates : Alternates trace)
    (bracketed : WellBracketed trace) : WellBracketed (regroup group trace) := by
  apply Runs.before_iff_forall_split.mpr
  intro done event rest split leaves
  obtain ⟨earlier, later, rfl, rfl, tail⟩ := List.map_eq_append_iff.mp split
  obtain ⟨original, remaining, rfl, rfl, _⟩ := List.map_eq_cons_iff.mp tail
  have isOpen := Runs.before_iff_forall_split.mp bracketed earlier original remaining rfl
  have regrouped := openCalls_regroup_ne_nil group alternates.of_append bracketed.of_append
    (isOpen (by cases original <;> first | rfl | cases leaves))
  cases original <;> exact regrouped

/-- Only the threads of the trace need a look. -/
theorem allReturned_iff_mem :
    AllReturned trace ↔ ∀ event ∈ trace, openCalls trace event.thread = [] := by
  refine ⟨fun returned event _ => returned event.thread, fun returned thread => ?_⟩
  by_contra isOpen
  obtain ⟨event, member, same⟩ := List.mem_map.mp (mem_thread_of_open isOpen)
  exact isOpen (same ▸ returned event member)

/-! ### Traces whose stacks stay shallow -/

/-- A thread that is never inside two calls at once alternates. -/
theorem alternates_of_shallow (bracketed : WellBracketed trace)
    (shallow : ∀ done rest, trace = done ++ rest → ∀ thread, (openCalls done thread).length ≤ 1) :
    Alternates trace := by
  induction trace using List.reverseRecOn with
  | nil => exact fun _ => List.IsChain.nil
  | append_singleton done event ih =>
      obtain ⟨bracketedDone, isOpen⟩ := bracketed.concat
      have before := ih bracketedDone fun earlier rest split =>
        shallow earlier (rest ++ [event]) (by rw [split, List.append_assoc])
      refine isChain_kinds_concat.mpr ⟨before, ?_⟩
      intro former last
      cases event with
      | enter thread time =>
          cases former with
          | false => exact Bool.false_ne_true
          | true =>
              -- a second entry in a row would make two open calls
              have after := shallow _ [] (List.append_nil _).symm thread
              have isStamped : (stamps done thread).isSome := isSome_stamps.mpr last
              obtain ⟨entered, stamped⟩ := Option.isSome_iff_exists.mp isStamped
              rw [openCalls_enter, if_pos rfl, openCalls_of_alternates before, stamped] at after
              simp at after
      | leave thread time =>
          cases former with
          | true => exact Bool.false_ne_true.symm
          | false =>
              -- after an exit nothing is left to return from
              have unstamped : stamps done thread = none := by
                rw [← Option.not_isSome_iff_eq_none, isSome_stamps]
                intro entered
                cases last.symm.trans entered
              have outside := isOpen rfl
              rw [CallEvent.thread, openCalls_of_alternates before, unstamped] at outside
              exact absurd rfl outside

/-- A thread has more open calls than its stamp shows. -/
def Buried (trace : List (CallEvent T Time)) (thread : T) : Prop :=
  (stamps trace thread).toList.length < (openCalls trace thread).length

/-- A call that is buried when its thread enters stays buried. -/
theorem buried_enter (isOpen : openCalls trace thread ≠ []) :
    Buried (trace ++ [.enter thread time]) thread := by
  have positive := List.length_pos_iff.mpr isOpen
  rw [Buried, stamps_enter, openCalls_enter, if_pos rfl, if_pos rfl, List.length_cons]
  simpa using positive

/-- A buried call is still open when the call above it has returned. -/
theorem buried_leave (buried : Buried trace thread) {entered : Time}
    (stamped : stamps trace thread = some entered) : Buried (trace ++ [.leave thread time]) thread := by
  rw [Buried, stamped] at buried
  rw [Buried, stamps_leave, openCalls_leave, if_pos rfl, if_pos rfl, List.length_tail]
  simp only [Option.toList_some, List.length_singleton, Option.toList_none, List.length_nil] at buried ⊢
  omega

/-- An event of another thread changes nothing for a thread. -/
theorem buried_other {event : CallEvent T Time} (other : event.thread ≠ thread)
    (buried : Buried trace thread) : Buried (trace ++ [event]) thread := by
  cases event with
  | enter entering entered =>
      have different : thread ≠ entering := Ne.symm other
      rwa [Buried, stamps_enter, openCalls_enter, if_neg different, if_neg different]
  | leave leaving left =>
      have different : thread ≠ leaving := Ne.symm other
      rwa [Buried, stamps_leave, openCalls_leave, if_neg different, if_neg different]

theorem isChain_kinds_self {R : Bool → Bool → Prop} {event : CallEvent T Time}
    (chain : (kinds event.thread trace).IsChain R)
    (last : ∀ former ∈ (kinds event.thread trace).getLast?, R former event.isEnter) :
    (kinds event.thread (trace ++ [event])).IsChain R := by
  rw [kinds_concat, if_pos rfl, List.isChain_append]
  refine ⟨chain, List.isChain_singleton _, ?_⟩
  intro former member latter next
  cases next
  exact last former member

/-- The last event of a thread outside is no entry. -/
theorem not_entered_of_outside (outside : openCalls trace thread = []) :
    (kinds thread trace).getLast? ≠ some true := by
  intro last
  have isStamped : (stamps trace thread).isSome := isSome_stamps.mpr last
  obtain ⟨entered, stamped⟩ := Option.isSome_iff_exists.mp isStamped
  have head := head?_openCalls stamped
  rw [outside] at head
  cases head

/-- **When no thread returns twice in a row**, a thread alternates or has a call buried under its stamp. -/
theorem alternates_or_buried (bracketed : WellBracketed trace) (apart : ReturnsApart trace) (thread : T) :
    (kinds thread trace).IsChain (· ≠ ·) ∨ Buried trace thread := by
  induction trace using List.reverseRecOn with
  | nil => exact Or.inl List.IsChain.nil
  | append_singleton done event ih =>
      obtain ⟨bracketedDone, isOpen⟩ := bracketed.concat
      obtain ⟨apartDone, lastApart⟩ := isChain_kinds_concat.mp apart
      have before := ih bracketedDone apartDone
      by_cases same : event.thread = thread
      · subst same
        cases event with
        | enter entering time =>
            by_cases isInside : openCalls done entering = []
            · -- outside there is nothing to bury, and the last event was no entry
              left
              refine isChain_kinds_self (before.resolve_right ?_) fun former last => ?_
              · simp [Buried, CallEvent.thread, isInside]
              · cases former with
                | false => exact Bool.false_ne_true
                | true => exact absurd last (not_entered_of_outside isInside)
            · exact Or.inr (buried_enter isInside)
        | leave leaving time =>
            -- an exit follows an entry, whose stamp it clears
            cases stamped : stamps done leaving with
            | none =>
                have last := getLast?_kinds_of_unstamped (isOpen rfl) stamped
                have apart := lastApart false last
                simp [CallEvent.isEnter] at apart
            | some entered =>
                refine before.imp (fun chain => ?_) fun buried => buried_leave buried stamped
                refine isChain_kinds_self chain fun former last => ?_
                rcases lastApart former last with rfl | entry
                · exact Bool.false_ne_true.symm
                · cases entry
      · have kindsSame : kinds thread (done ++ [event]) = kinds thread done := by
          rw [kinds_concat, if_neg same, List.append_nil]
        rw [kindsSame]
        exact before.imp_right (buried_other same)

/-- When no thread returns twice in a row and all calls have returned, no call was buried. -/
theorem alternates_of_returnsApart (bracketed : WellBracketed trace) (apart : ReturnsApart trace)
    (returned : AllReturned trace) : Alternates trace := by
  intro thread
  refine (alternates_or_buried bracketed apart thread).resolve_right ?_
  simp [Buried, returned thread]

theorem Alternates.returnsApart (alternates : Alternates trace) : ReturnsApart trace := by
  intro thread
  refine (alternates thread).imp ?_
  rintro (_ | _) (_ | _) different
  · exact absurd rfl different
  · exact Or.inr rfl
  · exact Or.inl rfl
  · exact absurd rfl different

/-- The stamps miss no call when they complete as many of each thread as there are. -/
theorem stampedCalls_eq_of_length (same : ∀ thread,
    ((stampedCalls trace).filter fun call => call.thread = thread).length =
      ((completedCalls trace).filter fun call => call.thread = thread).length) :
    stampedCalls trace = completedCalls trace := by
  have perm : ((stampedCalls trace).map Call.thread).Perm ((completedCalls trace).map Call.thread) := by
    rw [List.perm_iff_count]
    intro thread
    have counts := same thread
    rw [← List.countP_eq_length_filter, ← List.countP_eq_length_filter] at counts
    simpa only [List.count, List.countP_map, Function.comp_def, beq_eq_decide] using counts
  have lengths := perm.length_eq
  rw [List.length_map, List.length_map] at lengths
  exact (stampedCalls_sublist trace).eq_of_length lengths

/-! ### Groups whose threads never overlap -/

theorem NeverOverlap.of_append {rest : List (CallEvent T Time)}
    (apart : NeverOverlap group (trace ++ rest)) : NeverOverlap group trace :=
  fun done later split => apart done (later ++ rest) (by rw [split, List.append_assoc])

/-- Two threads of a group that are inside are one. -/
theorem NeverOverlap.eq_of_open (apart : NeverOverlap group trace) {first second : T}
    (firstOpen : openCalls trace first ≠ []) (secondOpen : openCalls trace second ≠ [])
    (together : group first = group second) : first = second := by
  have few := apart trace [] (List.append_nil _).symm (group second)
  apply Finset.card_le_one.mp few
  · exact mem_insideOf.mpr ⟨firstOpen, together⟩
  · exact mem_insideOf.mpr ⟨secondOpen, rfl⟩

/-- A group is outside when one of its threads enters. -/
theorem NeverOverlap.outside_of_enter (apart : NeverOverlap group (trace ++ [.enter thread time]))
    (alternates : Alternates (trace ++ [.enter thread time]))
    (bracketed : WellBracketed (trace ++ [.enter thread time])) :
    openCalls (regroup group trace) (group thread) = [] := by
  have few := apart _ [] (List.append_nil _).symm (group thread)
  rw [card_insideOf alternates bracketed, regroup_concat, CallEvent.regroup, openCalls_enter,
    if_pos rfl, List.length_cons] at few
  exact List.length_eq_zero_iff.mp (by omega)

/-! ### The calls of the groups -/

section Groups

variable (alternates : Alternates trace) (bracketed : WellBracketed trace)

include alternates bracketed

theorem allReturned_regroup (returned : AllReturned trace) : AllReturned (regroup group trace) := by
  intro g
  rw [← List.length_eq_zero_iff, ← card_insideOf alternates bracketed, Finset.card_eq_zero]
  apply Finset.eq_empty_of_forall_notMem
  intro thread member
  exact (mem_insideOf.mp member).1 (returned thread)

/-- Groups alternate exactly when their calls never overlap. -/
theorem alternates_regroup_iff : Alternates (regroup group trace) ↔ NeverOverlap group trace := by
  constructor
  · rintro groupsAlternate done rest rfl g
    have groups : Alternates (regroup group done) := by
      rw [regroup, List.map_append] at groupsAlternate
      exact groupsAlternate.of_append
    rw [card_insideOf alternates.of_append bracketed.of_append, openCalls_of_alternates groups]
    cases stamps (regroup group done) g <;> simp
  · intro apart
    apply alternates_of_shallow (wellBracketed_regroup group alternates bracketed)
    intro done rest split g
    obtain ⟨earlier, later, rfl, rfl, rfl⟩ := List.map_eq_append_iff.mp split
    have few := apart earlier later rfl g
    rwa [card_insideOf alternates.of_append bracketed.of_append] at few

/-- **One stamp per group is enough exactly when never two threads of a group are inside**, once all calls
have returned. -/
theorem returnsApart_regroup_iff (returned : AllReturned trace) :
    ReturnsApart (regroup group trace) ↔ NeverOverlap group trace := by
  rw [← alternates_regroup_iff alternates bracketed]
  constructor
  · intro apart
    exact alternates_of_returnsApart (wellBracketed_regroup group alternates bracketed) apart
      (allReturned_regroup alternates bracketed returned)
  · exact Alternates.returnsApart

/-- A group whose threads never overlap is inside the call of its one thread that is inside. -/
theorem openCalls_regroup_of_neverOverlap (apart : NeverOverlap group trace)
    (isOpen : openCalls trace thread ≠ []) :
    openCalls (regroup group trace) (group thread) = openCalls trace thread := by
  induction trace using List.reverseRecOn with
  | nil => exact absurd rfl isOpen
  | append_singleton done event ih =>
      have alternatesDone := alternates.of_append
      have bracketedDone := bracketed.concat.1
      have before := ih alternatesDone bracketedDone apart.of_append
      rw [regroup_concat]
      cases event with
      | enter entering time =>
          have outside := apart.outside_of_enter alternates bracketed
          rw [CallEvent.regroup, openCalls_enter, openCalls_enter]
          by_cases same : thread = entering
          · have fresh : openCalls done entering = [] := by
              rw [openCalls_of_alternates alternatesDone, unstamped_of_enter alternates]
              rfl
            rw [same, if_pos rfl, if_pos rfl, outside, fresh]
          · rw [openCalls_enter, if_neg same] at isOpen
            have elsewhere : group thread ≠ group entering := by
              intro together
              have inside := openCalls_regroup_ne_nil group alternatesDone bracketedDone isOpen
              rw [together] at inside
              exact inside outside
            rw [if_neg same, if_neg elsewhere, before isOpen]
      | leave leaving time =>
          have leavingOpen : openCalls done leaving ≠ [] := bracketed.concat.2 rfl
          rw [openCalls_leave_of_alternates alternatesDone] at isOpen
          rw [CallEvent.regroup, openCalls_leave, openCalls_leave]
          by_cases same : thread = leaving
          · rw [if_pos same] at isOpen
            exact absurd rfl isOpen
          · rw [if_neg same] at isOpen
            have elsewhere : group thread ≠ group leaving := fun together =>
              same (apart.of_append.eq_of_open isOpen leavingOpen together)
            rw [if_neg same, if_neg elsewhere, before isOpen]

/-- **The calls of groups whose threads never overlap are those of their threads.** -/
theorem completedCalls_regroup (apart : NeverOverlap group trace) :
    completedCalls (regroup group trace) = (completedCalls trace).map (Call.regroup group) := by
  induction trace using List.reverseRecOn with
  | nil => rfl
  | append_singleton done event ih =>
      have alternatesDone := alternates.of_append
      obtain ⟨bracketedDone, isOpen⟩ := bracketed.concat
      have apartDone := apart.of_append
      rw [regroup_concat, completedCalls_concat, completedCalls_concat, List.map_append,
        ih alternatesDone bracketedDone apartDone]
      congr 1
      cases event with
      | enter thread time => rfl
      | leave thread time =>
          have threadOpen : openCalls done thread ≠ [] := isOpen rfl
          rw [CallEvent.regroup, OpenCalls.completes, OpenCalls.completes,
            openCalls_regroup_of_neverOverlap alternatesDone bracketedDone apartDone threadOpen]
          cases (openCalls done thread).head? <;> rfl

/-- A group completes as many calls as its threads. -/
theorem countP_completedCalls_regroup (g : G) :
    ((completedCalls (regroup group trace)).countP fun call => call.thread = g) =
      (completedCalls trace).countP fun call => group call.thread = g := by
  induction trace using List.reverseRecOn with
  | nil => rfl
  | append_singleton done event ih =>
      have alternatesDone := alternates.of_append
      obtain ⟨bracketedDone, isOpen⟩ := bracketed.concat
      rw [regroup_concat, completedCalls_concat, completedCalls_concat, List.countP_append,
        List.countP_append, ih alternatesDone bracketedDone]
      congr 1
      cases event with
      | enter thread time => rfl
      | leave thread time =>
          have threadOpen : openCalls done thread ≠ [] := isOpen rfl
          have groupOpen := openCalls_regroup_ne_nil group alternatesDone bracketedDone threadOpen
          obtain ⟨entered, rest, threadCalls⟩ := List.exists_cons_of_ne_nil threadOpen
          obtain ⟨groupEntered, groupRest, groupCalls⟩ := List.exists_cons_of_ne_nil groupOpen
          rw [CallEvent.regroup, OpenCalls.completes, OpenCalls.completes, threadCalls, groupCalls]
          rfl

variable (group) in
/-- No call is lost by looking at groups. -/
theorem length_completedCalls_regroup :
    (completedCalls (regroup group trace)).length = (completedCalls trace).length := by
  have perm : ((completedCalls (regroup group trace)).map Call.thread).Perm
      ((completedCalls trace).map fun call => group call.thread) := by
    rw [List.perm_iff_count]
    intro g
    have counts : ((completedCalls (regroup group trace)).countP fun call => call.thread = g) =
        (completedCalls trace).countP fun call => group call.thread = g :=
      countP_completedCalls_regroup alternates bracketed g
    simpa only [List.count, List.countP_map, Function.comp_def, beq_eq_decide] using counts
  have lengths := perm.length_eq
  rwa [List.length_map, List.length_map] at lengths

end Groups

/-- A completed call has its exit in the trace. -/
theorem leave_mem_of_completed {call : Call T Time} (completed : call ∈ completedCalls trace) :
    CallEvent.leave call.thread call.left ∈ trace := by
  induction trace using List.reverseRecOn with
  | nil => cases completed
  | append_singleton done event ih =>
      rw [completedCalls_concat, List.mem_append, Option.mem_toList] at completed
      rcases completed with earlier | now
      · exact List.mem_append_left _ (ih earlier)
      · cases event with
        | enter thread time => cases now
        | leave thread left =>
            obtain ⟨entered, _, rfl⟩ := Option.map_eq_some_iff.mp now
            exact List.mem_append_right _ (List.mem_singleton.mpr rfl)

end CallStacks

/-
Module: MonsaEbpf.Lib.StampMap
Layer: Lib
Purpose: A bounded store as the stamps of `Lib.CallStacks`: an entry inserts, an exit erases. As long as
  entries find room the store is the stamps (`find?_stampMap_concat`); for threads that alternate, the room
  is there when never more threads are inside than the store can hold (`find?_stampMap_of_alternates`),
  and so it is for threads that call themselves (`find?_stampMap_of_few_inside`).
Imports: MonsaEbpf.Lib.CellMap, MonsaEbpf.Lib.CallStacks
Trusted boundary: none
Main exports: CellMap.stamp, stampMap, find?_stampMap_concat, FewInside, find?_stampMap_of_alternates,
  find?_stampMap_of_few_threads, keys_stampMap_of_alternates, find?_stampMap_of_few_inside,
  CallEvent.mapTime
-/
import MonsaEbpf.Lib.CellMap
import MonsaEbpf.Lib.CallStacks

variable {T Time : Type} [DecidableEq T] {capacity : Nat}

/-- Stamp the thread of an entry, drop the stamp at an exit. -/
def CellMap.stamp (map : CellMap T Time capacity) : CallEvent T Time → CellMap T Time capacity
  | .enter thread time => map.insert thread time
  | .leave thread _ => map.erase thread

namespace CallStacks

/-- The store after a trace. -/
def stampMap (capacity : Nat) (trace : List (CallEvent T Time)) : CellMap T Time capacity :=
  Runs.run CellMap.stamp .empty trace

/-- At no time more threads are inside than the store can hold. -/
def FewInside (capacity : Nat) (trace : List (CallEvent T Time)) : Prop :=
  ∀ done rest, trace = done ++ rest → (inside done).card ≤ capacity

variable {trace : List (CallEvent T Time)} {thread : T}

theorem stampMap_concat (event : CallEvent T Time) :
    stampMap capacity (trace ++ [event]) = (stampMap capacity trace).stamp event :=
  Runs.run_concat _ _ _

/-- Where a key of the store comes from: the last event is an entry of its thread, or one of another thread
and the key was there before. -/
theorem mem_keys_stampMap_concat {event : CallEvent T Time}
    (member : thread ∈ (stampMap capacity (trace ++ [event])).keys) :
    event.isEnter = true ∧ event.thread = thread ∨
      event.thread ≠ thread ∧ thread ∈ (stampMap capacity trace).keys := by
  rw [stampMap_concat] at member
  cases event with
  | enter entering time =>
      by_cases same : entering = thread
      · exact Or.inl ⟨rfl, same⟩
      · rw [CellMap.mem_keys, CellMap.stamp, CellMap.find?_insert_ne _ (Ne.symm same)] at member
        exact Or.inr ⟨same, CellMap.mem_keys.mpr member⟩
  | leave leaving time =>
      rw [CellMap.stamp, CellMap.keys_erase, Finset.mem_erase] at member
      exact Or.inr ⟨Ne.symm member.1, member.2⟩

/-- One more event keeps the store and the stamps equal, if an entry finds room. -/
theorem find?_stampMap_concat {event : CallEvent T Time}
    (same : ∀ thread, (stampMap capacity trace).find? thread = stamps trace thread)
    (room : event.isEnter = true → (stampMap capacity trace).HasRoom event.thread) (thread : T) :
    (stampMap capacity (trace ++ [event])).find? thread = stamps (trace ++ [event]) thread := by
  rw [stampMap_concat]
  cases event with
  | enter entering time =>
      have entryRoom : (stampMap capacity trace).HasRoom entering := room rfl
      rw [CellMap.stamp, CellMap.find?_insert _ entryRoom, stamps_enter, same]
  | leave leaving time => rw [CellMap.stamp, CellMap.find?_erase, stamps_leave, same]

/-- Once the store is the stamps of alternating threads, its keys are the threads inside. -/
theorem keys_eq_inside {map : CellMap T Time capacity} (alternates : Alternates trace)
    (same : ∀ thread, map.find? thread = stamps trace thread) : map.keys = inside trace := by
  ext thread
  rw [CellMap.mem_keys, mem_inside, same, openCalls_of_alternates alternates]
  cases stamps trace thread <;> simp

theorem inside_enter {time : Time} :
    inside (trace ++ [.enter thread time]) = insert thread (inside trace) := by
  ext other
  rw [Finset.mem_insert, mem_inside, mem_inside, openCalls_enter]
  by_cases same : other = thread <;> simp [same]

theorem fewInside_of_length (short : trace.length ≤ capacity) : FewInside capacity trace := by
  rintro done rest rfl
  have bound := card_inside_le done
  rw [List.length_append] at short
  omega

/-- **The store of alternating threads is their stamps**, when never too many are inside. -/
theorem find?_stampMap_of_alternates (alternates : Alternates trace) (few : FewInside capacity trace)
    (thread : T) : (stampMap capacity trace).find? thread = stamps trace thread := by
  induction trace using List.reverseRecOn generalizing thread with
  | nil => rfl
  | append_singleton done event ih =>
      have same := ih alternates.of_append fun earlier rest split =>
        few earlier (rest ++ [event]) (by rw [split, List.append_assoc])
      apply find?_stampMap_concat same
      intro enters
      cases event with
      | leave leaving time => cases enters
      | enter entering time =>
          -- with the entering thread at most `capacity` are inside, so without it there is a free entry
          have outside : entering ∉ inside done := by
            rw [mem_inside, openCalls_of_alternates alternates.of_append, unstamped_of_enter alternates]
            simp
          have full := few _ [] (List.append_nil _).symm
          rw [inside_enter, Finset.card_insert_of_notMem outside] at full
          right
          rw [keys_eq_inside alternates.of_append same]
          exact full

theorem threads_concat (event : CallEvent T Time) :
    ((trace ++ [event]).map CallEvent.thread).toFinset =
      insert event.thread (trace.map CallEvent.thread).toFinset := by
  ext thread
  simp [eq_comm]

/-- Only threads of the trace have a key in the store. -/
theorem keys_stampMap_subset (trace : List (CallEvent T Time)) :
    (stampMap capacity trace).keys ⊆ (trace.map CallEvent.thread).toFinset := by
  induction trace using List.reverseRecOn with
  | nil => exact Finset.empty_subset _
  | append_singleton done event ih =>
      intro thread member
      rw [threads_concat, Finset.mem_insert]
      rcases mem_keys_stampMap_concat member with ⟨_, same⟩ | ⟨_, before⟩
      · exact Or.inl same.symm
      · exact Or.inr (ih before)

/-- **The store is the stamps** when no more threads occur than it can hold. -/
theorem find?_stampMap_of_few_threads (few : (trace.map CallEvent.thread).toFinset.card ≤ capacity)
    (thread : T) : (stampMap capacity trace).find? thread = stamps trace thread := by
  induction trace using List.reverseRecOn generalizing thread with
  | nil => rfl
  | append_singleton done event ih =>
      rw [threads_concat] at few
      have grown := Finset.subset_insert event.thread (done.map CallEvent.thread).toFinset
      apply find?_stampMap_concat (ih ((Finset.card_le_card grown).trans few))
      intro _
      exact CellMap.hasRoom_of_keys_subset ((keys_stampMap_subset done).trans grown)
        (Finset.mem_insert_self _ _) few

theorem keys_stampMap_of_alternates (alternates : Alternates trace) (few : FewInside capacity trace) :
    (stampMap capacity trace).keys = inside trace :=
  keys_eq_inside alternates (find?_stampMap_of_alternates alternates few)

/-- A stamped thread is inside. -/
theorem mem_inside_of_stamped {time : Time} (stamped : stamps trace thread = some time) :
    thread ∈ inside trace := by
  rw [mem_inside]
  intro outside
  have head := head?_openCalls stamped
  rw [outside] at head
  cases head

/-- **The store is the stamps of any threads**, recursive ones included, when never too many are inside. -/
theorem find?_stampMap_of_few_inside (few : FewInside capacity trace) (thread : T) :
    (stampMap capacity trace).find? thread = stamps trace thread := by
  induction trace using List.reverseRecOn generalizing thread with
  | nil => rfl
  | append_singleton done event ih =>
      have same := ih fun earlier rest split =>
        few earlier (rest ++ [event]) (by rw [split, List.append_assoc])
      apply find?_stampMap_concat same
      intro enters
      cases event with
      | leave leaving time => cases enters
      | enter entering time =>
          by_cases held : entering ∈ (stampMap capacity done).keys
          · exact Or.inl held
          · -- the other stamped threads are inside beside the one that enters
            have others : (stampMap capacity done).keys ⊆ (inside done).erase entering := by
              intro other member
              obtain ⟨stamp, stamped⟩ := CellMap.mem_keys.mp member
              rw [same] at stamped
              rw [Finset.mem_erase]
              exact ⟨fun equal => held (equal ▸ member), mem_inside_of_stamped stamped⟩
            have full := few _ [] (List.append_nil _).symm
            have smaller := Finset.card_erase_lt_of_mem (Finset.mem_insert_self entering (inside done))
            rw [inside_enter] at full
            rw [Finset.erase_insert_eq_erase] at smaller
            exact Or.inr ((Finset.card_le_card others).trans_lt (smaller.trans_le full))

/-- Once all calls have returned, no stamp is left. -/
theorem stamps_of_returned (outside : openCalls trace thread = []) : stamps trace thread = none := by
  cases stamped : stamps trace thread with
  | none => rfl
  | some time => exact absurd outside (mem_inside.mp (mem_inside_of_stamped stamped))

/-- A component of the state that follows the calls of a run is the store of their trace. -/
theorem stampMap_run {σ E : Type} {step : σ → E → σ} {times : σ → CellMap T Time capacity}
    {call : E → CallEvent T Time} (follows : ∀ state event,
      times (step state event) = (times state).stamp (call event))
    {state : σ} (start : times state = .empty) (events : List E) :
    times (Runs.run step state events) = stampMap capacity (events.map call) := by
  induction events using List.reverseRecOn with
  | nil => exact start
  | append_singleton done event ih =>
      rw [Runs.run_concat, follows, ih, List.map_append, List.map_singleton, stampMap_concat]

/-! ### Other times -/

end CallStacks

/-- An event with what another clock shows. -/
def CallEvent.mapTime {Clock : Type} (clock : Time → Clock) : CallEvent T Time → CallEvent T Clock
  | .enter thread time => .enter thread (clock time)
  | .leave thread time => .leave thread (clock time)

namespace CallStacks

section Clocks

variable {Clock : Type} (clock : Time → Clock)

theorem stamps_mapTime (trace : List (CallEvent T Time)) (thread : T) :
    stamps (trace.map (CallEvent.mapTime clock)) thread = (stamps trace thread).map clock := by
  induction trace using List.reverseRecOn with
  | nil => rfl
  | append_singleton done event ih =>
      rw [List.map_append, List.map_singleton]
      cases event with
      | enter entering time =>
          rw [CallEvent.mapTime, stamps_enter, stamps_enter, ih]
          split <;> rfl
      | leave leaving time =>
          rw [CallEvent.mapTime, stamps_leave, stamps_leave, ih]
          split <;> rfl

theorem openCalls_mapTime (trace : List (CallEvent T Time)) (thread : T) :
    openCalls (trace.map (CallEvent.mapTime clock)) thread = (openCalls trace thread).map clock := by
  induction trace using List.reverseRecOn with
  | nil => rfl
  | append_singleton done event ih =>
      rw [List.map_append, List.map_singleton]
      cases event with
      | enter entering time =>
          rw [CallEvent.mapTime, openCalls_enter, openCalls_enter, ih]
          split <;> rfl
      | leave leaving time =>
          rw [CallEvent.mapTime, openCalls_leave, openCalls_leave, ih]
          split
          · exact List.map_tail.symm
          · rfl

theorem inside_mapTime (trace : List (CallEvent T Time)) :
    inside (trace.map (CallEvent.mapTime clock)) = inside trace := by
  ext thread
  rw [mem_inside, mem_inside, openCalls_mapTime, ne_eq, List.map_eq_nil_iff]

theorem FewInside.mapTime {trace : List (CallEvent T Time)} (few : FewInside capacity trace) :
    FewInside capacity (trace.map (CallEvent.mapTime clock)) := by
  intro done rest split
  obtain ⟨earlier, later, rfl, rfl, _⟩ := List.map_eq_append_iff.mp split
  rw [inside_mapTime]
  exact few earlier later rfl

end Clocks

end CallStacks

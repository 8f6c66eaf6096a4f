/-
Module: MonsaEbpf.User.PollLoops
Layer: User
Purpose: The ends of the user programs that poll a ring buffer: the kprobe and kretprobe examples of
  S2-advanced, and the kprobe, lsm and fentry examples of S1-basic. After a setup without errors they are one
  loop, up to the text of a diagnostic. The number that a poll returns, the error that ends the loop and what
  the exit status is made of are one variable.
Imports: MonsaEbpf.Bpf.Helpers, MonsaEbpf.Lib.Printf
Trusted boundary: human-reviewed translation
Main exports: EINTR, pollLoop, exitStatus, RingUser, RingUser.main, made, StopsClean, stops_clean_iff
-/
import MonsaEbpf.Bpf.Helpers
import MonsaEbpf.Lib.Printf

namespace MonsaEbpf.User

open Printf

def EINTR : S32 := 4

/-- `"%d"`. -/
def signedNumber (number : S32) : List Piece :=
  if number.toInt < 0 then [.text "-", .number number.toInt.natAbs] else [.number number.toInt.natAbs]

/-- `while (!stop) { err = ring_buffer__poll(rb, 100); .. }`: the value of `err` behind the loop, and what was
printed as an error. The list holds what the polls return in the rounds whose check finds the flag unset; at
its end the check finds it set. -/
def pollLoop (pollError : S32 → List Piece) : List S32 → S32 → S32 × List (List Piece)
  | [], err => (err, [])
  | result :: later, _ =>
      let err := result
      if err = -EINTR then (0, [])
      else if err.toInt < 0 then (err, [pollError err])
      else pollLoop pollError later err

/-- `return err ? 1 : 0`. -/
def exitStatus (err : S32) : S32 :=
  if err ≠ 0 then 1 else 0

/-- The user programs with this loop. -/
inductive RingUser where
  | s2Kprobe
  | s2Kretprobe
  | s1Kprobe
  | s1LsmFileOpen
  | s1FentryExecLatency
deriving DecidableEq, Repr

namespace RingUser

/-- What a program prints when a poll fails. -/
def pollError : RingUser → S32 → List Piece
  | .s2Kprobe, err | .s2Kretprobe, err => .text "Error polling ring buffer: " :: signedNumber err ++ [.text "\n"]
  | .s1Kprobe, err | .s1LsmFileOpen, err | .s1FentryExecLatency, err =>
      .text "ring_buffer__poll error: " :: signedNumber err ++ [.text "\n"]

/-- `main` from its loop on; a setup without errors leaves zero in `err`. -/
def main (user : RingUser) (results : List S32) : S32 :=
  exitStatus (pollLoop user.pollError results 0).1

end RingUser

/-! ### Clean stops -/

/-- The results of the polls that are made: up to the first negative one. -/
def made : List S32 → List S32
  | [] => []
  | result :: later => if result.toInt < 0 then [result] else result :: made later

/-- A poll that is made fails, other than by a signal. -/
def PollFails (results : List S32) : Prop :=
  ∃ result ∈ made results, result.toInt < 0 ∧ result ≠ -EINTR

/-- The exit status is zero when no poll fails, and one when the loop ends because a poll fails. -/
def StopsClean (user : RingUser) (results : List S32) : Prop :=
  (¬ PollFails results → user.main results = 0) ∧ (PollFails results → user.main results = 1)

/-- What the loop leaves in `err`: the result of a poll that fails, zero after a signal that interrupts a
poll, and otherwise the last number of records. -/
inductive Ends (results : List S32) (err : S32) : S32 → Prop where
  | failed (result : S32) (fails : result ∈ made results) (negative : result.toInt < 0)
      (other : result ≠ -EINTR) : Ends results err result
  | interrupted (signal : -EINTR ∈ results) (clean : ¬ PollFails results) : Ends results err 0
  | stopped (counts : ∀ result ∈ results, 0 ≤ result.toInt) (clean : ¬ PollFails results) :
      Ends results err (results.getLast?.getD err)

theorem negative_eintr : (-EINTR).toInt < 0 := by decide

theorem made_of_negative {result : S32} (negative : result.toInt < 0) (later : List S32) :
    made (result :: later) = [result] :=
  if_pos negative

theorem made_of_count {result : S32} (count : ¬ result.toInt < 0) (later : List S32) :
    made (result :: later) = result :: made later :=
  if_neg count

/-- A poll that returns a number of records does not fail. -/
theorem pollFails_of_count {result : S32} (count : ¬ result.toInt < 0) (later : List S32) :
    PollFails (result :: later) ↔ PollFails later := by
  rw [PollFails, made_of_count count]
  constructor
  · rintro ⟨first, member, negative, other⟩
    rcases List.mem_cons.mp member with rfl | member
    · exact absurd negative count
    · exact ⟨first, member, negative, other⟩
  · rintro ⟨first, member, negative, other⟩
    exact ⟨first, List.mem_cons_of_mem _ member, negative, other⟩

/-- **How the loop ends.** -/
theorem pollLoop_ends (pollError : S32 → List Piece) (results : List S32) (err : S32) :
    Ends results err (pollLoop pollError results err).1 := by
  induction results generalizing err with
  | nil => exact .stopped (by simp) (by simp [PollFails, made])
  | cons result later ih =>
      rw [pollLoop]
      by_cases signal : result = -EINTR
      · subst signal
        rw [if_pos rfl]
        refine .interrupted (by simp) ?_
        rintro ⟨first, member, -, other⟩
        rw [made_of_negative negative_eintr] at member
        exact other (List.mem_singleton.mp member)
      · rw [if_neg signal]
        by_cases negative : result.toInt < 0
        · rw [if_pos negative]
          exact .failed result (by rw [made_of_negative negative]; simp) negative signal
        · rw [if_neg negative]
          generalize left : (pollLoop pollError later result).1 = final
          cases left ▸ ih result with
          | failed final fails below other =>
              exact .failed final (by rw [made_of_count negative]; simp [fails]) below other
          | interrupted signalled clean =>
              exact .interrupted (List.mem_cons_of_mem _ signalled)
                fun fails => clean ((pollFails_of_count negative later).mp fails)
          | stopped counts clean =>
              have last : (result :: later).getLast?.getD err = later.getLast?.getD result := by
                rw [List.getLast?_cons]
                rfl
              have all : ∀ first ∈ result :: later, 0 ≤ first.toInt :=
                List.forall_mem_cons.mpr ⟨Int.not_lt.mp negative, counts⟩
              rw [← last]
              exact .stopped all fun fails => clean ((pollFails_of_count negative later).mp fails)

/-! ### When the exit status is clean -/

/-- Some poll returns a negative number before the flag is seen, or the last poll before that found no
records, or there was none. -/
def LastPollEmpty (results : List S32) : Prop :=
  (∃ result ∈ results, result.toInt < 0) ∨ ∀ last ∈ results.getLast?, last = 0

theorem mem_of_made {results : List S32} {result : S32} (member : result ∈ made results) :
    result ∈ results := by
  induction results with
  | nil => exact member
  | cons first later ih =>
      rw [made] at member
      split at member
      · rw [List.mem_singleton.mp member]
        exact List.mem_cons_self
      · rcases List.mem_cons.mp member with rfl | member
        · exact List.mem_cons_self
        · exact List.mem_cons_of_mem _ (ih member)

theorem exitStatus_eq_zero {err : S32} : exitStatus err = 0 ↔ err = 0 := by
  rw [exitStatus]
  by_cases zero : err = 0
  · simp [zero]
  · rw [if_pos zero]
    exact iff_of_false (by decide) zero

/-- **The programs stop clean exactly if** the last poll before the flag is seen consumed no records, or a
poll returned a negative number before that. -/
theorem stops_clean_iff (user : RingUser) (results : List S32) :
    StopsClean user results ↔ LastPollEmpty results := by
  rw [StopsClean, RingUser.main]
  generalize left : (pollLoop user.pollError results 0).1 = err
  cases left ▸ pollLoop_ends user.pollError results 0 with
  | failed err fails negative other =>
      have nonzero : err ≠ 0 := by
        rintro rfl
        exact absurd negative (by decide)
      refine iff_of_true ⟨fun clean => ?_, fun _ => if_pos nonzero⟩
        (Or.inl ⟨err, mem_of_made fails, negative⟩)
      exact absurd ⟨err, fails, negative, other⟩ clean
  | interrupted signal clean =>
      exact iff_of_true ⟨fun _ => rfl, fun fails => absurd fails clean⟩ (Or.inl ⟨_, signal, negative_eintr⟩)
  | stopped counts clean =>
      have noNegative : ¬ ∃ result ∈ results, result.toInt < 0 := fun ⟨result, member, negative⟩ =>
        absurd (counts result member) (Int.not_le.mpr negative)
      rw [LastPollEmpty, or_iff_right noNegative, exitStatus_eq_zero]
      constructor
      · rintro ⟨zero, -⟩ last found
        have final := zero clean
        rw [Option.mem_def.mp found] at final
        exact final
      · intro empty
        refine ⟨fun _ => ?_, fun fails => absurd fails clean⟩
        cases found : results.getLast? with
        | none => rfl
        | some last => exact empty last found

/-- A poll that consumed one record, then the flag: no poll failed, and the exit status is one. -/
theorem one_record_stops_unclean : ¬ StopsClean .s2Kprobe [1] := by
  rintro ⟨clean, -⟩
  have noFailure : ¬ PollFails [1] := by
    rintro ⟨result, member, negative, -⟩
    rw [List.mem_singleton.mp (mem_of_made member)] at negative
    exact absurd negative (by decide)
  exact absurd (clean noFailure) (by decide)

end MonsaEbpf.User

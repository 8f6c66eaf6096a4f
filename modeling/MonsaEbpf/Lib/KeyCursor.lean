/-
Module: MonsaEbpf.Lib.KeyCursor
Layer: Lib
Purpose: Walking through the keys of a store with a cursor that is itself a key. The store has some order of its
  keys; asked for the key after one that it does not have, it answers with the first. A walk that starts from
  an absent key visits every key once, a walk from a key of the store only those behind it.
Imports: none
Trusted boundary: the order of a store is fixed while it is walked through
Main exports: KeyCursor.nextKey, KeyCursor.walk, KeyCursor.walk_absent, KeyCursor.walk_present
-/
import Mathlib.Data.List.Nodup

namespace KeyCursor

variable {K : Type} [DecidableEq K]

/-- The key behind a key of the list. -/
def successor : List K → K → Option K
  | [], _ => none
  | first :: rest, key => if first = key then rest.head? else successor rest key

/-- The key after a key: its successor, or the first key when it is absent. -/
def nextKey (order : List K) (key : K) : Option K :=
  if key ∈ order then successor order key else order.head?

/-- The keys visited from a key on; none while the walk is not over. -/
def walk (order : List K) : Nat → K → Option (List K)
  | 0, _ => none
  | fuel + 1, key =>
      match nextKey order key with
      | none => some []
      | some next => (walk order fuel next).map (next :: ·)

theorem successor_append {before after : List K} {key : K} (fresh : key ∉ before) :
    successor (before ++ key :: after) key = after.head? := by
  induction before with
  | nil => exact if_pos rfl
  | cons first rest ih =>
      rw [List.mem_cons, not_or] at fresh
      rw [List.cons_append, successor, if_neg (Ne.symm fresh.1)]
      exact ih fresh.2

theorem nextKey_present {before after : List K} {key : K} (distinct : (before ++ key :: after).Nodup) :
    nextKey (before ++ key :: after) key = after.head? := by
  have fresh : key ∉ before := fun member =>
    (List.nodup_append.mp distinct).2.2 key member key List.mem_cons_self rfl
  rw [nextKey, if_pos (by simp), successor_append fresh]

/-- **A walk from a key of the store visits the keys behind it.** -/
theorem walk_present {before after : List K} {key : K} {fuel : Nat}
    (distinct : (before ++ key :: after).Nodup) (enough : after.length < fuel) :
    walk (before ++ key :: after) fuel key = some after := by
  induction after generalizing before key fuel with
  | nil =>
      obtain ⟨fuel, rfl⟩ := Nat.exists_eq_succ_of_ne_zero (Nat.ne_of_gt enough)
      rw [walk, nextKey_present distinct]
      rfl
  | cons next rest ih =>
      obtain ⟨fuel, rfl⟩ := Nat.exists_eq_succ_of_ne_zero (Nat.ne_of_gt (Nat.zero_lt_of_lt enough))
      have shifted : before ++ key :: next :: rest = (before ++ [key]) ++ next :: rest := by simp
      have later : walk ((before ++ [key]) ++ next :: rest) fuel next = some rest :=
        ih (shifted ▸ distinct) (Nat.lt_of_succ_lt_succ enough)
      rw [walk, nextKey_present distinct, shifted]
      simp only [List.head?_cons, later]
      rfl

/-- **A walk from an absent key visits every key.** -/
theorem walk_absent {order : List K} {key : K} {fuel : Nat} (distinct : order.Nodup) (absent : key ∉ order)
    (enough : order.length < fuel) : walk order fuel key = some order := by
  obtain ⟨fuel, rfl⟩ := Nat.exists_eq_succ_of_ne_zero (Nat.ne_of_gt (Nat.zero_lt_of_lt enough))
  rw [walk, nextKey, if_neg absent]
  cases order with
  | nil => rfl
  | cons first rest =>
      have later : walk ([] ++ first :: rest) fuel first = some rest :=
        walk_present distinct (Nat.lt_of_succ_lt_succ enough)
      rw [List.nil_append] at later
      simp only [List.head?_cons, later]
      rfl

end KeyCursor

/-
Module: MonsaEbpf.Lib.MovingCursor
Layer: Lib
Purpose: Walking through a store with a cursor that is a key, while others add keys. Each question of the walk
  and each lookup in between sees the store at a later moment. Keys are added anywhere in the order and are
  never moved or removed. A walk from an absent key then reads every key that was there when it began, no
  key twice, and for each key what it held at some moment of the walk.
Imports: MonsaEbpf.Lib.KeyCursor
Trusted boundary: keys keep their order while others are added
Main exports: MovingCursor.Moment, MovingCursor.Growing, MovingCursor.dump, MovingCursor.ReadsThrough,
  MovingCursor.dump_present, MovingCursor.dump_absent
-/
import MonsaEbpf.Lib.KeyCursor

namespace MovingCursor

open KeyCursor

variable {K V : Type} [DecidableEq K]

/-- A store at one moment: the order of its keys, and what each key holds. -/
structure Moment (K V : Type) where
  order : List K
  find? : K → Option V

/-- The store has no key twice, and from one moment to the next keys are only added. -/
structure Growing (moments : Nat → Moment K V) : Prop where
  distinct : ∀ time, (moments time).order.Nodup
  holds : ∀ time, ∀ key ∈ (moments time).order, ∃ value, (moments time).find? key = some value
  grows : ∀ time, (moments time).order.Sublist (moments (time + 1)).order

/-- The entries that a walk reads from a key on, none while it is not over. It asks for the next key at one
moment and looks that key up at the following one. -/
def dump (moments : Nat → Moment K V) : Nat → Nat → K → Option (List (K × V))
  | 0, _, _ => none
  | fuel + 1, now, key =>
      match nextKey (moments now).order key with
      | none => some []
      | some next =>
          match (moments (now + 1)).find? next with
          | none => dump moments fuel (now + 2) next
          | some value => (dump moments fuel (now + 2) next).map ((next, value) :: ·)

/-- The entries have no key twice and all keys of the first moment, each with what it held at a later moment. -/
structure ReadsThrough (moments : Nat → Moment K V) (first last : Nat) (entries : List (K × V)) : Prop where
  once : (entries.map Prod.fst).Nodup
  reads : ∀ key ∈ (moments first).order, key ∈ entries.map Prod.fst
  held : ∀ entry ∈ entries, ∃ time, first < time ∧ time ≤ last ∧
    (moments time).find? entry.1 = some entry.2

omit [DecidableEq K] in
/-- A sublist is split by its members as the list is. -/
theorem sublist_split {order before after : List K} {key : K} (sub : order.Sublist (before ++ key :: after))
    (distinct : (before ++ key :: after).Nodup) (member : key ∈ order) :
    ∃ front behind, order = front ++ key :: behind ∧ front.Sublist before ∧ behind.Sublist after := by
  obtain ⟨_, distinctRest, apart⟩ := List.nodup_append.mp distinct
  obtain ⟨front, rest, rfl, frontSub, restSub⟩ := List.sublist_append_iff.mp sub
  have notBefore : key ∉ front := fun here =>
    apart key (frontSub.subset here) key List.mem_cons_self rfl
  have notAfter : key ∉ after := (List.nodup_cons.mp distinctRest).1
  rcases List.sublist_cons_iff.mp restSub with behindSub | ⟨behind, rfl, behindSub⟩
  · rcases List.mem_append.mp member with here | there
    · exact absurd here notBefore
    · exact absurd (behindSub.subset there) notAfter
  · exact ⟨front, behind, rfl, frontSub, behindSub⟩

omit [DecidableEq K] in
/-- What follows a key in a sublist follows it in the list. -/
theorem sublist_behind {rest before after : List K} {key : K}
    (sub : (key :: rest).Sublist (before ++ key :: after)) (distinct : (before ++ key :: after).Nodup) :
    rest.Sublist after := by
  obtain ⟨front, behind, split, _, behindSub⟩ := sublist_split sub distinct List.mem_cons_self
  cases front with
  | nil =>
      obtain rfl := (List.cons.inj split).2
      exact behindSub
  | cons first front =>
      obtain ⟨rfl, again⟩ := List.cons.inj split
      have fresh : key ∉ rest := (List.nodup_cons.mp (sub.nodup distinct)).1
      exact absurd (again ▸ List.mem_append_right front List.mem_cons_self) fresh

section Walk

variable {moments : Nat → Moment K V} (growing : Growing moments)

include growing

omit [DecidableEq K] in
theorem Growing.sublist {early late : Nat} (order : early ≤ late) :
    (moments early).order.Sublist (moments late).order := by
  induction order with
  | refl => exact List.Sublist.refl _
  | step _ ih => exact ih.trans (growing.grows _)

/-- The answer to a question is in the store when it is looked up, and the walk goes on from there. -/
theorem dump_succ (fuel : Nat) {now : Nat} {key following : K}
    (next : nextKey (moments now).order key = some following)
    (present : following ∈ (moments now).order) :
    ∃ value, (moments (now + 1)).find? following = some value ∧
      dump moments (fuel + 1) now key =
        (dump moments fuel (now + 2) following).map ((following, value) :: ·) := by
  obtain ⟨value, found⟩ := growing.holds (now + 1) following ((growing.grows now).subset present)
  refine ⟨value, found, ?_⟩
  rw [dump, next]
  simp only [found]

/-- **A walk from a key of the store** reads keys behind it in the order of the last moment, among them all
that are there already. -/
theorem dump_present {last fuel now : Nat} {before after : List K} {key : K}
    (limit : (moments last).order = before ++ key :: after) (present : key ∈ (moments now).order)
    (enough : after.length < fuel) (time : now + 2 * fuel ≤ last) :
    ∃ entries, dump moments fuel now key = some entries ∧ (entries.map Prod.fst).Sublist after ∧
      (∀ other ∈ after, other ∈ (moments now).order → other ∈ entries.map Prod.fst) ∧
      ∀ entry ∈ entries, ∃ time, now < time ∧ time ≤ last ∧
        (moments time).find? entry.1 = some entry.2 := by
  induction fuel generalizing now before after key with
  | zero => omega
  | succ fuel ih =>
      have distinct := growing.distinct last
      rw [limit] at distinct
      obtain ⟨front, behind, split, frontSub, behindSub⟩ :=
        sublist_split (limit ▸ growing.sublist (show now ≤ last by omega)) distinct present
      have next : nextKey (moments now).order key = behind.head? := by
        rw [split]
        exact nextKey_present (split ▸ growing.distinct now)
      -- what is there now and behind the cursor in the end is behind it now
      have isBehind {other : K} (later : other ∈ after) (here : other ∈ (moments now).order) :
          other ∈ behind := by
        obtain ⟨_, distinctRest, apart⟩ := List.nodup_append.mp distinct
        rw [split, List.mem_append, List.mem_cons] at here
        rcases here with early | same | behind
        · exact absurd rfl (apart other (frontSub.subset early) other (List.mem_cons_of_mem _ later))
        · exact absurd (same ▸ later) (List.nodup_cons.mp distinctRest).1
        · exact behind
      cases behind with
      | nil =>
          refine ⟨[], ?_, List.nil_sublist _, ?_, ?_⟩
          · rw [dump, next]
            rfl
          · intro other later here
            exact isBehind later here
          · intro entry member
            cases member
      | cons following rest =>
          have here : following ∈ (moments now).order := by
            rw [split]
            simp
          have later : following ∈ after := behindSub.subset List.mem_cons_self
          obtain ⟨between, afterwards, cut⟩ := List.append_of_mem later
          have distinctAfter : after.Nodup := (List.nodup_cons.mp (List.nodup_append.mp distinct).2.1).2
          have shorter : afterwards.length < fuel := by
            rw [cut, List.length_append, List.length_cons] at enough
            omega
          have still : following ∈ (moments (now + 2)).order :=
            (growing.sublist (Nat.le_add_right now 2)).subset here
          obtain ⟨value, found, stepped⟩ := dump_succ growing fuel next here
          have limit' : (moments last).order = (before ++ key :: between) ++ following :: afterwards := by
            rw [limit, cut, List.append_assoc]
            rfl
          obtain ⟨entries, walked, sub, reads, held⟩ := ih limit' still shorter (by omega)
          refine ⟨(following, value) :: entries, ?_, ?_, ?_, ?_⟩
          · rw [stepped, walked]
            rfl
          · rw [cut, List.map_cons]
            exact (sub.cons_cons following).trans (List.sublist_append_right between _)
          · intro other isLater isHere
            rw [List.map_cons, List.mem_cons]
            rcases List.mem_cons.mp (isBehind isLater isHere) with same | inRest
            · exact Or.inl same
            · right
              apply reads
              · exact (sublist_behind (cut ▸ behindSub) (cut ▸ distinctAfter)).subset inRest
              · exact (growing.sublist (Nat.le_add_right now 2)).subset isHere
          · intro entry member
            rcases List.mem_cons.mp member with rfl | member
            · exact ⟨now + 1, by omega, by omega, found⟩
            · obtain ⟨time, after, before, read⟩ := held entry member
              exact ⟨time, by omega, before, read⟩

/-- **A walk from an absent key** reads the whole store of its beginning. -/
theorem dump_absent {capacity fuel : Nat} {key : K} (bounded : ∀ time, (moments time).order.length ≤ capacity)
    (absent : key ∉ (moments 0).order) (enough : capacity < fuel) :
    ∃ entries, dump moments fuel 0 key = some entries ∧ ReadsThrough moments 0 (2 * fuel) entries := by
  obtain ⟨fuel, rfl⟩ := Nat.exists_eq_succ_of_ne_zero (Nat.ne_of_gt (Nat.zero_lt_of_lt enough))
  have next : nextKey (moments 0).order key = (moments 0).order.head? := if_neg absent
  cases start : (moments 0).order with
  | nil =>
      refine ⟨[], ?_, List.nodup_nil, ?_, ?_⟩
      · rw [dump, next, start]
        rfl
      · intro other here
        rw [start] at here
        cases here
      · intro entry member
        cases member
  | cons first rest =>
      have here : first ∈ (moments 0).order := by
        rw [start]
        exact List.mem_cons_self
      have head : nextKey (moments 0).order key = some first := next.trans (congrArg List.head? start)
      obtain ⟨value, found, stepped⟩ := dump_succ growing fuel head here
      obtain ⟨before, after, limit⟩ :=
        List.append_of_mem ((growing.sublist (Nat.zero_le (2 * (fuel + 1)))).subset here)
      have distinct := growing.distinct (2 * (fuel + 1))
      rw [limit] at distinct
      have shorter : after.length < fuel := by
        have length := bounded (2 * (fuel + 1))
        rw [limit, List.length_append, List.length_cons] at length
        omega
      obtain ⟨entries, walked, sub, reads, held⟩ := dump_present growing limit
        ((growing.sublist (Nat.zero_le 2)).subset here) shorter (by omega)
      have fresh : (first :: after).Nodup := (List.nodup_append.mp distinct).2.1
      refine ⟨(first, value) :: entries, ?_, ?_, ?_, ?_⟩
      · rw [stepped, walked]
        rfl
      · rw [List.map_cons]
        exact (sub.cons_cons first).nodup fresh
      · intro other isHere
        rw [List.map_cons, List.mem_cons]
        rw [start] at isHere
        rcases List.mem_cons.mp isHere with same | inRest
        · exact Or.inl same
        · right
          have sublist := growing.sublist (Nat.zero_le (2 * (fuel + 1)))
          rw [start, limit] at sublist
          apply reads
          · exact (sublist_behind sublist distinct).subset inRest
          · apply (growing.sublist (Nat.zero_le 2)).subset
            rw [start]
            exact List.mem_cons_of_mem _ inRest
      · intro entry member
        rcases List.mem_cons.mp member with rfl | member
        · exact ⟨1, by omega, by omega, found⟩
        · obtain ⟨time, after, before, read⟩ := held entry member
          exact ⟨time, by omega, before, read⟩

end Walk

end MovingCursor

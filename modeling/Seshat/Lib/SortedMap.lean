import Mathlib.Data.List.Induction
import Mathlib.Order.Lattice
import Mathlib.Tactic.Common

/-! A map in the order of its keys, and what updates of it add up to. -/

namespace Seshat.Lib.SortedMap

variable {κ β α : Type*} [LinearOrder κ]

/-- `*map.entry(key).or_insert(init)` changed by `f`. -/
def upsert (key : κ) (init : β) (f : β → β) : List (κ × β) → List (κ × β)
  | [] => [(key, f init)]
  | entry :: rest =>
      if key < entry.1 then (key, f init) :: entry :: rest
      else if key = entry.1 then (key, f entry.2) :: rest
      else entry :: upsert key init f rest

def valueAt (init : β) (map : List (κ × β)) (key : κ) : β := (map.lookup key).getD init

/-- Each update changes the value under its key, which starts as `init`. -/
def collect (key : α → κ) (init : β) (op : β → α → β) (updates : List α) : List (κ × β) :=
  updates.foldl (fun map a => upsert (key a) init (fun b => op b a) map) []

def Sorted (map : List (κ × β)) : Prop := map.Pairwise fun a b => a.1 < b.1

section Updates

variable {map : List (κ × β)} {init : β}

theorem mem_upsert (key : κ) (f : β → β) (other : κ) :
    other ∈ (upsert key init f map).map Prod.fst ↔ other = key ∨ other ∈ map.map Prod.fst := by
  induction map with
  | nil => simp [upsert]
  | cons entry rest ih =>
    rw [upsert]
    split
    · simp
    · split
      · rename_i same
        simp [same]
      · rw [List.map_cons, List.mem_cons, ih, List.map_cons, List.mem_cons, or_left_comm]

theorem Sorted.upsert (sorted : Sorted map) (key : κ) (f : β → β) :
    Sorted (upsert key init f map) := by
  induction map with
  | nil => exact List.pairwise_singleton _ _
  | cons entry rest ih =>
    obtain ⟨above, others⟩ := List.pairwise_cons.mp sorted
    rw [SortedMap.upsert]
    split
    case isTrue low =>
      exact sorted.cons fun a member => (List.mem_cons.mp member).elim (fun same => same ▸ low)
        fun inside => low.trans (above a inside)
    case isFalse high =>
      split
      case isTrue same => exact others.cons fun a member => same ▸ above a member
      case isFalse apart =>
        refine (ih others).cons fun a member => ?_
        rcases (mem_upsert key f a.1).mp (List.mem_map_of_mem member) with self | old
        · rw [self]
          exact lt_of_le_of_ne (not_lt.mp high) (Ne.symm apart)
        · obtain ⟨b, inside, same⟩ := List.mem_map.mp old
          exact same ▸ above b inside

theorem valueAt_cons (entry : κ × β) (rest : List (κ × β)) (key : κ) :
    valueAt init (entry :: rest) key =
      if key = entry.1 then entry.2 else valueAt init rest key := by
  rw [valueAt, List.lookup_cons]
  split
  · rename_i same
    rw [if_pos (beq_iff_eq.mp same)]
    rfl
  · rename_i apart
    rw [if_neg (beq_eq_false_iff_ne.mp apart)]
    rfl

theorem valueAt_absent {key : κ} (absent : key ∉ map.map Prod.fst) :
    valueAt init map key = init := by
  induction map with
  | nil => rfl
  | cons entry rest ih =>
    rw [List.map_cons, List.mem_cons, not_or] at absent
    rw [valueAt_cons, if_neg absent.1, ih absent.2]

/-- In a sorted map an entry is found under its key. -/
theorem Sorted.valueAt_mem (sorted : Sorted map) {entry : κ × β} (member : entry ∈ map) :
    valueAt init map entry.1 = entry.2 := by
  induction map with
  | nil => cases member
  | cons first rest ih =>
    obtain ⟨above, others⟩ := List.pairwise_cons.mp sorted
    rw [valueAt_cons]
    rcases List.mem_cons.mp member with rfl | inside
    · exact if_pos rfl
    · rw [if_neg (above entry inside).ne', ih others inside]

theorem Sorted.valueAt_upsert (sorted : Sorted map) (key : κ) (f : β → β) (other : κ) :
    valueAt init (SortedMap.upsert key init f map) other =
      if other = key then f (valueAt init map other) else valueAt init map other := by
  induction map with
  | nil =>
    rw [SortedMap.upsert, valueAt_cons]
    rfl
  | cons entry rest ih =>
    obtain ⟨above, others⟩ := List.pairwise_cons.mp sorted
    rw [SortedMap.upsert]
    split
    case isTrue low =>
      have absent : key ∉ (entry :: rest).map Prod.fst := by
        rw [List.map_cons, List.mem_cons, not_or]
        refine ⟨low.ne, fun member => ?_⟩
        obtain ⟨b, inside, same⟩ := List.mem_map.mp member
        exact absurd (low.trans (above b inside)) (same ▸ lt_irrefl _)
      rw [valueAt_cons]
      split
      · rename_i same
        rw [same, valueAt_absent absent]
      · rfl
    case isFalse high =>
      split
      case isTrue same =>
        subst same
        rw [valueAt_cons, valueAt_cons]
        split <;> rfl
      case isFalse apart =>
        rw [valueAt_cons, valueAt_cons, ih others]
        by_cases first : other = entry.1
        · subst first
          rw [if_pos rfl, if_pos rfl, if_neg (Ne.symm apart)]
        · rw [if_neg first, if_neg first]

end Updates

section Collect

variable (key : α → κ) (init : β) (op : β → α → β)

theorem collect_concat (updates : List α) (a : α) : collect key init op (updates ++ [a]) =
    upsert (key a) init (fun b => op b a) (collect key init op updates) := by
  rw [collect, collect, List.foldl_append]
  rfl

theorem collect_sorted (updates : List α) : Sorted (collect key init op updates) := by
  induction updates using List.reverseRecOn with
  | nil => exact List.Pairwise.nil
  | append_singleton updates a ih =>
    rw [collect_concat]
    exact ih.upsert (key a) _

/-- The keys of the map are those of the updates. -/
theorem mem_collect (updates : List α) (k : κ) :
    k ∈ (collect key init op updates).map Prod.fst ↔ k ∈ updates.map key := by
  induction updates using List.reverseRecOn with
  | nil => rfl
  | append_singleton updates a ih =>
    rw [collect_concat, mem_upsert, ih, List.map_append, List.mem_append, List.map_singleton,
      List.mem_singleton, or_comm]

/-- The value under a key is what the updates of that key make of the initial one. -/
theorem valueAt_collect (updates : List α) (k : κ) :
    valueAt init (collect key init op updates) k =
      (updates.filter fun a => key a = k).foldl op init := by
  induction updates using List.reverseRecOn with
  | nil => rfl
  | append_singleton updates a ih =>
    rw [collect_concat, (collect_sorted key init op updates).valueAt_upsert, ih,
      List.filter_append]
    by_cases same : key a = k
    · rw [if_pos same.symm, List.filter_cons_of_pos (by simpa using same), List.filter_nil,
        List.foldl_append]
      rfl
    · rw [if_neg (Ne.symm same), List.filter_cons_of_neg (by simpa using same), List.filter_nil,
        List.append_nil]

end Collect

/-! A value put under a key. -/

def put (key : κ) (value : β) (map : List (κ × β)) : List (κ × β) :=
  upsert key value (fun _ => value) map

section Put

variable {map : List (κ × β)}

theorem lookup_put_self (key : κ) (value : β) : (put key value map).lookup key = some value := by
  unfold put
  induction map with
  | nil => simp [upsert]
  | cons entry rest ih =>
    rw [upsert]
    split
    case isTrue low => simp
    case isFalse high =>
      split
      case isTrue same => simp
      case isFalse apart => rw [List.lookup_cons, beq_eq_false_iff_ne.mpr apart, ih]

theorem lookup_put_other {key other : κ} (apart : other ≠ key) (value : β) :
    (put key value map).lookup other = map.lookup other := by
  have differ : (other == key) = false := beq_eq_false_iff_ne.mpr apart
  unfold put
  induction map with
  | nil => rw [upsert, List.lookup_cons, differ]
  | cons entry rest ih =>
    rw [upsert]
    split
    case isTrue low => rw [List.lookup_cons, differ]
    case isFalse high =>
      split
      case isTrue same => rw [List.lookup_cons, List.lookup_cons, ← same, differ]
      case isFalse => rw [List.lookup_cons, List.lookup_cons, ih]

theorem put_put (key : κ) (value : β) : put key value (put key value map) = put key value map := by
  unfold put
  induction map with
  | nil => simp [upsert]
  | cons entry rest ih =>
    rw [upsert]
    split
    case isTrue low => simp [upsert]
    case isFalse high =>
      split
      case isTrue same => simp [upsert]
      case isFalse apart => rw [upsert, if_neg high, if_neg apart, ih]

section Cons

variable {key old : κ} (value held : β) (rest : List (κ × β))

theorem put_low (low : key < old) :
    put key value ((old, held) :: rest) = (key, value) :: (old, held) :: rest := if_pos low

theorem put_high (high : old < key) :
    put key value ((old, held) :: rest) = (old, held) :: put key value rest := by
  rw [put, upsert, if_neg (not_lt_of_gt high), if_neg high.ne']
  rfl

theorem put_same : put key value ((key, held) :: rest) = (key, value) :: rest := by
  rw [put, upsert, if_neg (lt_irrefl _), if_pos rfl]

end Cons

/-- Values under different keys may be put in any order. -/
theorem put_comm {first second : κ} (before : first < second) (value other : β) :
    put first value (put second other map) = put second other (put first value map) := by
  induction map with
  | nil =>
    have single (key : κ) (value : β) : put key value [] = [(key, value)] := rfl
    rw [single, single, put_low _ _ _ before, put_high _ _ _ before, single]
  | cons entry rest ih =>
    obtain ⟨old, held⟩ := entry
    rcases lt_trichotomy first old with low | rfl | high
    · rw [put_low _ _ _ low, put_high _ _ _ before]
      rcases lt_trichotomy second old with inside | rfl | behind
      · rw [put_low _ _ _ inside, put_low _ _ _ before]
      · rw [put_same, put_low _ _ _ before]
      · rw [put_high _ _ _ behind, put_low _ _ _ low]
    · rw [put_same, put_high _ _ _ before, put_high _ _ _ before, put_same]
    · have behind := high.trans before
      rw [put_high _ _ _ behind, put_high _ _ _ high, put_high _ _ _ high,
        put_high _ _ _ behind, ih]

end Put

end Seshat.Lib.SortedMap

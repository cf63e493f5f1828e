import Mathlib.Tactic.Common

/-! Objects as lists of entries that may repeat a key, and maps flattened into them. -/

namespace Seshat.Lib.Objects

section Entries
variable {κ ν : Type}

/-- A key that is written only when there is a value. -/
def optional (key : κ) (value : Option ν) : List (κ × ν) := (value.map fun found => (key, found)).toList

@[simp] theorem optional_none (key : κ) : optional key (none : Option ν) = [] := rfl

@[simp] theorem optional_some (key : κ) (value : ν) : optional key (some value) = [(key, value)] := rfl

end Entries

section Carrying
variable {κ ν : Type} [DecidableEq κ]

/-- Exactly one entry of the object has the key, and it has the value: a reader cannot find
another one. -/
def Carries (object : List (κ × ν)) (key : κ) (value : ν) : Prop :=
  object.filter (fun entry => entry.1 = key) = [(key, value)]

instance [DecidableEq ν] (object : List (κ × ν)) (key : κ) (value : ν) :
    Decidable (Carries object key value) :=
  inferInstanceAs (Decidable (_ = _))

theorem filter_key_eq_nil {entries : List (κ × ν)} {key : κ} :
    entries.filter (fun entry => entry.1 = key) = [] ↔ key ∉ entries.map Prod.fst := by
  rw [List.filter_eq_nil_iff]
  simp only [decide_eq_true_eq, List.mem_map, not_exists, not_and]

theorem filter_key_of_nodup {entries : List (κ × ν)} {key : κ} {value : ν}
    (distinct : (entries.map Prod.fst).Nodup) (member : (key, value) ∈ entries) :
    entries.filter (fun entry => entry.1 = key) = [(key, value)] := by
  induction entries with
  | nil => simp at member
  | cons head tail ih =>
      rw [List.map_cons, List.nodup_cons] at distinct
      rcases List.mem_cons.mp member with rfl | later
      · rw [List.filter_cons_of_pos (by simp), filter_key_eq_nil.mpr distinct.1]
      · have other : head.1 ≠ key := by
          rintro rfl
          exact distinct.1 (List.mem_map.mpr ⟨_, later, rfl⟩)
        rw [List.filter_cons_of_neg (by simpa using other)]
        exact ih distinct.2 later

/-- A part that has exactly one entry under a key carries it in the whole object when the
parts around it have none. -/
theorem carries_around_iff {before part after : List (κ × ν)} {key : κ} {found value : ν}
    (single : part.filter (fun entry => entry.1 = key) = [(key, found)]) :
    Carries (before ++ part ++ after) key value ↔
      key ∉ (before ++ after).map Prod.fst ∧ found = value := by
  rw [← filter_key_eq_nil, List.filter_append]
  unfold Carries
  rw [List.filter_append, List.filter_append, single]
  constructor
  · intro carried
    have lengths := congrArg List.length carried
    simp only [List.length_append, List.length_cons, List.length_nil] at lengths
    have none_before : before.filter (fun entry => entry.1 = key) = [] :=
      List.length_eq_zero_iff.mp (by omega)
    have none_after : after.filter (fun entry => entry.1 = key) = [] :=
      List.length_eq_zero_iff.mp (by omega)
    rw [none_before, none_after] at carried
    refine ⟨by rw [none_before, none_after]; rfl, ?_⟩
    simpa using carried
  · rintro ⟨outside, rfl⟩
    obtain ⟨none_before, none_after⟩ := List.append_eq_nil_iff.mp outside
    rw [none_before, none_after]
    rfl

end Carrying

section Overwriting
variable {κ ν : Type} [Ord κ] [Std.TransOrd κ]

/-- The map after a sequence of insertions. -/
def overwrite (map : Std.ExtTreeMap κ ν) (writes : List (κ × ν)) : Std.ExtTreeMap κ ν :=
  writes.foldl (fun map write => map.insert write.1 write.2) map

@[simp] theorem overwrite_nil (map : Std.ExtTreeMap κ ν) : overwrite map [] = map := rfl

theorem overwrite_append (map : Std.ExtTreeMap κ ν) (first second : List (κ × ν)) :
    overwrite map (first ++ second) = overwrite (overwrite map first) second :=
  List.foldl_append

theorem toList_keys_nodup (map : Std.ExtTreeMap κ ν) : (map.toList.map Prod.fst).Nodup := by
  rw [List.nodup_iff_pairwise_ne, List.pairwise_map]
  refine map.distinct_keys_toList.imp fun apart same => apart ?_
  rw [same]
  exact Std.ReflCmp.compare_self

variable [Std.LawfulEqOrd κ]

end Overwriting

end Seshat.Lib.Objects

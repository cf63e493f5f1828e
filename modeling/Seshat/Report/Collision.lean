import Seshat.Config.Validate
import Seshat.Report.Recording
import Mathlib.Tactic.Common

/-! Which names share a result directory, and what that means for a fresh run. -/

namespace Seshat.Report
open Config

/-- A character that cannot be told from `_` in a directory name. -/
def Blurred (c : Char) : Prop := c = '_' ∨ ¬(c.isAlphanum ∨ c = '.' ∨ c = '_' ∨ c = '-')

theorem sanitizeChar_eq (c d : Char) :
    sanitizeChar c = sanitizeChar d ↔ c = d ∨ (Blurred c ∧ Blurred d) := by
  have underscore (e : Char) : Blurred e ↔ sanitizeChar e = '_' := by
    unfold Blurred sanitizeChar
    split
    · next safe => simp [safe]
    · next safe => simp [safe]
  rw [underscore, underscore]
  unfold sanitizeChar
  by_cases safeC : c.isAlphanum ∨ c = '.' ∨ c = '_' ∨ c = '-'
  · by_cases safeD : d.isAlphanum ∨ d = '.' ∨ d = '_' ∨ d = '-'
    · rw [if_pos safeC, if_pos safeD]
      constructor
      · exact .inl
      · rintro (same | ⟨rfl, rfl⟩)
        · exact same
        · rfl
    · rw [if_pos safeC, if_neg safeD]
      constructor
      · rintro rfl
        exact .inr ⟨rfl, rfl⟩
      · rintro (rfl | ⟨rfl, -⟩)
        · exact absurd safeC safeD
        · rfl
  · by_cases safeD : d.isAlphanum ∨ d = '.' ∨ d = '_' ∨ d = '-'
    · rw [if_neg safeC, if_pos safeD]
      constructor
      · rintro rfl
        exact .inr ⟨rfl, rfl⟩
      · rintro (rfl | ⟨-, rfl⟩)
        · exact absurd safeD safeC
        · rfl
    · rw [if_neg safeC, if_neg safeD]
      exact ⟨fun _ => .inr ⟨rfl, rfl⟩, fun _ => rfl⟩

/-- Two names of different lengths, or with different characters in one place that do not
both read as `_`. -/
def Separated (a b : String) : Prop :=
  a.toList.length ≠ b.toList.length ∨
    ∃ (i : Nat) (c d : Char), a.toList[i]? = some c ∧ b.toList[i]? = some d ∧ c ≠ d ∧
      ¬(Blurred c ∧ Blurred d)

theorem sanitize_ne (a b : String) : sanitize a ≠ sanitize b ↔ Separated a b := by
  constructor
  · intro apart
    by_contra joined
    simp only [Separated, not_or, not_not, not_exists, not_and] at joined
    obtain ⟨lengths, chars⟩ := joined
    refine apart (List.ext_getElem? fun i => ?_)
    rw [sanitize, sanitize, List.getElem?_map, List.getElem?_map]
    by_cases inside : i < a.toList.length
    · have insideB : i < b.toList.length := lengths ▸ inside
      rw [List.getElem?_eq_getElem inside, List.getElem?_eq_getElem insideB, Option.map_some,
        Option.map_some, Option.some.injEq, sanitizeChar_eq]
      by_cases same : a.toList[i] = b.toList[i]
      · exact .inl same
      · have blurred := chars i _ _ (List.getElem?_eq_getElem inside)
          (List.getElem?_eq_getElem insideB) same
        rw [Classical.not_imp, not_not] at blurred
        exact .inr blurred
    · rw [List.getElem?_eq_none (by omega), List.getElem?_eq_none (by omega)]
  · rintro (lengths | ⟨i, c, d, atA, atB, apart, clear⟩) same
    · have sizes := congrArg List.length same
      rw [sanitize, sanitize, List.length_map, List.length_map] at sizes
      exact lengths sizes
    · have chars := congrArg (·[i]?) same
      simp only [sanitize, List.getElem?_map, atA, atB, Option.map_some, Option.some.injEq,
        sanitizeChar_eq] at chars
      exact chars.elim apart clear

theorem sanitizeChar_dot (c : Char) : sanitizeChar c = '.' ↔ c = '.' := by
  unfold sanitizeChar
  split
  · rfl
  · next replaced =>
    constructor
    · intro dot
      exact absurd dot (by decide)
    · rintro rfl
      exact absurd (.inr (.inl rfl)) replaced

/-- Only the empty name and the names of dots lead out of `scenarios/*`. -/
theorem scenarioPlace_child (name : String) :
    scenarioPlace name = .child (sanitize name) ↔ name ∉ ["", ".", ".."] := by
  have empty : sanitize name = [] ↔ name = "" := by
    rw [sanitize, List.map_eq_nil_iff, String.toList_eq_nil_iff]
  have dot : sanitize name = ['.'] ↔ name = "." := by
    rw [← String.toList_inj, sanitize, List.map_eq_singleton_iff]
    constructor
    · rintro ⟨c, only, isDot⟩
      rw [only, (sanitizeChar_dot c).mp isDot]
      rfl
    · intro only
      exact ⟨'.', only, rfl⟩
  have dots : sanitize name = ['.', '.'] ↔ name = ".." := by
    rw [← String.toList_inj, sanitize, List.map_eq_cons_iff]
    constructor
    · rintro ⟨c, rest, both, isDot, tail⟩
      obtain ⟨d, only, isDot'⟩ := List.map_eq_singleton_iff.mp tail
      rw [both, only, (sanitizeChar_dot c).mp isDot, (sanitizeChar_dot d).mp isDot']
      rfl
    · intro both
      exact ⟨'.', ['.'], both, rfl, rfl⟩
  simp only [List.mem_cons, List.not_mem_nil, or_false, not_or, scenarioPlace, empty, dot, dots]
  by_cases outside : name = "" ∨ name = "."
  · rw [if_pos outside]
    exact ⟨nofun, fun inside => (outside.elim inside.1 inside.2.1).elim⟩
  · rw [if_neg outside]
    rw [not_or] at outside
    by_cases parent : name = ".."
    · rw [if_pos parent]
      exact ⟨nofun, fun inside => absurd parent inside.2.2⟩
    · rw [if_neg parent]
      exact ⟨fun _ => ⟨outside.1, outside.2, parent⟩, fun _ => rfl⟩

/-! What a shared directory does to a fresh run. -/

/-- The names have directories of their own below `scenarios/`. -/
structure OwnDirs (names : List String) : Prop where
  distinct : ∀ a ∈ names, ∀ b ∈ names, a ≠ b → sanitize a ≠ sanitize b
  children : ∀ a ∈ names, scenarioPlace a = .child (sanitize a)

theorem ownDirs_iff (names : List String) :
    OwnDirs names ↔
      (∀ a ∈ names, ∀ b ∈ names, a ≠ b → Separated a b) ∧ ∀ a ∈ names, a ∉ ["", ".", ".."] := by
  constructor
  · intro own
    exact ⟨fun a inA b inB apart => (sanitize_ne a b).mp (own.distinct a inA b inB apart),
      fun a inA => (scenarioPlace_child a).mp (own.children a inA)⟩
  · rintro ⟨separated, inside⟩
    exact ⟨fun a inA b inB apart => (sanitize_ne a b).mpr (separated a inA b inB apart),
      fun a inA => (scenarioPlace_child a).mpr (inside a inA)⟩

theorem OwnDirs.places {names : List String} (own : OwnDirs names) {a b : String} (inA : a ∈ names)
    (inB : b ∈ names) (apart : a ≠ b) : scenarioPlace a ≠ scenarioPlace b := by
  rw [own.children a inA, own.children b inB]
  intro same
  exact own.distinct a inA b inB apart (Place.child.inj same)

/-- A run executes every scenario whose directory holds nothing yet. -/
theorem executed_all (outcome : String → Outcome) {all names : List String} (own : OwnDirs all)
    (within : ∀ name ∈ names, name ∈ all) (unique : names.Nodup) {tree : Tree}
    (untouched : ∀ name ∈ names, tree.files (scenarioPlace name) = fun _ => none) :
    executed outcome names tree = names := by
  induction names generalizing tree with
  | nil => rfl
  | cons name rest ih =>
    have fresh : scenarioRecorded tree name = false := by
      simp [scenarioRecorded, untouched name List.mem_cons_self]
    rw [executed, fresh, if_neg Bool.false_ne_true]
    congr 1
    refine ih (fun other member => within other (List.mem_cons_of_mem _ member))
      (List.nodup_cons.mp unique).2 fun other member => ?_
    have apart : other ≠ name := fun same => (List.nodup_cons.mp unique).1 (same ▸ member)
    rw [Tree.applyAll_other ((outcome name).record_place name) (own.places
      (within other (List.mem_cons_of_mem _ member)) (within name List.mem_cons_self) apart)]
    exact untouched other (List.mem_cons_of_mem _ member)

/-- Every enabled scenario has a directory of its own and is executed in a fresh run. -/
structure CollisionFree (names : List String) : Prop where
  own : OwnDirs names
  fresh : ∀ outcome, executed outcome names Tree.fresh = names

/-- The result directories of an accepted suite are collision free exactly when its enabled
names stay apart without the replaced characters and none of them is made of dots. -/
theorem collisionFree_iff {config : Config} (accepted : (validate config).ok = true) :
    CollisionFree (enabledNames config.scenarios) ↔
      (∀ a ∈ enabledNames config.scenarios, ∀ b ∈ enabledNames config.scenarios,
          a ≠ b → Separated a b) ∧
        ∀ a ∈ enabledNames config.scenarios, a ∉ ["", ".", ".."] := by
  rw [← ownDirs_iff]
  refine ⟨CollisionFree.own, fun own => ⟨own, fun outcome => ?_⟩⟩
  have unique : (enabledNames config.scenarios).Nodup :=
    (validate_names accepted).sublist (List.filter_sublist.map _)
  exact executed_all outcome own (fun _ member => member) unique fun _ _ => rfl

/-- A plain loopback scenario. -/
def tcpScenario (name : String) : Scenario where
  name
  sender := some { interface := .tcp, targetAddr := "127.0.0.1:5000" }

def suiteOf (names : List String) : Config where
  suite := { name := "suite", version := "1.0.0" }
  scenarios := names.map tcpScenario

theorem collisionFree_iff_numbered :
    CollisionFree (enabledNames (suiteOf ["tcp-1", "tcp-2"]).scenarios) := by
  have names : enabledNames (suiteOf ["tcp-1", "tcp-2"]).scenarios = ["tcp-1", "tcp-2"] := rfl
  have plain : ¬Blurred '1' ∧ ¬Blurred '2' := by
    unfold Blurred
    decide
  refine (collisionFree_iff (by decide +kernel)).mpr ⟨fun a inA b inB apart => ?_, by decide⟩
  rw [names, List.mem_cons, List.mem_singleton] at inA inB
  rcases inA with rfl | rfl <;> rcases inB with rfl | rfl
  · exact absurd rfl apart
  · exact .inr ⟨4, '1', '2', rfl, rfl, by decide, fun both => plain.1 both.1⟩
  · exact .inr ⟨4, '2', '1', rfl, rfl, by decide, fun both => plain.2 both.1⟩
  · exact absurd rfl apart

/-- An accepted suite with two names for one directory. -/
theorem collisionFree_fails :
    ¬∀ config : Config, (validate config).ok = true →
      CollisionFree (enabledNames config.scenarios) := by
  intro always
  have own := (always (suiteOf ["a b", "a_b"]) (by decide +kernel)).own
  exact own.distinct "a b" (by decide) "a_b" (by decide) (by decide) (by decide)

end Seshat.Report

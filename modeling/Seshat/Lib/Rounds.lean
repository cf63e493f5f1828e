import Mathlib.Logic.Function.Iterate
import Mathlib.Tactic.Common

/-! A `loop { … }` against an environment: every round consumes one turn of the
environment, emits some items and either goes on or breaks. -/

namespace Seshat.Lib.Rounds

variable {σ τ β ν : Type*}

structure Round (σ β : Type*) where
  state : σ
  emitted : List β
  again : Bool

/-- What a loop has emitted after the given turns, and whether it is still running. -/
def rounds (body : σ → τ → Round σ β) (state : σ) : List τ → Round σ β
  | [] => { state, emitted := [], again := true }
  | turn :: rest =>
      let first := body state turn
      if first.again then
        let later := rounds body first.state rest
        { later with emitted := first.emitted ++ later.emitted }
      else first

/-- The rounds that are played: the state each begins in, and its turn. -/
def played (body : σ → τ → Round σ β) (state : σ) : List τ → List (σ × τ)
  | [] => []
  | turn :: rest =>
      (state, turn) ::
        if (body state turn).again then played body (body state turn).state rest else []

section Rules

variable {body : σ → τ → Round σ β} {state : σ} {turn : τ} {rest : List τ}

theorem rounds_again (again : (body state turn).again = true) :
    rounds body state (turn :: rest) =
      { state := (rounds body (body state turn).state rest).state,
        emitted := (body state turn).emitted ++
          (rounds body (body state turn).state rest).emitted,
        again := (rounds body (body state turn).state rest).again } := by
  simp only [rounds, if_pos again]

theorem rounds_break (stops : (body state turn).again = false) :
    rounds body state (turn :: rest) = body state turn := by
  simp only [rounds, stops]
  rfl

/-- What every round keeps, about the state and all that was emitted, holds of a run. -/
theorem rounds_keeps (inv : σ → List β → Prop) {turns : List τ}
    (keeps : ∀ state out, ∀ turn ∈ turns, inv state out →
      inv (body state turn).state (out ++ (body state turn).emitted)) (start : inv state []) :
    inv (rounds body state turns).state (rounds body state turns).emitted := by
  have along (out : List β) (before : inv state out) :
      inv (rounds body state turns).state (out ++ (rounds body state turns).emitted) := by
    clear start
    induction turns generalizing state out with
    | nil => rwa [rounds, List.append_nil]
    | cons turn rest ih =>
      have first := keeps state out turn List.mem_cons_self before
      cases again : (body state turn).again with
      | true =>
        rw [rounds_again again, ← List.append_assoc]
        exact ih (fun s o t member => keeps s o t (List.mem_cons_of_mem _ member)) _ first
      | false =>
        rw [rounds_break again]
        exact first
  exact along [] start

/-- What every round that goes on moves to the next number holds of the played rounds by their
number. -/
theorem played_holds (inv : Nat → σ → Prop) {turns : List τ}
    (moves : ∀ n state turn, inv n state → (body state turn).again = true →
      inv (n + 1) (body state turn).state)
    {n : Nat} (start : inv n state) {k : Nat} {round : σ × τ}
    (at_k : (played body state turns)[k]? = some round) : inv (n + k) round.1 := by
  induction turns generalizing n state k with
  | nil => simp [played] at at_k
  | cons turn rest ih =>
    rw [played] at at_k
    cases k with
    | zero =>
      obtain rfl := Option.some.inj at_k
      exact start
    | succ k =>
      rw [List.getElem?_cons_succ] at at_k
      by_cases again : (body state turn).again = true
      · rw [if_pos again] at at_k
        have later := ih (moves n state turn start again) at_k
        rwa [Nat.add_right_comm] at later
      · rw [if_neg again] at at_k
        cases at_k

/-- A round is played with one of the turns. -/
theorem turn_of_played {turns : List τ} {round : σ × τ} (member : round ∈ played body state turns) :
    round.2 ∈ turns := by
  induction turns generalizing state with
  | nil => simp [played] at member
  | cons turn rest ih =>
    rw [played] at member
    rcases List.mem_cons.mp member with rfl | later
    · exact List.mem_cons_self
    · split at later
      · exact List.mem_cons_of_mem _ (ih later)
      · cases later

/-- Turns that never stop the loop are all played. -/
theorem played_all {turns : List τ} (goes_on : ∀ state, ∀ turn ∈ turns, (body state turn).again = true) :
    (played body state turns).map Prod.snd = turns := by
  induction turns generalizing state with
  | nil => rfl
  | cons turn rest ih =>
    rw [played, if_pos (goes_on state turn List.mem_cons_self), List.map_cons,
      ih fun s t member => goes_on s t (List.mem_cons_of_mem _ member)]

end Rules

/-- Consecutive items carry consecutive numbers. -/
def Numbered (item : ν → β → Prop) (succ : ν → ν) : ν → List β → Prop
  | _, [] => True
  | n, first :: rest => item n first ∧ Numbered item succ (succ n) rest

section Numbered

variable {item : ν → β → Prop} {succ : ν → ν}

theorem Numbered.append {n : ν} {first second : List β} (left : Numbered item succ n first)
    (right : Numbered item succ (succ^[first.length] n) second) :
    Numbered item succ n (first ++ second) := by
  induction first generalizing n with
  | nil => exact right
  | cons head tail ih => exact ⟨left.1, ih left.2 right⟩

theorem Numbered.get {n : ν} {list : List β} (numbered : Numbered item succ n list)
    {i : Nat} {found : β} (at_i : list[i]? = some found) : item (succ^[i] n) found := by
  induction list generalizing n i with
  | nil => simp at at_i
  | cons head tail ih =>
    cases i with
    | zero =>
      rw [List.getElem?_cons_zero, Option.some.injEq] at at_i
      exact at_i ▸ numbered.1
    | succ i => exact ih numbered.2 (by rwa [List.getElem?_cons_succ] at at_i)

theorem Numbered.take {n : ν} {list : List β} (numbered : Numbered item succ n list)
    (count : Nat) : Numbered item succ n (list.take count) := by
  induction list generalizing n count with
  | nil => simp [Numbered]
  | cons head tail ih =>
    cases count with
    | zero => trivial
    | succ count => exact ⟨numbered.1, ih numbered.2 count⟩

/-- A loop that numbers what it emits from a counter, and advances the counter by what it
emitted, emits one consecutive sequence. A breaking round may leave the counter behind. -/
theorem rounds_numbered (body : σ → τ → Round σ β) (count : σ → ν)
    (numbers : ∀ state turn, Numbered item succ (count state) (body state turn).emitted)
    (advances : ∀ state turn, (body state turn).again = true →
      count (body state turn).state = succ^[(body state turn).emitted.length] (count state))
    (state : σ) (turns : List τ) :
    Numbered item succ (count state) (rounds body state turns).emitted := by
  induction turns generalizing state with
  | nil => trivial
  | cons turn rest ih =>
    cases again : (body state turn).again with
    | true =>
      rw [rounds_again again]
      refine (numbers state turn).append ?_
      rw [← advances state turn again]
      exact ih _
    | false =>
      rw [rounds_break again]
      exact numbers state turn

end Numbered

end Seshat.Lib.Rounds

import Seshat.Lib.Machine
import Mathlib.Data.List.Basic

/-! A channel between two parties: first in, first out, until the sending end closes it.
The receiving end learns that it has closed only when nothing is left to receive. -/

namespace Seshat.Lib.ClosingChannel
open Lib.Machine

variable {α : Type*}

structure Channel (α : Type*) where
  queue : List α := []
  closed : Bool := false
  deriving DecidableEq, Repr

inductive Op (α : Type*) where
  | send (item : α)
  | close
  | receive (item : α)
  | ended
  deriving DecidableEq, Repr

def Channel.step [DecidableEq α] (c : Channel α) : Op α → Option (Channel α)
  | .send item => if c.closed then none else some { c with queue := c.queue ++ [item] }
  | .close => some { c with closed := true }
  | .receive item =>
      if c.queue.head? = some item then some { c with queue := c.queue.tail } else none
  | .ended => if c.closed ∧ c.queue = [] then some c else none

/-- What the operations sent, in order. -/
def sends : List (Op α) → List α
  | [] => []
  | .send item :: rest => item :: sends rest
  | _ :: rest => sends rest

/-- What the operations received, in order. -/
def receives : List (Op α) → List α
  | [] => []
  | .receive item :: rest => item :: receives rest
  | _ :: rest => receives rest

@[simp] theorem sends_append (first second : List (Op α)) :
    sends (first ++ second) = sends first ++ sends second := by
  induction first with
  | nil => rfl
  | cons op rest ih => cases op <;> simp [sends, ih]

@[simp] theorem receives_append (first second : List (Op α)) :
    receives (first ++ second) = receives first ++ receives second := by
  induction first with
  | nil => rfl
  | cons op rest ih => cases op <;> simp [receives, ih]

variable [DecidableEq α]

theorem step_fifo {c c' : Channel α} {op : Op α} (moved : c.step op = some c') :
    c.queue ++ sends [op] = receives [op] ++ c'.queue := by
  cases op with
  | send item =>
    simp only [Channel.step, Option.ite_none_left_eq_some, Option.some.injEq] at moved
    rw [← moved.2]
    rfl
  | close =>
    rw [← Option.some.inj moved]
    exact List.append_nil _
  | receive item =>
    simp only [Channel.step, Option.ite_none_right_eq_some, Option.some.injEq] at moved
    obtain ⟨front, rfl⟩ := moved
    obtain ⟨rest, shape⟩ := List.head?_eq_some_iff.mp front
    simp [sends, receives, shape]
  | ended =>
    simp only [Channel.step, Option.ite_none_right_eq_some, Option.some.injEq] at moved
    rw [← moved.2]
    exact List.append_nil _

/-- Nothing is lost, made up or overtaken: what was there and what was sent is what was
received and what is left. -/
theorem run_fifo {c c' : Channel α} {ops : List (Op α)} (ran : run Channel.step c ops = some c') :
    c.queue ++ sends ops = receives ops ++ c'.queue := by
  induction ops generalizing c with
  | nil =>
    rw [← Option.some.inj ran]
    exact List.append_nil _
  | cons op rest ih =>
    obtain ⟨next, moved, later⟩ := run_cons Channel.step ran
    have first := step_fifo moved
    have others := ih later
    rw [← List.singleton_append (x := op), sends_append, receives_append, ← List.append_assoc,
      first, List.append_assoc, others, List.append_assoc]

theorem step_closed {c c' : Channel α} {op : Op α} (closed : c.closed = true)
    (moved : c.step op = some c') : c'.closed = true ∧ sends [op] = [] := by
  cases op with
  | send item => simp [Channel.step, closed] at moved
  | close => exact ⟨Option.some.inj moved ▸ rfl, rfl⟩
  | receive item =>
    simp only [Channel.step, Option.ite_none_right_eq_some, Option.some.injEq] at moved
    exact ⟨moved.2 ▸ closed, rfl⟩
  | ended =>
    simp only [Channel.step, Option.ite_none_right_eq_some, Option.some.injEq] at moved
    exact ⟨moved.2 ▸ closed, rfl⟩

/-- A closed channel takes nothing more. -/
theorem run_closed {c c' : Channel α} {ops : List (Op α)} (closed : c.closed = true)
    (ran : run Channel.step c ops = some c') : c'.closed = true ∧ sends ops = [] := by
  induction ops generalizing c with
  | nil => exact ⟨Option.some.inj ran ▸ closed, rfl⟩
  | cons op rest ih =>
    obtain ⟨next, moved, later⟩ := run_cons Channel.step ran
    obtain ⟨still, nothing⟩ := step_closed closed moved
    obtain ⟨last, none_later⟩ := ih still later
    refine ⟨last, ?_⟩
    rw [← List.singleton_append (x := op), sends_append, nothing, none_later, List.append_nil]

/-- Once the receiving end has learnt that the channel is closed, everything that was or
will be sent has been received, and nothing is left. -/
theorem run_ended {c : Channel α} {ops : List (Op α)} (ran : run Channel.step {} ops = some c)
    (told : .ended ∈ ops) : c.closed = true ∧ c.queue = [] ∧ receives ops = sends ops := by
  obtain ⟨before, after, rfl⟩ := List.append_of_mem told
  rw [run_append, Option.bind_eq_some_iff] at ran
  obtain ⟨middle, first, second⟩ := ran
  obtain ⟨next, moved, later⟩ := run_cons Channel.step second
  simp only [Channel.step, Option.ite_none_right_eq_some, Option.some.injEq] at moved
  obtain ⟨⟨closed, empty⟩, rfl⟩ := moved
  obtain ⟨still, nothing⟩ := run_closed closed later
  have fifo := run_fifo later
  rw [empty, nothing] at fifo
  obtain ⟨received, left⟩ := List.append_eq_nil_iff.mp fifo.symm
  have whole := run_fifo first
  rw [empty, List.append_nil] at whole
  refine ⟨still, left, ?_⟩
  simp only [sends_append, receives_append, sends, receives, nothing, received, ← whole,
    List.nil_append]

end Seshat.Lib.ClosingChannel

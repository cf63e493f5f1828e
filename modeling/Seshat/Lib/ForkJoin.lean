import Seshat.Lib.Machine
import Mathlib.Tactic.Common

/-! An owner and a thread it has forked, over a state they share. They take their steps in any
order, with time passing in between, but for the owner's joins: there it waits for the end of
the thread. -/

namespace Seshat.Lib.ForkJoin
open Lib.Machine

structure System (ω κ σ α β : Type*) where
  own : ω → σ → α → Option (ω × σ)
  fork : κ → σ → β → Option (κ × σ)
  finished : κ → Bool
  joins : ω → Bool
  pass : σ → Nat → σ

inductive Act (α β : Type*) where
  | own (action : α)
  | fork (action : β)
  | pass (time : Nat)
  deriving DecidableEq, Repr

@[ext] structure State (ω κ σ : Type*) where
  owner : ω
  thread : κ
  shared : σ
  deriving DecidableEq, Repr

variable {ω κ σ α β : Type*} (sys : System ω κ σ α β)

def System.step (s : State ω κ σ) : Act α β → Option (State ω κ σ)
  | .own action =>
      if sys.joins s.owner && !sys.finished s.thread then none
      else (sys.own s.owner s.shared action).map fun next => ⟨next.1, s.thread, next.2⟩
  | .fork action =>
      if sys.finished s.thread then none
      else (sys.fork s.thread s.shared action).map fun next => ⟨s.owner, next.1, next.2⟩
  | .pass time => some { s with shared := sys.pass s.shared time }

/-- A step is the owner's, past the join it may stand at, or the thread's, or time passes. -/
inductive Stepped (s : State ω κ σ) : State ω κ σ → Prop
  | own (action : α) (next : ω × σ) (moved : sys.own s.owner s.shared action = some next)
      (joined : sys.joins s.owner = true → sys.finished s.thread = true) :
      Stepped s ⟨next.1, s.thread, next.2⟩
  | fork (action : β) (next : κ × σ) (moved : sys.fork s.thread s.shared action = some next)
      (running : sys.finished s.thread = false) : Stepped s ⟨s.owner, next.1, next.2⟩
  | pass (time : Nat) : Stepped s { s with shared := sys.pass s.shared time }

variable {sys}

theorem step_stepped {s next : State ω κ σ} {act : Act α β} (moved : sys.step s act = some next) :
    Stepped sys s next := by
  cases act with
  | own action =>
    rw [System.step] at moved
    split at moved
    · cases moved
    next free =>
      obtain ⟨after, owned, rfl⟩ := Option.map_eq_some_iff.mp moved
      refine .own action after owned fun waits => ?_
      rw [waits, Bool.true_and, Bool.not_eq_true', Bool.not_eq_false] at free
      exact free
  | fork action =>
    rw [System.step] at moved
    split at moved
    · cases moved
    next running =>
      obtain ⟨after, forked, rfl⟩ := Option.map_eq_some_iff.mp moved
      exact .fork action after forked (Bool.eq_false_iff.mpr running)
  | pass time => exact Option.some.inj moved ▸ .pass time

/-- What only a join leads to. -/
structure Behind (sys : System ω κ σ α β) (behind : ω → Prop) : Prop where
  entered : ∀ owner shared action next, sys.own owner shared action = some next →
    behind next.1 → behind owner ∨ sys.joins owner = true

/-- What every step keeps holds at the end of every run, where behind a join the thread takes
no more steps. -/
theorem run_joined {behind : ω → Prop} (only : Behind sys behind) (inv : State ω κ σ → Prop)
    (own : ∀ s action next, inv s → sys.own s.owner s.shared action = some next →
      (behind next.1 → sys.finished s.thread = true) → inv ⟨next.1, s.thread, next.2⟩)
    (fork : ∀ s action next, inv s → sys.fork s.thread s.shared action = some next →
      ¬behind s.owner → inv ⟨s.owner, next.1, next.2⟩)
    (pass : ∀ s time, inv s → inv { s with shared := sys.pass s.shared time })
    {s last : State ω κ σ} {acts : List (Act α β)} (ran : run sys.step s acts = some last)
    (ahead : ¬behind s.owner) (start : inv s) :
    inv last ∧ (behind last.owner → sys.finished last.thread = true) := by
  let kept (s : State ω κ σ) : Prop := inv s ∧ (behind s.owner → sys.finished s.thread = true)
  have keeps : ∀ s act next, kept s → sys.step s act = some next → kept next := by
    intro s act next holds moved
    cases step_stepped moved with
    | own action after owned joined =>
      have ended (there : behind after.1) : sys.finished s.thread = true :=
        (only.entered _ _ _ _ owned there).elim holds.2 joined
      exact ⟨own s action after holds.1 owned ended, ended⟩
    | fork action after forked running =>
      have early : ¬behind s.owner := fun there => by
        rw [holds.2 there] at running
        cases running
      exact ⟨fork s action after holds.1 forked early, fun there => absurd there early⟩
    | pass time => exact ⟨pass s time holds.1, holds.2⟩
  exact run_invariant sys.step keeps ran ⟨start, fun there => absurd there ahead⟩

end Seshat.Lib.ForkJoin

import Mathlib.Tactic.Common

/-! Steps that may stop with an error and keep the state they had reached: triples for
their sequences and counted loops. -/

namespace Seshat.Lib.Steps

variable {σ ε : Type*}

theorem bind_ok {ε α β : Type} {first : Except ε α} {next : α → Except ε β} {result : β}
    (ran : first >>= next = .ok result) : ∃ value, first = .ok value ∧ next value = .ok result := by
  cases first with
  | error refused => cases ran
  | ok value => exact ⟨value, rfl, ran⟩

abbrev Step (σ ε : Type*) := σ → Except ε Unit × σ

def done : Step σ ε := fun s => (.ok (), s)

def andThen (first second : Step σ ε) : Step σ ε := fun s =>
  match first s with
  | (.ok _, s) => second s
  | (.error e, s) => (.error e, s)

/-- The rounds `i`, `i + 1`, … of a loop, `count` of them. -/
def loop (body : Nat → Step σ ε) (i : Nat) : (count : Nat) → Step σ ε
  | 0 => done
  | count + 1 => andThen (body i) (loop body (i + 1) count)

/-- From `pre` a step ends in `post`, or stops as `stopped` says. -/
def Holds (pre : σ → Prop) (step : Step σ ε) (post : σ → Prop) (stopped : ε → σ → Prop) : Prop :=
  ∀ s, pre s →
    (∃ s', step s = (.ok (), s') ∧ post s') ∨ ∃ e s', step s = (.error e, s') ∧ stopped e s'

variable {pre mid post : σ → Prop} {stopped : ε → σ → Prop}

theorem Holds.done (implied : ∀ s, pre s → post s) : Holds pre Steps.done post stopped :=
  fun s holds => Or.inl ⟨s, rfl, implied s holds⟩

theorem Holds.andThen {first second : Step σ ε} (begins : Holds pre first mid stopped)
    (ends : Holds mid second post stopped) : Holds pre (andThen first second) post stopped := by
  intro s holds
  rcases begins s holds with ⟨s', ran, reached⟩ | ⟨e, s', failed, how⟩
  · rcases ends s' reached with ⟨s'', ran', final⟩ | ⟨e, s'', failed, how⟩
    · exact Or.inl ⟨s'', by simp [Steps.andThen, ran, ran'], final⟩
    · exact Or.inr ⟨e, s'', by simp [Steps.andThen, ran, failed], how⟩
  · exact Or.inr ⟨e, s', by simp [Steps.andThen, failed], how⟩

/-- The loop rule: `inv i` is what holds before round `i`. -/
theorem Holds.loop {body : Nat → Step σ ε} (inv : Nat → σ → Prop) (i count : Nat)
    (each : ∀ k, i ≤ k → k < i + count → Holds (inv k) (body k) (inv (k + 1)) stopped) :
    Holds (inv i) (loop body i count) (inv (i + count)) stopped := by
  induction count generalizing i with
  | zero => exact Holds.done fun _ holds => holds
  | succ count ih =>
    have later : Holds (inv (i + 1)) (Steps.loop body (i + 1) count) (inv (i + 1 + count)) stopped :=
      ih (i + 1) fun k above below => each k (by omega) (by omega)
    rw [Nat.add_assoc, Nat.add_comm 1 count] at later
    exact (each i (Nat.le_refl i) (by omega)).andThen later

/-- The loop rule for all rounds, from the first on. -/
theorem Holds.rounds {body : Nat → Step σ ε} (inv : Nat → σ → Prop) {count : Nat}
    (each : ∀ k < count, Holds (inv k) (body k) (inv (k + 1)) stopped) :
    Holds (inv 0) (Steps.loop body 0 count) (inv count) stopped := by
  have all := Holds.loop inv 0 count fun k _ below => each k (by omega)
  rwa [Nat.zero_add] at all

/-- A step that cannot stop. -/
theorem Holds.total {step : Step σ ε} (never : Holds pre step post fun _ _ => False) {s : σ}
    (holds : pre s) : ∃ s', step s = (.ok (), s') ∧ post s' :=
  (never s holds).resolve_right fun ⟨_, _, _, impossible⟩ => impossible

theorem andThen_error {first : Step σ ε} {s s' : σ} {e : ε} (failed : first s = (.error e, s'))
    (second : Step σ ε) : andThen first second s = (.error e, s') := by
  rw [andThen, failed]

theorem andThen_ok {first : Step σ ε} {s s' : σ} (ran : first s = (.ok (), s'))
    (second : Step σ ε) : andThen first second s = second s' := by
  rw [andThen, ran]

end Seshat.Lib.Steps

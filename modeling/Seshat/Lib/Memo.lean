import Mathlib.Data.List.Basic
import Mathlib.Tactic.Common

/-! A cache in front of probes that may fail, and may answer differently each time. A probe
that succeeds is kept under the key of its request; one that fails is not. -/

namespace Seshat.Lib.Memo

variable {ρ κ α ε : Type*} [DecidableEq κ]

/-- The cache, and the probes made so far with what they answered. -/
structure Store (ρ κ α ε : Type*) where
  cache : List (κ × α) := []
  probes : List (ρ × Except ε α) := []

variable (key : ρ → κ) (answer : Nat → ρ → Except ε α)

/-- A request is served from the cache, or by the next probe. -/
def request (m : Store ρ κ α ε) (r : ρ) : Except ε α × Store ρ κ α ε :=
  match m.cache.lookup (key r) with
  | some a => (.ok a, m)
  | none =>
      let result := answer m.probes.length r
      let probes := m.probes ++ [(r, result)]
      match result with
      | .ok a => (.ok a, { cache := (key r, a) :: m.cache, probes })
      | .error e => (.error e, { m with probes })

/-- The cache holds the successful probes, at most one for each key. -/
structure Sound (m : Store ρ κ α ε) : Prop where
  answered : ∀ i r result, m.probes[i]? = some (r, result) → result = answer i r
  backed : ∀ k a, m.cache.lookup k = some a → ∃ r, key r = k ∧ (r, .ok a) ∈ m.probes
  stored : ∀ r a, (r, .ok a) ∈ m.probes → m.cache.lookup (key r) = some a
  once : m.probes.Pairwise fun p q => ∀ a b, p.2 = .ok a → q.2 = .ok b → key p.1 ≠ key q.1

theorem sound_nil : Sound key answer {} where
  answered := by simp
  backed := by simp
  stored := by simp
  once := List.Pairwise.nil

/-- What a request returns is what some probe with its key has answered, and the probes made
before stay on record. -/
inductive Served (m : Store ρ κ α ε) (r : ρ) : Except ε α × Store ρ κ α ε → Prop
  | hit (other : ρ) (a : α) (same : key other = key r) (known : (other, .ok a) ∈ m.probes) :
      Served m r (.ok a, m)
  | miss (a : α) (m' : Store ρ κ α ε) (probes : m'.probes = m.probes ++ [(r, .ok a)]) :
      Served m r (.ok a, m')
  | fails (e : ε) (m' : Store ρ κ α ε) (probes : m'.probes = m.probes ++ [(r, .error e)]) :
      Served m r (.error e, m')

variable {key answer} {m : Store ρ κ α ε}

theorem Sound.served (sound : Sound key answer m) (r : ρ) :
    Served key m r (request key answer m r) := by
  unfold request
  cases found : m.cache.lookup (key r) with
  | some a =>
    obtain ⟨other, same, known⟩ := sound.backed (key r) a found
    exact .hit other a same known
  | none =>
    simp only
    cases result : answer m.probes.length r with
    | ok a => exact .miss a _ rfl
    | error e => exact .fails e _ rfl

theorem Sound.append (sound : Sound key answer m) (r : ρ) {result : Except ε α}
    (asked : result = answer m.probes.length r) :
    ∀ i other got, (m.probes ++ [(r, result)])[i]? = some (other, got) → got = answer i other := by
  intro i other got found
  rcases Nat.lt_trichotomy i m.probes.length with below | rfl | above
  · rw [List.getElem?_append_left below] at found
    exact sound.answered i other got found
  · rw [List.getElem?_append_right (Nat.le_refl _), Nat.sub_self] at found
    obtain ⟨rfl, rfl⟩ := Prod.mk.inj (Option.some.inj found)
    exact asked
  · rw [List.getElem?_eq_none (by simp only [List.length_append, List.length_singleton]; omega)]
      at found
    cases found

theorem Sound.request (sound : Sound key answer m) (r : ρ) :
    Sound key answer (request key answer m r).2 := by
  unfold Memo.request
  cases found : m.cache.lookup (key r) with
  | some a => exact sound
  | none =>
    simp only
    cases result : answer m.probes.length r with
    | error e =>
      exact {
        answered := sound.append r result.symm
        backed := fun k a cached =>
          (sound.backed k a cached).imp fun _ both => ⟨both.1, List.mem_append_left _ both.2⟩
        stored := fun other a member => sound.stored other a (by simpa using member)
        once := List.pairwise_append.mpr ⟨sound.once, List.pairwise_singleton _ _, by simp⟩ }
    | ok a =>
      have apart (other : ρ) (b : α) (known : (other, .ok b) ∈ m.probes) : key other ≠ key r := by
        intro same
        have cached := sound.stored other b known
        rw [same, found] at cached
        cases cached
      exact {
        answered := sound.append r result.symm
        backed := by
          intro k b cached
          rw [List.lookup_cons] at cached
          split at cached
          · rename_i same
            obtain rfl := Option.some.inj cached
            exact ⟨r, (eq_of_beq same).symm, List.mem_append_right _ (List.mem_singleton_self _)⟩
          · exact (sound.backed k b cached).imp fun _ both =>
              ⟨both.1, List.mem_append_left _ both.2⟩
        stored := by
          intro other b member
          rw [List.lookup_cons]
          rcases List.mem_append.mp member with old | now
          · rw [beq_false_of_ne (apart other b old)]
            exact sound.stored other b old
          · obtain ⟨rfl, same⟩ := Prod.mk.inj (List.mem_singleton.mp now)
            rw [beq_self_eq_true, Except.ok.inj same]
        once := by
          refine List.pairwise_append.mpr ⟨sound.once, List.pairwise_singleton _ _, ?_⟩
          rintro ⟨other, got⟩ member _ now b c rfl -
          exact List.mem_singleton.mp now ▸ apart other b member }

end Seshat.Lib.Memo

import Mathlib.Data.List.Nodup
import Mathlib.Tactic.Common

/-! Connections over hops that each listen on one address and connect on to another, where what
is sent to an address may be redirected. -/

namespace Seshat.Lib.Hops

variable {α ρ : Type*} (redirect : α → α) (listens upstream : ρ → α) (hops : List ρ)

/-- The hops a connection to an address passes, and the address it ends at, on which none of
them listens. -/
inductive Leads : α → List ρ → α → Prop
  | ends (address : α) (silent : ∀ hop ∈ hops, listens hop ≠ redirect address) :
      Leads address [] (redirect address)
  | next {address last : α} {later : List ρ} (hop : ρ) (listed : hop ∈ hops)
      (found : listens hop = redirect address) (behind : Leads (upstream hop) later last) :
      Leads address (hop :: later) last

variable {redirect listens upstream hops}

/-- Where no two hops listen on one address, there is one way a connection can take. -/
theorem Leads.unique (distinct : (hops.map listens).Nodup) {address last last' : α}
    {row row' : List ρ} (one : Leads redirect listens upstream hops address row last)
    (other : Leads redirect listens upstream hops address row' last') :
    row' = row ∧ last' = last := by
  induction one generalizing row' with
  | ends address silent =>
    cases other with
    | ends => exact ⟨rfl, rfl⟩
    | next hop listed found => exact absurd found (silent hop listed)
  | next hop listed found behind ih =>
    cases other with
    | ends _ silent => exact absurd found (silent hop listed)
    | next hop' listed' found' behind' =>
      obtain rfl := List.inj_on_of_nodup_map distinct listed' listed (found'.trans found.symm)
      obtain ⟨rfl, rfl⟩ := ih behind'
      exact ⟨rfl, rfl⟩

end Seshat.Lib.Hops

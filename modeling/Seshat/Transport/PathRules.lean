import Seshat.Lib.Steps
import Seshat.Transport.LocalRules
import Seshat.Transport.Tproxy
import Mathlib.Tactic.Common

/-! The rules each transport starts its gateways with, and the ports it reserves for them. -/

namespace Seshat.Transport
open Config Gateway
open Commands (GatewayTopology)
open Lib.Objects
open Lib.Steps (bind_ok)

section Starts
variable (host : Host) (spec : SecuritySpec) (topology : GatewayTopology) (uid : UInt32)

end Starts

/-! Which reservations a start takes. -/

/-- A start fails exactly when one of its reservations does, and takes no other ports. -/
def Takes {α : Type} (host : Host) (requests : List AddressFamily)
    (start : Ports → Except String (α × Ports)) : Prop :=
  ∀ ports,
    (∃ reason refused, start ports = .error reason ∧
        reservations host requests ports = .error refused) ∨
      ∃ result reserved last, start ports = .ok (result, last) ∧
        reservations host requests ports = .ok (reserved, last)

section Taking
variable {host : Host} {α β : Type} {requests later : List AddressFamily}

theorem Takes.of_eq {start other : Ports → Except String (α × Ports)}
    (takes : Takes host requests start) (same : ∀ ports, other ports = start ports) :
    Takes host requests other := by
  rw [funext same]
  exact takes

theorem Takes.none (host : Host) (result : α) : Takes host [] fun ports => .ok (result, ports) :=
  fun ports => .inr ⟨result, [], ports, rfl, rfl⟩

theorem Takes.one (host : Host) (family : AddressFamily) :
    Takes host [family] (reserveLocalPortFor host family) := by
  intro ports
  rw [reservations]
  cases taken : reserveLocalPortFor host family ports with
  | error reason => exact .inl ⟨reason, reason, rfl, rfl⟩
  | ok result => exact .inr ⟨result.1, [result.1], result.2, rfl, rfl⟩

/-- The reservations of two starts in a row are taken one after the other. -/
theorem Takes.bind {first : Ports → Except String (α × Ports)}
    {next : α → Ports → Except String (β × Ports)} (begins : Takes host requests first)
    (ends : ∀ result, (∃ ports last, first ports = .ok (result, last)) →
      Takes host later (next result)) :
    Takes host (requests ++ later) fun ports => first ports >>= fun found => next found.1 found.2 := by
  intro ports
  dsimp only
  rw [reservations_append]
  rcases begins ports with ⟨reason, refused, failed, short⟩ | ⟨result, front, between, ran, reserved⟩
  · exact .inl ⟨reason, refused, by rw [failed]; rfl, by rw [short]⟩
  · rw [ran, reserved]
    rcases ends result ⟨ports, between, ran⟩ between with ⟨reason, refused, failed, short⟩ | ⟨value, back, last, ended, got⟩
    · exact .inl ⟨reason, refused, failed, by dsimp only; rw [short]⟩
    · exact .inr ⟨value, front ++ back, last, ended, by dsimp only; rw [got]⟩

end Taking

/-! The parameters of a custom provider in the rules a transport starts with. -/

/-- The rules of a path hand the parameters on, each with the settings of its direction and with
some of the further fields, of which one rule has all. -/
structure PassAll (spec : SecuritySpec) (encrypts decrypts : List (String × Json))
    (more : List String) (rules : List RuleConfig) : Prop where
  each : ∀ rule ∈ rules, ∃ settings keys, (settings = encrypts ∨ settings = decrypts) ∧
    keys ⊆ more ∧ PassesOn spec settings keys rule
  encrypt : ∃ rule ∈ rules, rule.direction = "encrypt" ∧ ∃ keys, PassesOn spec encrypts keys rule
  decrypt : ∃ rule ∈ rules, rule.direction = "decrypt" ∧ ∃ keys, PassesOn spec decrypts keys rule
  full : ∃ rule ∈ rules, ∃ settings, PassesOn spec settings more rule

section Passing
variable {host : Host} {spec : SecuritySpec} {topology : GatewayTopology} {uid : UInt32}
  {connections : UInt64} {ports last : Ports}

theorem PassAll.carries_iff {encrypts decrypts : List (String × Json)} {more : List String}
    {rules : List RuleConfig} (all : PassAll spec encrypts decrypts more rules) {key : String}
    {value : Json} (mapped : spec.extraParams[key]? = some value) :
    (∀ rule ∈ rules, Carries rule.serialize key value) ↔
      (key ∉ spec.ruleKeys ∧ key ∉ more) ∧ (∀ other, (key, other) ∈ encrypts → other = value) ∧
        ∀ other, (key, other) ∈ decrypts → other = value := by
  constructor
  · intro carried
    obtain ⟨encrypt, encryptIn, -, _, encrypting⟩ := all.encrypt
    obtain ⟨decrypt, decryptIn, -, _, decrypting⟩ := all.decrypt
    obtain ⟨rule, ruleIn, _, full⟩ := all.full
    exact ⟨((full.carries_iff mapped).mp (carried rule ruleIn)).1,
      ((encrypting.carries_iff mapped).mp (carried encrypt encryptIn)).2,
      ((decrypting.carries_iff mapped).mp (carried decrypt decryptIn)).2⟩
  · rintro ⟨⟨own, further⟩, encrypts, decrypts⟩ rule member
    obtain ⟨settings, keys, side, some, passes⟩ := all.each rule member
    refine (passes.carries_iff mapped).mpr ⟨⟨own, fun found => further (some found)⟩, ?_⟩
    rcases side with rfl | rfl
    · exact encrypts
    · exact decrypts

/-- An encrypt and a decrypt rule with the same fields. -/
theorem PassAll.pair {encrypts decrypts : List (String × Json)} {more : List String}
    {encrypt decrypt : RuleConfig} (encrypting : PassesOn spec encrypts more encrypt)
    (decrypting : PassesOn spec decrypts more decrypt) (out : encrypt.direction = "encrypt")
    (back : decrypt.direction = "decrypt") :
    PassAll spec encrypts decrypts more [encrypt, decrypt] where
  each rule member := by
    rcases List.mem_pair.mp member with rfl | rfl
    · exact ⟨_, more, .inl rfl, List.Subset.refl _, encrypting⟩
    · exact ⟨_, more, .inr rfl, List.Subset.refl _, decrypting⟩
  encrypt := ⟨encrypt, List.mem_cons_self, out, more, encrypting⟩
  decrypt := ⟨decrypt, List.mem_cons_of_mem _ List.mem_cons_self, back, more, decrypting⟩
  full := ⟨encrypt, List.mem_cons_self, _, encrypting⟩

section Locals
variable (interface : LocalTransport) (appId : String)

end Locals

end Passing

end Seshat.Transport

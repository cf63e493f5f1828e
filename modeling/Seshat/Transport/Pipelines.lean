import Seshat.Lib.Steps
import Mathlib.Tactic.Common

/-! The gateway pipelines of the local transports (UDS and SHM): a fixed number is
provisioned before the first run, and every connection takes the next one. -/

namespace Seshat.Transport
open Lib.Steps

inductive LocalTransport where
  | uds
  | shm
  deriving DecidableEq, Repr

def LocalTransport.label : LocalTransport → String
  | .uds => "UDS"
  | .shm => "SHM"

/-- The counter is shared by all runs and never goes back. -/
structure Pipelines where
  transport : LocalTransport
  appId : String
  connections : Nat
  nextConn : Nat := 0
  deriving DecidableEq, Repr

/-- The pipelines of a transport that has started. -/
def Pipelines.start (transport : LocalTransport) (appId : String) (connections : Nat) :
    Pipelines :=
  { transport, appId, connections := max connections 1 }

inductive PairError where
  | exhausted (text : String)
  | endpoint
  | unsupported
  deriving DecidableEq, Repr

def connAppId (base : String) (index : Nat) : String :=
  let suffix := s!"-c{index}"
  let room := 40 - suffix.length
  String.ofList (base.toList.take room) ++ suffix

def nextConnAppId (p : Pipelines) : Except PairError String × Pipelines :=
  let i := p.nextConn
  let p' := { p with nextConn := i + 1 }
  if i ≥ p.connections then
    (.error (.exhausted
      s!"{p.transport.label}: connection {i} requested but only {p.connections} pipeline(s) provisioned"),
      p')
  else (.ok (connAppId p.appId i), p')

/-- `loopback_pair` and `pingpong_pair`: `up` says for which ids the gateway brings up both
endpoints. -/
def openPair (up : String → Bool) : Step Pipelines PairError := fun p =>
  match nextConnAppId p with
  | (.ok appId, p) => (if up appId then .ok () else .error .endpoint, p)
  | (.error e, p) => (.error e, p)

/-- `taken` of the `total` pipelines are taken. -/
def Taken (total taken : Nat) (p : Pipelines) : Prop :=
  p.connections = total ∧ p.nextConn = taken

/-- A step stopped for want of an endpoint, not of a pipeline. -/
def WithinBudget (total : Nat) (e : PairError) (p : Pipelines) : Prop :=
  p.connections = total ∧ p.nextConn ≤ total ∧ ∀ text, e ≠ .exhausted text

theorem start_taken (transport : LocalTransport) (appId : String) (connections : Nat) :
    Taken (max connections 1) 0 (Pipelines.start transport appId connections) := ⟨rfl, rfl⟩

theorem openPair_within {total taken : Nat} (up : String → Bool) (free : taken < total) :
    Holds (Taken total taken) (openPair up) (Taken total (taken + 1)) (WithinBudget total) := by
  rintro p ⟨connections, nextConn⟩
  have available : ¬p.nextConn ≥ p.connections := by omega
  simp only [openPair, nextConnAppId, if_neg available]
  split
  · exact Or.inl ⟨_, rfl, connections, congrArg (· + 1) nextConn⟩
  · refine Or.inr ⟨_, _, rfl, connections, ?_, by simp⟩
    change p.nextConn + 1 ≤ total
    omega

/-- Where every endpoint comes up a free pipeline is always opened. -/
theorem openPair_total {total taken : Nat} (free : taken < total) :
    Holds (Taken total taken) (openPair fun _ => true) (Taken total (taken + 1))
      fun _ _ => False := by
  rintro p ⟨connections, nextConn⟩
  have available : ¬p.nextConn ≥ p.connections := by omega
  simp only [openPair, nextConnAppId, if_neg available, if_true]
  exact Or.inl ⟨_, rfl, connections, congrArg (· + 1) nextConn⟩

theorem openPair_exhausted {total : Nat} (up : String → Bool) {p : Pipelines}
    (all : Taken total total p) :
    ∃ text p', openPair up p = (.error (.exhausted text), p') ∧ Taken total (total + 1) p' := by
  obtain ⟨connections, nextConn⟩ := all
  have none_left : p.nextConn ≥ p.connections := by omega
  simp only [openPair, nextConnAppId, if_pos none_left]
  exact ⟨_, _, rfl, connections, congrArg (· + 1) nextConn⟩

end Seshat.Transport

import Seshat.Lib.Machine
import Mathlib.Logic.Function.Basic
import Mathlib.Tactic.Common

/-! How the gateway transports match the two ends of a connection: a sender connects to the
ingress of its class, and the next live connection on the backend of that class is taken
for its receiver. The gateway forwards connections when it likes; its readiness probes, and
senders of calls that have failed, may leave connections behind. -/

namespace Seshat.Transport
open Lib.Machine

/-- What a connection on a backend was forwarded for. -/
inductive Origin where
  | probe
  | client (id : Nat)
  deriving DecidableEq, Repr

/-- What a peek finds: end of stream, an open connection, or an error. -/
inductive Look where
  | closed
  | live
  | fails
  deriving DecidableEq, Repr

/-- The drains of the backends, then one call after the other. -/
inductive Phase where
  | draining (entry : Nat)
  | idle
  | accepting (entry id : Nat)
  deriving DecidableEq, Repr

/-- `clients` are the entries the senders have connected to, `forwarded` the senders whose
connection has reached the backend, `backlog` what waits there. `failed` are the senders
whose call returned an error, `pairs` those that got a receiver. -/
structure Pairing where
  classes : List String
  phase : Phase := .draining 0
  clients : List Nat := []
  forwarded : List Nat := []
  backlog : Nat → List Origin := fun _ => []
  dropped : List Origin := []
  failed : List Nat := []
  pairs : List (Nat × Origin) := []

namespace Pairing

/-- What the gateway does, and how the harness goes on. -/
inductive Act where
  | forward (id : Nat)
  | probe (entry : Nat)
  | drain (late : Bool)
  | call (trafficClass : String) (connects : Bool)
  | accept (look : Look)
  | giveUp
  deriving DecidableEq, Repr

def arrives (s : Pairing) (entry : Nat) (origin : Origin) : Pairing :=
  { s with backlog := Function.update s.backlog entry (s.backlog entry ++ [origin]) }

def leaves (s : Pairing) (entry : Nat) (rest : List Origin) : Pairing :=
  { s with backlog := Function.update s.backlog entry rest }

/-- The gateway forwards a sender's connection to the backend of its entry, once. -/
def forward (s : Pairing) (id : Nat) : Option Pairing :=
  if id ∈ s.forwarded then none
  else
    s.clients[id]?.map fun entry =>
      { s with forwarded := id :: s.forwarded }.arrives entry (.client id)

/-- A turn of `drain_readiness_probes`; `late` says that its deadline has passed. -/
def drain (s : Pairing) (late : Bool) : Option Pairing :=
  match s.phase with
  | .draining entry =>
      match s.backlog entry with
      | origin :: rest => some ({ s with dropped := s.dropped ++ [origin] }.leaves entry rest)
      | [] =>
          if late then
            some { s with
              phase := if entry + 1 < s.classes.length then .draining (entry + 1) else .idle }
          else some s
  | _ => none

/-- `pair_for_class` up to its connect; a class with no entry, or a connect that fails, is
reported and leaves nothing. -/
def call (s : Pairing) (trafficClass : String) (connects : Bool) : Option Pairing :=
  match s.phase, s.classes.idxOf? trafficClass with
  | .idle, some entry =>
      if connects then
        some { s with
          clients := s.clients ++ [entry], phase := .accepting entry s.clients.length }
      else some s
  | .idle, none => some s
  | _, _ => none

/-- A turn of `accept_forwarded_on` before its deadline. -/
def accept (s : Pairing) (look : Look) : Option Pairing :=
  match s.phase with
  | .accepting entry id =>
      match s.backlog entry with
      | [] => some s
      | origin :: rest =>
          let s := s.leaves entry rest
          match look with
          | .closed => some s
          | .live => some { s with phase := .idle, pairs := s.pairs ++ [(id, origin)] }
          | .fails => some { s with phase := .idle, failed := s.failed ++ [id] }
  | _ => none

/-- The deadline has passed, or `accept` has failed. -/
def giveUp (s : Pairing) : Option Pairing :=
  match s.phase with
  | .accepting _ id => some { s with phase := .idle, failed := s.failed ++ [id] }
  | _ => none

def step (s : Pairing) : Act → Option Pairing
  | .forward id => s.forward id
  | .probe entry => some (s.arrives entry .probe)
  | .drain late => s.drain late
  | .call trafficClass connects => s.call trafficClass connects
  | .accept look => s.accept look
  | .giveUp => s.giveUp

/-- The transport has bound its backends. -/
def start (classes : List String) : Pairing := { classes }

/-- Left behind by the start, or by a call that failed. -/
def Leftover (s : Pairing) (origin : Origin) : Prop :=
  origin = .probe ∨ ∃ id ∈ s.failed, origin = .client id

/-- Every receiver belongs to its sender. -/
def Matched (s : Pairing) : Prop := ∀ pair ∈ s.pairs, pair.2 = .client pair.1

/-- A sender's connection is in one place at most, and every call but the one under way has
failed or has a receiver, not both. -/
structure Inv (s : Pairing) : Prop where
  waiting : ∀ entry id, .client id ∈ s.backlog entry →
    id ∈ s.forwarded ∧ s.clients[id]? = some entry ∧ ∀ pair ∈ s.pairs, pair.2 ≠ .client id
  once : ∀ entry id, (s.backlog entry).count (.client id) ≤ 1
  taken : ∀ pair ∈ s.pairs, ∀ id, pair.2 = .client id → id ∈ s.forwarded
  known : (∀ id ∈ s.failed, id < s.clients.length) ∧ ∀ pair ∈ s.pairs, pair.1 < s.clients.length
  ended : ∀ id < s.clients.length,
    (∃ entry, s.phase = .accepting entry id) ∨ id ∈ s.failed ∨ ∃ pair ∈ s.pairs, pair.1 = id
  either : ∀ pair ∈ s.pairs, pair.1 ∉ s.failed
  current : ∀ entry id, s.phase = .accepting entry id →
    id < s.clients.length ∧ id ∉ s.failed ∧ ∀ pair ∈ s.pairs, pair.1 ≠ id
  first : ∀ entry, s.phase = .draining entry → s.clients = []
  dropped : ∀ origin ∈ s.dropped, origin = .probe
  matched : (∀ pair ∈ s.pairs, ¬s.Leftover pair.2) → s.Matched

theorem inv_start (classes : List String) : Inv (start classes) where
  waiting := by simp [start]
  once := by simp [start]
  taken := by simp [start]
  known := by simp [start]
  ended := by simp [start]
  either := by simp [start]
  current := by simp [start]
  first := by simp [start]
  dropped := by simp [start]
  matched := by simp [start, Matched]

@[simp] theorem backlog_arrives (s : Pairing) (entry other : Nat) (origin : Origin) :
    (s.arrives entry origin).backlog other =
      if other = entry then s.backlog entry ++ [origin] else s.backlog other := by
  by_cases same : other = entry
  · subst same
    simp [arrives]
  · simp [arrives, same]

@[simp] theorem backlog_leaves (s : Pairing) (entry other : Nat) (rest : List Origin) :
    (s.leaves entry rest).backlog other = if other = entry then rest else s.backlog other := by
  by_cases same : other = entry
  · subst same
    simp [leaves]
  · simp [leaves, same]

theorem Inv.forward {s s' : Pairing} {id : Nat} (inv : Inv s) (moved : s.forward id = some s') :
    Inv s' := by
  simp only [Pairing.forward, Option.ite_none_left_eq_some, Option.map_eq_some_iff] at moved
  obtain ⟨new, entry, through, rfl⟩ := moved
  have absent (other : Nat) : .client id ∉ s.backlog other :=
    fun there => new (inv.waiting other id there).1
  exact {
    waiting := by
      intro other j there
      have old (before : .client j ∈ s.backlog other) := inv.waiting other j before
      rw [backlog_arrives] at there
      split at there
      · rename_i same
        rcases List.mem_append.mp there with before | now
        · obtain ⟨counted, home, apart⟩ := old (same ▸ before)
          exact ⟨List.mem_cons_of_mem _ counted, home, apart⟩
        · obtain rfl : j = id := by simpa using now
          exact ⟨List.mem_cons_self, same ▸ through,
            fun pair member same => new (inv.taken pair member j same)⟩
      · obtain ⟨counted, home, apart⟩ := old there
        exact ⟨List.mem_cons_of_mem _ counted, home, apart⟩
    once := by
      intro other j
      rw [backlog_arrives]
      split
      · rw [List.count_append]
        by_cases same : j = id
        · rw [same, List.count_eq_zero_of_not_mem (absent entry)]
          simp
        · have before := inv.once entry j
          simpa [Ne.symm same] using before
      · exact inv.once other j
    taken := fun pair member j same => List.mem_cons_of_mem _ (inv.taken pair member j same)
    known := inv.known
    ended := inv.ended
    either := inv.either
    current := inv.current
    first := fun other draining => inv.first other draining
    dropped := inv.dropped
    matched := inv.matched }

theorem Inv.probe {s : Pairing} (inv : Inv s) (entry : Nat) : Inv (s.arrives entry .probe) where
  waiting := by
    intro other id there
    rw [backlog_arrives] at there
    have before : .client id ∈ s.backlog other := by split at there <;> simp_all
    exact inv.waiting other id before
  once := by
    intro other id
    rw [backlog_arrives]
    split
    · rename_i same
      rw [List.count_append, ← same]
      simpa using inv.once other id
    · exact inv.once other id
  taken := inv.taken
  known := inv.known
  ended := inv.ended
  either := inv.either
  current := inv.current
  first := inv.first
  dropped := inv.dropped
  matched := inv.matched

/-- The front of a backlog leaves it. -/
theorem Inv.leaves {s : Pairing} (inv : Inv s) {entry : Nat} {origin : Origin}
    {rest : List Origin} (front : s.backlog entry = origin :: rest) : Inv (s.leaves entry rest) where
  waiting := by
    intro other id there
    rw [backlog_leaves] at there
    refine inv.waiting other id ?_
    split at there
    · rename_i same
      rw [same, front]
      exact List.mem_cons_of_mem _ there
    · exact there
  once := by
    intro other id
    rw [backlog_leaves]
    split
    · rename_i same
      have before := inv.once entry id
      rw [front, List.count_cons] at before
      omega
    · exact inv.once other id
  taken := inv.taken
  known := inv.known
  ended := inv.ended
  either := inv.either
  current := inv.current
  first := inv.first
  dropped := inv.dropped
  matched := inv.matched

theorem Inv.drain {s s' : Pairing} {late : Bool} (inv : Inv s)
    (moved : s.drain late = some s') : Inv s' := by
  unfold Pairing.drain at moved
  split at moved
  · rename_i entry draining
    have nobody := inv.first entry draining
    split at moved
    · rename_i origin rest front
      rw [← Option.some.inj moved]
      refine { inv.leaves front with dropped := fun other member => ?_ }
      rcases List.mem_append.mp member with old | now
      · exact inv.dropped other old
      · rw [List.mem_singleton.mp now]
        cases origin with
        | probe => rfl
        | client id =>
          have home := (inv.waiting entry id (front ▸ List.mem_cons_self)).2.1
          simp [nobody] at home
    · split at moved
      · rw [← Option.some.inj moved]
        exact { inv with
          ended := by simp [nobody]
          current := by
            intro other id accepting
            split at accepting <;> simp at accepting
          first := fun _ _ => nobody }
      · exact Option.some.inj moved ▸ inv
  · exact absurd moved (by simp)

theorem Inv.call {s s' : Pairing} {trafficClass : String} {connects : Bool} (inv : Inv s)
    (moved : s.call trafficClass connects = some s') : Inv s' := by
  unfold Pairing.call at moved
  split at moved
  · rename_i entry at_idle _
    split at moved
    · rw [← Option.some.inj moved]
      exact {
        waiting := by
          intro other id there
          obtain ⟨counted, home, apart⟩ := inv.waiting other id there
          obtain ⟨inside, -⟩ := List.getElem?_eq_some_iff.mp home
          exact ⟨counted, by rwa [List.getElem?_append_left inside], apart⟩
        once := inv.once
        taken := inv.taken
        known := by
          simp only [List.length_append, List.length_singleton]
          exact ⟨fun id member => Nat.lt_succ_of_lt (inv.known.1 id member),
            fun pair member => Nat.lt_succ_of_lt (inv.known.2 pair member)⟩
        ended := by
          intro id below
          rw [List.length_append, List.length_singleton, Nat.lt_succ_iff_lt_or_eq] at below
          rcases below with old | rfl
          · rcases inv.ended id old with ⟨other, accepting⟩ | done
            · simp [at_idle] at accepting
            · exact Or.inr done
          · exact Or.inl ⟨entry, rfl⟩
        either := inv.either
        current := by
          rintro other id accepting
          simp only [Phase.accepting.injEq] at accepting
          obtain ⟨rfl, rfl⟩ := accepting
          refine ⟨by simp, fun failed => ?_, fun pair member same => ?_⟩
          · exact absurd (inv.known.1 _ failed) (Nat.lt_irrefl _)
          · exact absurd (same ▸ inv.known.2 pair member) (Nat.lt_irrefl _)
        first := by simp
        dropped := inv.dropped
        matched := inv.matched }
    · exact Option.some.inj moved ▸ inv
  · exact Option.some.inj moved ▸ inv
  · exact absurd moved (by simp)

/-- The call under way returns an error. -/
theorem Inv.fail {s : Pairing} (inv : Inv s) {entry id : Nat}
    (accepting : s.phase = .accepting entry id) :
    Inv { s with phase := .idle, failed := s.failed ++ [id] } := by
  obtain ⟨inside, open_call, unpaired⟩ := inv.current entry id accepting
  exact {
    waiting := inv.waiting
    once := inv.once
    taken := inv.taken
    known := by
      refine ⟨fun other member => ?_, inv.known.2⟩
      rcases List.mem_append.mp member with old | now
      · exact inv.known.1 other old
      · exact List.mem_singleton.mp now ▸ inside
    ended := by
      intro other below
      rcases inv.ended other below with ⟨place, current⟩ | failed | paired
      · rw [accepting, Phase.accepting.injEq] at current
        exact Or.inr (Or.inl (by simp [current.2]))
      · exact Or.inr (Or.inl (List.mem_append_left _ failed))
      · exact Or.inr (Or.inr paired)
    either := by
      intro pair member failed
      rcases List.mem_append.mp failed with old | now
      · exact inv.either pair member old
      · exact unpaired pair member (List.mem_singleton.mp now)
    current := by simp
    first := by simp
    dropped := inv.dropped
    matched := by
      intro clean
      refine inv.matched fun pair member leftover => clean pair member ?_
      refine leftover.imp_right ?_
      rintro ⟨other, failed, same⟩
      exact ⟨other, List.mem_append_left _ failed, same⟩ }

/-- The connection at the front of a backlog is nowhere else in it. -/
theorem Inv.front_once {s : Pairing} (inv : Inv s) {entry id : Nat} {rest : List Origin}
    (front : s.backlog entry = .client id :: rest) (other : Nat) :
    .client id ∉ (s.leaves entry rest).backlog other := by
  have home := (inv.waiting entry id (front ▸ List.mem_cons_self)).2.1
  rw [backlog_leaves]
  split
  · intro again
    have twice := inv.once entry id
    rw [front, List.count_cons_self] at twice
    have some_left := List.count_pos_iff.mpr again
    omega
  · rename_i elsewhere
    intro there
    have home' := (inv.waiting other id there).2.1
    rw [home, Option.some.injEq] at home'
    exact elsewhere home'.symm

/-- The call under way takes the connection at the front for its receiver. -/
theorem Inv.pair {s : Pairing} (inv : Inv s) {entry id : Nat} {origin : Origin}
    {rest : List Origin} (accepting : s.phase = .accepting entry id)
    (front : s.backlog entry = origin :: rest) :
    Inv { s.leaves entry rest with phase := .idle, pairs := s.pairs ++ [(id, origin)] } := by
  obtain ⟨inside, open_call, unpaired⟩ := inv.current entry id accepting
  have left := inv.leaves front
  have arrived (j : Nat) (same : origin = .client j) :
      j ∈ s.forwarded ∧ s.clients[j]? = some entry ∧ ∀ pair ∈ s.pairs, pair.2 ≠ .client j :=
    inv.waiting entry j (by rw [front, same]; exact List.mem_cons_self)
  exact {
    waiting := by
      intro other j there
      obtain ⟨counted, home, apart⟩ := left.waiting other j there
      refine ⟨counted, home, fun pair member => ?_⟩
      rcases List.mem_append.mp member with old | now
      · exact apart pair old
      · rw [List.mem_singleton.mp now]
        rintro rfl
        exact inv.front_once front other there
    once := left.once
    taken := by
      intro pair member j same
      rcases List.mem_append.mp member with old | now
      · exact inv.taken pair old j same
      · rw [List.mem_singleton.mp now] at same
        exact (arrived j same).1
    known := by
      refine ⟨inv.known.1, fun pair member => ?_⟩
      rcases List.mem_append.mp member with old | now
      · exact inv.known.2 pair old
      · rw [List.mem_singleton.mp now]
        exact inside
    ended := by
      intro other below
      rcases inv.ended other below with ⟨place, current⟩ | failed | ⟨pair, member, same⟩
      · rw [accepting, Phase.accepting.injEq] at current
        exact Or.inr (Or.inr ⟨(id, origin), by simp, current.2⟩)
      · exact Or.inr (Or.inl failed)
      · exact Or.inr (Or.inr ⟨pair, List.mem_append_left _ member, same⟩)
    either := by
      intro pair member
      rcases List.mem_append.mp member with old | now
      · exact inv.either pair old
      · rw [List.mem_singleton.mp now]
        exact open_call
    current := by simp
    first := by simp
    dropped := inv.dropped
    matched := by
      intro clean pair member
      have before : s.Matched :=
        inv.matched fun other old => clean other (List.mem_append_left _ old)
      rcases List.mem_append.mp member with old | now
      · exact before pair old
      · rw [List.mem_singleton.mp now]
        have known : ¬s.Leftover origin := clean (id, origin) (by simp)
        cases origin with
        | probe => exact absurd (Or.inl rfl) known
        | client j =>
          obtain ⟨-, home, apart⟩ := arrived j rfl
          obtain ⟨below, -⟩ := List.getElem?_eq_some_iff.mp home
          -- every earlier sender has failed, or got its own connection already
          rcases inv.ended j below with ⟨place, current⟩ | failed | ⟨other, old, same⟩
          · rw [accepting, Phase.accepting.injEq] at current
            exact congrArg Origin.client current.2.symm
          · exact absurd (Or.inr ⟨j, failed, rfl⟩) known
          · exact absurd (same ▸ before other old) (apart other old) }

theorem Inv.accept {s s' : Pairing} {look : Look} (inv : Inv s)
    (moved : s.accept look = some s') : Inv s' := by
  unfold Pairing.accept at moved
  split at moved
  · rename_i entry id accepting
    split at moved
    · exact Option.some.inj moved ▸ inv
    · rename_i origin rest front
      cases look with
      | closed => exact Option.some.inj moved ▸ inv.leaves front
      | live => exact Option.some.inj moved ▸ inv.pair accepting front
      | fails => exact Option.some.inj moved ▸ (inv.leaves front).fail accepting
  · exact absurd moved (by simp)

theorem Inv.giveUp {s s' : Pairing} (inv : Inv s) (moved : s.giveUp = some s') : Inv s' := by
  unfold Pairing.giveUp at moved
  split at moved
  · rename_i entry id accepting
    exact Option.some.inj moved ▸ inv.fail accepting
  · exact absurd moved (by simp)

theorem Inv.step (s : Pairing) (act : Act) (s' : Pairing) (inv : Inv s)
    (moved : s.step act = some s') : Inv s' := by
  cases act with
  | forward id => exact inv.forward moved
  | probe entry => exact Option.some.inj moved ▸ inv.probe entry
  | drain late => exact inv.drain moved
  | call trafficClass connects => exact inv.call moved
  | accept look => exact inv.accept moved
  | giveUp => exact inv.giveUp moved

theorem run_inv {classes : List String} {acts : List Act} {s : Pairing}
    (ran : run step (start classes) acts = some s) : Inv s :=
  run_invariant _ Inv.step ran (inv_start classes)

/-- Whenever the gateway forwards what, and whatever the peeks find: the drains of the start
drop no sender's connection, and every receiver belongs to its sender unless a connection
left behind has been taken for a live one. -/
theorem run_matched_iff {classes : List String} {acts : List Act} {s : Pairing}
    (ran : run step (start classes) acts = some s) :
    (∀ origin ∈ s.dropped, origin = .probe) ∧
      (s.Matched ↔ ∀ pair ∈ s.pairs, ¬s.Leftover pair.2) := by
  have inv := run_inv ran
  refine ⟨inv.dropped, fun matched pair member leftover => ?_, inv.matched⟩
  rw [Leftover, matched pair member] at leftover
  rcases leftover with probe | ⟨id, failed, same⟩
  · exact absurd probe (by simp)
  · rw [Origin.client.injEq] at same
    exact inv.either pair member (same ▸ failed)

/-- A probe is drained and another found closed, while two senders get their receivers. -/
def twoCalls : List Act :=
  [.probe 0, .drain false, .drain true, .drain true, .call "normal" true, .probe 1,
    .accept .closed, .forward 0, .accept .live, .call "safety" true, .accept .live, .forward 1,
    .accept .live]

def twoPaired : Pairing :=
  (run step (start ["safety", "normal"]) twoCalls).getD (start [])

theorem twoPaired_matched :
    twoPaired.pairs = [(0, .client 0), (1, .client 1)] ∧
      (∀ origin ∈ twoPaired.dropped, origin = .probe) ∧
      (twoPaired.Matched ↔ ∀ pair ∈ twoPaired.pairs, ¬twoPaired.Leftover pair.2) :=
  ⟨rfl, @run_matched_iff ["safety", "normal"] twoCalls twoPaired rfl⟩

end Pairing

end Seshat.Transport

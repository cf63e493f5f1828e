import Seshat.Config.Schema
import Mathlib.Data.List.Nodup
import Mathlib.Tactic.Common

/-! Loopback addresses, and the process-wide counter that hands out their ports. -/

namespace Seshat.Config.AddressFamily

def loopbackHost : AddressFamily → String
  | .ipv4 => "127.0.0.1"
  | .ipv6 => "::1"

/-- A host that holds a colon is bracketed. -/
def joinHostPort (host : String) (port : UInt16) : String :=
  if host.toList.contains ':' ∧ host.toList.head? ≠ some '[' then
    "[" ++ host ++ "]:" ++ toString port.toNat
  else host ++ ":" ++ toString port.toNat

def loopbackSocket (family : AddressFamily) (port : UInt16) : String :=
  joinHostPort family.loopbackHost port

end Seshat.Config.AddressFamily

namespace Seshat.Gateway
open Config

/-- What the operating system answers at the n-th bind of the process: whether a probe of a
port succeeds, and the port an open request gets. -/
structure Host where
  bindable : Nat → AddressFamily → UInt16 → Bool
  ephemeral : Nat → AddressFamily → Except String UInt16

/-- The counter `NEXT`, which wraps, and the number of binds so far. -/
structure Ports where
  next : UInt16
  binds : Nat := 0
  deriving DecidableEq

def portBase : UInt16 := 20000
def portRange : UInt16 := 12000

def candidate (counter : UInt16) : UInt16 := portBase + counter % portRange

def Ports.taken (ports : Ports) : Ports := { next := ports.next + 1, binds := ports.binds + 1 }

/-- The probes of one reservation, with the number of attempts left. -/
def probe (host : Host) (family : AddressFamily) : Nat → Ports → Except String (UInt16 × Ports)
  | 0, ports =>
      match host.ephemeral ports.binds family with
      | .error reason => .error reason
      | .ok port => .ok (port, { ports with binds := ports.binds + 1 })
  | attempts + 1, ports =>
      let port := candidate ports.next
      if host.bindable ports.binds family port then .ok (port, ports.taken)
      else probe host family attempts ports.taken

def reserveLocalPortFor (host : Host) (family : AddressFamily) (ports : Ports) :
    Except String (UInt16 × Ports) :=
  probe host family portRange.toNat ports

/-- The reservations of the process, in the order in which they take the counter. -/
def reservations (host : Host) : List AddressFamily → Ports → Except String (List UInt16 × Ports)
  | [], ports => .ok ([], ports)
  | family :: later, ports =>
      match reserveLocalPortFor host family ports with
      | .error reason => .error reason
      | .ok (port, ports) =>
          match reservations host later ports with
          | .error reason => .error reason
          | .ok (reserved, ports) => .ok (port :: reserved, ports)

/-- Reservations in a row are taken one after the other. -/
theorem reservations_append (host : Host) (first second : List AddressFamily) (ports : Ports) :
    reservations host (first ++ second) ports =
      match reservations host first ports with
      | .error reason => .error reason
      | .ok (front, between) =>
          match reservations host second between with
          | .error reason => .error reason
          | .ok (back, last) => .ok (front ++ back, last) := by
  induction first generalizing ports with
  | nil =>
      rw [List.nil_append, reservations]
      dsimp only
      cases reservations host second ports <;> rfl
  | cons family later ih =>
      rw [List.cons_append, reservations, reservations]
      cases reserveLocalPortFor host family ports with
      | error reason => rfl
      | ok taken =>
          dsimp only
          rw [ih]
          cases reservations host later taken.2 with
          | error reason => rfl
          | ok front =>
              dsimp only
              cases reservations host second front.2 <;> rfl

/-- Every probe of a candidate port succeeds. -/
def Host.Free (host : Host) : Prop :=
  ∀ binds family counter, host.bindable binds family (candidate counter) = true

theorem reserveLocalPortFor_free {host : Host} (free : host.Free) (family : AddressFamily)
    (ports : Ports) :
    reserveLocalPortFor host family ports = .ok (candidate ports.next, ports.taken) := by
  change probe host family (11999 + 1) ports = _
  unfold probe
  rw [if_pos (free _ _ _)]

/-- The ports of a run in which every probe succeeds. -/
def handedOut (counter : UInt16) (count : Nat) : List UInt16 :=
  (List.range count).map fun i => candidate (counter + UInt16.ofNat i)

theorem handedOut_length (counter : UInt16) (count : Nat) :
    (handedOut counter count).length = count := by
  rw [handedOut, List.length_map, List.length_range]

theorem handedOut_succ (counter : UInt16) (count : Nat) :
    handedOut counter (count + 1) = candidate counter :: handedOut (counter + 1) count := by
  unfold handedOut
  rw [List.range_succ_eq_map, List.map_cons, List.map_map]
  refine congrArg₂ List.cons (by simp) (List.map_congr_left fun i _ => ?_)
  change candidate (counter + UInt16.ofNat (i + 1)) = candidate (counter + 1 + UInt16.ofNat i)
  rw [UInt16.ofNat_add, UInt16.add_assoc, UInt16.add_comm 1]
  rfl

theorem reservations_free {host : Host} (free : host.Free) (requests : List AddressFamily)
    (ports : Ports) :
    ∃ last, reservations host requests ports =
      .ok (handedOut ports.next requests.length, last) := by
  induction requests generalizing ports with
  | nil => exact ⟨ports, rfl⟩
  | cons family later ih =>
      obtain ⟨last, rest⟩ := ih ports.taken
      refine ⟨last, ?_⟩
      unfold reservations
      rw [reserveLocalPortFor_free free]
      dsimp only
      rw [rest, List.length_cons, handedOut_succ]
      rfl

theorem candidate_toNat (counter : UInt16) :
    (candidate counter).toNat = 20000 + counter.toNat % 12000 := by
  have small := Nat.mod_lt counter.toNat (show 12000 > 0 by decide)
  simp only [candidate, UInt16.toNat_add, UInt16.toNat_mod]
  change (20000 + counter.toNat % 12000) % 2 ^ 16 = 20000 + counter.toNat % 12000
  omega

/-- The port at a position of the run, as a number. -/
theorem candidate_at (start : UInt16) (i : Nat) :
    (candidate (start + UInt16.ofNat i)).toNat = 20000 + (start.toNat + i) % 65536 % 12000 := by
  rw [candidate_toNat, UInt16.toNat_add, UInt16.toNat_ofNat']
  omega

/-- The ports of consecutive reservations, of which the first takes the counter value. -/
def consecutive (counter : Nat) (count : Nat) : List Nat :=
  (List.range count).map fun i => 20000 + (counter + i) % 65536 % 12000

/-- As many consecutive reservations as the range has ports are distinct exactly when the
counter does not wrap among them: the range does not divide the counter's modulus, so the
offsets start over too early. -/
theorem consecutive_nodup_iff {counter : Nat} (small : counter < 65536) :
    (consecutive counter 12000).Nodup ↔ counter + 12000 ≤ 65536 := by
  unfold consecutive
  rw [List.nodup_map_iff_inj_on List.nodup_range]
  simp only [List.mem_range]
  constructor
  · intro injective
    by_contra wraps
    -- the offset at the wrap is the one 5536 reservations before it
    have same := injective (60000 - counter) (by omega) (60000 - counter + 5536) (by omega)
      (by omega)
    omega
  · intro fits i first j second same
    omega

/-- Any reservations as many as the range has ports, one after another, are distinct. -/
def WindowsDistinct (ports : List UInt16) : Prop :=
  ∀ start, start + portRange.toNat ≤ ports.length →
    ((ports.drop start).take portRange.toNat).Nodup

theorem window_consecutive (counter : UInt16) {start count : Nat} (fits : start + 12000 ≤ count) :
    (((handedOut counter count).drop start).take 12000).map UInt16.toNat =
      consecutive ((counter.toNat + start) % 65536) 12000 := by
  apply List.ext_getElem
  · simp only [handedOut, consecutive, List.length_map, List.length_take, List.length_drop,
      List.length_range]
    omega
  · intro i inside _
    simp only [handedOut, consecutive, List.getElem_map, List.getElem_take, List.getElem_drop,
      List.getElem_range, candidate_at]
    omega

/-- A window of the run repeats no port exactly when it ends before the counter wraps. -/
theorem window_nodup_iff (counter : UInt16) {start count : Nat} (fits : start + 12000 ≤ count) :
    (((handedOut counter count).drop start).take 12000).Nodup ↔
      (counter.toNat + start) % 65536 + 12000 ≤ 65536 := by
  have injective : Function.Injective UInt16.toNat := fun _ _ => UInt16.toNat_inj.mp
  rw [← List.nodup_map_iff injective, window_consecutive counter fits]
  exact consecutive_nodup_iff (Nat.mod_lt _ (by decide))

/-- When every probe succeeds, the reservations of a process hand out no port twice within
the range exactly when they are fewer than the range or end before the counter wraps. -/
theorem reserved_windows_distinct_iff {host : Host} (free : host.Free)
    (requests : List AddressFamily) (ports : Ports) :
    ∃ reserved last, reservations host requests ports = .ok (reserved, last) ∧
      reserved.length = requests.length ∧
      (WindowsDistinct reserved ↔
        requests.length < 12000 ∨ ports.next.toNat + requests.length ≤ 65536) := by
  obtain ⟨last, run⟩ := reservations_free free requests ports
  refine ⟨_, last, run, handedOut_length _ _, ?_⟩
  have bounded : ports.next.toNat < 65536 := ports.next.toNat_lt
  unfold WindowsDistinct
  rw [handedOut_length]
  constructor
  · intro distinct
    by_contra outside
    rw [not_or, Nat.not_lt, Nat.not_le] at outside
    obtain ⟨long, past⟩ := outside
    -- the window that ends one reservation after the wrap, or the first one
    have crossing : 53537 - ports.next.toNat + 12000 ≤ requests.length := by omega
    have inside := (window_nodup_iff ports.next crossing).mp (distinct _ crossing)
    omega
  · rintro (short | before) start fits
    · change start + 12000 ≤ requests.length at fits
      omega
    · change start + 12000 ≤ requests.length at fits
      refine (window_nodup_iff ports.next fits).mpr ?_
      omega

/-- A host on which every port is free. -/
def idleHost : Host where
  bindable _ _ _ := true
  ephemeral _ _ := .error "Address already in use"

/-- Thirty thousand reservations before the wrap. -/
theorem reserved_windows_distinct_iff_idle :
    idleHost.Free ∧ ∃ reserved last,
      reservations idleHost (List.replicate 30000 .ipv4) { next := 7 } = .ok (reserved, last) ∧
        reserved.length = 30000 ∧ WindowsDistinct reserved := by
  have free : idleHost.Free := fun _ _ _ => rfl
  obtain ⟨reserved, last, run, size, distinct⟩ :=
    reserved_windows_distinct_iff free (List.replicate 30000 .ipv4) { next := 7 }
  rw [List.length_replicate] at size distinct
  exact ⟨free, reserved, last, run, size, distinct.mpr (.inr (by decide))⟩

/-- Started at 60000, the counter wraps after 5536 reservations and hands port 20000 out
again. -/
theorem not_windows_distinct : ¬ ∀ (host : Host) (requests : List AddressFamily) (ports : Ports)
    (reserved : List UInt16) (last : Ports), host.Free →
    reservations host requests ports = .ok (reserved, last) → WindowsDistinct reserved := by
  intro distinct
  have free : idleHost.Free := fun _ _ _ => rfl
  obtain ⟨last, run⟩ := reservations_free free (List.replicate 12000 .ipv4) { next := 60000 }
  rw [List.length_replicate] at run
  have window := distinct _ _ _ _ _ free run 0
  have fits : 0 + 12000 ≤ 12000 := by decide
  have before := (window_nodup_iff 60000 fits).mp (window (by rw [handedOut_length]; decide))
  revert before
  decide

end Seshat.Gateway

import Seshat.Lib.Infix
import Seshat.Matrix.Families
import Seshat.Matrix.Names
import Seshat.Matrix.Stamped

/-! Target ports. An IP row takes its port from its ordinal, which is narrowed to 16 bits; the
multi-stream row writes a port out. The ports are valid and distinct as long as the sum with the
base port fits a word. -/

namespace Seshat.Matrix
open Lib.Infix

/-- The port a release build computes. -/
def targetPort (ordinal : ℕ) : ℕ := (18000 + UInt16.ofNat ordinal).toNat

/-- The row sends to this port of a loopback address. -/
def Row.Targets (row : Row) (port : ℕ) : Prop :=
  row.sender.targetAddr = loopbackV4 ++ Nat.toDigits 10 port ∨
    row.sender.targetAddr = loopbackV6 ++ Nat.toDigits 10 port

def Row.IsIp (row : Row) : Prop := row.sender.interface ∈ ipInterfaces

/-- An IP row whose port is computed and not written out. -/
def Emitted.Computed (emitted : Emitted) : Prop :=
  emitted.row.IsIp ∧ emitted.origin ≠ .group "multistream"

/-- Every IP row of a document has a port of its own, and the computed ones are the true sum of
base port and ordinal. -/
structure PortsSound (rows : List Emitted) : Prop where
  valid : ∀ emitted ∈ rows, emitted.row.IsIp →
    ∃ port, 1 ≤ port ∧ port ≤ 65535 ∧ emitted.row.Targets port
  exact : ∀ (ordinal : ℕ) (emitted : Emitted), rows[ordinal]? = some emitted → emitted.Computed →
    emitted.row.Targets (18000 + ordinal)
  distinct : ∀ (first second port : ℕ) (emitted other : Emitted), rows[first]? = some emitted →
    rows[second]? = some other → emitted.row.IsIp → other.row.IsIp →
    emitted.row.Targets port → other.row.Targets port → first = second

/-- Every computed IP row is pushed while its port fits a word. -/
def OrdinalsFit (pushes : List Push) : Prop :=
  ∀ ordinal push, pushes[ordinal]? = some push → (push.emit ordinal).Computed →
    18000 + ordinal < 65536

theorem targetPort_of_fits {ordinal : ℕ} (fits : 18000 + ordinal < 65536) :
    targetPort ordinal = 18000 + ordinal := by
  rw [targetPort, UInt16.toNat_add, UInt16.toNat_ofNat']
  simp only [UInt16.toNat_ofNat]
  omega

theorem targetPort_lt (ordinal : ℕ) : targetPort ordinal < 65536 := UInt16.toNat_lt _

theorem loopback_ne (v4 v6 : Text) : loopbackV4 ++ v4 ≠ loopbackV6 ++ v6 := by
  intro same
  have heads : some '1' = some '[' := congrArg List.head? same
  revert heads
  decide

/-- A row targets one port at most. -/
theorem Row.Targets.unique {row : Row} {first second : ℕ} (targets : row.Targets first)
    (also : row.Targets second) : first = second := by
  rcases targets with v4 | v6 <;> rcases also with w4 | w6
  · exact toDigits_injective (List.append_cancel_left (v4.symm.trans w4))
  · exact absurd (v4.symm.trans w6) (loopback_ne _ _)
  · exact absurd (w4.symm.trans v6) (loopback_ne _ _)
  · exact toDigits_injective (List.append_cancel_left (v6.symm.trans w6))

theorem sender_target {interface : String} (ordinal : ℕ) (ip : interface ∈ ipInterfaces) :
    (sender interface ordinal).targetAddr = loopbackV4 ++ Nat.toDigits 10 (targetPort ordinal) := by
  unfold sender
  dsimp only
  rw [if_pos ((mem_ipInterfaces interface).mp ip)]
  rfl

/-- Stamping moves a target to IPv6 and keeps its port. -/
theorem stamp_targets {row : Row} {port : ℕ} (profile : Profile)
    (target : row.sender.targetAddr = loopbackV4 ++ Nat.toDigits 10 port) :
    (stamp profile row).Targets port := by
  by_cases family : profile.addressFamily = "ipv6"
  · refine .inr ?_
    rw [stamp_target family, target, if_pos (List.prefix_append _ _), List.drop_left]
  · refine .inl ?_
    rw [stamp, stampAddressFamily, if_pos family, stampOptimizationFlags_target, target]

/-! The rows of each family. -/

/-- Every IP row of the push targets the port computed from its ordinal. -/
structure Push.Numbered (push : Push) : Prop where
  origin : push.origin ≠ .group "multistream"
  targets : ∀ ordinal, (push.emit ordinal).row.IsIp →
    (push.emit ordinal).row.Targets (targetPort ordinal)

section Families

variable {spec : MatrixSpec} {push : Push} {profile : Profile} {interface : String}

theorem group_ne {label : String} (other : label ≠ "multistream") :
    Origin.group label ≠ .group "multistream" := fun same => other (Origin.group.inj same)

theorem numbered_of_sender (origin : push.origin ≠ .group "multistream")
    (sent : ∀ ordinal, (push.row ordinal).sender.interface = interface ∧
      (push.row ordinal).sender.targetAddr = (sender interface ordinal).targetAddr) :
    push.Numbered := by
  refine ⟨origin, fun ordinal ip => ?_⟩
  obtain ⟨linked, target⟩ := sent ordinal
  have ip : interface ∈ ipInterfaces := linked ▸ ip
  exact .inl (target.trans (sender_target ordinal ip))

theorem numbered_of_stamp {base : ℕ → Row} (origin : push.origin ≠ .group "multistream")
    (stamped : ∀ ordinal, push.row ordinal = stamp profile (base ordinal))
    (sent : ∀ ordinal, (base ordinal).sender = sender interface ordinal) :
    push.Numbered := by
  refine ⟨origin, fun ordinal ip => ?_⟩
  have linked : (push.row ordinal).sender.interface = interface := by
    rw [stamped, stamp_keeps (fun row => row.sender.interface) fun _ _ _ _ => rfl, sent]
    rfl
  have ip : interface ∈ ipInterfaces := linked ▸ ip
  have target : (push.row ordinal).Targets (targetPort ordinal) := by
    rw [stamped]
    exact stamp_targets profile ((congrArg RowSender.targetAddr (sent ordinal)).trans
      (sender_target ordinal ip))
  exact target

theorem throughput_numbered {chain : String} {size connections : UInt32} :
    (throughputPush profile interface chain size connections).Numbered :=
  numbered_of_stamp nofun (fun _ => rfl) fun _ => rfl

theorem Family.numbered (family : Family spec push) :
    push.Numbered ∨ push = smokeMultistreamPush := by
  cases family with
  | throughput => exact .inl throughput_numbered
  | latency => exact .inl (numbered_of_stamp nofun (fun _ => rfl) fun _ => rfl)
  | smoke => exact .inl (numbered_of_stamp nofun (fun _ => rfl) fun _ => rfl)
  | smokeLatency => exact .inl (numbered_of_stamp nofun (fun _ => rfl) fun _ => rfl)
  | reload => exact .inl (numbered_of_sender nofun fun _ => ⟨rfl, rfl⟩)
  | smokeReload => exact .inl (numbered_of_sender nofun fun _ => ⟨rfl, rfl⟩)
  | streamCipher => exact .inl (numbered_of_sender (group_ne (by decide)) fun _ => ⟨rfl, rfl⟩)
  | datagramCipher => exact .inl (numbered_of_sender (group_ne (by decide)) fun _ => ⟨rfl, rfl⟩)
  | handshake => exact .inl (numbered_of_sender (group_ne (by decide)) fun _ => ⟨rfl, rfl⟩)
  | resumption => exact .inl (numbered_of_sender (group_ne (by decide)) fun _ => ⟨rfl, rfl⟩)
  | loopback => exact .inl (numbered_of_sender (group_ne (by decide)) fun _ => ⟨rfl, rfl⟩)
  | multistream => exact .inr rfl
  | blocked => exact .inl (numbered_of_sender (group_ne (by decide)) fun _ => ⟨rfl, rfl⟩)

theorem comparisonPushes_numbered {direct gateway : ComparisonPath}
    (member : push ∈ comparisonPushes spec.interfaceComparison direct gateway) :
    push.Numbered := by
  rw [comparisonPushes, List.mem_append, mem_pathPushes, mem_pathPushes] at member
  rcases member with ⟨_, -, _, -, _, -, -, rfl⟩ | ⟨_, -, _, -, _, -, -, rfl⟩ <;>
  exact numbered_of_sender (group_ne (by decide)) fun _ => ⟨rfl, rfl⟩

theorem document_numbered {direct gateway : ComparisonPath} {pushes : List Push}
    (inDocument : pushes ∈ documentPushes spec direct gateway) :
    ∀ push ∈ pushes, push.Numbered ∨ push = smokeMultistreamPush := by
  rcases document_families inDocument with rfl | families
  · exact fun push member => .inl (comparisonPushes_numbered member)
  · exact fun push member => (families push member).numbered

end Families

/-! One document. -/

theorem multistream_targets (ordinal : ℕ) :
    (smokeMultistreamPush.emit ordinal).row.Targets 17990 := by
  have written : "127.0.0.1:17990".toList = loopbackV4 ++ Nat.toDigits 10 17990 := by
    decide +kernel
  exact .inl written

section Document

variable {pushes : List Push} {rows : List Emitted}
  (families : ∀ push ∈ pushes, push.Numbered ∨ push = smokeMultistreamPush)

include families in
/-- The port of an IP row: the sum, or the one that is written out. -/
theorem OrdinalsFit.port (fits : OrdinalsFit pushes) {ordinal : ℕ} {push : Push}
    (found : pushes[ordinal]? = some push) (ip : (push.emit ordinal).row.IsIp) :
    18000 + ordinal < 65536 ∧ (push.emit ordinal).row.Targets (18000 + ordinal) ∨
      push = smokeMultistreamPush ∧ (push.emit ordinal).row.Targets 17990 := by
  rcases families push (List.mem_of_getElem? found) with numbered | rfl
  · have small := fits ordinal push found ⟨ip, numbered.origin⟩
    have target := numbered.targets ordinal ip
    rw [targetPort_of_fits small] at target
    exact .inl ⟨small, target⟩
  · exact .inr ⟨rfl, multistream_targets ordinal⟩

variable (pushed : pushAll pushes = .ok rows)
include pushed

theorem row_at {ordinal : ℕ} {emitted : Emitted} :
    rows[ordinal]? = some emitted ↔
      ∃ push, pushes[ordinal]? = some push ∧ push.emit ordinal = emitted := by
  rw [(pushAll_ok pushed).2, List.getElem?_mapIdx, Option.map_eq_some_iff]

/-- A push stands at one place. -/
theorem place_unique {first second : ℕ} {push : Push} (found : pushes[first]? = some push)
    (again : pushes[second]? = some push) : first = second := by
  obtain ⟨inside, -⟩ := List.getElem?_eq_some_iff.mp found
  refine (List.getElem?_inj (by rwa [List.length_map]) (pushAll_ok pushed).1).mp ?_
  rw [List.getElem?_map, List.getElem?_map, found, again]

include families

theorem OrdinalsFit.of_sound (sound : PortsSound rows) : OrdinalsFit pushes := by
  intro ordinal push found computed
  have target := sound.exact ordinal _ ((row_at pushed).mpr ⟨push, found, rfl⟩) computed
  rcases families push (List.mem_of_getElem? found) with numbered | rfl
  · rw [target.unique (numbered.targets ordinal computed.1)]
    exact targetPort_lt ordinal
  · exact absurd rfl computed.2

theorem OrdinalsFit.sound (fits : OrdinalsFit pushes) : PortsSound rows := by
  have port := @OrdinalsFit.port pushes families fits
  constructor
  · intro emitted member ip
    obtain ⟨ordinal, here⟩ := List.mem_iff_getElem?.mp member
    obtain ⟨push, found, rfl⟩ := (row_at pushed).mp here
    rcases port found ip with ⟨small, target⟩ | ⟨-, target⟩
    · exact ⟨18000 + ordinal, by omega, by omega, target⟩
    · exact ⟨17990, by decide, by decide, target⟩
  · intro ordinal emitted here computed
    obtain ⟨push, found, rfl⟩ := (row_at pushed).mp here
    rcases port found computed.1 with ⟨-, target⟩ | ⟨rfl, -⟩
    · exact target
    · exact absurd rfl computed.2
  · intro first second shared emitted other here there ip ip' target target'
    obtain ⟨push, found, rfl⟩ := (row_at pushed).mp here
    obtain ⟨push', found', rfl⟩ := (row_at pushed).mp there
    rcases port found ip with ⟨-, sum⟩ | ⟨written, fixed⟩ <;>
    rcases port found' ip' with ⟨-, sum'⟩ | ⟨written', fixed'⟩
    · have same := (sum.unique target).trans (target'.unique sum')
      omega
    · have same := (sum.unique target).trans (target'.unique fixed')
      omega
    · have same := (fixed.unique target).trans (target'.unique sum')
      omega
    · rw [written] at found
      rw [written'] at found'
      exact place_unique pushed found found'

end Document

/-- Every IP row has a valid port of its own, computed without losing a bit, iff every row whose
port is computed is pushed while the sum fits 16 bits. -/
theorem ports_sound_iff {spec : MatrixSpec} {docs : List Document}
    (expanded : generate spec = .ok docs) :
    (∀ document ∈ docs, PortsSound document.scenarios) ↔
      ∀ direct gateway, spec.interfaceComparison.tcpPath false = some direct →
        spec.interfaceComparison.tcpPath true = some gateway →
          ∀ pushes ∈ documentPushes spec direct gateway, OrdinalsFit pushes := by
  obtain ⟨direct, gateway, generated⟩ := generate_ok expanded
  constructor
  · intro sound direct' gateway' directPath gatewayPath pushes listed
    obtain rfl : direct = direct' := by
      rw [generated.directPath] at directPath
      exact Option.some.inj directPath
    obtain rfl : gateway = gateway' := by
      rw [generated.gatewayPath] at gatewayPath
      exact Option.some.inj gatewayPath
    obtain ⟨document, inside, pushed⟩ := generated.doc_of_pushes listed
    exact .of_sound (document_numbered listed) pushed (sound document inside)
  · intro fits document inside
    obtain ⟨pushes, listed, pushed⟩ := generated.pushes_of_doc inside
    have fit := fits direct gateway generated.directPath generated.gatewayPath pushes listed
    exact fit.sound (document_numbered listed) pushed

theorem ordinalsFit_of_length {pushes : List Push} (few : pushes.length ≤ 47536) :
    OrdinalsFit pushes := fun _ _ found _ => by
  have inside := (List.getElem?_eq_some_iff.mp found).1
  omega

theorem ports_sound_iff_v6 :
    ∃ docs, generate v6Spec = .ok docs ∧ ∀ document ∈ docs, PortsSound document.scenarios := by
  obtain ⟨docs, expanded⟩ := v6Spec_expands
  refine ⟨docs, expanded, (ports_sound_iff expanded).mpr fun direct gateway found found' => ?_⟩
  obtain rfl : loopbackPath = direct := Option.some.inj found
  obtain rfl : scgPath = gateway := Option.some.inj found'
  have few : ∀ pushes ∈ documentPushes v6Spec loopbackPath scgPath, pushes.length ≤ 47536 := by
    decide +kernel
  exact fun pushes listed => ordinalsFit_of_length (few pushes listed)

/-! A catalogue of 47,537 connection counts: its last one stands at the ordinal 47,536. -/

def wideProfile : Profile := { plainProfile with chains := ["scg-ale"], tiers := [] }

/-- A spec whose catalogue sweeps these connection counts. -/
def wideSpec (counts : List UInt32) : MatrixSpec where
  dimensions := { oneSize with catalogConnections := counts }
  profiles := [wideProfile]
  interfaceComparison := tcpComparison

def wideCounts : List UInt32 := (List.range 47537).map fun i => UInt32.ofNat (i + 1)

def widePush (count : UInt32) : Push := throughputPush wideProfile "tcp" "scg-ale" 1024 count

section Wide

variable {counts : List UInt32} {tier : Tier}

theorem widePush_cell : cellPushes wideProfile tier counts "tcp" "scg-ale" 1024 =
    counts.map widePush := by
  have all : (fun count => decide (wideProfile.Allows count)) = fun _ => true := by
    funext count
    exact decide_eq_true (.inl rfl)
  have other : ¬(tier ≠ .catalog ∧ "scg-ale" = "scg-direct" ∧ wideProfile.Allows 1) :=
    fun latency => absurd latency.2.1 (by decide)
  rw [cellPushes, if_neg other, List.append_nil, all, List.filter_true]
  rfl

theorem wide_tierPushes (whole : tier = .catalog ∨ tier = .everything) :
    tierPushes (wideSpec counts) tier = counts.map widePush ++ handshakePushes tier := by
  have chosen : selected wideProfile tier = true := by rcases whole with rfl | rfl <;> rfl
  have ladder : tierConnections wideProfile (wideSpec counts).dimensions tier = counts := by
    rcases whole with rfl | rfl <;> rfl
  have sizes : tierSizes wideProfile (wideSpec counts).dimensions tier = [1024] := by
    rcases whole with rfl | rfl <;> rfl
  have ciphers : cipherPushes (wideSpec counts) tier = [] := by
    rcases whole with rfl | rfl <;> rfl
  have swept : profilePushes wideProfile (wideSpec counts).dimensions tier =
      counts.map widePush := by
    rw [profilePushes, if_pos chosen, ladder, sizes]
    show ["tcp"].flatMap (fun interface => ["scg-ale"].flatMap fun chain =>
      [1024].flatMap (cellPushes wideProfile tier counts interface chain)) = _
    simp only [List.flatMap_singleton, widePush_cell]
  rw [tierPushes, ciphers, List.append_nil]
  show [wideProfile].flatMap (fun profile =>
    profilePushes profile (wideSpec counts).dimensions tier) ++ handshakePushes tier ++ [] = _
  rw [List.append_nil, List.flatMap_singleton, swept]

theorem widePush_name (count : UInt32) :
    (widePush count).name =
      joined ["matrix".toList, "routing_tcp".toList, "tcp".toList, sizeLabel 1024,
        chainLabel "scg-ale"] ++ '_' :: (decimal count ++ ['c']) := by
  rw [widePush, throughputPush]
  simp [joined, List.intercalate, wideProfile, plainProfile]

theorem widePush_name_injective : Function.Injective fun count => (widePush count).name := by
  intro first second same
  simp only [widePush_name] at same
  have numbers := (List.cons.inj (List.append_cancel_left same)).2
  exact decimal_injective (List.append_cancel_right numbers)

theorem widePush_name_head (count : UInt32) : (widePush count).name.head? = some 'm' := by
  have head : (joined ["matrix".toList, "routing_tcp".toList, "tcp".toList, sizeLabel 1024,
      chainLabel "scg-ale"]).head? = some 'm' := by decide +kernel
  rw [widePush_name, List.head?_append, head, Option.some_or]

theorem handshakePushes_nodup (tier : Tier) : ((handshakePushes tier).map Push.name).Nodup := by
  cases tier <;> decide +kernel

theorem handshakePush_head {name : Text} (member : name ∈ (handshakePushes tier).map Push.name) :
    name.head? = some 'h' := by
  revert name
  cases tier <;> decide +kernel

theorem wide_nodup (distinct : counts.Nodup) (whole : tier = .catalog ∨ tier = .everything) :
    ((tierPushes (wideSpec counts) tier).map Push.name).Nodup := by
  rw [wide_tierPushes whole, List.map_append, List.map_map]
  refine List.nodup_append'.mpr
    ⟨distinct.map widePush_name_injective, handshakePushes_nodup tier, ?_⟩
  intro name swept handshake
  obtain ⟨count, -, rfl⟩ := List.mem_map.mp swept
  have heads := (widePush_name_head count).symm.trans (handshakePush_head handshake)
  exact absurd heads (by decide)

theorem wideSpec_accepted : validateSpec (wideSpec counts) = .ok () := by
  show validateSpec (wideSpec []) = .ok ()
  decide +kernel

theorem wideSpec_expands (distinct : counts.Nodup) :
    ∃ docs, generate (wideSpec counts) = .ok docs := by
  refine @generate_of_nodup _ loopbackPath scgPath wideSpec_accepted rfl rfl ?_
  intro pushes listed
  simp only [documentPushes, List.mem_cons, List.not_mem_nil, or_false] at listed
  rcases listed with rfl | rfl | rfl | rfl | rfl | rfl | rfl
  · exact wide_nodup distinct (.inl rfl)
  · show ((tierPushes (wideSpec []) .nightly).map Push.name).Nodup
    decide +kernel
  · show ((tierPushes (wideSpec []) .canonical).map Push.name).Nodup
    decide +kernel
  · show ((comparisonPushes tcpComparison loopbackPath scgPath).map Push.name).Nodup
    decide +kernel
  · exact List.nodup_nil
  · show ((smokePushes (wideSpec [])).map Push.name).Nodup
    decide +kernel
  · exact wide_nodup distinct (.inr rfl)

end Wide

theorem wideCounts_nodup : wideCounts.Nodup := by
  refine List.Nodup.map_on ?_ List.nodup_range
  intro first inFirst second inSecond same
  rw [List.mem_range] at inFirst inSecond
  have values := congrArg UInt32.toNat same
  rw [UInt32.toNat_ofNat', UInt32.toNat_ofNat'] at values
  omega

/-- The last row of the catalogue targets port 0. -/
theorem not_ports_sound :
    ∃ docs, generate (wideSpec wideCounts) = .ok docs ∧
      (∃ document ∈ docs, ∃ emitted ∈ document.scenarios,
        emitted.row.sender.interface = "tcp" ∧ emitted.row.Targets 0) ∧
      ¬∀ document ∈ docs, PortsSound document.scenarios := by
  obtain ⟨docs, expanded⟩ := wideSpec_expands wideCounts_nodup
  obtain ⟨direct, gateway, generated⟩ := generate_ok expanded
  have listed : tierPushes (wideSpec wideCounts) .catalog ∈
      documentPushes (wideSpec wideCounts) direct gateway := List.mem_cons_self
  obtain ⟨document, inside, pushed⟩ := generated.doc_of_pushes listed
  have last : (tierPushes (wideSpec wideCounts) .catalog)[47536]? =
      some (widePush (UInt32.ofNat 47537)) := by
    rw [wide_tierPushes (.inl rfl), List.getElem?_append_left (by simp [wideCounts]),
      wideCounts, List.getElem?_map, List.getElem?_map, List.getElem?_range (by decide)]
    rfl
  have here := (row_at pushed).mpr ⟨_, last, rfl⟩
  have zero : targetPort 47536 = 0 := by decide +kernel
  have ip : ((widePush (UInt32.ofNat 47537)).emit 47536).row.IsIp := List.mem_cons_self
  have target := throughput_numbered.targets 47536 ip
  rw [zero] at target
  refine ⟨docs, expanded, ⟨document, inside, _, List.mem_of_getElem? here, rfl, target⟩, ?_⟩
  intro sound
  obtain ⟨port, positive, -, valid⟩ :=
    (sound document inside).valid _ (List.mem_of_getElem? here) ip
  rw [valid.unique target] at positive
  exact absurd positive (by decide)

end Seshat.Matrix

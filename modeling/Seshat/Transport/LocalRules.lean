import Seshat.Gateway.SecuritySpec
import Seshat.Lib.Infix
import Seshat.Transport.Pipelines
import Mathlib.Data.List.Sigma
import Mathlib.Tactic.Common

/-! The rule sets of the UDS and SHM transports: one encrypt and one decrypt rule for each
connection and traffic class, each with an endpoint of its own. -/

namespace Seshat.Transport
open Gateway Lib.Infix

inductive TrafficClass where
  | normal
  | safety
  deriving DecidableEq, Repr

def classLabel : TrafficClass → String
  | .normal => "normal"
  | .safety => "safety"

/-- The first occurrence of each class stays; without any, the normal class. -/
def normalizeClasses (classes : List TrafficClass) : List TrafficClass :=
  let out := classes.foldl (fun out label => if label ∈ out then out else out ++ [label]) []
  if out = [] then [.normal] else out

/-- The listening protocol, in which alone the two rule sets differ. -/
def LocalTransport.proto : LocalTransport → String
  | .uds => "uds"
  | .shm => "shm"

section Rules
variable (interface : LocalTransport) (spec : SecuritySpec) (appId : String) (uid : UInt32)

def encryptRule (upstreamAddr : String) (index : Nat) (label : TrafficClass) : RuleConfig :=
  let base := RuleConfig.new
    ("seshat-encrypt-" ++ classLabel label ++ "-c" ++ toString index) "encrypt" "unused" upstreamAddr
  ((spec.applyEncrypt
    (((base.withAppId (connAppId appId index)).withTrafficClass (classLabel label)).allowedUid
      uid)).withTrafficClass (classLabel label)).withListenProto interface.proto

def decryptRule (upstreamAddr : String) (index : Nat) (label : TrafficClass) : RuleConfig :=
  let base := RuleConfig.new
    ("seshat-decrypt-" ++ classLabel label ++ "-c" ++ toString index) "decrypt" "unused" upstreamAddr
  ((spec.applyDecrypt
    (((base.withAppId (connAppId appId index)).withTrafficClass (classLabel label)).allowedUid
      uid)).withTrafficClass (classLabel label)).withListenProto interface.proto

/-- The rules of one connection, a pair for each class. -/
def connectionRules (classes : List TrafficClass) (upstreamAddr : String) (index : Nat) :
    List RuleConfig :=
  classes.flatMap fun label =>
    [encryptRule interface spec appId uid upstreamAddr index label,
      decryptRule interface spec appId uid upstreamAddr index label]

def buildRulesForClasses (upstreamAddrs : List String) (classes : List TrafficClass) :
    List RuleConfig :=
  upstreamAddrs.zipIdx.flatMap fun entry =>
    connectionRules interface spec appId uid classes entry.1 entry.2

end Rules

/-- The key under which the gateway owns an endpoint; it holds no connection. -/
def ownerKey (rule : RuleConfig) : Option String × String × String :=
  (rule.appId, rule.trafficClass, rule.direction)

/-! Numbered names. -/

theorem toString_toList (n : Nat) : (toString n).toList = Nat.toDigits 10 n := Nat.toList_repr

theorem connAppId_toList (base : String) (index : Nat) :
    (connAppId base index).toList =
      (base.toList.take (40 - s!"-c{index}".length) ++ ['-']) ++
        'c' :: Nat.toDigits 10 index := by
  simp [connAppId, String.toList_append]
  rfl

theorem connAppId_injective (base : String) : Function.Injective (connAppId base) := by
  intro first second same
  have chars := congrArg String.toList same
  rw [connAppId_toList, connAppId_toList] at chars
  exact ((numbered_inj rfl).mp chars).2

/-! Classes. -/

theorem addClasses_nodup {out : List TrafficClass} (distinct : out.Nodup)
    (classes : List TrafficClass) :
    (classes.foldl (fun out label => if label ∈ out then out else out ++ [label]) out).Nodup := by
  induction classes generalizing out with
  | nil => exact distinct
  | cons label classes ih =>
      rw [List.foldl_cons]
      split
      · exact ih distinct
      · next fresh =>
          rw [← List.concat_eq_append]
          exact ih (List.Nodup.concat fresh distinct)

theorem normalizeClasses_nodup (classes : List TrafficClass) : (normalizeClasses classes).Nodup := by
  unfold normalizeClasses
  dsimp only
  split
  · exact List.nodup_singleton _
  · exact addClasses_nodup List.nodup_nil classes

theorem classLabel_injective : Function.Injective classLabel := by
  intro first second same
  cases first <;> cases second <;> first | rfl | exact absurd same (by decide)

/-! The rules one by one. -/

inductive Side where
  | encrypt
  | decrypt
  deriving DecidableEq

def Side.label : Side → String
  | .encrypt => "encrypt"
  | .decrypt => "decrypt"

/-- The place of a rule: its connection, with the address reserved for it, its class and its
side. -/
structure Slot where
  upstreamAddr : String
  index : Nat
  label : TrafficClass
  side : Side

/-- What stands before the number of a rule name. -/
def nameStem (side : Side) (label : TrafficClass) : String :=
  "seshat-" ++ (side.label ++ ("-" ++ (classLabel label ++ "-")))

def ruleName (slot : Slot) : String :=
  nameStem slot.side slot.label ++ ("c" ++ toString slot.index)

theorem sideLabel_length (side : Side) : side.label.toList.length = 7 := by
  cases side <;> rfl

theorem sideLabel_injective : Function.Injective Side.label := by
  intro first second same
  cases first <;> cases second <;> first | rfl | exact absurd same (by decide)

/-- The labels of the two sides have one length, so the stem splits in one way. -/
theorem nameStem_inj {side side' : Side} {label label' : TrafficClass}
    (same : nameStem side label = nameStem side' label') : label = label' ∧ side = side' := by
  have chars := congrArg String.toList same
  unfold nameStem at chars
  rw [String.toList_append, String.toList_append, String.toList_append, String.toList_append,
    String.toList_append, String.toList_append, String.toList_append, String.toList_append] at chars
  have lengths := (sideLabel_length side).trans (sideLabel_length side').symm
  obtain ⟨sides, rest⟩ := List.append_inj (List.append_cancel_left chars) lengths
  have classes := List.append_cancel_right (List.append_cancel_left rest)
  exact ⟨classLabel_injective (String.toList_inj.mp classes),
    sideLabel_injective (String.toList_inj.mp sides)⟩

theorem ruleName_toList (slot : Slot) :
    (ruleName slot).toList =
      (nameStem slot.side slot.label).toList ++ 'c' :: Nat.toDigits 10 slot.index := by
  rw [ruleName, String.toList_append, String.toList_append, toString_toList]
  rfl

theorem ruleName_inj {first second : Slot} (same : ruleName first = ruleName second) :
    first.index = second.index ∧ first.label = second.label ∧ first.side = second.side := by
  have chars := congrArg String.toList same
  rw [ruleName_toList, ruleName_toList] at chars
  obtain ⟨stems, index⟩ := (numbered_inj rfl).mp chars
  exact ⟨index, nameStem_inj (String.toList_inj.mp stems)⟩

section Placement
variable (interface : LocalTransport) (spec : SecuritySpec) (appId : String) (uid : UInt32)

def localRule (slot : Slot) : RuleConfig :=
  match slot.side with
  | .encrypt => encryptRule interface spec appId uid slot.upstreamAddr slot.index slot.label
  | .decrypt => decryptRule interface spec appId uid slot.upstreamAddr slot.index slot.label

structure Placed (slot : Slot) (rule : RuleConfig) : Prop where
  name : rule.name = ruleName slot
  direction : rule.direction = slot.side.label
  upstreamAddr : rule.upstreamAddr = slot.upstreamAddr
  appId : rule.appId = some (connAppId appId slot.index)
  trafficClass : rule.trafficClass = classLabel slot.label
  listenProto : rule.listenProto = interface.proto

theorem ruleName_side (slot : Slot) :
    ruleName slot =
      "seshat-" ++ slot.side.label ++ "-" ++ classLabel slot.label ++ "-c" ++ toString slot.index := by
  obtain ⟨_, index, label, side⟩ := slot
  rw [ruleName, ← String.append_assoc]
  cases side <;> cases label <;> rfl

/-- The specification overwrites fields of a rule, but not where it stands. -/
theorem localRule_endpoint (slot : Slot) :
    (localRule interface spec appId uid slot).endpoint =
      { name := ruleName slot, direction := slot.side.label, listenAddr := "unused",
        upstreamAddr := slot.upstreamAddr, appId := some (connAppId appId slot.index),
        allowedUids := [uid] } := by
  rw [ruleName_side]
  obtain ⟨upstreamAddr, index, label, side⟩ := slot
  cases side with
  | encrypt => exact spec.applyEncrypt_endpoint _
  | decrypt => exact spec.applyDecrypt_endpoint _

theorem localRule_placed (slot : Slot) :
    Placed interface appId slot (localRule interface spec appId uid slot) := by
  have stands := localRule_endpoint interface spec appId uid slot
  constructor
  · exact congrArg RuleConfig.Endpoint.name stands
  · exact congrArg RuleConfig.Endpoint.direction stands
  · exact congrArg RuleConfig.Endpoint.upstreamAddr stands
  · exact congrArg RuleConfig.Endpoint.appId stands
  · cases side : slot.side <;> rw [localRule, side] <;> rfl
  · cases side : slot.side <;> rw [localRule, side] <;> rfl

def connectionSlots (classes : List TrafficClass) (upstreamAddr : String) (index : Nat) :
    List Slot :=
  classes.flatMap fun label =>
    [{ upstreamAddr, index, label, side := .encrypt },
      { upstreamAddr, index, label, side := .decrypt }]

def slots (upstreamAddrs : List String) (classes : List TrafficClass) : List Slot :=
  upstreamAddrs.zipIdx.flatMap fun entry => connectionSlots classes entry.1 entry.2

theorem connectionRules_eq (classes : List TrafficClass) (upstreamAddr : String) (index : Nat) :
    connectionRules interface spec appId uid classes upstreamAddr index =
      (connectionSlots classes upstreamAddr index).map (localRule interface spec appId uid) := by
  rw [connectionSlots, List.map_flatMap]
  rfl

theorem buildRulesForClasses_eq (upstreamAddrs : List String) (classes : List TrafficClass) :
    buildRulesForClasses interface spec appId uid upstreamAddrs classes =
      (slots upstreamAddrs classes).map (localRule interface spec appId uid) := by
  rw [slots, List.map_flatMap]
  simp only [← connectionRules_eq]
  rfl

end Placement

theorem mem_connectionSlots {classes : List TrafficClass} {upstreamAddr : String} {index : Nat}
    {slot : Slot} : slot ∈ connectionSlots classes upstreamAddr index ↔
      slot.upstreamAddr = upstreamAddr ∧ slot.index = index ∧ slot.label ∈ classes := by
  obtain ⟨_, _, label, side⟩ := slot
  simp only [connectionSlots, List.mem_flatMap, List.mem_cons, List.not_mem_nil, or_false,
    Slot.mk.injEq]
  constructor
  · rintro ⟨_, member, ⟨rfl, rfl, rfl, -⟩ | ⟨rfl, rfl, rfl, -⟩⟩
    · exact ⟨rfl, rfl, member⟩
    · exact ⟨rfl, rfl, member⟩
  · rintro ⟨rfl, rfl, member⟩
    cases side
    · exact ⟨label, member, .inl ⟨rfl, rfl, rfl, rfl⟩⟩
    · exact ⟨label, member, .inr ⟨rfl, rfl, rfl, rfl⟩⟩

theorem mem_slots {upstreamAddrs : List String} {classes : List TrafficClass} {slot : Slot} :
    slot ∈ slots upstreamAddrs classes ↔
      upstreamAddrs[slot.index]? = some slot.upstreamAddr ∧ slot.label ∈ classes := by
  simp only [slots, List.mem_flatMap, mem_connectionSlots, Prod.exists,
    List.mem_zipIdx_iff_getElem?]
  constructor
  · rintro ⟨_, _, present, rfl, rfl, member⟩
    exact ⟨present, member⟩
  · rintro ⟨present, member⟩
    exact ⟨_, _, present, rfl, rfl, member⟩

/-- Two slots of one rule set are the same when connection, class and side are. -/
theorem slot_ext {upstreamAddrs : List String} {classes : List TrafficClass} {first second : Slot}
    (member : first ∈ slots upstreamAddrs classes) (member' : second ∈ slots upstreamAddrs classes)
    (index : first.index = second.index) (label : first.label = second.label)
    (side : first.side = second.side) : first = second := by
  have present := (mem_slots.mp member).1
  have present' := (mem_slots.mp member').1
  rw [index, present'] at present
  obtain ⟨_, _, _, _⟩ := first
  obtain ⟨_, _, _, _⟩ := second
  cases present
  cases index
  cases label
  cases side
  rfl

theorem slots_nodup {classes : List TrafficClass} (distinct : classes.Nodup)
    (upstreamAddrs : List String) : (slots upstreamAddrs classes).Nodup := by
  rw [slots, List.nodup_flatMap]
  constructor
  · rintro ⟨upstreamAddr, index⟩ -
    rw [connectionSlots, List.nodup_flatMap]
    constructor
    · intro label _
      simp
    · refine distinct.imp fun apart slot left right => apart ?_
      simp only [List.mem_cons, List.not_mem_nil, or_false] at left right
      rcases left with rfl | rfl <;> rcases right with same | same <;> cases same <;> rfl
  · have indices : (upstreamAddrs.zipIdx.map Prod.snd).Nodup := List.nodup_zipIdx_map_snd _
    rw [List.nodup_iff_pairwise_ne, List.pairwise_map] at indices
    refine indices.imp fun apart slot left right => apart ?_
    exact (mem_connectionSlots.mp left).2.1.symm.trans (mem_connectionSlots.mp right).2.1

/-! The endpoints of a rule set. -/

section Endpoints
variable {interface : LocalTransport} {spec : SecuritySpec} {appId : String} {uid : UInt32}
  {upstreamAddrs : List String} {classes : List TrafficClass}

theorem ownerKey_inj {first second : Slot}
    (same : ownerKey (localRule interface spec appId uid first) =
      ownerKey (localRule interface spec appId uid second)) :
    first.index = second.index ∧ first.label = second.label ∧ first.side = second.side := by
  have placed := localRule_placed interface spec appId uid first
  have placed' := localRule_placed interface spec appId uid second
  rw [ownerKey, ownerKey, placed.appId, placed'.appId, placed.trafficClass, placed'.trafficClass,
    placed.direction, placed'.direction, Prod.mk.injEq, Prod.mk.injEq] at same
  obtain ⟨appIds, labels, sides⟩ := same
  exact ⟨connAppId_injective appId (Option.some.inj appIds), classLabel_injective labels,
    sideLabel_injective sides⟩

theorem ownerKeys_nodup (distinct : classes.Nodup) :
    ((buildRulesForClasses interface spec appId uid upstreamAddrs classes).map ownerKey).Nodup := by
  rw [buildRulesForClasses_eq, List.map_map]
  refine List.Nodup.map_on ?_ (slots_nodup distinct upstreamAddrs)
  intro first member second member' same
  obtain ⟨index, label, side⟩ := ownerKey_inj same
  exact slot_ext member member' index label side

theorem ruleNames_nodup (distinct : classes.Nodup) :
    ((buildRulesForClasses interface spec appId uid upstreamAddrs classes).map
      RuleConfig.name).Nodup := by
  rw [buildRulesForClasses_eq, List.map_map]
  refine List.Nodup.map_on ?_ (slots_nodup distinct upstreamAddrs)
  intro first member second member' same
  have names := (localRule_placed interface spec appId uid first).name.symm.trans
    (same.trans (localRule_placed interface spec appId uid second).name)
  obtain ⟨index, label, side⟩ := ruleName_inj names
  exact slot_ext member member' index label side

/-- An encrypt rule has a decrypt rule under the same owner on the same upstream. -/
theorem encrypt_partner {rule : RuleConfig}
    (member : rule ∈ buildRulesForClasses interface spec appId uid upstreamAddrs classes)
    (encrypting : rule.direction = "encrypt") :
    ∃ partner ∈ buildRulesForClasses interface spec appId uid upstreamAddrs classes,
      ownerKey partner = (rule.appId, rule.trafficClass, "decrypt") ∧
        partner.upstreamAddr = rule.upstreamAddr := by
  rw [buildRulesForClasses_eq, List.mem_map] at member
  obtain ⟨slot, present, rfl⟩ := member
  have placed := localRule_placed interface spec appId uid slot
  have placed' := localRule_placed interface spec appId uid { slot with side := .decrypt }
  refine ⟨_, ?_, ?_, placed'.upstreamAddr.trans placed.upstreamAddr.symm⟩
  · rw [buildRulesForClasses_eq]
    have known := mem_slots.mp present
    exact List.mem_map_of_mem (mem_slots.mpr known)
  · rw [ownerKey, placed'.appId, placed'.trafficClass, placed'.direction, placed.appId,
      placed.trafficClass]
    rfl

/-- A class that is asked for is one of the normalized classes. -/
theorem mem_normalizeClasses {label : TrafficClass} (asked : label ∈ classes) :
    label ∈ normalizeClasses classes := by
  have added (out : List TrafficClass) (list : List TrafficClass)
      (inside : label ∈ out ∨ label ∈ list) :
      label ∈ list.foldl (fun out label => if label ∈ out then out else out ++ [label]) out := by
    induction list generalizing out with
    | nil => exact inside.resolve_right List.not_mem_nil
    | cons first rest ih =>
      rw [List.foldl_cons]
      apply ih
      rw [List.mem_cons] at inside
      split
      · next seen =>
        rcases inside with before | rfl | later
        · exact .inl before
        · exact .inl seen
        · exact .inr later
      · rcases inside with before | rfl | later
        · exact .inl (List.mem_append_left _ before)
        · exact .inl (List.mem_append_right _ List.mem_cons_self)
        · exact .inr later
  have kept := added [] classes (.inr asked)
  unfold normalizeClasses
  dsimp only
  rw [if_neg (List.ne_nil_of_mem kept)]
  exact kept

/-- The place in a rule set of a rule of one connection, class and side. -/
def Reserved (upstreamAddrs : List String) (classes : List TrafficClass) (slot : Slot) : Prop :=
  upstreamAddrs[slot.index]? = some slot.upstreamAddr ∧ slot.label ∈ normalizeClasses classes

/-- Every connection has, for each class, its two rules on its own upstream and under its own
id, there are no other rules, and no two of them get in each other's way. -/
structure OwnEndpoints (interface : LocalTransport) (appId : String) (upstreamAddrs : List String)
    (classes : List TrafficClass) (rules : List RuleConfig) : Prop where
  owners : (rules.map ownerKey).Nodup
  names : (rules.map RuleConfig.name).Nodup
  built : ∀ slot, Reserved upstreamAddrs classes slot → ∃ rule ∈ rules, Placed interface appId slot rule
  only : ∀ rule ∈ rules, ∃ slot, Reserved upstreamAddrs classes slot ∧ Placed interface appId slot rule
  paired : ∀ rule ∈ rules, rule.direction = "encrypt" → ∃ partner ∈ rules,
    ownerKey partner = (rule.appId, rule.trafficClass, "decrypt") ∧
      partner.upstreamAddr = rule.upstreamAddr
  apart : ∀ rule ∈ rules, ∀ other ∈ rules, ∀ slot slot' : Slot,
    Reserved upstreamAddrs classes slot → Reserved upstreamAddrs classes slot' →
      Placed interface appId slot rule → Placed interface appId slot' other →
        slot.index ≠ slot'.index →
          rule.appId ≠ other.appId ∧ rule.upstreamAddr ≠ other.upstreamAddr

/-- What the rules of one connection share, those of another do not have. -/
theorem connections_apart (distinct : upstreamAddrs.Nodup) {rule other : RuleConfig}
    {slot slot' : Slot} (reserved : Reserved upstreamAddrs classes slot)
    (reserved' : Reserved upstreamAddrs classes slot') (placed : Placed interface appId slot rule)
    (placed' : Placed interface appId slot' other) (apart : slot.index ≠ slot'.index) :
    rule.appId ≠ other.appId ∧ rule.upstreamAddr ≠ other.upstreamAddr := by
  constructor
  · rw [placed.appId, placed'.appId]
    intro same
    exact apart (connAppId_injective appId (Option.some.inj same))
  · rw [placed.upstreamAddr, placed'.upstreamAddr]
    intro same
    have inside := (List.getElem?_eq_some_iff.mp reserved.1).1
    exact apart ((List.getElem?_inj inside distinct).mp (by rw [reserved.1, reserved'.1, same]))

end Endpoints

/-- Every UDS or SHM pipeline has endpoints of its own. -/
theorem local_endpoints_distinct (interface : LocalTransport) (spec : SecuritySpec)
    (appId : String) (uid : UInt32) (upstreamAddrs : List String) (classes : List TrafficClass)
    (distinct : upstreamAddrs.Nodup) :
    OwnEndpoints interface appId upstreamAddrs classes
      (buildRulesForClasses interface spec appId uid upstreamAddrs (normalizeClasses classes)) := by
  have normalized := normalizeClasses_nodup classes
  refine
    { owners := ownerKeys_nodup normalized
      names := ruleNames_nodup normalized
      built := fun slot reserved => ?_
      only := fun rule member => ?_
      paired := fun rule member encrypting => encrypt_partner member encrypting
      apart := fun rule _ other _ slot slot' reserved reserved' placed placed' =>
        connections_apart distinct reserved reserved' placed placed' }
  · rw [buildRulesForClasses_eq]
    exact ⟨_, List.mem_map_of_mem (mem_slots.mpr reserved),
      localRule_placed interface spec appId uid slot⟩
  · rw [buildRulesForClasses_eq, List.mem_map] at member
    obtain ⟨slot, present, rfl⟩ := member
    exact ⟨slot, mem_slots.mp present, localRule_placed interface spec appId uid slot⟩

/-- Two connections with two classes each, of which one is asked for twice. -/
theorem local_endpoints_distinct_two :
    let rules := buildRulesForClasses .uds .routingTcp "app" 1000
      ["127.0.0.1:9000", "127.0.0.1:9001"] (normalizeClasses [.normal, .safety, .normal])
    rules.length = 8 ∧
      OwnEndpoints .uds "app" ["127.0.0.1:9000", "127.0.0.1:9001"] [.normal, .safety, .normal] rules ∧
      ∃ rule ∈ rules, rule.upstreamAddr = "127.0.0.1:9001" ∧ rule.direction = "encrypt" ∧
        rule.trafficClass = "safety" ∧ rule.appId = some (connAppId "app" 1) := by
  have own := local_endpoints_distinct .uds .routingTcp "app" 1000
    ["127.0.0.1:9000", "127.0.0.1:9001"] [.normal, .safety, .normal] (by decide)
  obtain ⟨rule, member, placed⟩ := own.built ⟨"127.0.0.1:9001", 1, .safety, .encrypt⟩
    ⟨rfl, mem_normalizeClasses (by decide)⟩
  exact ⟨rfl, own, rule, member, placed.upstreamAddr, placed.direction, placed.trafficClass,
    placed.appId⟩

end Seshat.Transport

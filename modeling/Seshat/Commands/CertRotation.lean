import Seshat.Gateway.SecuritySpec
import Seshat.Lib.SortedMap
import Seshat.Matrix.Spec
import Mathlib.Data.List.Forall2
import Mathlib.Data.String.Basic
import Mathlib.Tactic.Common

/-! The certificate rotation of a hot reload: which parts of the running gateway's document it
rewrites. -/

namespace Seshat.Commands
open Seshat.Matrix Gateway Lib.SortedMap

/-- `value[key] = new`; `none` is a panic. -/
def indexSet (key : String) (new : Value) : Value → Option Value
  | .object fields => some (.object (put key new fields))
  | .null => some (.object [(key, new)])
  | _ => none

/-- A decrypt rule that presents a certificate. -/
def Certified (rule : Value) : Prop :=
  rule.str "direction" = some "decrypt" ∧ (rule.get "cert_path").isSome

instance (rule : Value) : Decidable (Certified rule) := inferInstanceAs (Decidable (_ ∧ _))

/-- A rule after the loop has seen it, and whether it was rewritten. -/
def swapRule (identity : Identity) (rule : Value) : Option (Value × Bool) :=
  if Certified rule then do
    let rule ← indexSet "cert_path" (.string identity.cert) rule
    let rule ← indexSet "key_path" (.string identity.key) rule
    return (rule, true)
  else some (rule, false)

def rewriteRules (identity : Identity) (cfg : Value) : Option (Value × Bool) :=
  match cfg.get "rules" with
  | some (.array rules) => do
      let seen ← rules.mapM (swapRule identity)
      let cfg ← indexSet "rules" (.array (seen.map Prod.fst)) cfg
      return (cfg, seen.any Prod.snd)
  | _ => some (cfg, false)

/-! What one rule becomes. -/

/-- The rule with the paths of the identity. -/
def presenting (identity : Identity) : Value → Value
  | .object fields =>
      .object
        (put "key_path" (.string identity.key) (put "cert_path" (.string identity.cert) fields))
  | other => other

def swapped (identity : Identity) (rule : Value) : Value :=
  if Certified rule then presenting identity rule else rule

theorem exists_fields {value found : Value} {key : String} (field : value.get key = some found) :
    ∃ fields, value = .object fields := by
  cases value with
  | object fields => exact ⟨fields, rfl⟩
  | _ => cases field

theorem Certified.object {rule : Value} (certified : Certified rule) :
    ∃ fields, rule = .object fields :=
  exists_fields (Option.get_mem certified.2)

/-- Only an object has the fields the loop asks for, so no index assignment panics. -/
theorem swapRule_eq (identity : Identity) (rule : Value) :
    swapRule identity rule = some (swapped identity rule, decide (Certified rule)) := by
  unfold swapRule swapped
  by_cases certified : Certified rule
  · rw [if_pos certified, if_pos certified, decide_eq_true certified]
    obtain ⟨fields, rfl⟩ := certified.object
    rfl
  · rw [if_neg certified, if_neg certified, decide_eq_false certified]

/-! The paths alone are new. -/

theorem get_put_self (key : String) (new : Value) (fields : List (String × Value)) :
    (Value.object (put key new fields)).get key = some new := lookup_put_self key new

theorem get_put_other {key other : String} (apart : other ≠ key) (new : Value)
    (fields : List (String × Value)) :
    (Value.object (put key new fields)).get other = (Value.object fields).get other :=
  lookup_put_other apart new

/-- A certified rule after the rotation, field by field; any other rule is as it was. -/
def RuleSwapped (identity : Identity) (before after : Value) : Prop :=
  if Certified before then
    ∀ key, after.get key =
      if key = "cert_path" then some (.string identity.cert)
      else if key = "key_path" then some (.string identity.key)
      else before.get key
  else after = before

theorem swapped_spec (identity : Identity) (rule : Value) :
    RuleSwapped identity rule (swapped identity rule) := by
  unfold RuleSwapped swapped
  by_cases certified : Certified rule
  · rw [if_pos certified, if_pos certified]
    obtain ⟨fields, rfl⟩ := certified.object
    intro key
    change (Value.object (put "key_path" _ (put "cert_path" _ fields))).get key = _
    by_cases cert : key = "cert_path"
    · rw [if_pos cert, cert, get_put_other (by decide), get_put_self]
    · rw [if_neg cert]
      by_cases other : key = "key_path"
      · rw [if_pos other, other, get_put_self]
      · rw [if_neg other, get_put_other other, get_put_other cert]
  · rw [if_neg certified, if_neg certified]

/-- A rotated rule is still certified, and is rotated to itself. -/
theorem swapped_certified (identity : Identity) (rule : Value) :
    Certified (swapped identity rule) ↔ Certified rule := by
  have spec := swapped_spec identity rule
  unfold RuleSwapped at spec
  by_cases certified : Certified rule
  · rw [if_pos certified] at spec
    refine iff_of_true ⟨?_, ?_⟩ certified
    · rw [Value.str, spec, if_neg (by decide), if_neg (by decide)]
      exact certified.1
    · rw [spec, if_pos rfl]
      rfl
  · rw [if_neg certified] at spec
    rw [spec]

theorem swapped_swapped (identity : Identity) (rule : Value) :
    swapped identity (swapped identity rule) = swapped identity rule := by
  by_cases certified : Certified rule
  · have again := (swapped_certified identity rule).mpr certified
    rw [swapped, if_pos again]
    obtain ⟨fields, rfl⟩ := certified.object
    rw [swapped, if_pos certified]
    change Value.object _ = Value.object _
    rw [put_comm (by decide : "cert_path" < "key_path"), put_put, put_put]
  · rw [swapped, if_neg ((swapped_certified identity rule).not.mpr certified)]

/-! The document. -/

def documentRules (cfg : Value) : List Value :=
  match cfg.get "rules" with
  | some (.array rules) => rules
  | _ => []

/-- A document in which only the paths of certified rules are new. -/
structure OnlyCerts (identity : Identity) (before after : Value) : Prop where
  fields : ∀ key, key ≠ "rules" → after.get key = before.get key
  rules : ∀ rules, before.get "rules" = some (.array rules) → ∃ seen,
    after.get "rules" = some (.array seen) ∧ List.Forall₂ (RuleSwapped identity) rules seen
  other : (∀ rules, before.get "rules" ≠ some (.array rules)) → after = before

section Document

variable {identity : Identity} {cfg : Value}

theorem rewriteRules_array {rules : List Value} (listed : cfg.get "rules" = some (.array rules)) :
    ∃ fields, cfg = .object fields ∧
      rewriteRules identity cfg =
        some (.object (put "rules" (.array (rules.map (swapped identity))) fields),
          rules.any fun rule => decide (Certified rule)) := by
  obtain ⟨fields, rfl⟩ := exists_fields listed
  refine ⟨fields, rfl, ?_⟩
  have seen : rules.mapM (swapRule identity) =
      some (rules.map fun rule => (swapped identity rule, decide (Certified rule))) := by
    rw [funext (swapRule_eq identity)]
    exact List.mapM_pure
  unfold rewriteRules
  rw [listed]
  dsimp only
  rw [seen]
  change some (Value.object (put "rules" (.array ((rules.map _).map _)) fields), _) = _
  rw [List.map_map, List.any_map]
  rfl

theorem rewriteRules_other (other : ∀ rules, cfg.get "rules" ≠ some (.array rules)) :
    rewriteRules identity cfg = some (cfg, false) := by
  unfold rewriteRules
  split
  · next rules listed => exact absurd listed (other rules)
  · rfl

theorem documentRules_array {rules : List Value}
    (listed : cfg.get "rules" = some (.array rules)) : documentRules cfg = rules := by
  unfold documentRules
  rw [listed]

theorem documentRules_other (other : ∀ rules, cfg.get "rules" ≠ some (.array rules)) :
    documentRules cfg = [] := by
  unfold documentRules
  split
  · next rules listed => exact absurd listed (other rules)
  · rfl

/-- What the loop makes of a document it makes of the result too. -/
theorem rewriteRules_again {fields : List (String × Value)} (rules : List Value) :
    rewriteRules identity (.object (put "rules" (.array (rules.map (swapped identity))) fields)) =
      some (.object (put "rules" (.array (rules.map (swapped identity))) fields),
        rules.any fun rule => decide (Certified rule)) := by
  obtain ⟨_, same, again⟩ := @rewriteRules_array identity _ _
    (get_put_self "rules" (.array (rules.map (swapped identity))) fields)
  obtain rfl := Value.object.inj same
  have still : (swapped identity ∘ swapped identity) = swapped identity :=
    funext (swapped_swapped identity)
  have certified : ((fun rule => decide (Certified rule)) ∘ swapped identity) =
      fun rule => decide (Certified rule) :=
    funext fun rule => decide_eq_decide.mpr (swapped_certified identity rule)
  rw [again, List.map_map, still, List.any_map, certified, put_put]

/-- The loop goes through every document, rewrites the paths of its certified rules only, says
whether there are any, and finds nothing more to do in what it has rewritten. -/
theorem rewriteRules_spec (identity : Identity) (cfg : Value) : ∃ after swapped,
    rewriteRules identity cfg = some (after, swapped) ∧ OnlyCerts identity cfg after ∧
      (swapped = true ↔ ∃ rule ∈ documentRules cfg, Certified rule) ∧
      rewriteRules identity after = some (after, swapped) := by
  by_cases array : ∃ rules, cfg.get "rules" = some (.array rules)
  · obtain ⟨rules, listed⟩ := array
    obtain ⟨fields, rfl, rewritten⟩ := @rewriteRules_array identity _ _ listed
    refine ⟨_, _, rewritten, ⟨fun key apart => get_put_other apart _ _, fun found same => ?_,
      fun other => absurd listed (other rules)⟩, ?_, ?_⟩
    · obtain rfl : rules = found := by
        rw [listed] at same
        exact Value.array.inj (Option.some_inj.mp same)
      refine ⟨_, get_put_self _ _ _, ?_⟩
      exact List.forall₂_map_right_iff.mpr (List.forall₂_same.mpr fun rule _ => swapped_spec _ rule)
    · rw [documentRules_array listed, List.any_eq_true]
      simp only [decide_eq_true_eq]
    · exact rewriteRules_again rules
  · have other (rules : List Value) : cfg.get "rules" ≠ some (.array rules) := fun listed =>
      array ⟨rules, listed⟩
    refine ⟨cfg, false, rewriteRules_other other, ⟨fun _ _ => rfl, fun rules listed =>
      absurd listed (other rules), fun _ => rfl⟩, ?_, rewriteRules_other other⟩
    rw [documentRules_other other]
    simp

end Document

/-! The file. -/

inductive IoError where
  | read (reason : String)
  | invalidData (reason : String)
  | write (reason : String)
  | rename (reason : String)
  deriving DecidableEq, Repr

/-- The configuration file, with what a read of it answers, and the temporary one beside it. -/
structure ConfigFile where
  config : Except String String
  tmp : Option String

/-- What the operating system answers, and what a failed write leaves behind. -/
structure Disk where
  write : Except String Unit
  rename : Except String Unit
  torn : Option String

section File

variable (parse : String → Except String Value) (print : Value → String) (disk : Disk)
  (identity : Identity)

/-- Written to the temporary file and renamed over the configuration. -/
def replaceConfig (file : ConfigFile) (cfg : Value) : Except IoError Bool × ConfigFile :=
  match disk.write with
  | .error reason => (.error (.write reason), { file with tmp := disk.torn })
  | .ok () =>
      match disk.rename with
      | .error reason => (.error (.rename reason), { file with tmp := some (print cfg) })
      | .ok () => (.ok true, { config := .ok (print cfg), tmp := none })

def rewriteCertPaths (file : ConfigFile) : Option (Except IoError Bool × ConfigFile) :=
  match file.config with
  | .error reason => some (.error (.read reason), file)
  | .ok raw =>
      match parse raw with
      | .error reason => some (.error (.invalidData reason), file)
      | .ok cfg => do
          let rewritten ← rewriteRules identity cfg
          if rewritten.2 = false then return (.ok false, file)
          return replaceConfig print disk file rewritten.1

variable {parse print disk identity} {file : ConfigFile} {cfg after : Value}

theorem rewriteCertPaths_eq {raw : String} {swapped : Bool} (read : file.config = .ok raw)
    (parsed : parse raw = .ok cfg) (rewritten : rewriteRules identity cfg = some (after, swapped)) :
    rewriteCertPaths parse print disk identity file =
      some
        (if swapped = false then (.ok false, file) else replaceConfig print disk file after) := by
  unfold rewriteCertPaths
  rw [read]
  dsimp only
  rw [parsed]
  dsimp only
  rw [rewritten]
  cases swapped <;> rfl

/-- The configuration is replaced as a whole or not touched. -/
theorem replaceConfig_saved (saved : disk.write = .ok () ∧ disk.rename = .ok ()) :
    replaceConfig print disk file after =
      (.ok true, { config := .ok (print after), tmp := none }) := by
  unfold replaceConfig
  rw [saved.1, saved.2]

theorem replaceConfig_failed (failed : ¬(disk.write = .ok () ∧ disk.rename = .ok ())) :
    ∃ error file', replaceConfig print disk file after = (.error error, file') ∧
      file'.config = file.config := by
  unfold replaceConfig
  split
  · exact ⟨_, _, rfl, rfl⟩
  · next wrote =>
      split
      · exact ⟨_, _, rfl, rfl⟩
      · next renamed => exact absurd ⟨wrote, renamed⟩ failed

variable (parse print disk identity)

/-- What a call that comes back has said, and what it leaves behind. -/
structure Rotates (file : ConfigFile) (cfg after : Value) (swapped : Bool) (file' : ConfigFile) :
    Prop where
  loop : rewriteRules identity cfg = some (after, swapped)
  reported : swapped = true ↔ ∃ rule ∈ documentRules cfg, Certified rule
  written : swapped = true → file' = { config := .ok (print after), tmp := none }
  untouched : swapped = false → file' = file
  again : parse (print after) = .ok after →
    rewriteCertPaths parse print disk identity file' = some (.ok swapped, file')

variable {parse print disk identity}

/-- A rotation changes the paths of the certified rules and nothing else, reports whether there
are any, and has nothing left to change. A disk that fails leaves the configuration alone. -/
theorem rewriteCertPaths_spec {raw : String} (read : file.config = .ok raw)
    (parsed : parse raw = .ok cfg) : ∃ outcome file' after,
    rewriteCertPaths parse print disk identity file = some (outcome, file') ∧
      OnlyCerts identity cfg after ∧
      (∀ swapped, outcome = .ok swapped →
        Rotates parse print disk identity file cfg after swapped file') ∧
      ∀ error, outcome = .error error →
        file'.config = file.config ∧ ¬(disk.write = .ok () ∧ disk.rename = .ok ()) := by
  obtain ⟨after, swapped, rewritten, certs, reported, again⟩ := rewriteRules_spec identity cfg
  have first := @rewriteCertPaths_eq parse print disk identity _ _ _ _ _ read parsed rewritten
  cases swapped with
  | false =>
    refine ⟨.ok false, file, after, first, certs, fun swapped same => ?_, fun _ failed => ?_⟩
    · cases same
      exact ⟨rewritten, reported, fun claimed => absurd claimed (by decide), fun _ => rfl,
        fun _ => first⟩
    · cases failed
  | true =>
    by_cases saved : disk.write = .ok () ∧ disk.rename = .ok ()
    · rw [replaceConfig_saved saved] at first
      refine ⟨_, _, after, first, certs, fun swapped same => ?_, fun _ failed => ?_⟩
      · cases same
        refine ⟨rewritten, reported, fun _ => rfl, fun claimed => absurd claimed (by decide),
          fun kept => ?_⟩
        have second := @rewriteCertPaths_eq parse print disk identity
          { config := .ok (print after), tmp := none } _ _ _ _ rfl kept again
        rw [second, replaceConfig_saved saved]
        rfl
      · cases failed
    · obtain ⟨error, file', failed, kept⟩ := @replaceConfig_failed print disk file after saved
      rw [failed] at first
      refine ⟨_, _, after, first, certs, fun swapped same => ?_, fun _ _ => ⟨kept, saved⟩⟩
      cases same

end File

/-! A gateway that terminates one tunnel. -/

def serverRule (cert key : String) : Value :=
  .object [("cert_path", .string cert), ("direction", .string "decrypt"), ("key_path", .string key)]

def serverDocument (cert key : String) : Value := .object [("rules", .array [serverRule cert key])]

def serverText (cert key : String) : String :=
  "\x7b\n  \"rules\": [\n    \x7b\n      \"cert_path\": \"" ++ cert ++
    "\",\n      \"direction\": \"decrypt\",\n      \"key_path\": \"" ++ key ++
    "\"\n    \x7d\n  ]\n\x7d"

/-- A parser of the texts of two such documents. -/
def parseServer (raw : String) : Except String Value :=
  if raw = serverText "old.crt" "old.key" then .ok (serverDocument "old.crt" "old.key")
  else if raw = serverText "new.crt" "new.key" then .ok (serverDocument "new.crt" "new.key")
  else .error "expected value at line 1 column 1"

def printServer (cfg : Value) : String :=
  match documentRules cfg with
  | [rule] => serverText ((rule.str "cert_path").getD "") ((rule.str "key_path").getD "")
  | _ => ""

/-- The certificate is rotated, and rotating to it once more changes nothing. -/
theorem rewriteCertPaths_spec_server :
    let rotate := rewriteCertPaths parseServer printServer ⟨.ok (), .ok (), none⟩
      ⟨"new.crt", "new.key"⟩
    let rotated : ConfigFile := ⟨.ok (serverText "new.crt" "new.key"), none⟩
    rotate ⟨.ok (serverText "old.crt" "old.key"), none⟩ = some (.ok true, rotated) ∧
      rotate rotated = some (.ok true, rotated) := by
  intro rotate rotated
  obtain ⟨outcome, file', after, run, -, rotates, failed⟩ :=
    @rewriteCertPaths_spec parseServer printServer ⟨.ok (), .ok (), none⟩ ⟨"new.crt", "new.key"⟩
      ⟨.ok (serverText "old.crt" "old.key"), none⟩ (serverDocument "old.crt" "old.key") _ rfl
      (if_pos rfl)
  cases outcome with
  | error error => exact absurd ⟨rfl, rfl⟩ (failed error rfl).2
  | ok swapped =>
    have spec := rotates swapped rfl
    have certified : Certified (serverRule "old.crt" "old.key") := ⟨rfl, rfl⟩
    have claimed : swapped = true := spec.reported.mpr ⟨_, List.mem_singleton_self _, certified⟩
    subst claimed
    have document : rewriteRules ⟨"new.crt", "new.key"⟩ (serverDocument "old.crt" "old.key") =
        some (serverDocument "new.crt" "new.key", true) := rfl
    obtain rfl : serverDocument "new.crt" "new.key" = after :=
      congrArg Prod.fst (Option.some.inj (document.symm.trans spec.loop))
    obtain rfl := spec.written rfl
    exact ⟨run, spec.again rfl⟩

end Seshat.Commands

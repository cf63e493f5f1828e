import Seshat.Commands.CertRotation
import Seshat.Commands.GatewayPlan
import Seshat.Config.Schema
import Seshat.Gateway.Lifecycle
import Seshat.Lib.ForkJoin
import Seshat.Lib.Saturating
import Seshat.Report.Cells
import Mathlib.Tactic.Common

/-! A hot-reload scenario: the engine runs in the main thread, and a timer thread beside it
reloads the first gateway. -/

namespace Seshat.Commands.Reloading
open Config (ReloadAction)
open Seshat.Matrix (Value)
open Gateway Lib.ForkJoin Lib.Machine Lib.Saturating
open Report (RunStats)

/-- What a reload is given. -/
structure Reload where
  action : ReloadAction
  triggerNs : Nat
  connections : Nat
  identity : Identity
  parse : String → Except String Value
  print : Value → String
  first : GatewayProcess
  rest : List GatewayProcess

/-- What the system answers to a call of the timer thread. -/
structure Answer where
  succeeds : Bool
  disk : Disk

/-- Where the timer thread is; what it has read or opened is at hand. -/
inductive Timer where
  | asleep (wake : Nat)
  | ready
  | opened (endpoint wake : Nat)
  | saved (backup : Option String)
  | broken (backup : Option String)
  | restoring (backup : Option String) (wake : Nat)
  | rewritten
  | acted (succeeded : Bool)
  | stored
  | timed
  | finished
  deriving DecidableEq, Repr

/-- The configuration of the first gateway, the endpoints open at its management API, and the
three atomics. `refused` tells of a file operation that failed. -/
structure Work where
  file : ConfigFile
  endpoints : List Nat := []
  created : Nat := 0
  refused : Bool := false
  succeeded : Bool := false
  durationUs : UInt64 := 0
  fired : Bool := false

/-- What the threads share; `started` is when the action began. -/
structure Scene extends Work where
  now : Nat := 0
  started : Nat := 0
  world : World

/-- `500 ms` -/
def pause : Nat := 500 * 1000000

def invalidText : String := "\x7b invalid json!!!"

namespace Reload

variable (reload : Reload)

def procs : List GatewayProcess := reload.first :: reload.rest

def hup : Event := .signalled reload.first.pid .hup

def sendHup (scene : Scene) : Scene := { scene with world := scene.world.record reload.hup }

/-- `fs::write`, whose result nobody looks at. -/
def writeConfig (text : String) (answer : Answer) (scene : Scene) : Scene :=
  if answer.succeeds then
    { scene with
      file := { scene.file with config := .ok text }
      world := scene.world.write reload.first.configPath }
  else
    { scene with
      file := { scene.file with config := answer.disk.torn.elim scene.file.config .ok }
      refused := true }

/-- The first call of the action. -/
def act (scene : Scene) (answer : Answer) : Timer × Scene :=
  match reload.action with
  | .updateTlsProfile => (.acted true, reload.sendHup scene)
  | .addConnection | .removeConnection =>
      if reload.first.mgmtSocket.isNone ∨ answer.succeeds = false then (.acted false, scene)
      else
        (.opened scene.created
            (if reload.action = .addConnection then scene.now + pause else scene.now),
          { scene with
            endpoints := scene.created :: scene.endpoints
            created := scene.created + 1 })
  | .invalidConfig =>
      let backup := if answer.succeeds then scene.file.config.toOption else none
      (.saved backup, { scene with refused := scene.refused || backup.isNone })
  | .rotateCert =>
      match rewriteCertPaths reload.parse reload.print answer.disk reload.identity scene.file with
      | none => (.finished, scene)
      | some (.ok true, file) => (.rewritten, { scene with file })
      | some (_, file) => (.acted false, { scene with file })

def timerStep : Timer → Scene → Answer → Option (Timer × Scene)
  | .asleep wake, scene, _ =>
      if wake ≤ scene.now then some (.ready, { scene with started := scene.now }) else none
  | .ready, scene, answer => some (reload.act scene answer)
  | .opened endpoint wake, scene, answer =>
      if wake ≤ scene.now then
        some
          (if answer.succeeds then
            (.acted true, { scene with endpoints := scene.endpoints.erase endpoint })
          else (.acted false, scene))
      else none
  | .saved backup, scene, answer =>
      some (.broken backup, reload.writeConfig invalidText answer scene)
  | .broken backup, scene, _ =>
      some (.restoring backup (scene.now + pause), reload.sendHup scene)
  | .restoring backup wake, scene, answer =>
      if wake ≤ scene.now then
        some (.acted true, backup.elim scene fun valid => reload.writeConfig valid answer scene)
      else none
  | .rewritten, scene, _ => some (.acted true, reload.sendHup scene)
  | .acted succeeded, scene, _ => some (.stored, { scene with succeeded })
  | .stored, scene, _ =>
      some (.timed, { scene with durationUs := clampWord ((scene.now - scene.started) / 1000) })
  | .timed, scene, _ => some (.finished, { scene with fired := true })
  | .finished, _, _ => none

end Reload

/-! The main thread. -/

structure ReloadArtifact where
  action : String
  fired : Bool
  actionSucceeded : Bool
  reloadDurationUs : UInt64
  connectionsBefore : Nat
  connectionsAfter : Nat
  inflightPacketsLost : UInt64
  latencyP99Us : ℚ
  throughputGbps : ℚ
  rollbackContinuityPassed : Option Bool
  changeApplied : Option Bool

inductive Outcome where
  | skipped (reason : String)
  | aborted (error : GatewayError)
  | recorded (artifact : ReloadArtifact)

/-- Where the main thread is, with what the engine has returned; `none` is an error. -/
inductive Main where
  | running
  | failed (error : String)
  | returned (stats : RunStats)
  | joined (stats : RunStats)
  | ended (engine : Option RunStats) (outcome : Outcome)

/-- What the engine returns, and what the system answers to the shutdown. -/
structure Reply where
  engine : Except String RunStats
  os : Os

def hasMeasurements (stats : RunStats) : Bool := stats.runs.any fun run => run.messages > 0

def reloadIsNoopOnScg (action : ReloadAction) : Bool := action = .updateTlsProfile

namespace Reload

variable (reload : Reload)

def changeApplied (succeeded : Bool) : Option Bool :=
  if reloadIsNoopOnScg reload.action then some false
  else if reload.action = .rotateCert then some succeeded
  else none

def artifact (scene : Scene) (stats : RunStats) : ReloadArtifact where
  action := reload.action.debug
  fired := scene.fired
  actionSucceeded := scene.succeeded
  reloadDurationUs := scene.durationUs
  connectionsBefore := reload.connections
  connectionsAfter := reload.connections
  inflightPacketsLost := stats.totalLost
  latencyP99Us := stats.latencyP99Us.mean
  throughputGbps := stats.throughputGbps.mean
  rollbackContinuityPassed :=
    if reload.action = .invalidConfig then some (scene.succeeded && stats.totalLost = 0) else none
  changeApplied := reload.changeApplied scene.succeeded

/-- The shutdown, which takes the configuration with it, and what comes of it. -/
def close (engine : Option RunStats) (outcome : Outcome) (scene : Scene) (os : Os) :
    Main × Scene :=
  let ended := shutdownPath os reload.procs scene.world
  (.ended engine (match ended.1 with | .error error => .aborted error | .ok () => outcome),
    { scene with
      file := { scene.file with config := .error "No such file or directory (os error 2)" }
      world := ended.2 })

/-- What a run that came back is worth. -/
def judge (scene : Scene) (stats : RunStats) : Outcome :=
  if hasMeasurements stats = false then
    .skipped "no messages reached the receiver (zero-metric result)"
  else if needsManagementEndpoint reload.action ∧ scene.succeeded = false then
    .skipped s!"hot-reload action {reload.action.debug} did not complete"
  else .recorded (reload.artifact scene stats)

def mainStep : Main → Scene → Reply → Option (Main × Scene)
  | .running, scene, reply =>
      some (match reply.engine with | .error error => .failed error | .ok stats => .returned stats,
        scene)
  | .failed error, scene, reply =>
      some (reload.close none (.skipped
        s!"hot-reload run did not complete at {reload.connections} connection(s): {error}")
        scene reply.os)
  | .returned stats, scene, _ => some (.joined stats, scene)
  | .joined stats, scene, reply =>
      some (reload.close (some stats) (reload.judge scene stats) scene reply.os)
  | .ended _ _, _, _ => none

def Main.joins : Main → Bool
  | .returned _ => true
  | _ => false

/-- On an error of the engine the timer thread is not waited for. -/
def reloaded : System Main Timer Scene Reply Answer where
  own := reload.mainStep
  fork := reload.timerStep
  finished thread := thread = .finished
  joins := Main.joins
  pass scene time := { scene with now := scene.now + time }

/-- The gateways are up, and the first has been started with this configuration. -/
def spawned (file : ConfigFile) (w : World) : State Main Timer Scene where
  owner := .running
  thread := .asleep reload.triggerNs
  shared := { file, world := w }

end Reload

/-! What the timer thread has done. -/

theorem rewriteCertPaths_total (parse : String → Except String Value) (print : Value → String)
    (disk : Disk) (identity : Identity) (file : ConfigFile) : ∃ outcome after,
      rewriteCertPaths parse print disk identity file = some (outcome, after) ∧
        (outcome ≠ .ok true → after.config = file.config) := by
  cases read : file.config with
  | error reason => exact ⟨_, file, by rw [rewriteCertPaths, read], fun _ => read⟩
  | ok raw =>
    cases parsed : parse raw with
    | error reason =>
      exact ⟨.error (.invalidData reason), file, by simp only [rewriteCertPaths, read, parsed],
        fun _ => read⟩
    | ok cfg =>
      obtain ⟨after, swapped, rewritten, -⟩ := rewriteRules_spec identity cfg
      have whole := @rewriteCertPaths_eq parse print disk identity _ _ _ _ _ read parsed rewritten
      cases swapped with
      | false => exact ⟨_, file, whole, fun _ => read⟩
      | true =>
        by_cases saved : disk.write = .ok () ∧ disk.rename = .ok ()
        · rw [replaceConfig_saved saved] at whole
          exact ⟨_, _, whole, fun other => absurd rfl other⟩
        · obtain ⟨error, file', failed, kept⟩ := @replaceConfig_failed print disk file after saved
          rw [failed] at whole
          exact ⟨_, _, whole, fun _ => kept.trans read⟩

section Doing

variable (reload : Reload) (before : ConfigFile)

/-- The signals of an action that has `sent` one or none. -/
def hups (sent : Bool) : List Event := if sent then [reload.hup] else []

/-- What an action leaves behind that has succeeded or not, and has signalled or not. -/
inductive Done (file : ConfigFile) (endpoints : List Nat) (refused : Bool) : Bool → Bool → Prop
  | profile (action : reload.action = .updateTlsProfile) (same : file = before)
      (closed : endpoints = []) : Done file endpoints refused true true
  | invalid (action : reload.action = .invalidConfig)
      (restored : refused = false → file.config = before.config) (closed : endpoints = []) :
      Done file endpoints refused true true
  | rotated (disk : Disk) (action : reload.action = .rotateCert)
      (rewritten : rewriteCertPaths reload.parse reload.print disk reload.identity before =
        some (.ok true, file)) (closed : endpoints = []) : Done file endpoints refused true true
  | unrotated (action : reload.action = .rotateCert) (kept : file.config = before.config)
      (closed : endpoints = []) : Done file endpoints refused false false
  | endpoint (succeeded : Bool) (needs : needsManagementEndpoint reload.action = true)
      (same : file = before) (closed : succeeded = true → endpoints = []) :
      Done file endpoints refused succeeded false

/-- The work of the timer thread is done. -/
def WorkDone (work : Work) (succeeded sent : Bool) : Prop :=
  Done reload before work.file work.endpoints work.refused succeeded sent

/-- The backup is the configuration as it was. -/
def Kept (work : Work) (backup : Option String) : Prop :=
  work.refused = false → ∃ raw, backup = some raw ∧ before.config = .ok raw

/-- What the timer thread has done where it is. -/
inductive Doing (work : Work) : Timer → Bool → Prop
  | asleep (wake : Nat) (same : work.file = before) (closed : work.endpoints = []) :
      Doing work (.asleep wake) false
  | ready (same : work.file = before) (closed : work.endpoints = []) : Doing work .ready false
  | opened (endpoint wake : Nat) (needs : needsManagementEndpoint reload.action = true)
      (same : work.file = before) (one : work.endpoints = [endpoint]) :
      Doing work (.opened endpoint wake) false
  | saved (backup : Option String) (action : reload.action = .invalidConfig)
      (kept : Kept before work backup) (closed : work.endpoints = []) :
      Doing work (.saved backup) false
  | broken (backup : Option String) (action : reload.action = .invalidConfig)
      (kept : Kept before work backup) (closed : work.endpoints = []) :
      Doing work (.broken backup) false
  | restoring (backup : Option String) (wake : Nat) (action : reload.action = .invalidConfig)
      (kept : Kept before work backup) (closed : work.endpoints = []) :
      Doing work (.restoring backup wake) true
  | rewritten (disk : Disk) (action : reload.action = .rotateCert)
      (rewritten : rewriteCertPaths reload.parse reload.print disk reload.identity before =
        some (.ok true, work.file)) (closed : work.endpoints = []) : Doing work .rewritten false
  | acted (succeeded sent : Bool) (done : WorkDone reload before work succeeded sent) :
      Doing work (.acted succeeded) sent
  | stored (sent : Bool) (done : WorkDone reload before work work.succeeded sent) :
      Doing work .stored sent
  | timed (sent : Bool) (done : WorkDone reload before work work.succeeded sent) :
      Doing work .timed sent
  | finished (sent : Bool) (fired : work.fired = true)
      (done : WorkDone reload before work work.succeeded sent) : Doing work .finished sent

variable {reload before}

theorem sendHup_events {scene : Scene} {base : List Event}
    (events : scene.world.events = base ++ hups reload false) :
    (reload.sendHup scene).world.events = base ++ hups reload true := by
  change scene.world.events ++ [reload.hup] = base ++ [reload.hup]
  rw [events, hups, if_neg (by decide), List.append_nil]

/-- What a write leaves behind, where none has failed. -/
theorem writeConfig_spec (text : String) (answer : Answer) (scene : Scene) :
    (reload.writeConfig text answer scene).world.events = scene.world.events ∧
    (reload.writeConfig text answer scene).endpoints = scene.endpoints ∧
    ((reload.writeConfig text answer scene).refused = false →
      scene.refused = false ∧ (reload.writeConfig text answer scene).file.config = .ok text) := by
  unfold Reload.writeConfig
  split
  · exact ⟨rfl, rfl, fun whole => ⟨whole, rfl⟩⟩
  · exact ⟨rfl, rfl, fun whole => absurd whole (by simp)⟩

/-- The first call. -/
theorem act_doing {scene : Scene} (same : scene.file = before) (closed : scene.endpoints = [])
    (answer : Answer) :
    ∃ now, Doing reload before (reload.act scene answer).2.toWork (reload.act scene answer).1 now ∧
      ∀ base, scene.world.events = base ++ hups reload false →
        (reload.act scene answer).2.world.events = base ++ hups reload now := by
  have manages (needs : needsManagementEndpoint reload.action = true) (unlike :
      reload.act scene answer =
        if reload.first.mgmtSocket.isNone ∨ answer.succeeds = false then (.acted false, scene)
        else
          (.opened scene.created
              (if reload.action = .addConnection then scene.now + pause else scene.now),
            { scene with
              endpoints := scene.created :: scene.endpoints
              created := scene.created + 1 })) :
      ∃ now, Doing reload before (reload.act scene answer).2.toWork (reload.act scene answer).1
          now ∧ ∀ base, scene.world.events = base ++ hups reload false →
        (reload.act scene answer).2.world.events = base ++ hups reload now := by
    rw [unlike]
    refine ⟨false, ?_, fun base events => ?_⟩
    · split
      · exact .acted false false (.endpoint false needs same (by simp))
      · exact .opened _ _ needs same (congrArg (scene.created :: ·) closed)
    · split <;> exact events
  cases action : reload.action with
  | updateTlsProfile =>
    have call : reload.act scene answer = (.acted true, reload.sendHup scene) := by
      rw [Reload.act, action]
    rw [call]
    exact ⟨true, .acted true true (.profile action same closed), fun base => sendHup_events⟩
  | addConnection => exact manages (by rw [action]; rfl) (by rw [Reload.act, action])
  | removeConnection => exact manages (by rw [action]; rfl) (by rw [Reload.act, action])
  | invalidConfig =>
    have call : reload.act scene answer =
        (.saved (if answer.succeeds then scene.file.config.toOption else none),
          { scene with refused := scene.refused ||
              (if answer.succeeds then scene.file.config.toOption else none).isNone }) := by
      rw [Reload.act, action]
    rw [call]
    refine ⟨false, .saved _ action (fun whole => ?_) closed, fun base events => events⟩
    have found := (Bool.or_eq_false_iff.mp whole).2
    rw [same] at found ⊢
    cases succeeds : answer.succeeds with
    | false => simp [succeeds] at found
    | true =>
      cases read : before.config with
      | error reason => simp [succeeds, read, Except.toOption] at found
      | ok raw => exact ⟨raw, rfl, rfl⟩
  | rotateCert =>
    obtain ⟨outcome, after, rewritten, kept⟩ := rewriteCertPaths_total reload.parse reload.print
      answer.disk reload.identity before
    by_cases done : outcome = .ok true
    · have call : reload.act scene answer = (.rewritten, { scene with file := after }) := by
        simp only [Reload.act, action, same, rewritten, done]
      rw [call]
      exact ⟨false, .rewritten answer.disk action (done ▸ rewritten) closed, fun _ events => events⟩
    · have call : reload.act scene answer = (.acted false, { scene with file := after }) := by
        simp only [Reload.act, action, same, rewritten]
      rw [call]
      exact ⟨false, .acted false false (.unrotated action (kept done) closed),
        fun _ events => events⟩

/-- A step of the timer thread. -/
theorem Doing.stepped {scene : Scene} {timer : Timer} {sent : Bool}
    (doing : Doing reload before scene.toWork timer sent) {answer : Answer}
    {next : Timer × Scene} (moved : reload.timerStep timer scene answer = some next) :
    ∃ now, Doing reload before next.2.toWork next.1 now ∧
      ∀ base, scene.world.events = base ++ hups reload sent →
        next.2.world.events = base ++ hups reload now := by
  cases doing with
  | asleep wake same closed =>
    rw [Reload.timerStep] at moved
    split at moved
    · obtain rfl := Option.some.inj moved
      exact ⟨false, .ready same closed, fun _ events => events⟩
    · cases moved
  | ready same closed =>
    obtain rfl := Option.some.inj moved
    exact act_doing same closed answer
  | opened endpoint wake needs same one =>
    rw [Reload.timerStep] at moved
    split at moved
    · obtain rfl := Option.some.inj moved
      cases answer.succeeds with
      | false =>
        exact ⟨false, .acted false false (.endpoint false needs same (by simp)),
          fun _ events => events⟩
      | true =>
        refine ⟨false, .acted true false (.endpoint true needs same fun _ => ?_),
          fun _ events => events⟩
        simp only [one, if_true, List.erase_cons_head]
    · cases moved
  | saved backup action kept closed =>
    obtain rfl := Option.some.inj moved
    obtain ⟨events, endpoints, whole⟩ := @writeConfig_spec reload invalidText answer scene
    refine ⟨false, .broken backup action (fun unrefused => kept (whole unrefused).1)
      (endpoints.trans closed), fun base before_events => events.trans before_events⟩
  | broken backup action kept closed =>
    obtain rfl := Option.some.inj moved
    exact ⟨true, .restoring backup _ action kept closed, fun base => sendHup_events⟩
  | restoring backup wake action kept closed =>
    rw [Reload.timerStep] at moved
    split at moved
    · obtain rfl := Option.some.inj moved
      refine ⟨true, .acted true true ?_, fun base before_events => ?_⟩
      · cases backup with
        | none =>
          refine .invalid action (fun unrefused => ?_) closed
          obtain ⟨raw, found, -⟩ := kept unrefused
          cases found
        | some valid =>
          obtain ⟨-, endpoints, whole⟩ := @writeConfig_spec reload valid answer scene
          refine .invalid action (fun unrefused => ?_) (endpoints.trans closed)
          obtain ⟨unrefused, written⟩ := whole unrefused
          obtain ⟨raw, found, read⟩ := kept unrefused
          rw [read, ← Option.some.inj found]
          exact written
      · cases backup with
        | none => exact before_events
        | some valid => exact (@writeConfig_spec reload valid answer scene).1.trans before_events
    · cases moved
  | rewritten disk action rewritten closed =>
    obtain rfl := Option.some.inj moved
    exact ⟨true, .acted true true (.rotated disk action rewritten closed), fun base =>
      sendHup_events⟩
  | acted succeeded sent done =>
    obtain rfl := Option.some.inj moved
    exact ⟨sent, .stored sent done, fun _ events => events⟩
  | stored sent done =>
    obtain rfl := Option.some.inj moved
    exact ⟨sent, .timed sent done, fun _ events => events⟩
  | timed sent done =>
    obtain rfl := Option.some.inj moved
    exact ⟨sent, .finished sent rfl done, fun _ events => events⟩
  | finished sent fired done => cases moved

end Doing

/-! Both threads. -/

section Run

variable {reload : Reload} {before : ConfigFile}

/-- Wherever it is, the timer thread records no more than signals to the first gateway. -/
theorem timerStep_late {timer : Timer} {scene : Scene} {answer : Answer} {next : Timer × Scene}
    (moved : reload.timerStep timer scene answer = some next) :
    ∃ late, next.2.world.events = scene.world.events ++ late ∧
      ∀ event ∈ late, event = reload.hup := by
  have quiet {scene' : Scene} (same : scene'.world.events = scene.world.events) :
      ∃ late, scene'.world.events = scene.world.events ++ late ∧
        ∀ event ∈ late, event = reload.hup := ⟨[], by rw [same, List.append_nil], by simp⟩
  have loud : ∃ late, (reload.sendHup scene).world.events = scene.world.events ++ late ∧
      ∀ event ∈ late, event = reload.hup := ⟨[reload.hup], rfl, by simp⟩
  have written (text : String) := quiet (@writeConfig_spec reload text answer scene).1
  cases timer with
  | asleep wake =>
    rw [Reload.timerStep] at moved
    split at moved
    · exact Option.some.inj moved ▸ quiet rfl
    · cases moved
  | ready =>
    obtain rfl := Option.some.inj moved
    rw [Reload.act]
    split
    · exact loud
    · split <;> exact quiet rfl
    · split <;> exact quiet rfl
    · exact quiet rfl
    · split <;> exact quiet rfl
  | opened endpoint wake =>
    rw [Reload.timerStep] at moved
    split at moved
    · obtain rfl := Option.some.inj moved
      split <;> exact quiet rfl
    · cases moved
  | saved backup => exact Option.some.inj moved ▸ written invalidText
  | broken backup => exact Option.some.inj moved ▸ loud
  | restoring backup wake =>
    rw [Reload.timerStep] at moved
    split at moved
    · obtain rfl := Option.some.inj moved
      cases backup with
      | none => exact quiet rfl
      | some valid => exact written valid
    · cases moved
  | rewritten => exact Option.some.inj moved ▸ loud
  | finished => cases moved
  | _ => exact Option.some.inj moved ▸ quiet rfl

/-- The main thread goes on behind the join. -/
def Through (main : Main) : Prop :=
  (∃ stats, main = .joined stats) ∨ ∃ stats outcome, main = .ended (some stats) outcome

theorem behind_join (reload : Reload) : Behind reload.reloaded Through where
  entered main scene reply next moved there := by
    cases main with
    | running =>
      obtain rfl := Option.some.inj moved
      cases engine : reply.engine <;> simp [Through, engine] at there
    | failed error =>
      obtain rfl := Option.some.inj moved
      simp [Through, Reload.close] at there
    | returned stats => exact .inr rfl
    | joined stats => exact .inl (.inl ⟨stats, rfl⟩)
    | ended engine outcome => cases moved

variable (reload before)

/-- A run from where the gateways are up in `w`. -/
inductive Runs (w : World) (s : State Main Timer Scene) : Prop
  | on (sent : Bool) (open_ : ∀ engine outcome, s.owner ≠ .ended engine outcome)
      (doing : Doing reload before s.shared.toWork s.thread sent)
      (events : s.shared.world.events = w.events ++ hups reload sent)
  | through (stats : RunStats) (outcome : Outcome) (sent : Bool) (scene : Scene) (os : Os)
      (ended : s.owner = .ended (some stats) outcome)
      (doing : Doing reload before scene.toWork .finished sent)
      (events : scene.world.events = w.events ++ hups reload sent)
      (world : s.shared.world = (shutdownPath os reload.procs scene.world).2)
      (artifact : ∀ art, outcome = .recorded art → art = reload.artifact scene stats)
  | cut (outcome : Outcome) (sent : Bool) (scene : World) (os : Os) (late : List Event)
      (ended : s.owner = .ended none outcome)
      (events : scene.events = w.events ++ hups reload sent)
      (world : s.shared.world.events = (shutdownPath os reload.procs scene).2.events ++ late)
      (only : ∀ event ∈ late, event = reload.hup)

variable {reload before}

theorem close_outcome {engine : Option RunStats} {outcome : Outcome} {scene : Scene} {os : Os} :
    ∃ last, (reload.close engine outcome scene os).1 = .ended engine last ∧
      ∀ art, last = .recorded art → outcome = .recorded art := by
  refine ⟨_, rfl, fun art same => ?_⟩
  split at same
  · cases same
  · exact same

theorem judge_recorded {scene : Scene} {stats : RunStats} {art : ReloadArtifact}
    (recorded : reload.judge scene stats = .recorded art) : art = reload.artifact scene stats := by
  unfold Reload.judge at recorded
  split at recorded
  · cases recorded
  · split at recorded
    · cases recorded
    · exact (Outcome.recorded.inj recorded).symm

theorem run_runs {w : World} {acts : List (Act Reply Answer)} {s : State Main Timer Scene}
    (ran : run reload.reloaded.step (reload.spawned before w) acts = some s) :
    Runs reload before w s ∧ (Through s.owner → s.thread = .finished) := by
  have kept := run_joined (behind_join reload) (Runs reload before w) ?_ ?_ ?_ ran
    (by simp [Through, Reload.spawned]) ?_
  · exact ⟨kept.1, fun there => of_decide_eq_true (kept.2 there)⟩
  · intro s reply next runs moved joined
    cases runs with
    | on sent open_ doing events =>
      cases main : s.owner with
      | running =>
        rw [main] at moved
        obtain rfl := Option.some.inj moved
        refine .on sent (fun engine outcome => ?_) doing events
        cases reply.engine <;> simp
      | failed error =>
        rw [main] at moved
        obtain rfl := Option.some.inj moved
        obtain ⟨last, same, -⟩ := @close_outcome reload none (.skipped
          s!"hot-reload run did not complete at {reload.connections} connection(s): {error}")
          s.shared reply.os
        exact .cut last sent s.shared.world reply.os [] same events (List.append_nil _).symm
          (by simp)
      | returned stats =>
        rw [main] at moved
        obtain rfl := Option.some.inj moved
        exact .on sent (by simp) doing events
      | joined stats =>
        rw [main] at moved
        obtain rfl := Option.some.inj moved
        obtain ⟨last, same, recorded⟩ := @close_outcome reload (some stats)
          (reload.judge s.shared stats) s.shared reply.os
        have finished : s.thread = .finished :=
          of_decide_eq_true (joined (.inr ⟨stats, last, same⟩))
        exact .through stats last sent s.shared reply.os same (finished ▸ doing) events rfl
          fun art found => judge_recorded (recorded art found)
      | ended engine outcome => exact absurd main (open_ engine outcome)
    | through stats outcome sent scene os ended => rw [ended] at moved; cases moved
    | cut outcome sent scene os late ended => rw [ended] at moved; cases moved
  · intro s answer next runs moved early
    cases runs with
    | on sent open_ doing events =>
      obtain ⟨now, doing, recorded⟩ := doing.stepped moved
      exact .on now open_ doing (recorded w.events events)
    | through stats outcome sent scene os ended =>
      exact absurd (.inr ⟨stats, outcome, ended⟩) early
    | cut outcome sent scene os late ended events world only =>
      obtain ⟨later, recorded, signals⟩ := timerStep_late moved
      refine .cut outcome sent scene os (late ++ later) ended events ?_ ?_
      · rw [recorded, world, List.append_assoc]
      · exact List.forall_mem_append.mpr ⟨only, signals⟩
  · intro s time runs
    cases runs with
    | on sent open_ doing events => exact .on sent open_ doing events
    | through stats outcome sent scene os ended doing events world artifact =>
      exact .through stats outcome sent scene os ended doing events world artifact
    | cut outcome sent scene os late ended events world only =>
      exact .cut outcome sent scene os late ended events world only
  · exact .on false (by simp [Reload.spawned]) (.asleep _ rfl rfl) (List.append_nil _).symm

end Run

/-- The signals of a reload leave the record of another gateway clean, and that of the first as
long as it has not been reaped. -/
theorem clean_hups {reload : Reload} {pid : Nat} {events late : List Event}
    (only : ∀ event ∈ late, event = reload.hup)
    (running : pid = reload.first.pid → .reaped pid ∉ events) :
    Clean pid (events ++ late) ↔ Clean pid events := by
  rw [clean_append]
  refine and_iff_left ⟨?_, fun seen signal sent => ?_⟩
  · refine List.Pairwise.imp_of_mem (R := fun _ _ => True) ?_
      (List.pairwise_of_forall fun _ _ => trivial)
    rintro first second member - - rfl
    cases only _ member
  · obtain ⟨same, -⟩ := Event.signalled.inj (only _ sent)
    exact running same seen

theorem hups_only (reload : Reload) (sent : Bool) :
    ∀ event ∈ hups reload sent, event = reload.hup := by
  cases sent <;> simp [hups]

theorem alive_hups {reload : Reload} {w w' : World} {late : List Event}
    (events : w'.events = w.events ++ late) (only : ∀ event ∈ late, event = reload.hup)
    (pid : Nat) : w'.Alive pid ↔ w.Alive pid := by
  have other {event : Event} (unlike : event ≠ reload.hup) :
      event ∈ w'.events ↔ event ∈ w.events := by
    rw [events, List.mem_append]
    exact or_iff_left fun member => unlike (only event member)
  rw [World.Alive, World.Alive, other (by simp [Reload.hup]), other (by simp [Reload.hup])]

/-- A hot-reload scenario, from the start of its gateways on, in every order of steps of its two
threads. Once the timer thread has been joined its action is through: it has left the
configuration (an invalid one where no file operation was refused) and the endpoints as the action
should, has signalled the first gateway while that ran, and a recorded artifact says so. A signal goes to a gateway that has been reaped, and
then to the first alone, only where the engine has failed, as the timer thread is not waited
for then. Behind the end of the scenario no gateway is left. -/
theorem hot_reload (os : Os) (workDir : String) (readyTimeout : Nat) (gateways : List ApiGateway)
    {w w' : World} (reload : Reload) (before : ConfigFile) (fresh : w.Fresh)
    (clean : ∀ pid, Clean pid w.events)
    (up : startGateways os workDir readyTimeout gateways w = (.ok reload.procs, w'))
    {acts : List (Act Reply Answer)} {s : State Main Timer Scene}
    (ran : run reload.reloaded.step (reload.spawned before w') acts = some s) :
    (∀ stats, s.owner = .joined stats → s.shared.fired = true ∧
      ∃ sent, WorkDone reload before s.shared.toWork s.shared.succeeded sent ∧
        s.shared.world.events = w'.events ++ hups reload sent) ∧
    (∀ stats art, s.owner = .ended (some stats) (.recorded art) → art.fired = true ∧
      ∃ scene sent os', art = reload.artifact scene stats ∧
        WorkDone reload before scene.toWork art.actionSucceeded sent ∧
        scene.world.events = w'.events ++ hups reload sent ∧
        s.shared.world = (shutdownPath os' reload.procs scene.world).2) ∧
    (∀ pid, ¬Clean pid s.shared.world.events →
      pid = reload.first.pid ∧ ∃ outcome, s.owner = .ended none outcome) ∧
    ∀ engine outcome, s.owner = .ended engine outcome →
      ∀ pid, s.shared.world.Alive pid ↔ w.Alive pid := by
  have started := startGateways_started os workDir readyTimeout gateways w
  rw [up] at started
  generalize first : (Except.ok reload.procs : Except GatewayError (List GatewayProcess)) = result
    at started
  cases started with
  | down => cases first
  | up new _ came =>
  obtain rfl : reload.procs = new := Except.ok.inj first
  obtain ⟨runs, joined⟩ := run_runs ran
  have unreaped : ∀ p ∈ reload.procs, .reaped p.pid ∉ w'.events := fun p member => by
    rw [came.reaped]
    exact fresh.not_reaped (came.pid_ge member).1
  have running (pid : Nat) (same : pid = reload.first.pid) : .reaped pid ∉ w'.events :=
    same ▸ unreaped reload.first List.mem_cons_self
  have begun {u : World} {sent : Bool} (events : u.events = w'.events ++ hups reload sent) :
      (∀ pid, Clean pid u.events) ∧ (∀ p ∈ reload.procs, .reaped p.pid ∉ u.events) ∧
        ∀ pid, u.Alive pid ↔ w'.Alive pid := by
    refine ⟨fun pid => ?_, fun p member seen => ?_, alive_hups events (hups_only reload sent)⟩
    · rw [events, clean_hups (hups_only reload sent) (running pid), came.clean]
      exact clean pid
    · rw [events, List.mem_append] at seen
      rcases seen with old | hup
      · exact unreaped p member old
      · cases hups_only reload sent _ hup
  have closed {u : World} {sent : Bool} (events : u.events = w'.events ++ hups reload sent)
      (os' : Os) : (∀ pid, Clean pid (shutdownPath os' reload.procs u).2.events) ∧
        ∀ pid, (shutdownPath os' reload.procs u).2.Alive pid ↔ w.Alive pid := by
    obtain ⟨upright, standing, alive⟩ := begun events
    have ended := shutdownPath_ended os' came.up u
    have distinct : (reload.procs.map GatewayProcess.pid).Nodup := came.pids ▸ List.nodup_range'
    refine ⟨fun pid => (ended.clean distinct standing pid).mpr (upright pid), fun pid => ?_⟩
    have gone : pid ∈ reload.procs.map GatewayProcess.pid → ¬w.Alive pid := by
      rintro member ⟨old, -⟩
      obtain ⟨p, among, rfl⟩ := List.mem_map.mp member
      exact absurd (fresh _ old) (Nat.not_lt.mpr (came.pid_ge among).1)
    rw [ended.alive pid, alive, came.alive fresh pid]
    tauto
  cases runs with
  | on sent open_ doing events =>
    refine ⟨fun stats main => ?_, fun stats art main => absurd main (open_ _ _), fun pid dirty =>
      absurd ((begun events).1 pid) dirty, fun engine outcome main => absurd main (open_ _ _)⟩
    rw [joined (.inl ⟨stats, main⟩)] at doing
    cases doing with
    | finished _ fired done => exact ⟨fired, sent, done, events⟩
  | through stats outcome sent scene os' ended doing events world artifact =>
    obtain ⟨upright, alive⟩ := closed events os'
    refine ⟨fun _ main => absurd main (by simp [ended]), fun stats' art main => ?_,
      fun pid dirty => absurd (world ▸ upright pid) dirty, fun engine outcome' main pid => ?_⟩
    · rw [ended] at main
      cases main
      obtain rfl := artifact art rfl
      cases doing with
      | finished _ fired done => exact ⟨fired, scene, sent, os', rfl, done, events, world⟩
    · rw [world]
      exact alive pid
  | cut outcome sent scene os' late ended events world only =>
    obtain ⟨upright, alive⟩ := closed events os'
    refine ⟨fun _ main => absurd main (by simp [ended]), fun _ _ main =>
      absurd main (by simp [ended]), fun pid dirty => ⟨?_, outcome, ended⟩,
      fun engine outcome' main pid => ?_⟩
    · by_contra other
      refine dirty ?_
      rw [world, clean_hups only fun same => absurd same other]
      exact upright pid
    · rw [alive_hups world only, alive pid]

/-- The relay of a run whose TLS profile is to be updated behind a second. -/
def relayReload : Reload where
  action := .updateTlsProfile
  triggerNs := 10 ^ 9
  connections := 1
  identity := ⟨"swap.crt", "swap.key"⟩
  parse := parseServer
  print := printServer
  first :=
    { label := "a", pid := 0, configPath := "/run/a.config.json", logPath := "/run/a.log"
      tcpListeners := ["127.0.0.1:1"], mgmtSocket := none }
  rest := []

/-- The engine fails at once, and the second passes behind the shutdown. -/
def failingActs : List (Act Reply Answer) :=
  .replicate 2 (.own ⟨.error "accept timed out", calmOs⟩) ++ .pass (10 ^ 9) ::
    .replicate 5 (.fork ⟨true, ⟨.ok (), .ok (), none⟩⟩)

theorem hot_reload_unjoined :
    ∃ w' s, startGateways calmOs "/run" 0 [relay "a"] {} = (.ok relayReload.procs, w') ∧
      run relayReload.reloaded.step (relayReload.spawned ⟨.ok "", none⟩ w') failingActs = some s ∧
      s.shared.world.events = [.spawned 0, .ready 0, .signalled 0 .term, .signalled 0 .kill,
        .reaped 0, .signalled 0 .hup] ∧
      ∀ pid, ¬s.shared.world.Alive pid := by
  refine ⟨_, _, rfl, rfl, rfl, fun pid alive => ?_⟩
  have gone := (@hot_reload calmOs "/run" 0 [relay "a"] {} _ relayReload ⟨.ok "", none⟩
    (by simp [World.Fresh]) (fun _ => List.Pairwise.nil) rfl failingActs _ rfl).2.2.2 _ _ rfl pid
  exact absurd (gone.mp alive).1 (by simp)

end Seshat.Commands.Reloading

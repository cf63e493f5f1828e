import Seshat.Gateway.PathBuilder
import Seshat.Lib.Steps
import Mathlib.Tactic.Common

/-! A gateway child process, from the config file it is started with to its end. What the
system answers is fixed call by call; what the harness does to its children, and which of
its files may be on disk, is recorded. -/

namespace Seshat.Gateway
open Lib.Steps

inductive Signal where
  | hup
  | term
  | kill
  deriving DecidableEq, Repr

/-- What the harness has done to a child, or has learnt of it. -/
inductive Event where
  | spawned (pid : Nat)
  | ready (pid : Nat)
  | signalled (pid : Nat) (signal : Signal)
  | reaped (pid : Nat)
  deriving DecidableEq, Repr

def Event.pid : Event → Nat
  | .spawned pid => pid
  | .ready pid => pid
  | .signalled pid _ => pid
  | .reaped pid => pid

/-- `calls` system calls have been answered, `mgmtIds` management sockets named, `spawned`
children started; a child is known by its number. `files` are the config files and
management sockets that may be there. -/
structure World where
  calls : Nat := 0
  mgmtIds : Nat := 0
  spawned : Nat := 0
  files : List String := []
  events : List Event := []
  deriving DecidableEq, Repr

namespace World

def answered (w : World) : World := { w with calls := w.calls + 1 }
def record (w : World) (event : Event) : World := { w with events := w.events ++ [event] }
def write (w : World) (path : String) : World := { w with files := path :: w.files }
def remove (w : World) (path : String) : World :=
  { w with files := w.files.filter fun other => other ≠ path }

/-- A child that has been started and not yet reaped. -/
def Alive (w : World) (pid : Nat) : Prop :=
  .spawned pid ∈ w.events ∧ .reaped pid ∉ w.events

/-- Only children that have been started are on record. -/
def Fresh (w : World) : Prop := ∀ event ∈ w.events, event.pid < w.spawned

end World

/-- `POLL_INTERVAL`, in nanoseconds. -/
def pollInterval : Nat := 25 * 1000000

/-- `SHUTDOWN_GRACE`. -/
def shutdownGrace : Nat := 5 * 1000000000

inductive Poll where
  | running
  | exited (status : String)
  | fails (error : String)
  deriving DecidableEq, Repr

/-- Where the harness runs, and what the system answers to its `call`-th call. A loop that sleeps
`pollInterval` each turn finds its deadline over once that many turns have passed. -/
structure Os where
  harnessPid : Nat
  runtimeBases : List String
  fails : (call : Nat) → Option String
  poll : (call : Nat) → Poll
  connects : (call : Nat) → (address : String) → Bool
  parses : (address : String) → Bool
  overdue : (timeout turn call : Nat) → Bool
  punctual : ∀ timeout turn call, timeout ≤ pollInterval * turn →
    overdue timeout turn call = true

inductive GatewayError where
  | io (error : String)
  | exited (label status : String)
  | notReady (label : String) (timeout : Nat)
  | noRuntimeDir
  deriving DecidableEq, Repr

/-- `debug` writes a duration. -/
def GatewayError.text (debug : Nat → String) : GatewayError → String
  | .io error => error
  | .exited label status => s!"gateway '{label}' exited during startup with {status}"
  | .notReady label timeout => s!"gateway '{label}' not ready within {debug timeout}"
  | .noRuntimeDir =>
      "could not create a short Unix-socket runtime directory; set SESHAT_RUNTIME_DIR to a " ++
        "writable path shorter than 32 bytes"

/-- `count` calls that may each fail, up to the first that does. -/
def World.attempt (os : Os) : (count : Nat) → World → Option String × World
  | 0, w => (none, w)
  | count + 1, w =>
      match os.fails w.calls with
      | some error => (some error, w.answered)
      | none => World.attempt os count w.answered

/-- `Path::join` of a name that does not start with a slash. -/
def joinPath (base name : String) : String :=
  if base = "" ∨ base.toList.getLast? = some '/' then base ++ name else base ++ "/" ++ name

/-! The configuration it is started with -/

structure ApiConfig where
  udsPath : String
  runtimeDir : String
  shmRingCapacity : Nat
  deriving DecidableEq, Repr

/-- A gateway of a plan, with its management API where it has one. -/
structure ApiGateway extends NamedGateway where
  api : Option ApiConfig := none

def mgmtRingCapacity : Nat := 1024
def maxDirBytes : Nat := 32

/-- `short_runtime_dir`, over the base directories in order of preference. -/
def shortRuntimeDir (os : Os) (name : String) (bases : List String) (last : Option String)
    (w : World) : Except GatewayError String × World :=
  match bases with
  | [] => (.error ((last.map .io).getD .noRuntimeDir), w)
  | base :: rest =>
      let dir := joinPath base name
      if maxDirBytes < dir.utf8ByteSize then shortRuntimeDir os name rest last w
      else
        match w.attempt os 1 with
        | (some error, w) => shortRuntimeDir os name rest (some error) w
        | (none, w) => (.ok dir, w)

def listensOnTcp (rule : RuleConfig) : Bool :=
  rule.listenProto = "tcp" ∧ rule.listenAddr ≠ "unused"

/-- `ensure_readiness_api`: a gateway with no TCP listener is given a socket to come up. -/
def ensureReadinessApi (os : Os) (gateway : ApiGateway) (w : World) :
    Except GatewayError ApiGateway × World :=
  if gateway.config.rules.any listensOnTcp ∨ gateway.api.isSome then (.ok gateway, w)
  else
    let name := s!"sm-{os.harnessPid}-{w.mgmtIds}"
    match shortRuntimeDir os name os.runtimeBases none { w with mgmtIds := w.mgmtIds + 1 } with
    | (.error error, w) => (.error error, w)
    | (.ok dir, w) =>
        let api :=
          { udsPath := joinPath dir "mgmt.sock", runtimeDir := dir
            shmRingCapacity := mgmtRingCapacity }
        (.ok { gateway with api := some api }, w)

def stripPrefix (start text : String) : Option String :=
  if start.toList.isPrefixOf text.toList then
    some (String.ofList (text.toList.drop start.toList.length))
  else none

def normalizeProbeAddr (listenAddr : String) : String :=
  match stripPrefix "0.0.0.0:" listenAddr, stripPrefix "[::]:" listenAddr with
  | some port, _ => "127.0.0.1:" ++ port
  | none, some port => "[::1]:" ++ port
  | none, none => listenAddr

/-! The process -/

/-- `status` is the exit status its `Child` has learnt, once it has reaped the process. -/
structure GatewayProcess where
  label : String
  pid : Nat
  status : Option String := none
  configPath : String
  logPath : String
  tcpListeners : List String
  mgmtSocket : Option String
  finished : Bool := false
  deriving DecidableEq, Repr

namespace GatewayProcess

def configPathOf (workDir label : String) : String := joinPath workDir (label ++ ".config.json")

/-- `GatewayProcess::spawn`. The first call makes the directory; then the config is written,
the log opened twice and its handle copied, and the binary started. -/
def spawn (os : Os) (workDir : String) (gateway : ApiGateway) (w : World) :
    Except GatewayError GatewayProcess × World :=
  let configPath := configPathOf workDir gateway.label
  match w.attempt os 1 with
  | (some error, w) => (.error (.io error), w)
  | (none, w) =>
      match (w.write configPath).attempt os 5 with
      | (some error, w) => (.error (.io error), w)
      | (none, w) =>
          let mgmtSocket := gateway.api.map ApiConfig.udsPath
          let process :=
            { label := gateway.label
              pid := w.spawned
              configPath
              logPath := joinPath workDir (gateway.label ++ ".log")
              tcpListeners :=
                (gateway.config.rules.filter listensOnTcp).map fun rule =>
                  normalizeProbeAddr rule.listenAddr
              mgmtSocket }
          let w := mgmtSocket.toList.foldl World.write w
          (.ok process, { w with spawned := w.spawned + 1 }.record (.spawned process.pid))

/-- The files a process takes with it when it ends. -/
def files (p : GatewayProcess) : List String := p.configPath :: p.mgmtSocket.toList

/-- `Child::try_wait`: a status once learnt is not asked for again. -/
def tryWait (os : Os) (s : GatewayProcess × World) :
    Except GatewayError Bool × (GatewayProcess × World) :=
  if s.1.status.isSome then (.ok true, s)
  else
    match os.poll s.2.calls with
    | .running => (.ok false, (s.1, s.2.answered))
    | .exited status =>
        (.ok true, ({ s.1 with status := some status }, s.2.answered.record (.reaped s.1.pid)))
    | .fails error => (.error (.io error), (s.1, s.2.answered))

/-- The listeners are tried in turn, up to the first that is not up; an address that does
not parse is passed over. -/
def tcpUp (os : Os) : (addresses : List String) → World → Bool × World
  | [], w => (true, w)
  | address :: rest, w =>
      if os.parses address then
        if os.connects w.calls address then tcpUp os rest w.answered else (false, w.answered)
      else tcpUp os rest w

def allListenersUp (os : Os) (p : GatewayProcess) (w : World) : Bool × World :=
  match tcpUp os p.tcpListeners w, p.mgmtSocket with
  | (true, w), some socket => (os.connects w.calls socket, w.answered)
  | (up, w), _ => (up, w)

/-- A turn of `wait_ready`, and what follows its sleep. -/
def readyTurn (os : Os) (timeout turn : Nat) (next : Step (GatewayProcess × World) GatewayError) :
    Step (GatewayProcess × World) GatewayError := fun s =>
  match tryWait os s with
  | (.error error, s) => (.error error, s)
  | (.ok true, s) => (.error (.exited s.1.label (s.1.status.getD "")), s)
  | (.ok false, s) =>
      match allListenersUp os s.1 s.2 with
      | (true, w) => (.ok (), (s.1, w.record (.ready s.1.pid)))
      | (false, w) =>
          if os.overdue timeout turn w.calls then (.error (.notReady s.1.label timeout), (s.1, w))
          else next (s.1, w)

/-- The loop of `wait_ready`. It has turns enough: the last begins behind the deadline. -/
def readyTurns (os : Os) (timeout : Nat) :
    (left turn : Nat) → Step (GatewayProcess × World) GatewayError
  | 0, turn => readyTurn os timeout turn fun s => (.error (.notReady s.1.label timeout), s)
  | left + 1, turn => readyTurn os timeout turn (readyTurns os timeout left (turn + 1))

def waitReady (os : Os) (timeout : Nat) : Step (GatewayProcess × World) GatewayError :=
  readyTurns os timeout (timeout / pollInterval + 1) 0

def signal (signal : Signal) (s : GatewayProcess × World) : GatewayProcess × World :=
  (s.1, s.2.record (.signalled s.1.pid signal))

/-- `Child::wait` blocks until the child has ended, and reaps it. -/
def wait (s : GatewayProcess × World) : GatewayProcess × World :=
  if s.1.status.isSome then s
  else ({ s.1 with status := some "waited for" }, s.2.record (.reaped s.1.pid))

def removeFiles (s : GatewayProcess × World) : GatewayProcess × World :=
  (s.1, s.1.files.foldl World.remove s.2)

/-- A turn in which `terminate` gives the child time to end by itself. -/
def graceTurn (os : Os) (turn : Nat) (next : Step (GatewayProcess × World) GatewayError) :
    Step (GatewayProcess × World) GatewayError := fun s =>
  if os.overdue shutdownGrace turn s.2.calls then (.ok (), s)
  else
    match tryWait os s with
    | (.error error, s) => (.error error, s)
    | (.ok true, s) => (.ok (), s)
    | (.ok false, s) => next s

def graceTurns (os : Os) : (left turn : Nat) → Step (GatewayProcess × World) GatewayError
  | 0, turn => graceTurn os turn done
  | left + 1, turn => graceTurn os turn (graceTurns os left (turn + 1))

/-- `SIGTERM`, the grace period, and `SIGKILL` for a child that has outlived it. -/
def stop (os : Os) : Step (GatewayProcess × World) GatewayError := fun s =>
  match tryWait os s with
  | (.error error, s) => (.error error, s)
  | (.ok true, s) => (.ok (), s)
  | (.ok false, s) =>
      match graceTurns os (shutdownGrace / pollInterval + 1) 0 (signal .term s) with
      | (.error error, s) => (.error error, s)
      | (.ok (), s) =>
          match tryWait os s with
          | (.error error, s) => (.error error, s)
          | (.ok true, s) => (.ok (), s)
          | (.ok false, s) => (.ok (), signal .kill s)

def terminate (os : Os) : Step (GatewayProcess × World) GatewayError := fun s =>
  if s.1.finished then (.ok (), s)
  else
    match stop os s with
    | (.error error, s) => (.error error, s)
    | (.ok (), s) =>
        let s := wait s
        (.ok (), removeFiles ({ s.1 with finished := true }, s.2))

/-- The process goes out of scope. -/
def drop (s : GatewayProcess × World) : World :=
  if s.1.finished then s.2 else (removeFiles (wait (signal .kill s))).2

def shutdown (os : Os) (p : GatewayProcess) (w : World) : Except GatewayError Unit × World :=
  match terminate os (p, w) with
  | (result, s) => (result, drop s)

/-! What each of these does to the record -/

/-- `events` have been recorded since, and no file has been touched. -/
structure After (w : World) (events : List Event) (w' : World) : Prop where
  events : w'.events = w.events ++ events
  files : w'.files = w.files
  spawned : w'.spawned = w.spawned

theorem After.refl (w : World) : After w [] w := ⟨(List.append_nil _).symm, rfl, rfl⟩

theorem After.answered (w : World) : After w [] w.answered :=
  ⟨(List.append_nil _).symm, rfl, rfl⟩

theorem After.record {w w' : World} {events : List Event} (after : After w events w')
    (event : Event) : After w (events ++ [event]) (w'.record event) := by
  refine ⟨?_, after.files, after.spawned⟩
  rw [World.record, after.events, List.append_assoc]

theorem After.trans {w w' w'' : World} {first second : List Event} (before : After w first w')
    (after : After w' second w'') : After w (first ++ second) w'' := by
  refine ⟨?_, after.files.trans before.files, after.spawned.trans before.spawned⟩
  rw [after.events, before.events, List.append_assoc]

theorem After.quiet {w w' w'' : World} {events : List Event} (before : After w [] w')
    (after : After w' events w'') : After w events w'' := by
  simpa only [List.nil_append] using before.trans after

/-- One look at a child that has not been reaped. -/
inductive Looked (s : GatewayProcess × World) :
    Except GatewayError Bool × (GatewayProcess × World) → Prop
  | running (w : World) (after : After s.2 [] w) : Looked s (.ok false, (s.1, w))
  | fails (error : String) (w : World) (after : After s.2 [] w) :
      Looked s (.error (.io error), (s.1, w))
  | ended (status : String) (w : World) (after : After s.2 [.reaped s.1.pid] w) :
      Looked s (.ok true, ({ s.1 with status := some status }, w))

theorem tryWait_looked (os : Os) {s : GatewayProcess × World} (unreaped : s.1.status = none) :
    Looked s (tryWait os s) := by
  rw [tryWait, unreaped, Option.isSome_none, if_neg (by simp)]
  split
  · exact .running _ (After.answered _)
  · exact .ended _ _ ((After.answered _).record _)
  · exact .fails _ _ (After.answered _)

theorem tcpUp_after (os : Os) (addresses : List String) (w : World) :
    After w [] (tcpUp os addresses w).2 := by
  induction addresses generalizing w with
  | nil => exact After.refl w
  | cons address rest ih =>
    unfold tcpUp
    split
    · split
      · exact (After.answered w).quiet (ih _)
      · exact After.answered w
    · exact ih w

theorem allListenersUp_after (os : Os) (p : GatewayProcess) (w : World) :
    After w [] (allListenersUp os p w).2 := by
  have tried := tcpUp_after os p.tcpListeners w
  unfold allListenersUp
  split
  · rename_i found _
    rw [found] at tried
    exact tried.quiet (After.answered _)
  · rename_i found _
    rw [found] at tried
    exact tried

/-- How the wait for the listeners of a child that runs may end. -/
inductive Readied (s : GatewayProcess × World) :
    Except GatewayError Unit × (GatewayProcess × World) → Prop
  | ready (w : World) (after : After s.2 [.ready s.1.pid] w) : Readied s (.ok (), (s.1, w))
  | fails (error : GatewayError) (w : World) (other : ∀ label status, error ≠ .exited label status)
      (after : After s.2 [] w) : Readied s (.error error, (s.1, w))
  | gone (status : String) (w : World) (after : After s.2 [.reaped s.1.pid] w) :
      Readied s (.error (.exited s.1.label status), ({ s.1 with status := some status }, w))

theorem Readied.quiet {p : GatewayProcess} {w w' : World}
    {result : Except GatewayError Unit × (GatewayProcess × World)} (before : After w [] w')
    (later : Readied (p, w') result) : Readied (p, w) result := by
  cases later with
  | ready last after => exact .ready last (before.quiet after)
  | fails error last other after => exact .fails error last other (before.quiet after)
  | gone status last after => exact .gone status last (before.quiet after)

theorem readyTurn_readied (os : Os) (timeout turn : Nat) {s : GatewayProcess × World}
    (unreaped : s.1.status = none) {next : Step (GatewayProcess × World) GatewayError}
    (later : ∀ w, Readied (s.1, w) (next (s.1, w))) :
    Readied s (readyTurn os timeout turn next s) := by
  have look := tryWait_looked os unreaped
  unfold readyTurn
  generalize tryWait os s = looked at look
  cases look with
  | fails error w after => exact .fails _ w (by simp) after
  | ended status w after => exact .gone status w after
  | running w after =>
    have tried := after.quiet (allListenersUp_after os s.1 w)
    simp only
    generalize allListenersUp os s.1 w = found at tried
    obtain ⟨up, w'⟩ := found
    cases up with
    | true => exact .ready _ (tried.record (.ready s.1.pid))
    | false =>
      simp only
      split
      · exact .fails _ _ (by simp) tried
      · exact (later w').quiet tried

theorem readyTurns_readied (os : Os) (timeout : Nat) {p : GatewayProcess}
    (unreaped : p.status = none) (left turn : Nat) (w : World) :
    Readied (p, w) (readyTurns os timeout left turn (p, w)) := by
  induction left generalizing turn w with
  | zero =>
    exact readyTurn_readied os timeout turn unreaped fun w' =>
      .fails (.notReady p.label timeout) w' (by simp) (After.refl w')
  | succ left ih => exact readyTurn_readied os timeout turn unreaped (ih (turn + 1))

theorem waitReady_readied (os : Os) (timeout : Nat) {p : GatewayProcess}
    (unreaped : p.status = none) (w : World) : Readied (p, w) (waitReady os timeout (p, w)) :=
  readyTurns_readied os timeout unreaped _ 0 w

/-- A turn behind the deadline is the last. -/
theorem readyTurn_last (os : Os) {timeout turn : Nat} (passed : timeout ≤ pollInterval * turn)
    (next other : Step (GatewayProcess × World) GatewayError) :
    readyTurn os timeout turn next = readyTurn os timeout turn other := by
  funext s
  unfold readyTurn
  simp only [os.punctual timeout turn _ passed, if_true]

/-- Allowing `wait_ready` more turns than it has changes nothing. -/
theorem readyTurns_enough (os : Os) {timeout left turn : Nat}
    (passed : timeout ≤ pollInterval * (turn + left)) (more : Nat) :
    readyTurns os timeout (left + more) turn = readyTurns os timeout left turn := by
  induction left generalizing turn with
  | zero => cases more <;> exact readyTurn_last os passed _ _
  | succ left ih =>
    rw [Nat.add_right_comm, readyTurns, readyTurns, ih (by rwa [Nat.add_right_comm])]

theorem waitReady_enough (os : Os) (timeout more : Nat) :
    readyTurns os timeout (timeout / pollInterval + 1 + more) 0 = waitReady os timeout := by
  refine readyTurns_enough os ?_ more
  rw [Nat.zero_add]
  exact (Nat.lt_mul_div_succ timeout (by decide)).le

/-- How a child that runs has been watched: it runs on, or has been reaped. -/
inductive Watched (s : GatewayProcess × World) :
    Except GatewayError Unit × (GatewayProcess × World) → Prop
  | running (w : World) (after : After s.2 [] w) : Watched s (.ok (), (s.1, w))
  | fails (error : String) (w : World) (after : After s.2 [] w) :
      Watched s (.error (.io error), (s.1, w))
  | ended (status : String) (w : World) (after : After s.2 [.reaped s.1.pid] w) :
      Watched s (.ok (), ({ s.1 with status := some status }, w))

theorem Watched.quiet {p : GatewayProcess} {w w' : World}
    {result : Except GatewayError Unit × (GatewayProcess × World)} (before : After w [] w')
    (later : Watched (p, w') result) : Watched (p, w) result := by
  cases later with
  | running last after => exact .running last (before.quiet after)
  | fails error last after => exact .fails error last (before.quiet after)
  | ended status last after => exact .ended status last (before.quiet after)

theorem graceTurn_watched (os : Os) (turn : Nat) {s : GatewayProcess × World}
    (unreaped : s.1.status = none) {next : Step (GatewayProcess × World) GatewayError}
    (later : ∀ w, Watched (s.1, w) (next (s.1, w))) : Watched s (graceTurn os turn next s) := by
  unfold graceTurn
  split
  · exact .running s.2 (After.refl s.2)
  · have look := tryWait_looked os unreaped
    generalize tryWait os s = looked at look
    cases look with
    | running w after => exact (later w).quiet after
    | fails error w after => exact .fails error w after
    | ended status w after => exact .ended status w after

theorem graceTurns_watched (os : Os) {p : GatewayProcess} (unreaped : p.status = none)
    (left turn : Nat) (w : World) : Watched (p, w) (graceTurns os left turn (p, w)) := by
  induction left generalizing turn w with
  | zero => exact graceTurn_watched os turn unreaped fun w' => .running w' (After.refl w')
  | succ left ih => exact graceTurn_watched os turn unreaped (ih (turn + 1))

/-- The signals of a stop, in order. -/
def signals (pid : Nat) (sent : List Signal) : List Event := sent.map (.signalled pid)

/-- How the stop of a child that runs may end. -/
inductive Stopped (s : GatewayProcess × World) :
    Except GatewayError Unit × (GatewayProcess × World) → Prop
  | ended (sent : List Signal) (status : String) (w : World)
      (after : After s.2 (signals s.1.pid sent ++ [.reaped s.1.pid]) w) :
      Stopped s (.ok (), ({ s.1 with status := some status }, w))
  | killed (sent : List Signal) (w : World) (after : After s.2 (signals s.1.pid sent) w) :
      Stopped s (.ok (), (s.1, w))
  | fails (sent : List Signal) (error : String) (w : World)
      (after : After s.2 (signals s.1.pid sent) w) : Stopped s (.error (.io error), (s.1, w))

theorem stop_stopped (os : Os) {s : GatewayProcess × World} (unreaped : s.1.status = none) :
    Stopped s (stop os s) := by
  have look := tryWait_looked os unreaped
  unfold stop
  generalize tryWait os s = looked at look
  cases look with
  | fails error w after => exact .fails [] error w after
  | ended status w after => exact .ended [] status w after
  | running w after =>
    have asked : After s.2 (signals s.1.pid [.term]) (w.record (.signalled s.1.pid .term)) :=
      after.record _
    have watch := graceTurns_watched os unreaped (shutdownGrace / pollInterval + 1) 0
      (w.record (.signalled s.1.pid .term))
    simp only [signal]
    generalize graceTurns os _ 0 _ = watched at watch
    cases watch with
    | fails error w' waited => exact .fails [.term] error w' (by simpa using asked.trans waited)
    | ended status w' waited =>
      simp only [tryWait, Option.isSome_some, if_true]
      exact .ended [.term] status w' (asked.trans waited)
    | running w' waited =>
      have so_far : After s.2 (signals s.1.pid [.term]) w' := by
        simpa using asked.trans waited
      have look' := tryWait_looked os (s := (s.1, w')) unreaped
      simp only
      generalize tryWait os (s.1, w') = looked' at look'
      cases look' with
      | fails error w'' once => exact .fails [.term] error w'' (by simpa using so_far.trans once)
      | ended status w'' once => exact .ended [.term] status w'' (so_far.trans once)
      | running w'' once =>
        exact .killed [.term, .kill] _ ((so_far.trans once).record _)

/-- `p` has come to its end: `sent` are the signals it got before it was reaped, and its files
are gone. -/
structure Ended (p : GatewayProcess) (w : World) (sent : List Signal) (w' : World) : Prop where
  events : w'.events = w.events ++ (signals p.pid sent ++ [.reaped p.pid])
  spawned : w'.spawned = w.spawned
  files : ∀ path, path ∈ w'.files ↔ path ∈ w.files ∧ path ∉ p.files

theorem remove_all (paths : List String) (w : World) :
    (paths.foldl World.remove w).events = w.events ∧
      (paths.foldl World.remove w).spawned = w.spawned ∧
      ∀ path, path ∈ (paths.foldl World.remove w).files ↔ path ∈ w.files ∧ path ∉ paths := by
  induction paths generalizing w with
  | nil => exact ⟨rfl, rfl, fun path => by simp⟩
  | cons first rest ih =>
    obtain ⟨events, spawned, files⟩ := ih (w.remove first)
    refine ⟨events, spawned, fun path => ?_⟩
    rw [List.foldl_cons, files path, World.remove, List.mem_filter, List.mem_cons, not_or,
      and_assoc, decide_eq_true_iff]

theorem ended_of_after {p q : GatewayProcess} {w w' : World} {sent : List Signal}
    (same : q.files = p.files)
    (after : After w (signals p.pid sent ++ [.reaped p.pid]) w') :
    Ended p w sent (removeFiles (q, w')).2 := by
  obtain ⟨events, spawned, files⟩ := remove_all q.files w'
  refine ⟨events.trans after.events, spawned.trans after.spawned, fun path => ?_⟩
  exact (files path).trans (by rw [after.files, same])

/-- A child that has not been reaped goes out of scope: it is killed and reaped. -/
theorem drop_ended {p : GatewayProcess} (unreaped : p.status = none)
    (unfinished : p.finished = false) (w : World) : Ended p w [.kill] (drop (p, w)) := by
  simp only [drop, unfinished, wait, signal, unreaped]
  exact ended_of_after rfl (((After.refl w).record _).record _)

/-- A child that has been reaped goes out of scope: its number is sent a signal all the same. -/
theorem drop_reaped {p : GatewayProcess} (reaped : p.status.isSome)
    (unfinished : p.finished = false) (w : World) :
    (drop (p, w)).events = w.events ++ [.signalled p.pid .kill] ∧
      (drop (p, w)).spawned = w.spawned ∧
      ∀ path, path ∈ (drop (p, w)).files ↔ path ∈ w.files ∧ path ∉ p.files := by
  simp only [drop, unfinished, wait, signal, reaped]
  exact remove_all p.files (w.record (.signalled p.pid .kill))

/-- However a shutdown goes, the child has been reaped behind it, and no signal has been sent
to it after that. -/
theorem shutdown_ended (os : Os) {p : GatewayProcess} (unreaped : p.status = none)
    (unfinished : p.finished = false) (w : World) :
    ∃ sent, Ended p w sent (shutdown os p w).2 := by
  have stopped := stop_stopped os (s := (p, w)) unreaped
  simp only [shutdown, terminate, unfinished]
  generalize stop os (p, w) = result at stopped
  cases stopped with
  | ended sent status w' after => exact ⟨sent, ended_of_after rfl after⟩
  | killed sent w' after =>
    simp only [wait, unreaped]
    exact ⟨sent, ended_of_after rfl (after.record _)⟩
  | fails sent error w' after =>
    refine ⟨sent ++ [.kill], ?_⟩
    have dropped := drop_ended unreaped unfinished w'
    refine ⟨?_, dropped.spawned.trans after.spawned, fun path => ?_⟩
    · change (drop (p, w')).events = _
      rw [dropped.events, after.events]
      simp [signals]
    · rw [← after.files]
      exact dropped.files path

end GatewayProcess

end Seshat.Gateway

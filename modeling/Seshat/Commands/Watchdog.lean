import Seshat.Gateway.Lifecycle
import Seshat.Lib.Durations
import Seshat.Lib.ForkJoin
import Mathlib.Tactic.Common

/-! The watchdog of a gateway scenario, beside the thread that runs the scenario and then ends
its gateways. -/

namespace Seshat.Commands
open Gateway Lib.Durations Lib.ForkJoin Lib.Machine

/-- Ten minutes at least. -/
def watchdogCap (warmup measure cooldown : Duration) (runs : Nat) : Duration :=
  let nominal := ((warmup.satAdd measure).satAdd cooldown).satMul (.ofNat (max runs 1))
  let cap := (nominal.satMul 5).satAdd (.ofSecs 120)
  if cap.ns < (Duration.ofSecs 600).ns then .ofSecs 600 else cap

/-- The pause of the watchdog, in nanoseconds. -/
def watchdogPause : Nat := 250 * 1000000

/-- Where the watchdog is: it reads the clock, then its flag, and sleeps. -/
inductive Watchdog where
  | spawned
  | looping
  | asking
  | sleeping (wake : Nat)
  | checking
  | killing (left : List Nat)
  | finished
  deriving DecidableEq, Repr

/-- Where the scenario is: its engine runs, has returned, `watchdog_done` is set, the watchdog
has been joined, the gateways have ended. -/
inductive Phase where
  | running
  | returned
  | waiting
  | joined
  | ended
  deriving DecidableEq, Repr

/-- The clock, when the watchdog first read it, and when its flag was set. -/
structure Clocks where
  now : Nat := 0
  began : Option Nat := none
  done : Option Nat := none
  deriving DecidableEq, Repr

structure Scene extends Clocks where
  world : World

/-- The gateways are shut down, or go out of scope behind an error. -/
inductive Ending where
  | shutdown (os : Os)
  | dropped

def Ending.close (procs : List GatewayProcess) (w : World) : Ending → World
  | .shutdown os => (shutdownPath os procs w).2
  | .dropped => dropAll procs w

section Machine

variable (cap : Nat) (procs : List GatewayProcess)

def ownerStep : Phase → Scene → Ending → Option (Phase × Scene)
  | .running, scene, _ => some (.returned, scene)
  | .returned, scene, _ => some (.waiting, { scene with done := some scene.now })
  | .waiting, scene, _ => some (.joined, scene)
  | .joined, scene, ending =>
      some (.ended, { scene with world := ending.close procs scene.world })
  | .ended, _, _ => none

def watchdogStep : Watchdog → Scene → Unit → Option (Watchdog × Scene)
  | .spawned, scene, _ => some (.looping, { scene with began := some scene.now })
  | .looping, scene, _ =>
      some (if scene.now - scene.began.getD 0 < cap then .asking else .checking, scene)
  | .asking, scene, _ =>
      some (if scene.done.isSome then .finished else .sleeping (scene.now + watchdogPause), scene)
  | .sleeping wake, scene, _ => if wake ≤ scene.now then some (.looping, scene) else none
  | .checking, scene, _ =>
      some (if scene.done.isSome then .finished else .killing (procs.map GatewayProcess.pid), scene)
  | .killing [], scene, _ => some (.finished, scene)
  | .killing (pid :: rest), scene, _ =>
      some (.killing rest, { scene with world := scene.world.record (.signalled pid .kill) })
  | .finished, _, _ => none

def watched : System Phase Watchdog Scene Ending Unit where
  own := ownerStep procs
  fork := watchdogStep cap procs
  finished thread := thread = .finished
  joins phase := phase = .waiting
  pass scene time := { scene with now := scene.now + time }

/-- The gateways are up. Without a gateway there is no watchdog. -/
def begun (w : World) : State Phase Watchdog Scene where
  owner := .running
  thread := if procs.isEmpty then .finished else .spawned
  shared := { world := w }

end Machine

/-! The budget. -/

/-- Five times what the phases of all runs take, and two minutes. -/
theorem watchdogCap_ns (warmup measure cooldown : Duration) (runs : UInt32) :
    (watchdogCap warmup measure cooldown runs.toNat).ns =
      max (600 * 10 ^ 9) (min (limit - 1)
        (5 * (max runs.toNat 1 * (warmup.ns + measure.ns + cooldown.ns)) + 120 * 10 ^ 9)) := by
  have small := runs.toNat_lt
  have word : (UInt32.ofNat (max runs.toNat 1)).toNat = max runs.toNat 1 := by
    rw [UInt32.toNat_ofNat', Nat.mod_eq_of_lt (by omega)]
  have positive : UInt32.ofNat (max runs.toNat 1) ≠ 0 := fun zero => by
    rw [zero, UInt32.toNat_zero] at word
    omega
  have nominal : ((warmup.satAdd measure).satAdd cooldown).satMul (.ofNat (max runs.toNat 1)) =
      .saturated ((warmup.ns + measure.ns + cooldown.ns) * max runs.toNat 1) := by
    have sum : warmup.satAdd measure = .saturated (warmup.ns + measure.ns) := rfl
    rw [sum, Duration.satAdd_saturated, Duration.satMul_saturated _ positive, word]
  have five : (5 : UInt32).toNat = 5 := rfl
  have mins : (Duration.ofSecs 120).ns = 120 * 10 ^ 9 := rfl
  have least : (Duration.ofSecs 600).ns = 600 * 10 ^ 9 := rfl
  have cap : ((Duration.saturated ((warmup.ns + measure.ns + cooldown.ns) *
      max runs.toNat 1)).satMul 5).satAdd (.ofSecs 120) = .saturated
        (5 * (max runs.toNat 1 * (warmup.ns + measure.ns + cooldown.ns)) + 120 * 10 ^ 9) := by
    rw [Duration.satMul_saturated _ (by decide), Duration.satAdd_saturated, five, mins,
      Nat.mul_comm (max runs.toNat 1), Nat.mul_comm 5]
  rw [watchdogCap, nominal, cap, min_comm]
  split
  · next short => exact (max_eq_left (least ▸ short.le)).symm
  · next long => exact (max_eq_right (least ▸ not_lt.mp long)).symm

/-! What the watchdog has done. -/

/-- The gateways that have been killed. -/
def killed (pids : List Nat) (w : World) : World :=
  pids.foldl (fun w pid => w.record (.signalled pid .kill)) w

theorem killed_eq (pids : List Nat) (w : World) :
    killed pids w = { w with events := w.events ++ pids.map fun pid => .signalled pid .kill } := by
  induction pids generalizing w with
  | nil => simp [killed]
  | cons pid rest ih =>
    rw [killed, List.foldl_cons, ← killed, ih]
    simp [World.record]

section Run

variable (cap : Nat) (pids : List Nat)

/-- The budget has run out. -/
def Past (clocks : Clocks) : Prop := ∃ start, clocks.began = some start ∧ start + cap ≤ clocks.now

/-- The budget ran out before the flag was set. -/
def Late (clocks : Clocks) : Prop :=
  ∃ start, clocks.began = some start ∧ start + cap ≤ clocks.now ∧
    ∀ set ∈ clocks.done, start + cap ≤ set

/-- Whom the watchdog has killed where it is. -/
inductive Stage (clocks : Clocks) : Watchdog → List Nat → Prop
  | spawned : Stage clocks .spawned []
  | looping (start : Nat) (read : clocks.began = some start) (early : start ≤ clocks.now) :
      Stage clocks .looping []
  | asking (start : Nat) (read : clocks.began = some start) (early : start ≤ clocks.now) :
      Stage clocks .asking []
  | sleeping (start wake : Nat) (read : clocks.began = some start) (early : start ≤ clocks.now)
      (soon : wake ≤ clocks.done.getD clocks.now + watchdogPause) : Stage clocks (.sleeping wake) []
  | checking (past : Past cap clocks) : Stage clocks .checking []
  | killing (hit left : List Nat) (split : pids = hit ++ left) (late : Late cap clocks) :
      Stage clocks (.killing left) hit
  | spared (why : pids = [] ∨ clocks.done ≠ none) : Stage clocks .finished []
  | struck (late : Late cap clocks) : Stage clocks .finished pids

variable {cap pids}

theorem Stage.passed {clocks : Clocks} {thread : Watchdog} {hit : List Nat}
    (stage : Stage cap pids clocks thread hit) (time : Nat) :
    Stage cap pids { clocks with now := clocks.now + time } thread hit := by
  have later {bound : Nat} (known : bound ≤ clocks.now) : bound ≤ clocks.now + time := by omega
  cases stage with
  | spawned => exact .spawned
  | looping start read early => exact .looping start read (later early)
  | asking start read early => exact .asking start read (later early)
  | sleeping start wake read early soon =>
    refine .sleeping start wake read (later early) ?_
    cases done : clocks.done with
    | none =>
      rw [done, Option.getD_none] at soon
      simp only [Option.getD_none]
      omega
    | some set =>
      rw [done, Option.getD_some] at soon
      simpa only [done, Option.getD_some] using soon
  | checking past =>
    obtain ⟨start, read, finished⟩ := past
    exact .checking ⟨start, read, later finished⟩
  | killing hit left split late =>
    obtain ⟨start, read, finished, set⟩ := late
    exact .killing hit left split ⟨start, read, later finished, set⟩
  | spared why => exact .spared why
  | struck late =>
    obtain ⟨start, read, finished, set⟩ := late
    exact .struck ⟨start, read, later finished, set⟩

/-- The flag is set. -/
theorem Stage.set {clocks : Clocks} {thread : Watchdog} {hit : List Nat}
    (stage : Stage cap pids clocks thread hit) (unset : clocks.done = none) :
    Stage cap pids { clocks with done := some clocks.now } thread hit := by
  have still (late : Late cap clocks) : Late cap { clocks with done := some clocks.now } := by
    obtain ⟨start, read, finished, -⟩ := late
    refine ⟨start, read, finished, fun set now => ?_⟩
    rwa [← Option.some.inj now]
  cases stage with
  | spawned => exact .spawned
  | looping start read early => exact .looping start read early
  | asking start read early => exact .asking start read early
  | sleeping start wake read early soon =>
    rw [unset, Option.getD_none] at soon
    exact .sleeping start wake read early soon
  | checking past => exact .checking past
  | killing hit left split late => exact .killing hit left split (still late)
  | spared why => exact .spared (.inr (by simp))
  | struck late => exact .struck (still late)

variable {procs : List GatewayProcess}

/-- A step of the watchdog leaves all alone but the next gateway to kill. -/
theorem Stage.stepped {scene : Scene} {thread : Watchdog} {hit : List Nat} {w : World}
    (stage : Stage cap (procs.map GatewayProcess.pid) scene.toClocks thread hit)
    (world : scene.world = killed hit w) {next : Watchdog × Scene}
    (moved : watchdogStep cap procs thread scene () = some next) :
    ∃ more, Stage cap (procs.map GatewayProcess.pid) next.2.toClocks next.1 more ∧
      next.2.world = killed more w ∧ next.2.done = scene.done ∧ next.2.now = scene.now := by
  cases stage with
  | spawned =>
    obtain rfl := Option.some.inj moved
    exact ⟨[], .looping scene.now rfl (le_refl _), world, rfl, rfl⟩
  | looping start read early =>
    obtain rfl := Option.some.inj moved
    refine ⟨[], ?_, world, rfl, rfl⟩
    simp only [read, Option.getD_some]
    split
    · exact .asking start read early
    · exact .checking ⟨start, read, by omega⟩
  | asking start read early =>
    obtain rfl := Option.some.inj moved
    refine ⟨[], ?_, world, rfl, rfl⟩
    cases done : scene.done with
    | none => exact .sleeping start _ read early (by rw [done, Option.getD_none])
    | some set => exact .spared (.inr (by rw [done]; simp))
  | sleeping start wake read early soon =>
    rw [watchdogStep] at moved
    split at moved
    · obtain rfl := Option.some.inj moved
      exact ⟨[], .looping start read early, world, rfl, rfl⟩
    · cases moved
  | checking past =>
    obtain rfl := Option.some.inj moved
    refine ⟨[], ?_, world, rfl, rfl⟩
    obtain ⟨start, read, finished⟩ := past
    cases done : scene.done with
    | none => exact .killing [] _ rfl ⟨start, read, finished, by rw [done]; simp⟩
    | some set => exact .spared (.inr (by rw [done]; simp))
  | killing hit left split late =>
    cases left with
    | nil =>
      obtain rfl := Option.some.inj moved
      rw [List.append_nil] at split
      exact ⟨hit, split ▸ .struck late, world, rfl, rfl⟩
    | cons pid rest =>
      obtain rfl := Option.some.inj moved
      refine ⟨hit ++ [pid], .killing _ rest (by simp [split]) late, ?_, rfl, rfl⟩
      rw [killed, List.foldl_append]
      exact congrArg (World.record · _) world
  | spared why => cases moved
  | struck late => cases moved

/-- What holds of a scenario whose gateways are up in `w`. -/
structure Kept (cap : Nat) (procs : List GatewayProcess) (w : World)
    (s : State Phase Watchdog Scene) (hit : List Nat) : Prop where
  stage : Stage cap (procs.map GatewayProcess.pid) s.shared.toClocks s.thread hit
  before : s.owner ≠ .ended → s.shared.world = killed hit w
  after : s.owner = .ended → ∃ ending : Ending, s.shared.world = ending.close procs (killed hit w)
  flag : s.shared.done = none ↔ s.owner = .running ∨ s.owner = .returned

theorem behind_join (cap : Nat) (procs : List GatewayProcess) :
    Behind (watched cap procs) fun phase => phase = .joined ∨ phase = .ended where
  entered phase scene ending next moved there := by
    cases phase <;> cases moved <;> simp_all [watched]

theorem begun_kept (cap : Nat) (procs : List GatewayProcess) (w : World) :
    Kept cap procs w (begun procs w) [] where
  stage := by
    cases procs with
    | nil => exact .spared (.inl rfl)
    | cons p rest => exact .spawned
  before _ := rfl
  after there := by cases there
  flag := by simp [begun]

/-- In every order of steps. -/
theorem run_kept {w : World} {acts : List (Act Ending Unit)} {s : State Phase Watchdog Scene}
    (ran : run (watched cap procs).step (begun procs w) acts = some s) :
    (∃ hit, Kept cap procs w s hit) ∧
      (s.owner = .joined ∨ s.owner = .ended → s.thread = .finished) := by
  have kept := run_joined (behind_join cap procs)
    (fun s => ∃ hit, Kept cap procs w s hit) ?_ ?_ ?_ ran (by simp [begun])
    ⟨[], begun_kept cap procs w⟩
  · exact ⟨kept.1, fun there => of_decide_eq_true (kept.2 there)⟩
  · rintro s ending next ⟨hit, stage, before, after, flag⟩ moved -
    cases phase : s.owner with
    | running =>
      rw [phase] at moved before flag
      obtain rfl := Option.some.inj moved
      exact ⟨hit, stage, fun _ => before (by simp), by simp, by simpa using flag⟩
    | returned =>
      rw [phase] at moved before flag
      obtain rfl := Option.some.inj moved
      exact ⟨hit, stage.set (flag.mpr (.inr rfl)), fun _ => before (by simp), by simp, by simp⟩
    | waiting =>
      rw [phase] at moved before flag
      obtain rfl := Option.some.inj moved
      exact ⟨hit, stage, fun _ => before (by simp), by simp, by simpa using flag⟩
    | joined =>
      rw [phase] at moved before flag
      obtain rfl := Option.some.inj moved
      refine ⟨hit, stage, by simp, fun _ => ⟨ending, ?_⟩, by simpa using flag⟩
      exact congrArg (ending.close procs) (before (by simp))
    | ended =>
      rw [phase] at moved
      cases moved
  · rintro s ⟨⟩ next ⟨hit, stage, before, after, flag⟩ moved early
    have running : s.owner ≠ .ended := fun there => early (.inr there)
    obtain ⟨more, staged, world, done, -⟩ := stage.stepped (before running) moved
    exact ⟨more, staged, fun _ => world, fun there => absurd there running, done ▸ flag⟩
  · rintro s time ⟨hit, stage, before, after, flag⟩
    exact ⟨hit, stage.passed time, before, after, flag⟩

/-! What the scenario may rely on. -/

theorem Stage.among {clocks : Clocks} {thread : Watchdog} {hit : List Nat}
    (stage : Stage cap pids clocks thread hit) {pid : Nat} (member : pid ∈ hit) : pid ∈ pids := by
  cases stage with
  | killing hit left split late => exact split ▸ List.mem_append_left _ member
  | struck late => exact member
  | _ => cases member

/-- A flag set within the budget spares the gateways. -/
theorem Stage.timely {clocks : Clocks} {thread : Watchdog} {hit : List Nat}
    (stage : Stage cap pids clocks thread hit) {set : Nat} (done : clocks.done = some set)
    (timely : ∀ start ∈ clocks.began, set < start + cap) : hit = [] := by
  have early (late : Late cap clocks) : False := by
    obtain ⟨start, read, -, finished⟩ := late
    exact absurd (finished set done) (not_le.mpr (timely start read))
  cases stage with
  | killing hit left split late => exact (early late).elim
  | struck late => exact (early late).elim
  | _ => rfl

/-- The moves left to the watchdog once its flag is set. -/
def Watchdog.moves : Watchdog → Nat
  | .spawned => 3
  | .looping => 2
  | .asking => 1
  | .sleeping _ => 3
  | .checking => 1
  | .killing left => left.length + 1
  | .finished => 0

/-- Awake or due to be. -/
def Woken (thread : Watchdog) (scene : Scene) : Prop :=
  ∀ wake, thread = .sleeping wake → wake ≤ scene.now

theorem watchdogStep_moves {thread : Watchdog} {scene : Scene} (done : scene.done.isSome)
    (woken : Woken thread scene) {left : Nat} (moves : thread.moves = left + 1) :
    ∃ next, watchdogStep cap procs thread scene () = some next ∧ next.1.moves = left ∧
      next.2.done = scene.done ∧ Woken next.1 next.2 := by
  cases thread with
  | spawned => exact ⟨_, rfl, Nat.succ.inj moves, rfl, fun wake same => by cases same⟩
  | looping =>
    refine ⟨_, rfl, ?_, rfl, fun wake same => ?_⟩
    · split <;> exact Nat.succ.inj moves
    · split at same <;> cases same
  | asking =>
    rw [watchdogStep, if_pos done]
    exact ⟨_, rfl, Nat.succ.inj moves, rfl, fun wake same => by cases same⟩
  | sleeping wake =>
    rw [watchdogStep, if_pos (woken wake rfl)]
    exact ⟨_, rfl, Nat.succ.inj moves, rfl, fun wake same => by cases same⟩
  | checking =>
    rw [watchdogStep, if_pos done]
    exact ⟨_, rfl, Nat.succ.inj moves, rfl, fun wake same => by cases same⟩
  | killing pids =>
    cases pids with
    | nil => exact ⟨_, rfl, Nat.succ.inj moves, rfl, fun wake same => by cases same⟩
    | cons pid rest => exact ⟨_, rfl, Nat.succ.inj moves, rfl, fun wake same => by cases same⟩
  | finished => cases moves

theorem run_moves {s : State Phase Watchdog Scene} (done : s.shared.done.isSome)
    (woken : Woken s.thread s.shared) :
    ∃ last, run (watched cap procs).step s (.replicate s.thread.moves (.fork ())) = some last ∧
      last.thread = .finished := by
  generalize moves : s.thread.moves = left
  induction left generalizing s with
  | zero =>
    refine ⟨s, rfl, ?_⟩
    cases thread : s.thread with
    | finished => rfl
    | _ => rw [thread] at moves; cases moves
  | succ left ih =>
    obtain ⟨next, moved, fewer, same, awake⟩ :=
      @watchdogStep_moves cap procs s.thread s.shared done woken left moves
    have running : (watched cap procs).finished s.thread = false := by
      refine decide_eq_false fun finished => ?_
      rw [finished] at moves
      cases moves
    have step : (watched cap procs).step s (.fork ()) = some ⟨s.owner, next.1, next.2⟩ := by
      rw [System.step, running]
      exact congrArg (Option.map _) moved
    obtain ⟨last, ran, finished⟩ := ih (s := ⟨s.owner, next.1, next.2⟩) (same ▸ done) awake fewer
    refine ⟨last, ?_, finished⟩
    rw [List.replicate_succ, run, step, Option.bind_some, ran]

end Run

theorem Ending.close_ended (ending : Ending) {procs : List GatewayProcess}
    (up : ∀ p ∈ procs, Up p) (w : World) : AllEnded procs w (ending.close procs w) := by
  cases ending with
  | shutdown os => exact shutdownPath_ended os up w
  | dropped => exact dropAll_ended up w

theorem killed_reaped {pids : List Nat} {w : World} {pid : Nat} :
    .reaped pid ∈ (killed pids w).events ↔ .reaped pid ∈ w.events := by
  rw [killed_eq]
  simp

theorem killed_alive {pids : List Nat} {w : World} {pid : Nat} :
    (killed pids w).Alive pid ↔ w.Alive pid := by
  simp [World.Alive, killed_eq]

/-- To kill what has not been reaped leaves the record clean. -/
theorem killed_clean {pids : List Nat} {w : World} (unreaped : ∀ pid ∈ pids, .reaped pid ∉ w.events)
    {pid : Nat} (clean : Clean pid w.events) : Clean pid (killed pids w).events := by
  have quiet : Clean pid (pids.map fun pid => .signalled pid .kill) := by
    refine List.Pairwise.imp_of_mem (R := fun _ _ => True) ?_
      (List.pairwise_of_forall fun _ _ => trivial)
    rintro first second member - - rfl
    simp at member
  rw [killed_eq, clean_append]
  refine ⟨clean, quiet, fun seen signal sent => ?_⟩
  obtain ⟨other, member, same⟩ := List.mem_map.mp sent
  obtain ⟨rfl, -⟩ := Event.signalled.inj same
  exact unreaped other member seen

/-- The gateways of a scenario, from their start on, however the scenario and its watchdog take
their steps: no signal goes to a gateway that has been reaped, and behind the end of the scenario
none is left. If the flag of its engine's return is set within the budget the watchdog touches no
gateway; while it is not set the watchdog ends only behind killing them all; and a pause after it
is set it ends in a few moves, so that it never holds up the suite. -/
theorem watched_scenario (os : Os) (workDir : String) (readyTimeout : Nat)
    (gateways : List ApiGateway) {w w' : World} {procs : List GatewayProcess} (fresh : w.Fresh)
    (clean : ∀ pid, Clean pid w.events)
    (up : startGateways os workDir readyTimeout gateways w = (.ok procs, w'))
    (warmup measure cooldown : Duration) (runs : UInt32) {acts : List (Act Ending Unit)}
    {s : State Phase Watchdog Scene}
    (ran : run (watched (watchdogCap warmup measure cooldown runs.toNat).ns procs).step
      (begun procs w') acts = some s) :
    (∀ pid, Clean pid s.shared.world.events) ∧
    (s.owner = .ended → ∀ pid, s.shared.world.Alive pid ↔ w.Alive pid) ∧
    (∀ set ∈ s.shared.done, (∀ start ∈ s.shared.began, set < start + max (600 * 10 ^ 9)
        (min (limit - 1) (5 * (max runs.toNat 1 * (warmup.ns + measure.ns + cooldown.ns)) +
          120 * 10 ^ 9))) →
      s.shared.world = w' ∨
        s.owner = .ended ∧ ∃ ending : Ending, s.shared.world = ending.close procs w') ∧
    (s.shared.done = none → s.thread = .finished → s.shared.world.events =
      w'.events ++ procs.map fun p => .signalled p.pid .kill) ∧
    ∀ set ∈ s.shared.done, set + watchdogPause ≤ s.shared.now →
      ∃ last, run (watched (watchdogCap warmup measure cooldown runs.toNat).ns procs).step s
        (.replicate s.thread.moves (.fork ())) = some last ∧ last.thread = .finished := by
  have started := startGateways_started os workDir readyTimeout gateways w
  rw [up] at started
  generalize first : (Except.ok procs : Except GatewayError (List GatewayProcess)) = result
    at started
  cases started with
  | down => cases first
  | up new _ came =>
  obtain rfl : procs = new := Except.ok.inj first
  obtain ⟨⟨hit, kept⟩, -⟩ := run_kept ran
  have unreaped : ∀ p ∈ procs, .reaped p.pid ∉ w'.events := fun p member => by
    rw [came.reaped]
    exact fresh.not_reaped (came.pid_ge member).1
  have spared : ∀ pid ∈ hit, .reaped pid ∉ w'.events := fun pid member => by
    obtain ⟨p, among, rfl⟩ := List.mem_map.mp (kept.stage.among member)
    exact unreaped p among
  have upright (pid : Nat) : Clean pid (killed hit w').events :=
    killed_clean spared ((came.clean pid).mpr (clean pid))
  have ended := fun ending : Ending => ending.close_ended came.up (killed hit w')
  refine ⟨fun pid => ?_, fun there pid => ?_, fun set done timely => ?_, fun unset finished => ?_,
    fun set done paused => ?_⟩
  · by_cases there : s.owner = .ended
    · obtain ⟨ending, world⟩ := kept.after there
      have distinct : (procs.map GatewayProcess.pid).Nodup := came.pids ▸ List.nodup_range'
      rw [world, (ended ending).clean distinct (fun p member => ?_) pid]
      · exact upright pid
      · rw [killed_reaped]
        exact unreaped p member
    · rw [kept.before there]
      exact upright pid
  · obtain ⟨ending, world⟩ := kept.after there
    have gone : pid ∈ procs.map GatewayProcess.pid → ¬w.Alive pid := by
      rintro member ⟨old, -⟩
      obtain ⟨p, among, rfl⟩ := List.mem_map.mp member
      exact absurd (fresh _ old) (Nat.not_lt.mpr (came.pid_ge among).1)
    rw [world, (ended ending).alive pid, killed_alive, came.alive fresh pid]
    tauto
  · rw [← watchdogCap_ns] at timely
    have none_hit : hit = [] := kept.stage.timely done timely
    rw [none_hit] at kept
    by_cases there : s.owner = .ended
    · exact .inr ⟨there, kept.after there⟩
    · exact .inl (kept.before there)
  · have there : s.owner ≠ .ended := by
      rcases kept.flag.mp unset with running | returned
      · rw [running]
        decide
      · rw [returned]
        decide
    have stage := kept.stage
    rw [finished] at stage
    rw [kept.before there, killed_eq]
    cases stage with
    | spared why =>
      have nobody := why.resolve_right fun done => done unset
      rw [List.map_eq_nil_iff.mp nobody]
      rfl
    | struck late => rw [List.map_map]; rfl
  · refine run_moves (by rw [done]; rfl) fun wake asleep => ?_
    have stage := kept.stage
    rw [asleep] at stage
    cases stage with
    | sleeping start _ read early soon =>
      rw [done, Option.getD_some] at soon
      exact soon.trans paused

/-- The engine does not return: the watchdog finds the budget over, kills the relay and ends, and
then the scenario goes on. -/
def stuckActs : List (Act Ending Unit) :=
  .fork () :: .pass (600 * 10 ^ 9) :: .replicate 4 (.fork ()) ++ .replicate 4 (.own .dropped)

theorem watched_scenario_stuck :
    ∃ procs w' s, startGateways calmOs "/run" 0 [relay "a"] {} = (.ok procs, w') ∧
      run (watched (watchdogCap (.ofSecs 1) (.ofSecs 1) (.ofSecs 1) 1).ns procs).step
        (begun procs w') stuckActs = some s ∧
      s.shared.world.events = [.spawned 0, .ready 0, .signalled 0 .kill, .signalled 0 .kill,
        .reaped 0] ∧
      ∀ pid, ¬s.shared.world.Alive pid := by
  refine ⟨_, _, _, rfl, rfl, rfl, fun pid alive => ?_⟩
  have gone := (@watched_scenario calmOs "/run" 0 [relay "a"] {} _ _ (by simp [World.Fresh])
    (fun _ => List.Pairwise.nil) rfl (.ofSecs 1) (.ofSecs 1) (.ofSecs 1) 1 stuckActs _ rfl).2.1
    rfl pid
  exact absurd (gone.mp alive).1 (by simp)

end Seshat.Commands

import Seshat.Gateway.Process
import Mathlib.Tactic.Common

/-! The gateways of a path, from `start_gateways` to the shutdown of the running path. A
path comes up whole or leaves no process behind. -/

namespace Seshat.Gateway
open GatewayProcess

/-- The processes go out of scope, in order. -/
def dropAll : List GatewayProcess → World → World
  | [], w => w
  | p :: rest, w => dropAll rest (drop (p, w))

/-- The loop of `start_gateways`, with `procs` up. A process that does not come up goes out of
scope, and those before it after it. -/
def startEach (os : Os) (workDir : String) (readyTimeout : Nat) :
    List ApiGateway → List GatewayProcess → World →
      Except GatewayError (List GatewayProcess) × World
  | [], procs, w => (.ok procs, w)
  | gateway :: rest, procs, w =>
      match ensureReadinessApi os gateway w with
      | (.error error, w) => (.error error, dropAll procs w)
      | (.ok gateway, w) =>
          match spawn os workDir gateway w with
          | (.error error, w) => (.error error, dropAll procs w)
          | (.ok proc, w) =>
              match waitReady os readyTimeout (proc, w) with
              | (.error error, s) => (.error error, dropAll procs (drop s))
              | (.ok (), s) => startEach os workDir readyTimeout rest (procs ++ [s.1]) s.2

/-- `start_gateways`: downstream first. -/
def startGateways (os : Os) (workDir : String) (readyTimeout : Nat)
    (gateways : List ApiGateway) (w : World) :
    Except GatewayError (List GatewayProcess) × World :=
  startEach os workDir readyTimeout gateways.reverse [] w

/-- `RunningPath::shutdown`: behind an error the rest goes out of scope. -/
def shutdownPath (os : Os) : List GatewayProcess → World → Except GatewayError Unit × World
  | [], w => (.ok (), w)
  | p :: rest, w =>
      match shutdown os p w with
      | (.error error, w) => (.error error, dropAll rest w)
      | (.ok (), w) => shutdownPath os rest w

/-! The end of several processes -/

/-- A process that is up. -/
def Up (p : GatewayProcess) : Prop := p.status = none ∧ p.finished = false

inductive AllEnded : List GatewayProcess → World → World → Prop
  | nil (w : World) : AllEnded [] w w
  | cons {p : GatewayProcess} {rest : List GatewayProcess} {w w' w'' : World}
      {sent : List Signal} (ended : Ended p w sent w') (later : AllEnded rest w' w'') :
      AllEnded (p :: rest) w w''

theorem dropAll_ended {procs : List GatewayProcess} (up : ∀ p ∈ procs, Up p) (w : World) :
    AllEnded procs w (dropAll procs w) := by
  induction procs generalizing w with
  | nil => exact .nil w
  | cons p rest ih =>
    obtain ⟨unreaped, unfinished⟩ := up p List.mem_cons_self
    exact .cons (drop_ended unreaped unfinished w)
      (ih (fun q member => up q (List.mem_cons_of_mem _ member)) _)

theorem shutdownPath_ended (os : Os) {procs : List GatewayProcess} (up : ∀ p ∈ procs, Up p)
    (w : World) : AllEnded procs w (shutdownPath os procs w).2 := by
  induction procs generalizing w with
  | nil => exact .nil w
  | cons p rest ih =>
    obtain ⟨unreaped, unfinished⟩ := up p List.mem_cons_self
    have others : ∀ q ∈ rest, Up q := fun q member => up q (List.mem_cons_of_mem _ member)
    obtain ⟨sent, ended⟩ := shutdown_ended os unreaped unfinished w
    unfold shutdownPath
    generalize shutdown os p w = result at ended
    obtain ⟨outcome, w'⟩ := result
    cases outcome with
    | error error => exact .cons ended (dropAll_ended others w')
    | ok value => exact .cons ended (ih others w')

theorem mem_signals {pid : Nat} {sent : List Signal} {event : Event} :
    event ∈ signals pid sent ↔ ∃ signal ∈ sent, event = .signalled pid signal := by
  simp [signals, eq_comm]

theorem GatewayProcess.Ended.alive {p : GatewayProcess} {w w' : World} {sent : List Signal}
    (ended : Ended p w sent w') (pid : Nat) : w'.Alive pid ↔ w.Alive pid ∧ pid ≠ p.pid := by
  simp only [World.Alive, ended.events, List.mem_append, mem_signals, List.mem_singleton]
  grind

theorem AllEnded.alive {procs : List GatewayProcess} {w w' : World} (ended : AllEnded procs w w')
    (pid : Nat) : w'.Alive pid ↔ w.Alive pid ∧ pid ∉ procs.map GatewayProcess.pid := by
  induction ended with
  | nil w => simp
  | cons first later ih =>
    rw [ih, first.alive pid, List.map_cons, List.mem_cons, not_or, and_assoc]

theorem AllEnded.files {procs : List GatewayProcess} {w w' : World} (ended : AllEnded procs w w')
    (path : String) : path ∈ w'.files ↔ path ∈ w.files ∧ ∀ p ∈ procs, path ∉ p.files := by
  induction ended with
  | nil w => simp
  | cons first later ih =>
    rw [ih, first.files path, List.forall_mem_cons, and_assoc]

theorem AllEnded.spawned {procs : List GatewayProcess} {w w' : World}
    (ended : AllEnded procs w w') : w'.spawned = w.spawned := by
  induction ended with
  | nil w => rfl
  | cons first later ih => exact ih.trans first.spawned

/-! The start -/

theorem attempt_after (os : Os) (count : Nat) (w : World) :
    After w [] (w.attempt os count).2 := by
  induction count generalizing w with
  | zero => exact After.refl w
  | succ count ih =>
    unfold World.attempt
    split
    · exact After.answered w
    · exact (After.answered w).quiet (ih _)

theorem shortRuntimeDir_after (os : Os) (name : String) (bases : List String)
    (last : Option String) (w : World) :
    After w [] (shortRuntimeDir os name bases last w).2 ∧
      ∀ error, (shortRuntimeDir os name bases last w).1 = .error error →
        ∀ label status, error ≠ .exited label status := by
  induction bases generalizing last w with
  | nil =>
    refine ⟨After.refl w, fun error failed label status => ?_⟩
    rw [shortRuntimeDir, Except.error.injEq] at failed
    rw [← failed]
    cases last <;> simp
  | cons base rest ih =>
    unfold shortRuntimeDir
    simp only
    split
    · exact ih last w
    · have tried := attempt_after os 1 w
      generalize w.attempt os 1 = made at tried
      obtain ⟨failed, w'⟩ := made
      cases failed with
      | some error => exact ⟨tried.quiet (ih (some error) w').1, (ih (some error) w').2⟩
      | none => exact ⟨tried, by simp⟩

/-- Before it is spawned a gateway leaves no trace; it keeps its label. -/
inductive Prepared (gateway : ApiGateway) (w : World) :
    Except GatewayError ApiGateway × World → Prop
  | fails (error : GatewayError) (w' : World) (other : ∀ label status, error ≠ .exited label status)
      (after : After w [] w') : Prepared gateway w (.error error, w')
  | ready (named : ApiGateway) (w' : World) (same : named.label = gateway.label)
      (after : After w [] w') : Prepared gateway w (.ok named, w')

theorem ensureReadinessApi_prepared (os : Os) (gateway : ApiGateway) (w : World) :
    Prepared gateway w (ensureReadinessApi os gateway w) := by
  unfold ensureReadinessApi
  split
  · exact .ready gateway w rfl (After.refl w)
  · have named : After w [] { w with mgmtIds := w.mgmtIds + 1 } :=
      ⟨(List.append_nil _).symm, rfl, rfl⟩
    have made := shortRuntimeDir_after os s!"sm-{os.harnessPid}-{w.mgmtIds}" os.runtimeBases none
      { w with mgmtIds := w.mgmtIds + 1 }
    simp only
    generalize shortRuntimeDir os _ _ none _ = result at made
    obtain ⟨outcome, w'⟩ := result
    cases outcome with
    | error error => exact .fails error w' (made.2 error rfl) (named.quiet made.1)
    | ok dir => exact .ready _ w' rfl (named.quiet made.1)

/-- A spawn that fails may leave the config file behind, one that succeeds has its files. -/
inductive Spawned (workDir : String) (gateway : ApiGateway) (w : World) :
    Except GatewayError GatewayProcess × World → Prop
  | fails (error : String) (w' : World) (events : w'.events = w.events)
      (spawned : w'.spawned = w.spawned)
      (files : ∀ path ∈ w'.files, path ∈ w.files ∨ path = configPathOf workDir gateway.label) :
      Spawned workDir gateway w (.error (.io error), w')
  | runs (p : GatewayProcess) (w' : World) (up : Up p) (label : p.label = gateway.label)
      (pid : p.pid = w.spawned) (events : w'.events = w.events ++ [.spawned p.pid])
      (spawned : w'.spawned = w.spawned + 1)
      (files : ∀ path ∈ w'.files, path ∈ w.files ∨ path ∈ p.files) :
      Spawned workDir gateway w (.ok p, w')

theorem write_all (paths : List String) (w : World) :
    (paths.foldl World.write w).events = w.events ∧
      (paths.foldl World.write w).spawned = w.spawned ∧
      ∀ path ∈ (paths.foldl World.write w).files, path ∈ paths ∨ path ∈ w.files := by
  induction paths generalizing w with
  | nil => exact ⟨rfl, rfl, fun path member => Or.inr member⟩
  | cons first rest ih =>
    obtain ⟨events, spawned, files⟩ := ih (w.write first)
    refine ⟨events, spawned, fun path member => ?_⟩
    rcases files path member with later | earlier
    · exact Or.inl (List.mem_cons_of_mem _ later)
    · rcases List.mem_cons.mp earlier with rfl | old
      · exact Or.inl List.mem_cons_self
      · exact Or.inr old

theorem spawn_spawned (os : Os) (workDir : String) (gateway : ApiGateway) (w : World) :
    Spawned workDir gateway w (spawn os workDir gateway w) := by
  unfold spawn
  have made := attempt_after os 1 w
  simp only
  generalize w.attempt os 1 = first at made
  obtain ⟨failed, w₁⟩ := first
  cases failed with
  | some error =>
    exact .fails error w₁ (by simpa using made.events) made.spawned
      fun path member => Or.inl (made.files ▸ member)
  | none =>
    have begun := attempt_after os 5 (w₁.write (configPathOf workDir gateway.label))
    simp only
    generalize (w₁.write (configPathOf workDir gateway.label)).attempt os 5 = second at begun
    obtain ⟨failed, w₂⟩ := second
    have events : w₂.events = w.events := by
      rw [begun.events, World.write, made.events]
      simp
    have spawned : w₂.spawned = w.spawned := begun.spawned.trans made.spawned
    have files : ∀ path ∈ w₂.files,
        path ∈ w.files ∨ path = configPathOf workDir gateway.label := by
      intro path member
      rw [begun.files, World.write, List.mem_cons, made.files] at member
      exact member.symm
    cases failed with
    | some error => exact .fails error w₂ events spawned files
    | none =>
      obtain ⟨same, count, known⟩ := write_all (gateway.api.map ApiConfig.udsPath).toList w₂
      refine .runs _ _ ⟨rfl, rfl⟩ rfl spawned ?_ (congrArg (· + 1) (count.trans spawned)) ?_
      · rw [World.record]
        simp only [same, events]
      · intro path member
        rcases known path member with socket | earlier
        · exact Or.inr (List.mem_cons_of_mem _ socket)
        · rcases files path earlier with old | config
          · exact Or.inl old
          · exact Or.inr (config ▸ List.mem_cons_self)

/-- What is on record of a process that has come up. -/
def life (p : GatewayProcess) : List Event := [.spawned p.pid, .ready p.pid]

/-- The gateways have come up one after the other. -/
structure CameUp (gateways : List ApiGateway) (w : World) (procs : List GatewayProcess)
    (w' : World) : Prop where
  labels : procs.map GatewayProcess.label = gateways.map fun gateway => gateway.label
  up : ∀ p ∈ procs, Up p
  pids : procs.map GatewayProcess.pid = List.range' w.spawned procs.length
  events : w'.events = w.events ++ procs.flatMap life
  spawned : w'.spawned = w.spawned + procs.length
  files : ∀ path ∈ w'.files, path ∈ w.files ∨ ∃ p ∈ procs, path ∈ p.files

theorem CameUp.nil (w : World) : CameUp [] w [] w where
  labels := rfl
  up := by simp
  pids := rfl
  events := (List.append_nil _).symm
  spawned := rfl
  files := fun _ member => Or.inl member

theorem CameUp.cons {gateway : ApiGateway} {rest : List ApiGateway} {p : GatewayProcess}
    {procs : List GatewayProcess} {w w' w'' : World} (up : Up p)
    (label : p.label = gateway.label) (pid : p.pid = w.spawned)
    (events : w'.events = w.events ++ life p) (spawned : w'.spawned = w.spawned + 1)
    (files : ∀ path ∈ w'.files, path ∈ w.files ∨ path ∈ p.files)
    (later : CameUp rest w' procs w'') : CameUp (gateway :: rest) w (p :: procs) w'' where
  labels := by rw [List.map_cons, label, later.labels, List.map_cons]
  up := List.forall_mem_cons.mpr ⟨up, later.up⟩
  pids := by rw [List.map_cons, later.pids, pid, spawned, List.length_cons, List.range'_succ]
  events := by rw [later.events, events, List.flatMap_cons, List.append_assoc]
  spawned := by
    rw [later.spawned, spawned, List.length_cons]
    omega
  files := by
    intro path member
    rcases later.files path member with earlier | ⟨q, among, has⟩
    · rcases files path earlier with old | own
      · exact Or.inl old
      · exact Or.inr ⟨p, List.mem_cons_self, own⟩
    · exact Or.inr ⟨q, List.mem_cons_of_mem _ among, has⟩

/-- What is on record of the gateway that did not come up: it was never started, or killed
and reaped, or reaped and then sent a signal. -/
inductive Fell (pid : Nat) : GatewayError → List Event → Prop
  | unborn (error : GatewayError) (other : ∀ label status, error ≠ .exited label status) :
      Fell pid error []
  | killed (error : GatewayError) (other : ∀ label status, error ≠ .exited label status) :
      Fell pid error [.spawned pid, .signalled pid .kill, .reaped pid]
  | gone (label status : String) :
      Fell pid (.exited label status) [.spawned pid, .reaped pid, .signalled pid .kill]

/-- How a start may end, with `procs` up before it. -/
inductive Started (workDir : String) (gateways : List ApiGateway) (procs : List GatewayProcess)
    (w : World) : Except GatewayError (List GatewayProcess) × World → Prop
  | up (new : List GatewayProcess) (w' : World) (came : CameUp gateways w new w') :
      Started workDir gateways procs w (.ok (procs ++ new), w')
  | down (before after : List ApiGateway) (gateway : ApiGateway) (new : List GatewayProcess)
      (error : GatewayError) (last : List Event) (w₁ w₂ w' : World)
      (among : gateways = before ++ gateway :: after) (came : CameUp before w new w₁)
      (fell : Fell w₁.spawned error last) (events : w₂.events = w₁.events ++ last)
      (spawned : w₂.spawned = if last = [] then w₁.spawned else w₁.spawned + 1)
      (files : ∀ path ∈ w₂.files,
        path ∈ w₁.files ∨ last = [] ∧ path = configPathOf workDir gateway.label)
      (ended : AllEnded (procs ++ new) w₂ w') :
      Started workDir gateways procs w (.error error, w')

/-- The first gateway comes up in front of the others. -/
theorem Started.cons {workDir : String} {gateway : ApiGateway} {rest : List ApiGateway}
    {p : GatewayProcess} {procs : List GatewayProcess} {w w' : World} (up : Up p)
    (label : p.label = gateway.label) (pid : p.pid = w.spawned)
    (events : w'.events = w.events ++ life p) (spawned : w'.spawned = w.spawned + 1)
    (files : ∀ path ∈ w'.files, path ∈ w.files ∨ path ∈ p.files)
    {result : Except GatewayError (List GatewayProcess) × World}
    (later : Started workDir rest (procs ++ [p]) w' result) :
    Started workDir (gateway :: rest) procs w result := by
  cases later with
  | up new w'' came =>
    rw [List.append_assoc, List.singleton_append]
    exact .up (p :: new) w'' (.cons up label pid events spawned files came)
  | down before after last_gateway new error last w₁ w₂ w'' among came fell events' spawned' files'
      ended =>
    rw [List.append_assoc, List.singleton_append] at ended
    exact .down (gateway :: before) after last_gateway (p :: new) error last w₁ w₂ w''
      (congrArg (gateway :: ·) among) (.cons up label pid events spawned files came) fell events'
      spawned' files' ended

theorem startEach_started (os : Os) (workDir : String) (readyTimeout : Nat)
    (gateways : List ApiGateway) {procs : List GatewayProcess} (up : ∀ p ∈ procs, Up p)
    (w : World) :
    Started workDir gateways procs w (startEach os workDir readyTimeout gateways procs w) := by
  induction gateways generalizing procs w with
  | nil =>
    have nothing : Started workDir [] procs w (.ok (procs ++ []), w) := .up [] w (CameUp.nil w)
    rwa [List.append_nil] at nothing
  | cons gateway rest ih =>
    have unborn {error : GatewayError} {w' : World}
        (other : ∀ label status, error ≠ .exited label status) (events : w'.events = w.events)
        (spawned : w'.spawned = w.spawned)
        (files : ∀ path ∈ w'.files, path ∈ w.files ∨ path = configPathOf workDir gateway.label) :
        Started workDir (gateway :: rest) procs w (.error error, dropAll procs w') := by
      refine .down [] rest gateway [] error [] w w' _ rfl (CameUp.nil w) (.unborn error other)
        (events.trans (List.append_nil _).symm) spawned (fun path member => ?_) ?_
      · exact (files path member).imp_right fun same => ⟨rfl, same⟩
      · rw [List.append_nil]
        exact dropAll_ended up w'
    unfold startEach
    have prepared := ensureReadinessApi_prepared os gateway w
    generalize ensureReadinessApi os gateway w = result at prepared
    cases prepared with
    | fails error w₁ other after =>
      exact unborn other (by simpa using after.events) after.spawned
        fun path member => Or.inl (after.files ▸ member)
    | ready named w₁ same after =>
      have spawned := spawn_spawned os workDir named w₁
      have events₁ : w₁.events = w.events := by simpa using after.events
      simp only
      generalize spawn os workDir named w₁ = result at spawned
      cases spawned with
      | fails error w₂ events count files =>
        refine unborn (by simp) (events.trans events₁) (count.trans after.spawned)
          fun path member => ?_
        rw [← same, ← after.files]
        exact files path member
      | runs p w₂ alive label pid events count files =>
        have readied := waitReady_readied os readyTimeout alive.1 w₂
        have events₂ : w₂.events = w.events ++ [.spawned p.pid] := events.trans (by rw [events₁])
        have first : p.pid = w.spawned := pid.trans after.spawned
        have count₂ : w₂.spawned = w.spawned + 1 := count.trans (by rw [after.spawned])
        have fell {error : GatewayError} {more : List Event} {w' : World}
            (what : Fell w.spawned error (.spawned w.spawned :: more))
            (events' : w'.events = w₂.events ++ more) (count' : w'.spawned = w₂.spawned)
            (files' : ∀ path ∈ w'.files, path ∈ w₂.files ∧ path ∉ p.files) :
            Started workDir (gateway :: rest) procs w (.error error, dropAll procs w') := by
          refine .down [] rest gateway [] error _ w w' _ rfl (CameUp.nil w) what ?_
            (count'.trans count₂) (fun path member => ?_) ?_
          · rw [events', events₂, first, List.append_assoc, List.singleton_append]
          · obtain ⟨there, other⟩ := files' path member
            exact Or.inl (after.files ▸ (files path there).resolve_right other)
          · rw [List.append_nil]
            exact dropAll_ended up w'
        simp only
        generalize waitReady os readyTimeout (p, w₂) = result at readied
        cases readied with
        | ready w₃ waited =>
          refine Started.cons alive (label.trans same) first ?_ (waited.spawned.trans count₂)
            (fun path member => ?_) (ih ?_ w₃)
          · rw [waited.events, events₂, life, List.append_assoc]
            rfl
          · exact after.files ▸ files path (waited.files ▸ member)
          · exact List.forall_mem_append.mpr ⟨up, by simpa using alive⟩
        | fails error w₃ other waited =>
          have ended := drop_ended alive.1 alive.2 w₃
          refine @fell _ (signals p.pid [.kill] ++ [.reaped p.pid]) _ ?_ ?_
            (ended.spawned.trans waited.spawned) fun path member => ?_
          · rw [first]
            exact .killed error other
          · rw [ended.events, waited.events, List.append_nil]
          · exact waited.files ▸ (ended.files path).mp member
        | gone status w₃ waited =>
          obtain ⟨events₄, count₄, files₄⟩ :=
            drop_reaped (p := { p with status := some status }) rfl alive.2 w₃
          refine @fell _ [.reaped p.pid, .signalled p.pid .kill] _ ?_ ?_
            (count₄.trans waited.spawned) fun path member => ?_
          · rw [first]
            exact .gone _ status
          · rw [events₄, waited.events, List.append_assoc]
            rfl
          · exact waited.files ▸ (files₄ path).mp member

/-! Who is left -/

theorem mem_life {procs : List GatewayProcess} {event : Event} :
    event ∈ procs.flatMap life ↔
      ∃ p ∈ procs, event = .spawned p.pid ∨ event = .ready p.pid := by
  simp [life]

theorem CameUp.pid_ge {gateways : List ApiGateway} {w w' : World} {procs : List GatewayProcess}
    (came : CameUp gateways w procs w') {p : GatewayProcess} (member : p ∈ procs) :
    w.spawned ≤ p.pid ∧ p.pid < w'.spawned := by
  have listed := List.mem_map_of_mem (f := GatewayProcess.pid) member
  rw [came.pids, List.mem_range'_1] at listed
  rw [came.spawned]
  exact listed

theorem CameUp.fresh {gateways : List ApiGateway} {w w' : World} {procs : List GatewayProcess}
    (came : CameUp gateways w procs w') (fresh : w.Fresh) : w'.Fresh := by
  intro event member
  rw [came.events, List.mem_append] at member
  rcases member with old | new
  · exact lt_of_lt_of_le (fresh event old) (came.spawned ▸ Nat.le_add_right _ _)
  · obtain ⟨p, among, same⟩ := mem_life.mp new
    have inside := (came.pid_ge among).2
    rcases same with rfl | rfl <;> exact inside

theorem CameUp.reaped {gateways : List ApiGateway} {w w' : World} {procs : List GatewayProcess}
    (came : CameUp gateways w procs w') (pid : Nat) :
    .reaped pid ∈ w'.events ↔ .reaped pid ∈ w.events := by
  rw [came.events, List.mem_append]
  exact or_iff_left fun new => by simpa using mem_life.mp new

theorem World.Fresh.not_reaped {w : World} (fresh : w.Fresh) {pid : Nat} (new : w.spawned ≤ pid) :
    .reaped pid ∉ w.events := fun old => absurd (fresh _ old) (Nat.not_lt.mpr new)

theorem CameUp.alive {gateways : List ApiGateway} {w w' : World} {procs : List GatewayProcess}
    (came : CameUp gateways w procs w') (fresh : w.Fresh) (pid : Nat) :
    w'.Alive pid ↔ w.Alive pid ∨ pid ∈ procs.map GatewayProcess.pid := by
  have born : .spawned pid ∈ procs.flatMap life ↔ pid ∈ procs.map GatewayProcess.pid := by
    rw [mem_life]
    simp [eq_comm]
  have new : pid ∈ procs.map GatewayProcess.pid → .reaped pid ∉ w.events := by
    intro member
    obtain ⟨p, among, rfl⟩ := List.mem_map.mp member
    exact fresh.not_reaped (came.pid_ge among).1
  rw [World.Alive, came.reaped, came.events, List.mem_append, born, World.Alive]
  constructor
  · rintro ⟨old | now, unreaped⟩
    · exact Or.inl ⟨old, unreaped⟩
    · exact Or.inr now
  · rintro (⟨old, unreaped⟩ | now)
    · exact ⟨Or.inl old, unreaped⟩
    · exact ⟨Or.inr now, new now⟩

/-- The gateway that did not come up is not left either. -/
theorem Fell.alive {pid : Nat} {error : GatewayError} {last : List Event} {w w' : World}
    (fell : Fell pid error last) (fresh : w.Fresh) (next : pid = w.spawned)
    (events : w'.events = w.events ++ last) (other : Nat) : w'.Alive other ↔ w.Alive other := by
  have unborn : .spawned pid ∉ w.events := fun old =>
    absurd (fresh _ old) (by simp [next, Event.pid])
  cases fell <;> simp only [World.Alive, events, List.mem_append] <;> grind

theorem startGateways_started (os : Os) (workDir : String) (readyTimeout : Nat)
    (gateways : List ApiGateway) (w : World) :
    Started workDir gateways.reverse [] w (startGateways os workDir readyTimeout gateways w) :=
  startEach_started os workDir readyTimeout gateways.reverse (by simp) w

theorem CameUp.length {gateways : List ApiGateway} {w w' : World} {procs : List GatewayProcess}
    (came : CameUp gateways w procs w') : procs.length = gateways.length := by
  simpa using congrArg List.length came.labels

/-- A system that grants every call. -/
def calmOs : Os where
  harnessPid := 1
  runtimeBases := []
  fails := fun _ => none
  poll := fun _ => .running
  connects := fun _ _ => true
  parses := fun _ => true
  overdue := fun _ _ _ => true
  punctual := fun _ _ _ _ => rfl

/-- A system on which every gateway exits as it starts. -/
def harshOs : Os := { calmOs with poll := fun _ => .exited "exit status: 1" }

def relay (label : String) : ApiGateway where
  label := label
  config := .new [.new "relay" "encrypt" "127.0.0.1:1" "127.0.0.1:2"]

/-- No signal goes to a number behind the record that its child has been reaped. -/
def Clean (pid : Nat) (events : List Event) : Prop :=
  events.Pairwise fun first second =>
    first = .reaped pid → ∀ signal, second ≠ .signalled pid signal

theorem clean_append {pid : Nat} {first second : List Event} :
    Clean pid (first ++ second) ↔ Clean pid first ∧ Clean pid second ∧
      (.reaped pid ∈ first → ∀ signal, .signalled pid signal ∉ second) := by
  rw [Clean, List.pairwise_append, ← Clean, ← Clean]
  refine and_congr_right fun _ => and_congr_right fun _ => ⟨fun apart seen signal sent => ?_, ?_⟩
  · exact apart _ seen _ sent rfl signal rfl
  · rintro apart event member other sent rfl signal rfl
    exact apart member signal sent

/-- A stop signals before it reaps. -/
theorem clean_stop (pid other : Nat) (sent : List Signal) :
    Clean pid (signals other sent ++ [.reaped other]) := by
  rw [clean_append]
  refine ⟨?_, List.pairwise_singleton _ _, by simp⟩
  refine List.Pairwise.imp_of_mem (R := fun _ _ => True) ?_
    (List.pairwise_of_forall fun _ _ => trivial)
  rintro first second member - - rfl
  simp [signals] at member

theorem GatewayProcess.Ended.clean {p : GatewayProcess} {w w' : World} {sent : List Signal}
    (ended : Ended p w sent w') (alive : .reaped p.pid ∉ w.events) (pid : Nat) :
    Clean pid w'.events ↔ Clean pid w.events := by
  rw [ended.events, clean_append]
  refine and_iff_left ⟨clean_stop pid p.pid sent, fun seen signal now => ?_⟩
  obtain ⟨-, same⟩ : signal ∈ sent ∧ pid = p.pid := by simpa [mem_signals] using now
  exact alive (same ▸ seen)

theorem AllEnded.clean {procs : List GatewayProcess} {w w' : World} (ended : AllEnded procs w w')
    (distinct : (procs.map GatewayProcess.pid).Nodup)
    (alive : ∀ p ∈ procs, .reaped p.pid ∉ w.events) (pid : Nat) :
    Clean pid w'.events ↔ Clean pid w.events := by
  induction ended with
  | nil w => rfl
  | @cons p rest w w' w'' sent first later ih =>
    rw [List.map_cons, List.nodup_cons] at distinct
    rw [ih distinct.2 fun q member => ?_, first.clean (alive p List.mem_cons_self) pid]
    rw [first.events, List.mem_append, not_or]
    refine ⟨alive q (List.mem_cons_of_mem _ member), fun now => distinct.1 ?_⟩
    have same : q.pid = p.pid := by simpa [signals] using now
    exact same ▸ List.mem_map_of_mem member

theorem CameUp.clean {gateways : List ApiGateway} {w w' : World} {procs : List GatewayProcess}
    (came : CameUp gateways w procs w') (pid : Nat) :
    Clean pid w'.events ↔ Clean pid w.events := by
  rw [came.events, clean_append]
  refine and_iff_left ⟨?_, fun _ signal sent => by simpa using mem_life.mp sent⟩
  refine List.Pairwise.imp_of_mem (R := fun _ _ => True) ?_
    (List.pairwise_of_forall fun _ _ => trivial)
  rintro first second member - - rfl
  simpa using mem_life.mp member

/-- The gateway that did not come up is signalled behind its end just where its early exit
was seen. -/
theorem Fell.clean {pid : Nat} {error : GatewayError} {last : List Event} {w w' : World}
    (fell : Fell pid error last) (fresh : w.Fresh) (next : pid = w.spawned)
    (events : w'.events = w.events ++ last) (clean : ∀ other, Clean other w.events)
    (other : Nat) :
    ¬Clean other w'.events ↔ (∃ label status, error = .exited label status) ∧ other = pid := by
  have unreaped : .reaped pid ∉ w.events := fresh.not_reaped (Nat.le_of_eq next.symm)
  have other_error (known : ∀ label status, error ≠ .exited label status) :
      ¬((∃ label status, error = .exited label status) ∧ other = pid) := by
    rintro ⟨⟨label, status, same⟩, -⟩
    exact known label status same
  rw [events, clean_append]
  cases fell with
  | unborn error known =>
    exact iff_of_false (fun dirty => dirty ⟨clean other, List.Pairwise.nil, by simp⟩)
      (other_error known)
  | killed error known =>
    have unsignalled (seen : .reaped other ∈ w.events) (signal : Signal) :
        Event.signalled other signal ∉
          [Event.spawned pid, .signalled pid .kill, .reaped pid] := by
      intro sent
      obtain ⟨rfl, -⟩ : other = pid ∧ signal = .kill := by simpa using sent
      exact unreaped seen
    exact iff_of_false (fun dirty => dirty ⟨clean other, by simp [Clean], unsignalled⟩)
      (other_error known)
  | gone label status =>
    by_cases same : other = pid
    · refine iff_of_true (fun all => ?_) ⟨⟨label, status, rfl⟩, same⟩
      simp [Clean, same] at all
    · refine iff_of_false (fun dirty => dirty ⟨clean other, ?_, ?_⟩) fun both => same both.2
      · simp [Clean, Ne.symm same]
      · simp [same]

/-- Of a start and of a shutdown: a signal goes to a number whose child has been reaped only where
the start fails because a gateway was seen to exit, and then to that one alone; no shutdown sends
one. -/
theorem signals_clean (os : Os) (workDir : String) (readyTimeout : Nat)
    (gateways : List ApiGateway) {w : World} (fresh : w.Fresh)
    (clean : ∀ pid, Clean pid w.events) :
    (∀ pid, ¬Clean pid (startGateways os workDir readyTimeout gateways w).2.events ↔
      (∃ label status, (startGateways os workDir readyTimeout gateways w).1 =
        .error (.exited label status)) ∧
      pid + 1 = (startGateways os workDir readyTimeout gateways w).2.spawned) ∧
    ∀ procs, (startGateways os workDir readyTimeout gateways w).1 = .ok procs →
      ∀ os' w', w'.events = (startGateways os workDir readyTimeout gateways w).2.events →
        ∀ pid, Clean pid (shutdownPath os' procs w').2.events := by
  have started := startGateways_started os workDir readyTimeout gateways w
  generalize startGateways os workDir readyTimeout gateways w = result at started
  cases started with
  | up procs w' came =>
    refine ⟨fun pid => iff_of_false (fun dirty => dirty ((came.clean pid).mpr (clean pid))) ?_, ?_⟩
    · simp
    · rintro all same os' w'' events pid
      obtain rfl : procs = all := Except.ok.inj same
      have ended := shutdownPath_ended os' came.up w''
      have distinct : (procs.map GatewayProcess.pid).Nodup := came.pids ▸ List.nodup_range'
      refine (ended.clean distinct (fun p member => ?_) pid).mpr ?_
      · rw [events, came.reaped]
        exact fresh.not_reaped (came.pid_ge member).1
      · exact events ▸ (came.clean pid).mpr (clean pid)
  | down before after gateway new error last w₁ w₂ w' among came fell events spawned files ended =>
    refine ⟨fun pid => ?_, fun _ same => absurd same (by simp)⟩
    have distinct : (([] ++ new).map GatewayProcess.pid).Nodup := by
      rw [List.nil_append, came.pids]
      exact List.nodup_range'
    have fallen := fell.clean (came.fresh fresh) rfl events
      (fun other => (came.clean other).mpr (clean other)) pid
    have alive : ∀ p ∈ [] ++ new, .reaped p.pid ∉ w₂.events := by
      intro p member
      rw [List.nil_append] at member
      rw [events, List.mem_append, came.reaped, not_or]
      obtain ⟨above, below⟩ := came.pid_ge member
      refine ⟨fresh.not_reaped above, fun own => ?_⟩
      cases fell <;> simp at own
      all_goals omega
    rw [ended.clean distinct alive pid, fallen, ended.spawned, spawned]
    cases fell with
    | unborn error known => simp [known]
    | killed error known => simp [known]
    | gone label status => simp

theorem exited_relay_signalled :
    ¬Clean 0 (startGateways harshOs "/run" 0 [relay "a", relay "b"] {}).2.events :=
  ((signals_clean harshOs "/run" 0 [relay "a", relay "b"] (w := {}) (by simp [World.Fresh])
    fun _ => List.Pairwise.nil).1 0).mpr ⟨⟨"b", "exit status: 1", rfl⟩, rfl⟩

end Seshat.Gateway

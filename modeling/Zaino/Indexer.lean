/-
This file models the two supervisory loops: `Indexer::serve` of `zainod/src/indexer.rs` and
`ProxyServer::serve` of `zingo-proxyd/src/server.rs`, run over traces of events as the
ingestors' loops are.

The indexer loop checks for shutdown once a pass, a pass before the first tick and one after
each tick; between passes other tasks may store the `online` flag, the server may store its
own status cell, which the indexer shares with it, and the server's task may end. `serve` takes
the indexer by value, so nothing else can call `shutdown` while it runs, and no other task
holds the indexer's own status cell: it stays at `2` while the loop runs. A pass that sees
`online` false stores `4` in both cells and waits on the server's `JoinHandle`; while it waits
the server may still store its cell, and once the server's task has ended the indexer stores
`5` and returns `Ok(())`. Without a server it returns its error at once.

The proxy server loop serves while `online` is set and returns the first error of the server.

For both loops, whether the task returns is decided by the trace: the indexer returns exactly
when some pass sees the last stored flag cleared and the server's task ends, the proxy server
also at the first run of the server that fails.
-/

import Zaino.Ingestor

namespace Zaino

/-! ### `Indexer::serve` -/

/-- The variant of `IndexerError` the serve loop returns. -/
inductive IndexerError where
  | miscIndexerError (message : String)
  deriving DecidableEq, Repr

/-- The fields of `Indexer` the serve loop reads and writes: whether it still owns the server,
the `indexer_status` cell, the `server_status` cell it shares with the server, and the
`online` flag. -/
structure Indexer where
  server : Bool
  indexerStatus : Nat
  serverStatus : Nat
  online : Bool
  deriving DecidableEq, Repr

/-- What happens while the indexer's serve task runs: another task stores the `online` flag,
the server stores its status, the server's task ends, or the interval ticks and the loop makes
its next pass. -/
inductive IndexerEvent where
  | setOnline (online : Bool)
  | serverStored (status : Nat)
  | serverEnded
  | tick
  deriving DecidableEq, Repr

/-- The state of the serve task: the indexer it owns, whether the server's task, whose
`JoinHandle` the task holds in `server_handle`, has ended, and whether the task waits on that
handle in `shutdown_components`. -/
structure ServeTask where
  indexer : Indexer
  serverEnded : Bool
  awaiting : Bool
  deriving DecidableEq, Repr

namespace Indexer

/-- `Indexer::check_for_shutdown`. -/
def checkForShutdown (indexer : Indexer) : Bool :=
  if indexer.indexerStatus ≥ 4 then true
  else if !indexer.online then true
  else false

/-- `Indexer::shutdown`. -/
def shutdown (indexer : Indexer) : Indexer := { indexer with indexerStatus := 4 }

/-- `Indexer::shutdown_components` with the handle of the server's task: store `4` in the
server's status cell, then wait on the handle. -/
def shutdownComponents (task : ServeTask) (serverHandle : Bool) : ServeTask :=
  if serverHandle then { task with indexer.serverStatus := 4, awaiting := true } else task

/-- The end of the shutdown branch: while `handle.await` waits on a server's task that has not
ended, the task waits; once the wait is over it stores `5` and returns `Ok(())`. -/
def finishShutdown (task : ServeTask) : LoopStep ServeTask IndexerError :=
  if task.awaiting && !task.serverEnded then .next task
  else .returned { task with indexer.indexerStatus := 5, awaiting := false } (.ok ())

/-- One pass of the loop: on shutdown, store `4`, shut the server down and finish. -/
def pass (task : ServeTask) : LoopStep ServeTask IndexerError :=
  if task.indexer.checkForShutdown then
    finishShutdown (shutdownComponents { task with indexer := task.indexer.shutdown } true)
  else .next task

/-- One event of the serve task. While the task waits on the server's handle it makes no pass,
and the end of the server's task ends the wait. -/
def step (task : ServeTask) : IndexerEvent → LoopStep ServeTask IndexerError
  | .setOnline online => .next { task with indexer.online := online }
  | .serverStored status => .next { task with indexer.serverStatus := status }
  | .serverEnded =>
    if task.awaiting then finishShutdown { task with serverEnded := true }
    else .next { task with serverEnded := true }
  | .tick => if task.awaiting then .next task else pass task

/-- The task once it took the server, started the server's task and stored `2`. -/
def started (indexer : Indexer) : ServeTask :=
  ⟨{ indexer with server := false, indexerStatus := 2 }, false, false⟩

/-- `Indexer::serve`: take the server, start its task, store `2`, and run the loop, whose first
pass comes before the first tick. -/
def serve (indexer : Indexer) (events : List IndexerEvent) : LoopStep ServeTask IndexerError :=
  if indexer.server then
    match pass (started indexer) with
    | .next running => runLoop step running events
    | .returned final result => .returned final result
  else .returned ⟨indexer, false, false⟩ (.error (.miscIndexerError "Server Missing! Fatal Error!."))

/-- The value an indexer event stores in the `online` flag, if it stores one. -/
def IndexerEvent.storedOnline : IndexerEvent → Option Bool
  | .setOnline online => some online
  | _ => none

/-- The status an indexer event stores in the server's status cell, if it stores one. -/
def IndexerEvent.storedServerStatus : IndexerEvent → Option Nat
  | .serverStored status => some status
  | _ => none

/-- Whether an indexer event ends the server's task. -/
def IndexerEvent.storedServerEnded : IndexerEvent → Option Bool
  | .serverEnded => some true
  | _ => none

theorem finishShutdown_eq_next {task next : ServeTask}
    (goesOn : finishShutdown task = .next next) :
    next = task ∧ task.awaiting = true ∧ task.serverEnded = false := by
  unfold finishShutdown at goesOn
  split at goesOn <;> cases goesOn
  rename_i waiting
  simpa using waiting

theorem finishShutdown_eq_returned {task final : ServeTask} {result : Except IndexerError Unit}
    (returned : finishShutdown task = .returned final result) :
    result = .ok () ∧ final = { task with indexer.indexerStatus := 5, awaiting := false } ∧
      (task.awaiting = true → task.serverEnded = true) := by
  unfold finishShutdown at returned
  split at returned <;> cases returned
  rename_i over
  exact ⟨rfl, rfl, by simpa using over⟩

/-- What one event that goes on does: store the flag or the server's status, record the end of
the server's task while the loop runs, make a pass that goes on, or shut down and wait on a
server's task that has not ended. -/
theorem step_eq_next {task next : ServeTask} {event : IndexerEvent}
    (goesOn : step task event = .next next) :
    (∃ online, event = .setOnline online ∧ next = { task with indexer.online := online }) ∨
      (∃ status, event = .serverStored status ∧
        next = { task with indexer.serverStatus := status }) ∨
      (event = .serverEnded ∧ task.awaiting = false ∧ next = { task with serverEnded := true }) ∨
      (event = .tick ∧ next = task ∧
        (task.awaiting = true ∨ task.indexer.checkForShutdown = false)) ∨
      (event = .tick ∧ task.awaiting = false ∧ task.indexer.checkForShutdown = true ∧
        task.serverEnded = false ∧
        next = { task with
          indexer.indexerStatus := 4, indexer.serverStatus := 4, awaiting := true }) := by
  cases event with
  | setOnline online => cases goesOn; exact .inl ⟨online, rfl, rfl⟩
  | serverStored status => cases goesOn; exact .inr (.inl ⟨status, rfl, rfl⟩)
  | serverEnded =>
    simp only [step] at goesOn
    split at goesOn
    · cases (finishShutdown_eq_next goesOn).2.2
    · rename_i running
      cases goesOn
      exact .inr (.inr (.inl ⟨rfl, by simpa using running, rfl⟩))
  | tick =>
    simp only [step] at goesOn
    split at goesOn
    · rename_i waiting
      cases goesOn
      exact .inr (.inr (.inr (.inl ⟨rfl, rfl, .inl waiting⟩)))
    · rename_i running
      unfold pass at goesOn
      split at goesOn
      · rename_i shutdown
        obtain ⟨rfl, -, notEnded⟩ := finishShutdown_eq_next goesOn
        exact .inr (.inr (.inr (.inr ⟨rfl, by simpa using running, shutdown, notEnded, rfl⟩)))
      · rename_i goingOn
        cases goesOn
        exact .inr (.inr (.inr (.inl ⟨rfl, rfl, .inr (by simpa using goingOn)⟩)))

/-- What one event that ends the task does: a pass that sees shutdown while the server's task
has already ended, or the end of the server's task the task waits on. Either way it stores `5`
and returns `Ok(())`, the server's task having ended. -/
theorem step_eq_returned {task final : ServeTask} {event : IndexerEvent}
    {result : Except IndexerError Unit} (returned : step task event = .returned final result) :
    result = .ok () ∧ final.indexer.indexerStatus = 5 ∧ final.serverEnded = true ∧
      final.indexer.server = task.indexer.server ∧
      (event = .tick ∧ task.awaiting = false ∧ task.indexer.checkForShutdown = true ∧
          task.serverEnded = true ∧ final.indexer.serverStatus = 4 ∨
        event = .serverEnded ∧ task.awaiting = true ∧
          final.indexer.serverStatus = task.indexer.serverStatus) := by
  cases event with
  | setOnline online => cases returned
  | serverStored status => cases returned
  | serverEnded =>
    simp only [step] at returned
    split at returned
    · rename_i waiting
      obtain ⟨rfl, rfl, -⟩ := finishShutdown_eq_returned returned
      exact ⟨rfl, rfl, rfl, rfl, .inr ⟨rfl, waiting, rfl⟩⟩
    · cases returned
  | tick =>
    simp only [step] at returned
    split at returned
    · cases returned
    · rename_i running
      unfold pass at returned
      split at returned
      · rename_i shutdown
        obtain ⟨rfl, rfl, ended⟩ := finishShutdown_eq_returned returned
        exact ⟨rfl, rfl, ended rfl, rfl,
          .inl ⟨rfl, by simpa using running, shutdown, ended rfl, rfl⟩⟩
      · cases returned

/-- What holds of the serve task whenever it goes on: it owns no server, and it either loops
with its status at `2` or waits, with its status at `4`, on a server's task that has not
ended. -/
def Consistent (task : ServeTask) : Prop :=
  task.indexer.server = false ∧
    (task.awaiting = false ∧ task.indexer.indexerStatus = 2 ∨
      task.awaiting = true ∧ task.indexer.indexerStatus = 4 ∧ task.serverEnded = false)

theorem started_consistent (indexer : Indexer) : Consistent (started indexer) :=
  ⟨rfl, .inl ⟨rfl, rfl⟩⟩

theorem step_consistent {task next : ServeTask} {event : IndexerEvent}
    (holds : Consistent task) (goesOn : step task event = .next next) :
    Consistent next := by
  rcases step_eq_next goesOn with ⟨_, -, rfl⟩ | ⟨_, -, rfl⟩ | ⟨-, running, rfl⟩ | ⟨-, rfl, -⟩ |
    ⟨-, -, -, notEnded, rfl⟩
  · exact holds
  · exact holds
  · exact ⟨holds.1, .inl ⟨running, by simpa [running] using holds.2⟩⟩
  · exact holds
  · exact ⟨holds.1, .inr ⟨rfl, rfl, notEnded⟩⟩

/-- A looping task's check for shutdown reads the `online` flag alone. -/
theorem checkForShutdown_of_working {indexer : Indexer} (working : indexer.indexerStatus = 2) :
    indexer.checkForShutdown = !indexer.online := by
  cases online : indexer.online <;> simp [checkForShutdown, working, online]

/-- An event that goes on keeps the `online` flag; only a store changes it. -/
theorem online_of_step_eq_next {task next : ServeTask} {event : IndexerEvent}
    (goesOn : step task event = .next next) :
    next.indexer.online = (IndexerEvent.storedOnline event).getD task.indexer.online := by
  rcases step_eq_next goesOn with ⟨_, rfl, rfl⟩ | ⟨_, rfl, rfl⟩ | ⟨rfl, -, rfl⟩ | ⟨rfl, rfl, -⟩ |
    ⟨rfl, -, -, -, rfl⟩ <;> rfl

/-- An event that goes on keeps whether the server's task has ended; only its end sets it. -/
theorem serverEnded_of_step_eq_next {task next : ServeTask} {event : IndexerEvent}
    (goesOn : step task event = .next next) :
    next.serverEnded = (IndexerEvent.storedServerEnded event).getD task.serverEnded := by
  rcases step_eq_next goesOn with ⟨_, rfl, rfl⟩ | ⟨_, rfl, rfl⟩ | ⟨rfl, -, rfl⟩ | ⟨rfl, rfl, -⟩ |
    ⟨rfl, -, -, -, rfl⟩ <;> rfl

/-- A waiting task goes on waiting, and only the server's stores change its status cell. -/
theorem step_of_awaiting {task next : ServeTask} {event : IndexerEvent}
    (waiting : task.awaiting = true) (goesOn : step task event = .next next) :
    next.awaiting = true ∧
      next.indexer.serverStatus =
        (IndexerEvent.storedServerStatus event).getD task.indexer.serverStatus := by
  rcases step_eq_next goesOn with ⟨_, rfl, rfl⟩ | ⟨_, rfl, rfl⟩ | ⟨rfl, running, -⟩ |
    ⟨rfl, rfl, -⟩ | ⟨rfl, running, -⟩
  · exact ⟨waiting, rfl⟩
  · exact ⟨waiting, rfl⟩
  · simp [waiting] at running
  · exact ⟨waiting, rfl⟩
  · simp [waiting] at running

theorem lastStored_storedServerEnded (ended : Bool) (events : List IndexerEvent) :
    lastStored IndexerEvent.storedServerEnded ended events = true ↔
      ended = true ∨ .serverEnded ∈ events := by
  induction events generalizing ended with
  | nil => simp [lastStored]
  | cons event events inductionHypothesis =>
    rw [lastStored, inductionHypothesis]
    cases event <;> simp [IndexerEvent.storedServerEnded, or_comm]

/-- The first pass, made before any tick, is the pass of a tick at the head of the trace. -/
theorem serve_eq_runLoop {indexer : Indexer} (owned : indexer.server = true)
    (events : List IndexerEvent) :
    serve indexer events = runLoop step (started indexer) (.tick :: events) := by
  simp only [serve, owned, if_true, runLoop, step, started, Bool.false_eq_true, if_false]
  cases pass _ <;> rfl

/-- Every task the loop goes on to is consistent. -/
theorem consistent_of_runLoop {indexer : Indexer} {before : List IndexerEvent}
    {middle : ServeTask} (reached : runLoop step (started indexer) before = .next middle) :
    Consistent middle :=
  runLoop_next_invariant step Consistent
    (fun _ _ _ holds goesOn => step_consistent holds goesOn) (started_consistent indexer) reached

/-- A task the loop goes on to has seen the server's task end exactly when its trace holds that
end. -/
theorem serverEnded_of_runLoop {indexer : Indexer} {before : List IndexerEvent}
    {middle : ServeTask} (reached : runLoop step (started indexer) before = .next middle) :
    middle.serverEnded = true ↔ .serverEnded ∈ before := by
  rw [runLoop_lastStored step ServeTask.serverEnded IndexerEvent.storedServerEnded
    (fun _ _ _ goesOn => serverEnded_of_step_eq_next goesOn) reached,
    lastStored_storedServerEnded]
  simp [started]

/-- A looping task the loop goes on to sees shutdown exactly when the flag the trace last stored
is cleared. -/
theorem checkForShutdown_of_runLoop {indexer : Indexer} {before : List IndexerEvent}
    {middle : ServeTask} (reached : runLoop step (started indexer) before = .next middle)
    (looping : middle.awaiting = false) :
    middle.indexer.checkForShutdown = !lastStored IndexerEvent.storedOnline indexer.online before := by
  have working : middle.indexer.indexerStatus = 2 := by
    rcases (consistent_of_runLoop reached).2 with ⟨-, working⟩ | ⟨waiting, -⟩
    · exact working
    · simp [looping] at waiting
  rw [checkForShutdown_of_working working,
    runLoop_lastStored step (fun task => task.indexer.online) IndexerEvent.storedOnline
      (fun _ _ _ goesOn => online_of_step_eq_next goesOn) reached]
  rfl

theorem offline_of_shutdown {indexer : Indexer} {before : List IndexerEvent} {middle : ServeTask}
    (reached : runLoop step (started indexer) before = .next middle)
    (looping : middle.awaiting = false) (shutdown : middle.indexer.checkForShutdown = true) :
    lastStored IndexerEvent.storedOnline indexer.online before = false := by
  simpa [checkForShutdown_of_runLoop reached looping] using shutdown

/-- A waiting task goes on waiting over any trace. -/
theorem awaiting_of_runLoop_awaiting {task final : ServeTask} {events : List IndexerEvent}
    (waiting : task.awaiting = true) (reached : runLoop step task events = .next final) :
    final.awaiting = true :=
  runLoop_next_invariant step (fun task => task.awaiting = true)
    (fun _ _ _ holds goesOn => (step_of_awaiting holds goesOn).1) waiting reached

/-- A task the loop goes on to past a tick that saw the last stored flag cleared waits on the
server's task. -/
theorem awaiting_of_offline {indexer : Indexer} {before after : List IndexerEvent}
    {final : ServeTask}
    (reached : runLoop step (started indexer) (before ++ .tick :: after) = .next final)
    (offline : lastStored IndexerEvent.storedOnline indexer.online before = false) :
    final.awaiting = true := by
  cases run : runLoop step (started indexer) before with
  | returned _ _ => rw [runLoop_append_of_returned step _ run] at reached; cases reached
  | next looping =>
    rw [runLoop_append_of_next step _ run] at reached
    cases stepped : step looping .tick with
    | returned _ _ => simp only [runLoop, stepped] at reached; cases reached
    | next next =>
      rw [runLoop_cons_of_next step after stepped] at reached
      refine awaiting_of_runLoop_awaiting ?_ reached
      rcases step_eq_next stepped with ⟨_, tick, -⟩ | ⟨_, tick, -⟩ | ⟨tick, -, -⟩ |
        ⟨-, rfl, waiting | running⟩ | ⟨-, -, -, -, rfl⟩
      · cases tick
      · cases tick
      · cases tick
      · exact waiting
      · cases looping : next.awaiting
        · rw [checkForShutdown_of_runLoop run looping, offline] at running
          cases running
        · rfl
      · rfl

/-- A task the loop goes on to waits only past the pass that shut it down: a tick that saw the
last stored flag cleared, since which the server's status cell holds `4` or the last status the
server stored. -/
theorem awaiting_of_runLoop {indexer : Indexer} {events : List IndexerEvent} {middle : ServeTask}
    (reached : runLoop step (started indexer) events = .next middle)
    (waiting : middle.awaiting = true) :
    ∃ before waited, events = before ++ .tick :: waited ∧
      lastStored IndexerEvent.storedOnline indexer.online before = false ∧
      middle.indexer.serverStatus = lastStored IndexerEvent.storedServerStatus 4 waited := by
  obtain ⟨before, looping, event, entered, waited, rfl, run, notWaiting, goesOn, into, rest⟩ :=
    runLoop_enters step (fun task => task.awaiting = true) reached (by simp [started]) waiting
  rcases step_eq_next goesOn with ⟨_, -, rfl⟩ | ⟨_, -, rfl⟩ | ⟨-, -, rfl⟩ | ⟨-, rfl, -⟩ |
    ⟨rfl, -, shutdown, -, rfl⟩
  · exact absurd into notWaiting
  · exact absurd into notWaiting
  · exact absurd into notWaiting
  · exact absurd into notWaiting
  · refine ⟨before, waited, rfl,
      offline_of_shutdown run (Bool.eq_false_iff.mpr notWaiting) shutdown, ?_⟩
    exact runLoop_lastStored_of_invariant step (fun task => task.awaiting = true)
      (fun _ _ _ holds goesOn => (step_of_awaiting holds goesOn).1)
      (fun task => task.indexer.serverStatus) IndexerEvent.storedServerStatus
      (fun _ _ _ holds goesOn => (step_of_awaiting holds goesOn).2) rfl rest

/-- Whatever the trace, the indexer's serve task either finds no server and returns its error
at once, or returns `Ok(())` with its status at `5` only once the server's task has ended,
after a pass that saw `online` cleared (the first pass, made before any tick, is read as a tick
at the head of the trace) and stored `4` in both cells: the server's cell then holds `4` or the
last status the server stored since. -/
theorem serve_returns_after_cascade (indexer : Indexer) (events : List IndexerEvent)
    {final : ServeTask} {result : Except IndexerError Unit}
    (returned : serve indexer events = .returned final result) :
    indexer.server = false ∧ final.indexer = indexer ∧
        result = .error (.miscIndexerError "Server Missing! Fatal Error!.") ∨
      indexer.server = true ∧ result = .ok () ∧ final.serverEnded = true ∧
        final.indexer.server = false ∧ final.indexer.indexerStatus = 5 ∧
        ∃ before waited after, .tick :: events = before ++ .tick :: waited ++ after ∧
          lastStored IndexerEvent.storedOnline indexer.online before = false ∧
          final.indexer.serverStatus = lastStored IndexerEvent.storedServerStatus 4 waited := by
  cases owned : indexer.server
  · simp only [serve, owned] at returned
    cases returned
    exact .inl ⟨rfl, rfl, rfl⟩
  rw [serve_eq_runLoop owned] at returned
  obtain ⟨before, middle, event, after, split, reached, ended⟩ := runLoop_eq_returned step returned
  obtain ⟨rfl, status, serverEnded, server, last⟩ := step_eq_returned ended
  refine .inr ⟨rfl, rfl, serverEnded, server.trans (consistent_of_runLoop reached).1, status, ?_⟩
  rcases last with ⟨rfl, looping, shutdown, -, four⟩ | ⟨rfl, waiting, same⟩
  · exact ⟨before, [], after, by simpa using split, offline_of_shutdown reached looping shutdown,
      four⟩
  · obtain ⟨before, waited, rfl, offline, kept⟩ := awaiting_of_runLoop reached waiting
    exact ⟨before, waited, .serverEnded :: after, by simpa using split, offline, same.trans kept⟩

/-- A started indexer sees the server store its status and `online` cleared; it shuts down at
the next tick, the server stores `5`, its task ends, and the indexer's task returns. -/
theorem serve_offline_at_tick :
    ∃ final result, serve ⟨true, 0, 0, true⟩
        [.serverStored 2, .setOnline false, .tick, .serverStored 5, .serverEnded] =
        .returned final result ∧
      ((⟨true, 0, 0, true⟩ : Indexer).server = false ∧ final.indexer = ⟨true, 0, 0, true⟩ ∧
          result = .error (.miscIndexerError "Server Missing! Fatal Error!.") ∨
        (⟨true, 0, 0, true⟩ : Indexer).server = true ∧ result = .ok () ∧
          final.serverEnded = true ∧ final.indexer.server = false ∧
          final.indexer.indexerStatus = 5 ∧
          ∃ before waited after,
            .tick :: [.serverStored 2, .setOnline false, .tick, .serverStored 5, .serverEnded] =
              before ++ .tick :: waited ++ after ∧
            lastStored IndexerEvent.storedOnline (⟨true, 0, 0, true⟩ : Indexer).online before =
              false ∧
            final.indexer.serverStatus = lastStored IndexerEvent.storedServerStatus 4 waited) :=
  ⟨_, _, rfl, serve_returns_after_cascade _
    [.serverStored 2, .setOnline false, .tick, .serverStored 5, .serverEnded] rfl⟩

/-- Over every trace, the indexer's serve task returns exactly when it has no server, or the
trace has a pass that sees the last `online` stored before it false (the first pass, made before
any tick, is read as a tick at the head of the trace) and the server's task ends, before or
after that pass: the server storing its status neither ends the loop nor holds it up. -/
theorem serve_returns_iff_offline_tick (indexer : Indexer) (events : List IndexerEvent) :
    (∃ final result, serve indexer events = .returned final result) ↔
      indexer.server = false ∨
        (∃ before after, .tick :: events = before ++ .tick :: after ∧
          lastStored IndexerEvent.storedOnline indexer.online before = false) ∧
        .serverEnded ∈ events := by
  cases owned : indexer.server
  · simp [serve, owned]
  simp only [serve_eq_runLoop owned, Bool.true_eq_false, false_or]
  constructor
  · rintro ⟨final, result, returned⟩
    obtain ⟨before, middle, event, after, split, reached, ended⟩ :=
      runLoop_eq_returned step returned
    obtain ⟨-, -, -, -, last⟩ := step_eq_returned ended
    rcases last with ⟨rfl, looping, shutdown, serverEnded, -⟩ | ⟨rfl, waiting, -⟩
    · have earlier : .serverEnded ∈ .tick :: events := by
        rw [split]
        exact List.mem_append_left _ ((serverEnded_of_runLoop reached).mp serverEnded)
      exact ⟨⟨before, after, split, offline_of_shutdown reached looping shutdown⟩,
        by simpa using earlier⟩
    · obtain ⟨shutdownAt, waited, rfl, offline, -⟩ := awaiting_of_runLoop reached waiting
      have atEnd : .serverEnded ∈ .tick :: events := by simp [split]
      exact ⟨⟨shutdownAt, waited ++ .serverEnded :: after, by simpa using split, offline⟩,
        by simpa using atEnd⟩
  · rintro ⟨⟨before, after, split, offline⟩, ended⟩
    cases going : runLoop step (started indexer) (.tick :: events) with
    | returned final result => exact ⟨final, result, rfl⟩
    | next final =>
      have serverEnded := (serverEnded_of_runLoop going).mpr (List.mem_cons_of_mem _ ended)
      rw [split] at going
      have waiting := awaiting_of_offline going offline
      rcases (consistent_of_runLoop going).2 with ⟨notWaiting, -⟩ | ⟨-, -, notEnded⟩
      · simp [waiting] at notWaiting
      · simp [serverEnded] at notEnded

end Indexer

/-! ### `ProxyServer::serve` -/

/-- What happens between two passes of the proxy server loop: another task stores the `online`
flag, or the loop checks the flag and, if it is set, runs the gRPC server until it stops with
the given result. -/
inductive ProxyEvent where
  | setOnline (online : Bool)
  | served (result : Except String Unit)

namespace ProxyServer

/-- One event of the `while online.load(..)` loop. -/
def step (online : Bool) : ProxyEvent → LoopStep Bool String
  | .setOnline online => .next online
  | .served result =>
    if online then
      match result with
      | .ok () => .next online
      | .error error => .returned online (.error error)
    else .returned online (.ok ())

/-- `ProxyServer::serve`, from the `online` flag it is given. -/
def serve (online : Bool) (events : List ProxyEvent) : LoopStep Bool String :=
  runLoop step online events

/-- Whatever the trace, the proxy server task returns `Ok(())` at a pass that sees `online`
false, or the error with which the server stopped while `online` was set. -/
theorem serve_returns_offline_or_error (online : Bool) (events : List ProxyEvent) {final : Bool}
    {result : Except String Unit} (returned : serve online events = .returned final result) :
    ∃ before event after, events = before ++ event :: after ∧
      runLoop step online before = .next final ∧
      (final = false ∧ result = .ok () ∨
        final = true ∧ ∃ error, event = .served (.error error) ∧ result = .error error) := by
  obtain ⟨before, middle, event, after, rfl, reached, ended⟩ := runLoop_eq_returned step returned
  refine ⟨before, event, after, rfl, ?_⟩
  cases event with
  | setOnline online => cases ended
  | served outcome =>
    simp only [step] at ended
    split at ended
    · rename_i running
      split at ended <;> cases ended
      exact ⟨reached, .inr ⟨running, _, rfl, rfl⟩⟩
    · rename_i stopped
      cases ended
      exact ⟨reached, .inl ⟨by simpa using stopped, rfl⟩⟩

/-- One server run stops cleanly, the next with an error, which the task returns. -/
theorem serve_second_run_fails :
    ∃ final result, serve true [.served (.ok ()), .served (.error "transport error")] =
        .returned final result ∧
      ∃ before event after,
        [.served (.ok ()), .served (.error "transport error")] = before ++ event :: after ∧
        runLoop step true before = .next final ∧
        (final = false ∧ result = .ok () ∨
          final = true ∧ ∃ error, event = .served (.error error) ∧ result = .error error) :=
  ⟨_, _, rfl,
    serve_returns_offline_or_error _ [.served (.ok ()), .served (.error "transport error")] rfl⟩

/-- The value a proxy server event stores in the `online` flag, if it stores one. -/
def ProxyEvent.storedOnline : ProxyEvent → Option Bool
  | .setOnline online => some online
  | _ => none

/-- An event that goes on keeps the `online` flag; only a store changes it. -/
theorem step_eq_next {online next : Bool} {event : ProxyEvent}
    (goesOn : step online event = .next next) :
    next = (ProxyEvent.storedOnline event).getD online := by
  cases event with
  | setOnline online => cases goesOn; rfl
  | served result =>
    simp only [step] at goesOn
    split at goesOn
    · split at goesOn <;> cases goesOn
      rfl
    · cases goesOn

/-- Over every trace, the proxy server task returns exactly when the trace has a run of the
server at whose check the last `online` stored, or the flag the task started with, is false, or
one that stops with an error. -/
theorem serve_returns_iff_offline_or_failed_run (online : Bool) (events : List ProxyEvent) :
    (∃ final result, serve online events = .returned final result) ↔
      ∃ before outcome after, events = before ++ .served outcome :: after ∧
        (lastStored ProxyEvent.storedOnline online before = false ∨
          ∃ error, outcome = .error error) := by
  have reachedFlag : ∀ {before : List ProxyEvent} {middle : Bool},
      runLoop step online before = .next middle →
      middle = lastStored ProxyEvent.storedOnline online before :=
    runLoop_lastStored step id ProxyEvent.storedOnline (fun _ _ _ goesOn => step_eq_next goesOn)
  constructor
  · rintro ⟨final, result, returned⟩
    obtain ⟨before, middle, event, after, rfl, reached, ended⟩ := runLoop_eq_returned step returned
    rw [reachedFlag reached] at ended
    cases event with
    | setOnline stored => cases ended
    | served outcome =>
      refine ⟨before, outcome, after, rfl, ?_⟩
      cases flag : lastStored ProxyEvent.storedOnline online before
      · exact .inl rfl
      · rw [flag] at ended
        cases outcome with
        | ok => cases ended
        | error error => exact .inr ⟨error, rfl⟩
  · rintro ⟨before, outcome, after, rfl, stopped⟩
    refine runLoop_returns_of_split step after fun middle reached => ?_
    rw [reachedFlag reached]
    rcases stopped with offline | ⟨error, rfl⟩
    · exact ⟨_, _, by rw [offline]; rfl⟩
    · cases lastStored ProxyEvent.storedOnline online before <;> exact ⟨_, _, rfl⟩

end ProxyServer

end Zaino
